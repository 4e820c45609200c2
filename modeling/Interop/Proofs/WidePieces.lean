import Interop.Proofs.WideTexts

/-!
# Conversion in pieces

Where a byte sequence may be cut, its pieces can be converted by themselves: the units of the whole
are those of the pieces, and something is lost of the whole iff it is lost of a piece. So ill-formed
bytes do not reach into the text behind them, wherever they break off.
-/

namespace Interop.Utf8

/-- Between the two no segment is cut apart: the bytes before are a text, or those behind start
anew. The empty sequence starts anew. -/
def Parts (p q : List UInt8) : Prop := WellFormedText p ∨ StartsAnew q

lemma startsAnew_encode_append {s : List Char} (hs : s ≠ []) (rest : List UInt8) :
    StartsAnew (encode s ++ rest) := by
  cases s with
  | nil => exact absurd rfl hs
  | cons c s =>
    obtain ⟨b, tail, henc, hb, -⟩ := exists_utf8EncodeChar_eq_cons c
    intro d hd
    rw [encode_cons, henc] at hd
    obtain rfl : b = d := by simpa using hd
    exact hb

namespace Parts

variable {p q : List UInt8}

lemma cut_append (h : Parts p q) : cut (p ++ q) = cut p ++ cut q := by
  rcases h with hp | hq
  · obtain ⟨s, rfl⟩ := (wellFormedText_iff p).1 hp
    rw [cut_encode_append, cut_encode]
  · exact Utf8.cut_append p hq

lemma decodeLossy_append (h : Parts p q) :
    decodeLossy (p ++ q) = decodeLossy p ++ decodeLossy q := by
  simp only [decodeLossy, h.cut_append, List.map_append]

lemma wellFormedText_append_iff (h : Parts p q) :
    WellFormedText (p ++ q) ↔ WellFormedText p ∧ WellFormedText q := by
  simp only [← isWellFormed_iff, isWellFormed, h.cut_append, List.all_append, Bool.and_eq_true]

end Parts

end Interop.Utf8

namespace Interop.Wide

/-- Whether the loss is reported that the conversion of the bytes brings. -/
def ReportsLoss (bytes : List UInt8) : Prop :=
  ⟨.debug, "widebridge::encoding",
    s!"malformed UTF-8 ({bytes.length} bytes) replaced with U+FFFD at the UTF-16 boundary"⟩ ∈
      (convert bytes).records

lemma reportsLoss_iff (bytes : List UInt8) : ReportsLoss bytes ↔ ¬Utf8.WellFormedText bytes := by
  obtain ⟨hnone, hone⟩ := records_convert bytes
  change lossRecord bytes.length ∈ (convert bytes).records ↔ _
  by_cases h : Utf8.WellFormedText bytes
  · simp [hnone h, h]
  · simp [hone h, h]

lemma convert_append {a b : List UInt8} (h : Utf8.Parts a b) :
    (convert (a ++ b)).value = (convert a).value.dropLast ++ (convert b).value ∧
      (ReportsLoss (a ++ b) ↔ ReportsLoss a ∨ ReportsLoss b) := by
  constructor
  · rw [dropLast_convert, convert, convert, h.decodeLossy_append, ← List.append_assoc]
    exact congrArg (· ++ [0]) List.flatMap_append
  · rw [reportsLoss_iff, reportsLoss_iff, reportsLoss_iff, h.wellFormedText_append_iff, not_and_or]

/-- Bytes can be converted in pieces. If the first piece is a text, or the second is empty or does
not start with a byte that continues a sequence, then the units of both together are those of the
first without its terminator and those of the second, and a loss is reported iff one is for a piece.
So a text comes out as its own units behind whatever bytes and before whatever bytes, and these as
they do by themselves. -/
theorem convert_in_pieces (a : List UInt8) :
    (∀ b, Utf8.WellFormedText a ∨ Utf8.StartsAnew b →
      (convert (a ++ b)).value = (convert a).value.dropLast ++ (convert b).value ∧
        (ReportsLoss (a ++ b) ↔ ReportsLoss a ∨ ReportsLoss b)) ∧
    ∀ (s : List Char) (rest : List UInt8), s ≠ [] →
      (convert (a ++ (Utf8.encode s ++ rest))).value =
          (convert a).value.dropLast ++ (Utf16.encode s ++ (convert rest).value) ∧
        (ReportsLoss (a ++ (Utf8.encode s ++ rest)) ↔ ReportsLoss a ∨ ReportsLoss rest) := by
  refine ⟨fun b h => convert_append h, ?_⟩
  intro s rest hs
  have htext := Utf8.wellFormedText_encode s
  obtain ⟨hfirst, hlossFirst⟩ := convert_append (.inr (Utf8.startsAnew_encode_append hs rest))
    (a := a)
  obtain ⟨hsecond, hlossSecond⟩ := convert_append (b := rest) (.inl htext)
  refine ⟨?_, ?_⟩
  · rw [hfirst, hsecond, dropLast_convert (Utf8.encode s), Utf8.decodeLossy_encode]
  · rw [hlossFirst, hlossSecond, reportsLoss_iff (Utf8.encode s)]
    simp [htext]

/-- A euro sign breaks off before an é, which a stray byte follows. -/
theorem convert_in_pieces_broken_off :
    (convert ([0xE2, 0x82] ++ [0xC3, 0xA9])).value = [0xFFFD, 0xE9, 0] ∧
      (convert ([0xE2, 0x82] ++ (Utf8.encode ['é'] ++ [0xAC]))).value =
        [0xFFFD, 0xE9, 0xFFFD, 0] := by
  have heuro : (convert [0xE2, 0x82]).value = [0xFFFD, 0] := by decide +kernel
  have hbehind : Utf8.StartsAnew [0xC3, 0xA9] := by
    intro b hb
    obtain rfl : 0xC3 = b := by simpa using hb
    decide
  obtain ⟨hpieces, htext⟩ := convert_in_pieces [0xE2, 0x82]
  obtain ⟨hvalue, -⟩ := hpieces [0xC3, 0xA9] (.inr hbehind)
  obtain ⟨hvalue', -⟩ := htext ['é'] [0xAC] (by decide)
  rw [hvalue, hvalue', heuro]
  exact ⟨by decide +kernel, by decide +kernel⟩

end Interop.Wide
