import Interop.Proofs.Utf16Texts
import Interop.Proofs.Utf8Texts
import Mathlib.Data.Set.Function

/-!
# Conversion of texts

On texts the conversion loses nothing: it is a bijection between the byte sequences that are texts in
UTF-8 and the unit sequences that are texts in UTF-16, each with its terminator. On other byte
sequences something is always lost, and the record says so; it is there in no other case.
-/

namespace Interop.Wide

/-- The units before the terminator. -/
lemma dropLast_convert (bytes : List UInt8) :
    (convert bytes).value.dropLast = Utf16.encode (Utf8.decodeLossy bytes) := List.dropLast_concat

lemma value_convert_encode (s : List Char) :
    (convert (Utf8.encode s)).value = Utf16.encode s ++ [0] := by
  rw [convert, Utf8.decodeLossy_encode]

lemma records_convert (bytes : List UInt8) :
    (Utf8.WellFormedText bytes → (convert bytes).records = []) ∧
      (¬Utf8.WellFormedText bytes → (convert bytes).records = [lossRecord bytes.length]) := by
  rw [← Utf8.isWellFormed_iff]
  exact ⟨fun h => if_pos h, fun h => if_neg h⟩

lemma decode?_dropLast_convert (bytes : List UInt8) :
    Utf16.decode? (convert bytes).value.dropLast = some (Utf8.decodeLossy bytes) := by
  rw [dropLast_convert]
  exact (Utf16.decode?_eq_some_iff_encode _ _).2 rfl

/-- The conversion is a bijection from the texts in UTF-8 onto the terminated texts in UTF-16. What a
text is converted to reads as that text, and nothing is reported. The units of a text in UTF-16 come
back from the bytes of what they read as. -/
theorem convert_bijOn_texts :
    Set.BijOn (fun bytes => (convert bytes).value) {bytes | Utf8.WellFormedText bytes}
        {terminated | ∃ units, Utf16.WellFormed units ∧ terminated = units ++ [0]} ∧
      (∀ s : List Char,
        Utf16.decode? (convert (Utf8.encode s)).value.dropLast = some s ∧
          (convert (Utf8.encode s)).records = []) ∧
      ∀ units, Utf16.WellFormed units →
        ∃ s, Utf16.decode? units = some s ∧ (convert (Utf8.encode s)).value = units ++ [0] := by
  have hback : ∀ units, Utf16.WellFormed units →
      ∃ s, Utf16.decode? units = some s ∧ (convert (Utf8.encode s)).value = units ++ [0] := by
    intro units hunits
    obtain ⟨s, rfl⟩ := (Utf16.wellFormed_iff units).1 hunits
    exact ⟨s, (Utf16.decode?_eq_some_iff_encode _ _).2 rfl, value_convert_encode s⟩
  refine ⟨⟨?_, ?_, ?_⟩, ?_, hback⟩
  · intro bytes hbytes
    obtain ⟨s, rfl⟩ := (Utf8.wellFormedText_iff bytes).1 hbytes
    exact ⟨_, (Utf16.wellFormed_iff _).2 ⟨s, rfl⟩, value_convert_encode s⟩
  · intro bytes hbytes others hothers heq
    obtain ⟨s, rfl⟩ := (Utf8.wellFormedText_iff bytes).1 hbytes
    obtain ⟨t, rfl⟩ := (Utf8.wellFormedText_iff others).1 hothers
    dsimp only at heq
    rw [value_convert_encode, value_convert_encode] at heq
    rw [Utf16.encode_injective (List.append_cancel_right heq)]
  · rintro _ ⟨units, hunits, rfl⟩
    obtain ⟨s, -, hs⟩ := hback units hunits
    exact ⟨Utf8.encode s, Utf8.wellFormedText_encode s, hs⟩
  · intro s
    have hread := decode?_dropLast_convert (Utf8.encode s)
    rw [Utf8.decodeLossy_encode] at hread
    exact ⟨hread, (records_convert _).1 (Utf8.wellFormedText_encode s)⟩

/-- A pair of surrogates between the units next to the surrogates. -/
theorem convert_bijOn_texts_pair :
    Utf16.WellFormed [0xD7FF, 0xD83E, 0xDD80, 0xE000] ∧
      ∃ s, Utf16.decode? [0xD7FF, 0xD83E, 0xDD80, 0xE000] = some s ∧
        (convert (Utf8.encode s)).value = [0xD7FF, 0xD83E, 0xDD80, 0xE000, 0] := by
  have hunits : Utf16.WellFormed [0xD7FF, 0xD83E, 0xDD80, 0xE000] :=
    (Utf16.wellFormed_iff _).2 ⟨[⟨0xD7FF, by decide⟩, '🦀', ⟨0xE000, by decide⟩], by decide⟩
  exact ⟨hunits, convert_bijOn_texts.2.2 _ hunits⟩

/-- The record of a loss is there iff the units do not read back as the bytes, which is so iff the
bytes are no text. It is then the only record, and counts all bytes. A U+FFFD that was there between
texts is no loss. -/
theorem loss_is_reported_exactly (bytes : List UInt8) :
    let loss : Log.Record := ⟨.debug, "widebridge::encoding",
      s!"malformed UTF-8 ({bytes.length} bytes) replaced with U+FFFD at the UTF-16 boundary"⟩
    ∃ s, Utf16.decode? (convert bytes).value.dropLast = some s ∧
      (loss ∈ (convert bytes).records ↔ Utf8.encode s ≠ bytes) ∧
      (loss ∈ (convert bytes).records ↔ ¬Utf8.WellFormedText bytes) ∧
      (Utf8.WellFormedText bytes → (convert bytes).records = []) ∧
      (¬Utf8.WellFormedText bytes → (convert bytes).records = [loss]) ∧
      ∀ before after, Utf8.WellFormedText before → Utf8.WellFormedText after →
        bytes = before ++ [0xEF, 0xBF, 0xBD] ++ after → (convert bytes).records = [] := by
  intro loss
  obtain ⟨hnone, hone⟩ := records_convert bytes
  change _ → _ = [loss] at hone
  have hreported : loss ∈ (convert bytes).records ↔ ¬Utf8.WellFormedText bytes := by
    by_cases h : Utf8.WellFormedText bytes
    · simp [hnone h, h]
    · simp [hone h, h]
  refine ⟨Utf8.decodeLossy bytes, decode?_dropLast_convert bytes, ?_, hreported, hnone, hone, ?_⟩
  · rw [hreported, ne_eq, Utf8.encode_decodeLossy_iff]
  · rintro before after hbefore hafter rfl
    have hmark : Utf8.WellFormedText [0xEF, 0xBF, 0xBD] := Utf8.wellFormedText_encode ['\ufffd']
    exact hnone ((hbefore.append hmark).append hafter)

/-- Of a U+FFFD and an overlong zero, two bytes are lost and five are counted. -/
theorem loss_of_overlong_zero :
    ¬Utf8.WellFormedText [0xEF, 0xBF, 0xBD, 0xC0, 0x80] ∧
      (convert [0xEF, 0xBF, 0xBD, 0xC0, 0x80]).records =
        [⟨.debug, "widebridge::encoding",
          "malformed UTF-8 (5 bytes) replaced with U+FFFD at the UTF-16 boundary"⟩] := by
  have hill : ¬Utf8.WellFormedText [0xEF, 0xBF, 0xBD, 0xC0, 0x80] := by
    rw [← Utf8.isWellFormed_iff, Bool.not_eq_true]
    change (Utf8.cut (String.utf8EncodeChar '\ufffd' ++ [0xC0, 0x80])).all _ = false
    rw [Utf8.cut_utf8EncodeChar_append, Utf8.cut]
    rfl
  obtain ⟨-, -, -, -, -, hone, -⟩ := loss_is_reported_exactly [0xEF, 0xBF, 0xBD, 0xC0, 0x80]
  refine ⟨hill, (hone hill).trans ?_⟩
  decide

end Interop.Wide
