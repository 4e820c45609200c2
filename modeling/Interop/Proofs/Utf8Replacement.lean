import Interop.Proofs.Utf8Texts

/-!
# Bytes with their ill-formed segments replaced

To put U+FFFD in the place of every ill-formed segment leaves ASCII bytes where they are, and puts other
bytes in the place of other bytes. A reader that tells only ASCII bytes apart cannot see the difference,
whichever of the two sequences it is given.
-/

namespace Interop.Utf8

/-- The bytes with the encoding of U+FFFD in the place of every ill-formed segment. -/
def replaced (bytes : List UInt8) : List UInt8 := encode (decodeLossy bytes)

lemma wellFormedText_replaced (bytes : List UInt8) : WellFormedText (replaced bytes) :=
  wellFormedText_encode _

lemma replaced_of_wellFormedText {bytes : List UInt8} (h : WellFormedText bytes) :
    replaced bytes = bytes := (encode_decodeLossy_iff bytes).2 h

@[simp] lemma replaced_nil : replaced [] = [] := by
  simp [replaced, decodeLossy, cut, encode]

lemma replaced_cons {b : UInt8} (h : b < 0x80) (rest : List UInt8) :
    replaced (b :: rest) = b :: replaced rest := by
  rw [replaced, decodeLossy_cons_of_lt h, encode_cons, encode_one h]
  rfl

lemma replaced_encode_append (cs : List Char) (rest : List UInt8) :
    replaced (encode cs ++ rest) = encode cs ++ replaced rest := by
  have hdecode : decodeLossy (encode cs ++ rest) = cs ++ decodeLossy rest := by
    rw [decodeLossy, cut_encode_append, List.map_append, List.map_map]
    exact congrArg (· ++ decodeLossy rest) (List.map_id cs)
  rw [replaced, hdecode, encode, List.flatMap_append]
  rfl

lemma utf8EncodeChar_ne_nil (c : Char) : String.utf8EncodeChar c ≠ [] := by
  obtain ⟨b, tail, henc, -⟩ := exists_utf8EncodeChar_eq_cons c
  rw [henc]
  exact List.cons_ne_nil b tail

lemma le_of_mem_char_atFront {b : UInt8} (hb : ¬b < 0x80) {rest : List UInt8} {x : UInt8}
    (h : x ∈ String.utf8EncodeChar (Segment.atFront b rest).char) : 0x80 ≤ x := by
  unfold Segment.char at h
  cases hscalar : (Segment.atFront b rest).scalar with
  | some c =>
    have hbytes := (hscalar ▸ cuts_atFront b rest).encode_eq
    rw [hscalar, Option.getD_some, hbytes] at h
    exact le_of_mem_atFront hb h
  | none =>
    have hall : (String.utf8EncodeChar '\ufffd').all (0x80 ≤ ·) = true := by decide
    rw [hscalar] at h
    exact of_decide_eq_true (List.all_eq_true.1 hall x h)

/-- What is replaced at the front: an ASCII byte by itself, and a segment of other bytes by other
bytes. -/
theorem replaced_cases (bytes : List UInt8) :
    bytes = [] ∨
    (∃ b rest, bytes = b :: rest ∧ b < 0x80 ∧ replaced bytes = b :: replaced rest) ∨
    ∃ x y rest, bytes = x ++ rest ∧ replaced bytes = y ++ replaced rest ∧ x ≠ [] ∧ y ≠ [] ∧
      (∀ d ∈ x, 0x80 ≤ d) ∧ ∀ d ∈ y, 0x80 ≤ d := by
  cases bytes with
  | nil => exact .inl rfl
  | cons b rest =>
    by_cases hb : b < 0x80
    · exact .inr (.inl ⟨b, rest, rfl, hb, replaced_cons hb rest⟩)
    · refine .inr (.inr ⟨(Segment.atFront b rest).bytes, _, _, (atFront_append_drop b rest).symm, ?_,
        (cuts_atFront b rest).ne_nil, utf8EncodeChar_ne_nil (Segment.atFront b rest).char,
        fun d => le_of_mem_atFront hb, fun d => le_of_mem_char_atFront hb⟩)
      rw [replaced, decodeLossy, cut, List.map_cons, encode_cons]
      rfl

/-! ### What a reader of ASCII bytes sees -/

/-- A way to relate two byte sequences that are followed side by side. An ASCII byte stands on both
sides, and other bytes stand for other bytes. -/
structure KeepsAscii (T : List UInt8 → List UInt8 → Prop) : Prop where
  nil : ∀ {t}, T [] t → t = []
  ascii : ∀ {b s t}, b < 0x80 → T (b :: s) t → ∃ t', t = b :: t' ∧ T s t'
  other : ∀ {b s t}, 0x80 ≤ b → T (b :: s) t → ∃ x y s' t', b :: s = x ++ s' ∧ t = y ++ t' ∧
    x ≠ [] ∧ (∀ d ∈ x, 0x80 ≤ d) ∧ (∀ d ∈ y, 0x80 ≤ d) ∧ T s' t'

lemma le_of_append_eq_cons {x s t : List UInt8} {b : UInt8} (hx : ∀ d ∈ x, 0x80 ≤ d) (hne : x ≠ [])
    (h : x ++ s = b :: t) : 0x80 ≤ b := by
  obtain ⟨d, x, rfl⟩ := List.exists_cons_of_ne_nil hne
  obtain rfl : d = b := List.head_eq_of_cons_eq h
  exact hx d List.mem_cons_self

theorem keepsAscii_replaced : KeepsAscii fun s t => t = replaced s where
  nil ht := ht.trans replaced_nil
  ascii hb ht := ⟨_, ht.trans (replaced_cons hb _), rfl⟩
  other := by
    intro b s t hb ht
    rcases replaced_cases (b :: s) with hnil | ⟨d, rest, hs, hd, -⟩ |
      ⟨x, y, rest, hs, hreplaced, hne, -, hx, hy⟩
    · cases hnil
    · obtain rfl := List.head_eq_of_cons_eq hs
      exact absurd hd (UInt8.not_lt.2 hb)
    · exact ⟨x, y, rest, _, hs, ht.trans hreplaced, hne, hx, hy, rfl⟩

theorem keepsAscii_replaces : KeepsAscii fun s t => s = replaced t where
  nil := by
    intro t ht
    rcases replaced_cases t with rfl | ⟨d, rest, -, -, hreplaced⟩ |
      ⟨x, y, rest, -, hreplaced, -, hne, -⟩
    · rfl
    · cases ht.trans hreplaced
    · exact absurd (List.append_eq_nil_iff.1 (ht.trans hreplaced).symm).1 hne
  ascii := by
    intro b s t hb ht
    rcases replaced_cases t with rfl | ⟨d, rest, rfl, -, hreplaced⟩ |
      ⟨x, y, rest, -, hreplaced, -, hne, -, hy⟩
    · cases ht.trans replaced_nil
    · obtain ⟨rfl, rfl⟩ := List.cons_eq_cons.1 (ht.trans hreplaced)
      exact ⟨rest, rfl, rfl⟩
    · have hle := le_of_append_eq_cons hy hne (ht.trans hreplaced).symm
      exact absurd hb (UInt8.not_lt.2 hle)
  other := by
    intro b s t hb ht
    rcases replaced_cases t with rfl | ⟨d, rest, -, hd, hreplaced⟩ |
      ⟨x, y, rest, hs, hreplaced, -, hne, hx, hy⟩
    · cases ht.trans replaced_nil
    · obtain rfl := List.head_eq_of_cons_eq (ht.trans hreplaced)
      exact absurd hd (UInt8.not_lt.2 hb)
    · exact ⟨y, x, _, rest, ht.trans hreplaced, hs, hne, hy, hx, rfl⟩

/-- A text that is followed alone stays one. -/
theorem keepsAscii_wellFormedText : KeepsAscii fun s t => t = s ∧ WellFormedText s where
  nil ht := ht.1
  ascii hb ht := ⟨_, ht.1, rfl, ht.2.tail hb⟩
  other := by
    rintro b s _ hb ⟨rfl, hs⟩
    obtain ⟨cs, hcs⟩ := (wellFormedText_iff _).1 hs
    cases cs with
    | nil => cases hcs
    | cons c cs =>
      rw [encode_cons] at hcs
      have hc : ∀ d ∈ String.utf8EncodeChar c, 0x80 ≤ d := by
        rcases utf8EncodeChar_cases c with ⟨hlt, henc⟩ | ⟨-, d, tail, henc, hd, htail⟩
        · rw [henc] at hcs
          obtain rfl := List.head_eq_of_cons_eq hcs
          rwa [henc, List.forall_mem_singleton]
        · rw [henc, List.forall_mem_cons]
          exact ⟨UInt8.le_trans (by decide) (UInt8.le_of_lt hd), fun x hx => (htail x hx).1⟩
      exact ⟨_, _, _, _, hcs.symm, hcs.symm, utf8EncodeChar_ne_nil c, hc, hc, rfl,
        wellFormedText_encode cs⟩

end Interop.Utf8
