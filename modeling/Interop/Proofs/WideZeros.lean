import Interop.Proofs.WideTexts
import Interop.Wide.Argument
import Mathlib.Data.List.TakeWhile

/-!
# Zeros

An ASCII byte is a segment of its own whatever stands around it, and no other segment is read as its
character. So the zero units of a conversion come from the zero bytes, one from each, and it is the
same whether the bytes are cut at the first zero and then converted, or converted and then cut. A
string that is counted and one that is terminated thus look the same to a callee that stops at the
first zero.
-/

namespace Interop

/-! ### Lists up to their first zero -/

section ToFirst

variable {α : Type} [DecidableEq α]

lemma takeWhile_ne_append_cons (a : α) (l rest : List α) :
    (l ++ a :: rest).takeWhile (· ≠ a) = l.takeWhile (· ≠ a) := by
  induction l with
  | nil => simp
  | cons x l ih => rw [List.cons_append, List.takeWhile_cons, List.takeWhile_cons, ih]

lemma takeWhile_ne_eq_self_iff (a : α) (l : List α) : l.takeWhile (· ≠ a) = l ↔ a ∉ l := by
  rw [List.takeWhile_eq_self_iff]
  simp only [decide_not, Bool.not_eq_true', decide_eq_false_iff_not]
  exact ⟨fun h ha => h a ha rfl, fun h x hx hxa => h (hxa ▸ hx)⟩

/-- A function on lists that splits where an element stands, and turns each of its occurrences into one
of another, commutes with the cut there. -/
lemma takeWhile_ne_of_append {β : Type} [DecidableEq β] {f : List α → List β} {a : α} {b : β}
    (hsplit : ∀ p q, f (p ++ a :: q) = f p ++ b :: f q) (hcount : ∀ l, (f l).count b = l.count a)
    (l : List α) : f (l.takeWhile (· ≠ a)) = (f l).takeWhile (· ≠ b) := by
  have hnone : ∀ p, a ∉ p → (f p).takeWhile (· ≠ b) = f p := by
    intro p hp
    rw [takeWhile_ne_eq_self_iff, ← List.count_eq_zero, hcount, List.count_eq_zero]
    exact hp
  by_cases h : a ∈ l
  · obtain ⟨p, q, rfl, hp⟩ := List.eq_append_cons_of_mem h
    rw [hsplit, takeWhile_ne_append_cons, takeWhile_ne_append_cons, hnone p hp,
      (takeWhile_ne_eq_self_iff _ _).2 hp]
  · rw [(takeWhile_ne_eq_self_iff _ _).2 h, hnone l h]

end ToFirst

/-! ### ASCII bytes -/

namespace Utf8

lemma toNat_ofNat_ascii {a : UInt8} (ha : a < 0x80) : (Char.ofNat a.toNat).toNat = a.toNat := by
  simp only [UInt8.lt_iff_toNat_lt, UInt8.reduceToNat] at ha
  exact toNat_ofNat (.inl (by omega))

/-- A segment that does not start with an ASCII byte is not read as an ASCII character. -/
lemma le_toNat_char_atFront {b : UInt8} (hb : ¬b < 0x80) (rest : List UInt8) :
    0x80 ≤ (Segment.atFront b rest).char.toNat := by
  unfold Segment.char
  cases hscalar : (Segment.atFront b rest).scalar with
  | none => decide
  | some c => exact le_toNat_of_scalar_atFront hb hscalar

lemma char_atFront_ne {a b : UInt8} (ha : a < 0x80) (hb : ¬b < 0x80) (rest : List UInt8) :
    (Segment.atFront b rest).char ≠ Char.ofNat a.toNat := by
  intro h
  have hle := le_toNat_char_atFront hb rest
  rw [h, toNat_ofNat_ascii ha] at hle
  exact absurd ha (UInt8.not_lt.2 (UInt8.le_iff_toNat_le.2 hle))

lemma ofNat_toNat_inj {a b : UInt8} (ha : a < 0x80) (hb : b < 0x80) :
    Char.ofNat b.toNat = Char.ofNat a.toNat ↔ b = a := by
  constructor
  · intro h
    have hnat := congrArg Char.toNat h
    rw [toNat_ofNat_ascii hb, toNat_ofNat_ascii ha] at hnat
    exact UInt8.toNat_inj.1 hnat
  · exact fun h => h ▸ rfl

/-- A segment has an ASCII byte as often as it is read as its character. -/
lemma count_atFront {a : UInt8} (ha : a < 0x80) (b : UInt8) (rest : List UInt8) :
    (Segment.atFront b rest).bytes.count a =
      if (Segment.atFront b rest).char = Char.ofNat a.toNat then 1 else 0 := by
  by_cases hb : b < 0x80
  · rw [atFront_of_lt hb]
    simp [Segment.char, ofNat_toNat_inj ha hb, List.count_cons]
  · have hnone : a ∉ (Segment.atFront b rest).bytes :=
      fun hmem => absurd (le_of_mem_atFront hb hmem) (UInt8.not_le.2 ha)
    rw [List.count_eq_zero.2 hnone, if_neg (char_atFront_ne ha hb rest)]

/-- An ASCII character is read once for each of its bytes, and from nothing else. -/
theorem count_decodeLossy {a : UInt8} (ha : a < 0x80) (bytes : List UInt8) :
    (decodeLossy bytes).count (Char.ofNat a.toNat) = bytes.count a := by
  induction bytes using cut.induct with
  | case1 => simp [decodeLossy, cut]
  | case2 b rest segment ih =>
    have hsplit := congrArg (List.count a) (atFront_append_drop b rest)
    have hfirst : segment.bytes.count a = _ := count_atFront ha b rest
    rw [List.count_append] at hsplit
    rw [decodeLossy, cut, List.map_cons, List.count_cons, ← hsplit]
    change (decodeLossy _).count _ + (if segment.char == _ then 1 else 0) = segment.bytes.count a + _
    rw [ih, hfirst, Nat.add_comm]
    simp only [beq_iff_eq]
    rfl

/-- What stands before and behind an ASCII byte is read on its own. -/
lemma decodeLossy_append_cons {a : UInt8} (ha : a < 0x80) (p q : List UInt8) :
    decodeLossy (p ++ a :: q) = decodeLossy p ++ Char.ofNat a.toNat :: decodeLossy q := by
  rw [decodeLossy_append p (startsAnew_cons ha q), decodeLossy_cons_of_lt ha]

/-- It is the same whether bytes are cut at an ASCII byte and then read, or the other way round. -/
theorem decodeLossy_takeWhile {a : UInt8} (ha : a < 0x80) (bytes : List UInt8) :
    decodeLossy (bytes.takeWhile (· ≠ a)) = (decodeLossy bytes).takeWhile (· ≠ Char.ofNat a.toNat) :=
  takeWhile_ne_of_append (decodeLossy_append_cons ha) (count_decodeLossy ha) bytes

end Utf8

/-! ### Units of their own -/

namespace Utf16

/-- A unit that is no surrogate stands for its scalar value, and for nothing else. -/
lemma count_encodeChar {u : UInt16} {c : Char} (h : single u = some c) (d : Char) :
    (encodeChar d).count u = if d = c then 1 else 0 := by
  by_cases hd : d = c
  · rw [hd, encodeChar_of_single h, if_pos rfl]
    simp
  · rw [if_neg hd, List.count_eq_zero]
    have hs := Wide.spells_encodeChar d
    generalize encodeChar d = units at hs
    intro hmem
    cases hs with
    | single value =>
      rw [List.mem_singleton.1 hmem, single_of_toNat_eq value] at h
      exact hd (Option.some.inj h)
    | pair hhigh hlow _ =>
      rename_i high low
      have hu : (isHigh u || isLow u) = true := by
        rcases List.mem_pair.1 hmem with rfl | rfl
        · simp [isHigh, hhigh]
        · simp [isLow, hlow]
      rw [single, if_pos hu] at h
      cases h

lemma count_encode {u : UInt16} {c : Char} (h : single u = some c) (s : List Char) :
    (encode s).count u = s.count c := by
  induction s with
  | nil => rfl
  | cons d s ih =>
    rw [encode_cons, List.count_append, count_encodeChar h, ih, List.count_cons, Nat.add_comm]
    simp only [beq_iff_eq]

lemma encode_append_cons {u : UInt16} {c : Char} (h : single u = some c) (s t : List Char) :
    encode (s ++ c :: t) = encode s ++ u :: encode t := by
  rw [encode, List.flatMap_append, List.flatMap_cons, encodeChar_of_single h]
  rfl

lemma encode_takeWhile {u : UInt16} {c : Char} (h : single u = some c) (s : List Char) :
    encode (s.takeWhile (· ≠ c)) = (encode s).takeWhile (· ≠ u) :=
  takeWhile_ne_of_append (encode_append_cons h) (count_encode h) s

end Utf16

/-! ### Conversion up to the first zero -/

namespace Wide

/-- The zero units before the terminator are as many as the zero bytes. -/
lemma count_zero_convert (bytes : List UInt8) :
    (convert bytes).value.dropLast.count 0 = bytes.count 0 := by
  rw [dropLast_convert, Utf16.count_encode (c := '\x00') rfl]
  exact Utf8.count_decodeLossy (a := 0) (by decide) bytes

lemma convert_eq_dropLast_append (bytes : List UInt8) :
    (convert bytes).value = (convert bytes).value.dropLast ++ [0] := by
  rw [dropLast_convert]
  rfl

/-- The units before the first zero are those of the bytes before the first zero. -/
theorem takeWhile_convert (bytes : List UInt8) :
    (convert bytes).value.takeWhile (· ≠ 0) =
      (convert (bytes.takeWhile (· ≠ 0))).value.dropLast := by
  rw [convert_eq_dropLast_append bytes, takeWhile_ne_append_cons, dropLast_convert, dropLast_convert,
    ← Utf16.encode_takeWhile (c := '\x00') rfl]
  exact congrArg Utf16.encode (Utf8.decodeLossy_takeWhile (a := 0) (by decide) bytes).symm

/-- There is no zero before the terminator iff there is none in the bytes. -/
lemma takeWhile_convert_eq_iff (bytes : List UInt8) :
    (convert bytes).value.takeWhile (· ≠ 0) = (convert bytes).value.dropLast ↔ 0 ∉ bytes := by
  nth_rewrite 1 [convert_eq_dropLast_append bytes]
  rw [takeWhile_ne_append_cons, takeWhile_ne_eq_self_iff, ← List.count_eq_zero, count_zero_convert,
    List.count_eq_zero]

/-- A terminated string is converted up to its first zero, whatever stands behind its end. -/
lemma value_convertPointee (bytes behind : List UInt8) :
    (convertPointee (some (bytes ++ 0 :: behind))).value =
      (convert bytes).value.takeWhile (· ≠ 0) ++ [0] := by
  rw [takeWhile_convert, ← convert_eq_dropLast_append, convertPointee, takeWhile_ne_append_cons]

lemma lengthToZero_convert_iff (bytes : List UInt8) :
    lengthToZero (convert bytes).value = (convert bytes).value.length - 1 ↔ 0 ∉ bytes := by
  have hfront : (convert bytes).value.takeWhile (· ≠ 0) <+: (convert bytes).value.dropLast := by
    nth_rewrite 1 [convert_eq_dropLast_append bytes]
    rw [takeWhile_ne_append_cons]
    exact List.takeWhile_prefix _
  rw [← takeWhile_convert_eq_iff, lengthToZero, ← List.length_dropLast]
  exact ⟨hfront.eq_of_length, congrArg List.length⟩

/-- What a callee finds up to the first zero behind the pointer of an argument. -/
def Argument.unitsToZero (a : Argument) : Option (List UInt16) :=
  a.pointee.map (List.takeWhile (· ≠ 0))

lemma Argument.readToZero_eq (a : Argument) :
    a.readToZero = a.unitsToZero.map Utf16.decodeLossy := by
  rw [readToZero, unitsToZero, Option.map_map]
  rfl

lemma unitsToZero_ofPointee (bytes behind : List UInt8) :
    (Argument.ofPointee (some (bytes ++ 0 :: behind))).value.unitsToZero =
      (Argument.ofBytes bytes).value.unitsToZero := by
  have hunits : ((convert bytes).value.takeWhile (· ≠ 0) ++ [0]).takeWhile (· ≠ 0) =
      (convert bytes).value.takeWhile (· ≠ 0) := by
    rw [takeWhile_ne_append_cons, List.takeWhile_idem]
  change some ((convertPointee (some (bytes ++ 0 :: behind))).value.takeWhile (· ≠ 0)) = _
  rw [value_convertPointee, hunits]
  rfl

/-- The zero units of a conversion come from the zero bytes, one from each. A string that ends in a
zero is converted to what the conversion of its counted bytes has before the first zero, whatever
stands behind, and the length to the first zero is the whole length iff no byte is zero. A callee that
stops at the first zero finds the same in both arguments, and the arguments are the same iff no byte is
zero. -/
theorem zeros_are_zero_bytes (bytes behind : List UInt8) :
    let counted := (Argument.ofBytes bytes).value
    let terminated := (Argument.ofPointee (some (bytes ++ 0 :: behind))).value
    (convert bytes).value.dropLast.count 0 = bytes.count 0 ∧
      (convertPointee (some (bytes ++ 0 :: behind))).value =
        (convert bytes).value.takeWhile (· ≠ 0) ++ [0] ∧
      (lengthToZero (convert bytes).value = (convert bytes).value.length - 1 ↔ 0 ∉ bytes) ∧
      (∃ units, counted.unitsToZero = some units ∧ terminated.unitsToZero = some units ∧
        counted.readToZero = some (Utf16.decodeLossy units) ∧
        terminated.readToZero = some (Utf16.decodeLossy units)) ∧
      (counted = terminated ↔ 0 ∉ bytes) := by
  intro counted terminated
  have hsame : terminated.unitsToZero = counted.unitsToZero := unitsToZero_ofPointee bytes behind
  have hcounted : counted.unitsToZero = some ((convert bytes).value.takeWhile (· ≠ 0)) := rfl
  have hterminated : terminated = ⟨(convert bytes).value.takeWhile (· ≠ 0) ++ [0], false⟩ :=
    congrArg (fun units => Argument.mk units false) (value_convertPointee bytes behind)
  refine ⟨count_zero_convert bytes, value_convertPointee bytes behind, lengthToZero_convert_iff bytes,
    ⟨_, hcounted, hsame.trans hcounted, ?_, ?_⟩, ?_⟩
  · rw [Argument.readToZero_eq, hcounted]
    rfl
  · rw [Argument.readToZero_eq, hsame, hcounted]
    rfl
  · rw [← takeWhile_convert_eq_iff, hterminated]
    change Argument.mk (convert bytes).value false = _ ↔ _
    nth_rewrite 1 [convert_eq_dropLast_append bytes]
    simp only [Argument.mk.injEq, List.append_cancel_right_eq, and_true]
    exact eq_comm

end Wide

end Interop
