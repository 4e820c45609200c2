import Interop.Proofs.WideCapitals

/-!
# Reading up to the first zero

A callee that is given wide text goes from unit to unit until it finds a zero. The terminator is
there when an argument is built, but a callee that may write can take it away. Whether it is still
there is decided by the last unit that was stored in its place; and a reader stays within the units
as long as one of them is zero, be it the terminator or not.
-/

namespace Interop.Wide

/-! ### The length to the first zero -/

section LengthToZero

variable {units : List UInt16}

lemma take_lengthToZero (units : List UInt16) :
    units.take (lengthToZero units) = units.takeWhile (· ≠ 0) :=
  (List.prefix_iff_eq_take.1 (List.takeWhile_prefix _)).symm

lemma lengthToZero_eq_length_iff : lengthToZero units = units.length ↔ 0 ∉ units := by
  rw [← takeWhile_ne_eq_self_iff, lengthToZero]
  exact ⟨(List.takeWhile_prefix _).eq_of_length, congrArg List.length⟩

lemma lengthToZero_lt_length (h : 0 ∈ units) : lengthToZero units < units.length :=
  lt_of_le_of_ne (List.takeWhile_prefix _).length_le fun heq => lengthToZero_eq_length_iff.1 heq h

/-! ### Going from unit to unit -/

/-- Where a callee stops that looks for a zero, from an index on. It stops nowhere if it leaves the
units, which it does behind the last of them. -/
def stopFrom? (units : List UInt16) (i : Nat) : Option Nat :=
  if h : i < units.length then
    if units[i] = 0 then some i else stopFrom? units (i + 1)
  else none
termination_by units.length - i

/-- The callee stops at the first zero, if there is one. -/
lemma stopFrom?_eq (units : List UInt16) (i : Nat) :
    stopFrom? units i =
      if 0 ∈ units.drop i then some (i + lengthToZero (units.drop i)) else none := by
  induction i using stopFrom?.induct units with
  | case1 i hi hzero =>
    rw [stopFrom?, dif_pos hi, if_pos hzero, List.drop_eq_getElem_cons hi, hzero]
    simp [lengthToZero]
  | case2 i hi hzero ih =>
    have hmem : 0 ∈ units.drop i ↔ 0 ∈ units.drop (i + 1) := by
      rw [List.drop_eq_getElem_cons hi, List.mem_cons]
      exact or_iff_right (Ne.symm hzero)
    have hlength : lengthToZero (units.drop i) = lengthToZero (units.drop (i + 1)) + 1 := by
      rw [List.drop_eq_getElem_cons hi, lengthToZero, List.takeWhile_cons_of_pos (by simp [hzero])]
      rfl
    rw [stopFrom?, dif_pos hi, if_neg hzero, ih, hlength]
    simp only [hmem]
    rw [Nat.add_assoc, Nat.add_comm 1]
  | case3 i hi =>
    rw [stopFrom?, dif_neg hi, List.drop_eq_nil_of_le (Nat.le_of_not_lt hi)]
    rfl

lemma stopFrom?_zero (units : List UInt16) :
    stopFrom? units 0 = if 0 ∈ units then some (lengthToZero units) else none := by
  rw [stopFrom?_eq, List.drop_zero, Nat.zero_add]

lemma stopFrom?_zero_eq_none_iff : stopFrom? units 0 = none ↔ 0 ∉ units := by
  rw [stopFrom?_zero]
  simp

end LengthToZero

/-! ### What is stored over the terminator -/

/-- The unit that an act stores at an index, if it stores one there. -/
def Act.storedAt? (n : Nat) : Act → Option UInt16
  | .write i unit => if i = n then some unit else none
  | .upcase | .read | .inspect | .move => none

def lastStored? (n : Nat) (acts : List Act) : Option UInt16 :=
  (acts.filterMap (Act.storedAt? n)).getLast?

lemma lastStored?_cons (n : Nat) (act : Act) (acts : List Act) (unit : UInt16) :
    (lastStored? n (act :: acts)).getD unit =
      (lastStored? n acts).getD ((act.storedAt? n).getD unit) := by
  unfold lastStored?
  cases h : act.storedAt? n with
  | none => rw [List.filterMap_cons_none h]; rfl
  | some stored =>
    rw [List.filterMap_cons_some h, List.getLast?_cons]
    rfl

namespace Argument

lemma getElem?_upcase_length (a : Argument) : a.upcase.units[a.length]? = a.units[a.length]? := by
  have hbehind : (a.upcase.units.drop a.length)[0]? = (a.units.drop a.length)[0]? := by
    rw [drop_upcase]
  rwa [List.getElem?_drop, List.getElem?_drop, Nat.add_zero] at hbehind

section

variable {a : Argument} {n : Nat} (hlength : a.length = n) (hnull : a.isNull = false) {unit : UInt16}
  (h : a.units[n]? = some unit)

include hlength hnull h

/-- An act puts in the place of the terminator what it stores there, and nothing else. -/
lemma getElem?_after_length (act : Act) :
    (a.after act).units[n]? = some ((act.storedAt? n).getD unit) := by
  cases act with
  | write i stored =>
    rw [Act.storedAt?]
    by_cases hi : i = n
    · have hwrite : a.write i stored = .stored { a with units := a.units.set i stored } :=
        (write_eq_stored_iff _ _ _).2 ⟨hnull, Nat.le_of_eq (hi.trans hlength.symm), rfl⟩
      have hlt : i < a.units.length := hi ▸ (List.getElem?_eq_some_iff.1 h).1
      rw [after, hwrite, if_pos hi, ← hi]
      exact List.getElem?_set_self hlt
    · -- a write that goes through changes another unit, and one that is refused changes none
      rw [if_neg hi]
      rcases after_write (a := a) i stored with hafter | hafter
      · rw [hafter]
        exact h
      · rw [hafter]
        exact (List.getElem?_set_ne hi).trans h
  | upcase =>
    have hkept := a.getElem?_upcase_length
    rw [hlength] at hkept
    exact hkept.trans h
  | read | inspect | move => exact h

lemma getElem?_through_length (acts : List Act) :
    (a.through acts).units[n]? = some ((lastStored? n acts).getD unit) := by
  induction acts generalizing a unit with
  | nil => exact h
  | cons act acts ih =>
    rw [lastStored?_cons]
    exact ih ((a.length_after act).trans hlength) ((a.after_keeps act).2.trans hnull)
      (getElem?_after_length hlength hnull h act)

end

end Argument

/-- An argument is built with a zero in the place of its terminator. -/
lemma Source.getElem?_build_length (source : Source) :
    source.build.value.units[source.build.value.length]? = some 0 := by
  obtain ⟨s, hs⟩ := source.exists_units_build
  rw [Argument.length, hs, List.length_append]
  exact List.getElem?_concat_length

/-- However an argument was written to, there is a zero in the place of its terminator iff the last unit
that was stored there, if any, is zero; capitals are not put there. If so, a callee that looks for a
zero stops at the length to the first one, which is no more than that of the argument, and has read the
text of the units before. The length to the first zero counts all units iff none is zero, and only
then the callee leaves them. -/
theorem reading_stays_inside (source : Source) (acts : List Act) (h : ¬source.IsAbsent) :
    let a := source.build.value.through acts
    ∃ units, a.pointee = some units ∧ units.length = a.length + 1 ∧
      (units[a.length]? = some 0 ↔ ∀ unit ∈ lastStored? a.length acts, unit = 0) ∧
      a.upcase.units[a.length]? = units[a.length]? ∧
      (units[a.length]? = some 0 →
        stopFrom? units 0 = some (lengthToZero units) ∧ lengthToZero units ≤ a.length ∧
          a.readToZero = some (Utf16.decodeLossy (units.take (lengthToZero units)))) ∧
      (lengthToZero units = a.length + 1 ↔ ∀ unit ∈ units, unit ≠ 0) ∧
      (stopFrom? units 0 = none ↔ ∀ unit ∈ units, unit ≠ 0) := by
  intro a
  have hnull : a.isNull = false := Source.isNull_through h acts
  have hbuilt : source.build.value.isNull = false := Source.isNull_through h []
  have hkept : a.units.length = source.build.value.units.length :=
    (source.build.value.through_keeps acts).1
  have hlength : a.length = source.build.value.length := congrArg (· - 1) hkept
  have hunits : a.units.length = a.length + 1 := by
    have hpos := source.length_units_pos
    have hsub : a.length = a.units.length - 1 := rfl
    omega
  have hpointee : a.pointee = some a.units := if_neg (by simp [hnull])
  have hlast : a.units[a.length]? = some ((lastStored? a.length acts).getD 0) := by
    rw [hlength]
    exact Argument.getElem?_through_length rfl hbuilt source.getElem?_build_length acts
  have hzero : (∀ unit ∈ a.units, unit ≠ 0) ↔ 0 ∉ a.units :=
    ⟨fun hall hmem => hall 0 hmem rfl, fun hnone unit hmem heq => hnone (heq ▸ hmem)⟩
  refine ⟨a.units, hpointee, hunits, ?_, a.getElem?_upcase_length, ?_, ?_, ?_⟩
  · rw [hlast]
    cases lastStored? a.length acts <;> simp
  · intro hterminated
    have hmem : 0 ∈ a.units := List.mem_of_getElem? hterminated
    refine ⟨?_, ?_, ?_⟩
    · rw [stopFrom?_zero, if_pos hmem]
    · have hlt := lengthToZero_lt_length hmem
      omega
    · rw [take_lengthToZero, Argument.readToZero, hpointee]
      rfl
  · rw [hzero, ← lengthToZero_eq_length_iff, hunits]
  · rw [hzero, stopFrom?_zero_eq_none_iff]

/-- A terminator that is overwritten and put back ends the text, and one that stays overwritten lets the
callee run out of the units. -/
theorem reading_behind_an_overwritten_terminator :
    let source := Source.bytes [0x61, 0x62, 0x63]
    let restored := source.build.value.through
      [.write 3 0x21, .write 1 0xD83E, .upcase, .write 3 0]
    let lost := source.build.value.through [.write 3 0, .upcase, .write 3 0x21]
    ¬source.IsAbsent ∧
      (restored.pointee = some [0x41, 0xD83E, 0x43, 0] ∧
        stopFrom? [0x41, 0xD83E, 0x43, 0] 0 = some 3 ∧
        restored.readToZero = some ['A', '\ufffd', 'C']) ∧
      lost.pointee = some [0x41, 0x42, 0x43, 0x21] ∧ stopFrom? [0x41, 0x42, 0x43, 0x21] 0 = none := by
  intro source restored lost
  have hsource : ¬source.IsAbsent := by
    rw [← source.isNull_build_iff]
    decide
  have hrestored : restored.pointee = some [0x41, 0xD83E, 0x43, 0] := by decide +kernel
  have hlost : lost.pointee = some [0x41, 0x42, 0x43, 0x21] := by decide +kernel
  obtain ⟨units, hunits, -, -, -, hread, -⟩ := reading_stays_inside source
    [.write 3 0x21, .write 1 0xD83E, .upcase, .write 3 0] hsource
  obtain ⟨others, hothers, -, -, -, -, -, hleft⟩ := reading_stays_inside source
    [.write 3 0, .upcase, .write 3 0x21] hsource
  obtain rfl : units = _ := Option.some.inj (hunits.symm.trans hrestored)
  obtain rfl : others = _ := Option.some.inj (hothers.symm.trans hlost)
  obtain ⟨hstop, -, htext⟩ := hread (by decide +kernel)
  exact ⟨hsource, ⟨hrestored, hstop, htext⟩, hlost, hleft.2 (by simp)⟩

end Interop.Wide
