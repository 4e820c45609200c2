import Interop.Proofs.Utf16Texts

/-!
# Units with their lone surrogates replaced

To read units with replacement and to encode what was read puts U+FFFD in the place of every lone
surrogate. It does so at its index: the unit in front of a lone surrogate and the unit behind it are not
taken for its partner, and all units but the lone surrogates stay as they are.
-/

namespace Interop.Utf16

/-- The units with U+FFFD in the place of every lone surrogate. -/
def replaced (units : List UInt16) : List UInt16 := encode (decodeLossy units)

lemma scalars_cons {u : UInt16} {units : List UInt16}
    (h : (isHigh u && units.head?.any isLow) = false) :
    scalars (u :: units) = single u :: scalars units := by
  cases units with
  | nil => rfl
  | cons v rest => rw [scalars, if_neg (by simpa using h)]

lemma replaced_cons {u : UInt16} {units : List UInt16}
    (h : (isHigh u && units.head?.any isLow) = false) :
    replaced (u :: units) = (if isLoneAt (u :: units) 0 then 0xFFFD else u) :: replaced units := by
  rw [isLoneAt_cons_zero h, replaced, decodeLossy, scalars_cons h, List.map_cons, encode_cons]
  cases hu : single u with
  | none => rfl
  | some c =>
    rw [Option.getD_some, encodeChar_of_single hu]
    rfl

lemma replaced_pair {u v : UInt16} (hu : isHigh u = true) (hv : isLow v = true)
    (rest : List UInt16) : replaced (u :: v :: rest) = u :: v :: replaced rest := by
  rw [replaced, decodeLossy, scalars, if_pos (by simp [hu, hv]), List.map_cons, encode_cons,
    Option.getD_some, encodeChar_pair hu hv]
  rfl

lemma isLoneAt_nil (i : Nat) : isLoneAt [] i = false := by
  simp [isLoneAt]

lemma lt_length_of_isLoneAt {units : List UInt16} {i : Nat} (h : isLoneAt units i = true) :
    i < units.length := by
  by_contra hle
  have hnone : units[i]? = none := List.getElem?_eq_none (Nat.le_of_not_lt hle)
  rw [isLoneAt, hnone] at h
  cases h

lemma getElem?_replaced_cons {u : UInt16} {units : List UInt16}
    (h : (isHigh u && units.head?.any isLow) = false)
    (ih : ∀ i, (replaced units)[i]? = if isLoneAt units i then some 0xFFFD else units[i]?) (i : Nat) :
    (replaced (u :: units))[i]? =
      if isLoneAt (u :: units) i then some 0xFFFD else (u :: units)[i]? := by
  rw [replaced_cons h]
  cases i with
  | zero => cases isLoneAt (u :: units) 0 <;> rfl
  | succ i => rw [isLoneAt_cons_succ h, List.getElem?_cons_succ, List.getElem?_cons_succ, ih]

/-- A lone surrogate has become U+FFFD, and every other unit stands where it stood. -/
theorem getElem?_replaced (units : List UInt16) (i : Nat) :
    (replaced units)[i]? = if isLoneAt units i then some 0xFFFD else units[i]? := by
  -- a pair keeps its two units, and any other unit is replaced or kept by itself
  induction units using scalars.induct generalizing i with
  | case1 =>
    rw [isLoneAt_nil]
    rfl
  | case2 u =>
    refine getElem?_replaced_cons (by simp) (fun i => ?_) i
    rw [isLoneAt_nil]
    rfl
  | case3 u v rest h ih =>
    obtain ⟨hu, hv⟩ := Bool.and_eq_true_iff.1 h
    obtain ⟨hzero, hone, hrest⟩ := isLoneAt_pair hu hv rest
    rw [replaced_pair hu hv]
    rcases i with _ | _ | i
    · rw [hzero]
      rfl
    · rw [hone]
      rfl
    · rw [hrest]
      exact ih i
  | case4 u v rest h ih => exact getElem?_replaced_cons (by simpa using h) ih i

lemma length_replaced (units : List UInt16) : (replaced units).length = units.length := by
  have hnone : ∀ i : Nat, (replaced units)[i]? = none ↔ units[i]? = none := by
    intro i
    rw [getElem?_replaced]
    split
    · rename_i h
      simp [lt_length_of_isLoneAt h]
    · rfl
  simp only [List.getElem?_eq_none_iff] at hnone
  exact Nat.le_antisymm ((hnone _).2 (Nat.le_refl _)) ((hnone _).1 (Nat.le_refl _))

/-- Nothing has to be replaced iff no surrogate is lone. -/
theorem replaced_eq_self_iff (units : List UInt16) : replaced units = units ↔ WellFormed units := by
  rw [wellFormed_iff]
  constructor
  · exact fun h => ⟨_, h⟩
  · rintro ⟨s, rfl⟩
    rw [replaced, decodeLossy_encode]

end Interop.Utf16
