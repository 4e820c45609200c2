import Interop.Proofs.WideReading

/-!
# Texts in UTF-16

A surrogate is lone if its partner is missing: behind a high one a low one, in front of a low one a
high one. Strict reading succeeds iff no surrogate is lone, and the units it accepts are exactly the
encoding of what it returns.
-/

namespace Interop.Utf16

/-! ### Lone surrogates -/

/-- The unit in front of an index. -/
def inFrontOf? (units : List UInt16) : Nat → Option UInt16
  | 0 => none
  | i + 1 => units[i]?

/-- Whether the unit at an index is a high surrogate that no low one follows, or a low one that
follows no high one. -/
def isLoneAt (units : List UInt16) (i : Nat) : Bool :=
  units[i]?.any isHigh && !units[i + 1]?.any isLow ||
    units[i]?.any isLow && !(inFrontOf? units i).any isHigh

/-- No surrogate is lone. -/
def WellFormed (units : List UInt16) : Prop := ∀ i, isLoneAt units i = false

lemma isLow_eq_false_of_isHigh {u : UInt16} (h : isHigh u = true) : isLow u = false := by
  simp only [isHigh, isLow, Bool.and_eq_true, Bool.and_eq_false_iff, decide_eq_true_eq,
    decide_eq_false_iff_not, UInt16.le_iff_toNat_le, UInt16.reduceToNat] at h ⊢
  omega

lemma isHigh_eq_false_of_isLow {u : UInt16} (h : isLow u = true) : isHigh u = false := by
  by_contra hne
  rw [isLow_eq_false_of_isHigh (by simpa using hne)] at h
  cases h

/-- A unit in front changes nothing for those behind it, unless it makes a pair with the first. -/
lemma isLoneAt_cons_succ {u : UInt16} {units : List UInt16}
    (h : (isHigh u && units.head?.any isLow) = false) (i : Nat) :
    isLoneAt (u :: units) (i + 1) = isLoneAt units i := by
  cases i with
  | succ i => rfl
  | zero =>
    cases units with
    | nil => rfl
    | cons v rest =>
      simp only [List.head?_cons, Option.any_some] at h
      cases hv : isLow v <;> simp [isLoneAt, inFrontOf?, hv] at h ⊢
      exact .inr h

lemma isLoneAt_pair {u v : UInt16} (hu : isHigh u = true) (hv : isLow v = true) (rest : List UInt16) :
    isLoneAt (u :: v :: rest) 0 = false ∧ isLoneAt (u :: v :: rest) 1 = false ∧
      ∀ i, isLoneAt (u :: v :: rest) (i + 2) = isLoneAt rest i := by
  have hu' := isLow_eq_false_of_isHigh hu
  have hv' := isHigh_eq_false_of_isLow hv
  refine ⟨by simp [isLoneAt, hu', hv], by simp [isLoneAt, inFrontOf?, hu, hv'], ?_⟩
  intro i
  have htail : isLoneAt (u :: v :: rest) (i + 2) = isLoneAt (v :: rest) (i + 1) := rfl
  rw [htail, isLoneAt_cons_succ (by simp [hv'])]

lemma wellFormed_pair {u v : UInt16} (hu : isHigh u = true) (hv : isLow v = true)
    (rest : List UInt16) : WellFormed (u :: v :: rest) ↔ WellFormed rest := by
  obtain ⟨hzero, hone, hrest⟩ := isLoneAt_pair hu hv rest
  constructor
  · intro h i
    rw [← hrest]
    exact h (i + 2)
  · rintro h (_ | _ | i)
    · exact hzero
    · exact hone
    · rw [hrest]
      exact h i

lemma single_isSome (u : UInt16) : (single u).isSome = !(isHigh u || isLow u) := by
  unfold single
  cases isHigh u || isLow u <;> rfl

/-- The first unit is lone iff it is a surrogate, unless it makes a pair with the second. -/
lemma isLoneAt_cons_zero {u : UInt16} {units : List UInt16}
    (h : (isHigh u && units.head?.any isLow) = false) :
    isLoneAt (u :: units) 0 = !(single u).isSome := by
  rw [single_isSome, Bool.not_not]
  cases units with
  | nil => simp [isLoneAt, inFrontOf?]
  | cons v rest =>
    simp only [List.head?_cons, Option.any_some] at h
    cases hu : isHigh u <;> simp [isLoneAt, inFrontOf?, hu] at h ⊢
    exact .inl h

lemma wellFormed_cons {u : UInt16} {units : List UInt16}
    (h : (isHigh u && units.head?.any isLow) = false) :
    WellFormed (u :: units) ↔ (single u).isSome = true ∧ WellFormed units := by
  constructor
  · intro hwf
    refine ⟨?_, fun i => ?_⟩
    · simpa [isLoneAt_cons_zero h] using hwf 0
    · rw [← isLoneAt_cons_succ h]
      exact hwf (i + 1)
  · rintro ⟨hu, hwf⟩ (_ | i)
    · rw [isLoneAt_cons_zero h, hu]
      rfl
    · rw [isLoneAt_cons_succ h]
      exact hwf i

/-! ### Strict reading -/

lemma mapM_id_eq_some_iff {cs : List (Option Char)} {s : List Char} :
    cs.mapM id = some s ↔ cs = s.map some := by
  induction cs generalizing s with
  | nil => cases s <;> simp
  | cons c cs ih =>
    rw [List.mapM_cons]
    cases c with
    | none => cases s <;> simp
    | some c =>
      cases hcs : cs.mapM id with
      | none =>
        have hne : ∀ t : List Char, cs ≠ t.map some := fun t h => by
          cases hcs.symm.trans (ih.2 h)
        cases s <;> simp [hne]
      | some t =>
        obtain rfl := ih.1 hcs
        cases s <;> simp [List.map_inj_right]

lemma decode?_eq_some_iff (units : List UInt16) (s : List Char) :
    decode? units = some s ↔ scalars units = s.map some := mapM_id_eq_some_iff

/-- No scalar value is missing iff no surrogate is lone. -/
theorem wellFormed_iff_scalars (units : List UInt16) :
    WellFormed units ↔ ∀ c ∈ scalars units, c.isSome = true := by
  induction units using scalars.induct with
  | case1 => simp [scalars, WellFormed, isLoneAt]
  | case2 u =>
    rw [wellFormed_cons (by simp), scalars]
    simp [WellFormed, isLoneAt]
  | case3 u v rest h ih =>
    obtain ⟨hu, hv⟩ := Bool.and_eq_true_iff.1 h
    rw [wellFormed_pair hu hv, ih, scalars, if_pos h]
    simp
  | case4 u v rest h ih =>
    rw [wellFormed_cons (by simpa using h), ih, scalars, if_neg h]
    simp

/-! ### Encodings -/

lemma single_of_toNat_eq {c : Char} {u : UInt16} (h : c.toNat = u.toNat) : single u = some c := by
  have hv : c.toNat.isValidChar := c.valid
  have hsurrogate : (isHigh u || isLow u) = false := by
    unfold Nat.isValidChar at hv
    simp only [isHigh, isLow, Bool.or_eq_false_iff, Bool.and_eq_false_iff, decide_eq_false_iff_not,
      UInt16.le_iff_toNat_le, UInt16.reduceToNat]
    omega
  rw [single, hsurrogate, ← h, Char.ofNat_toNat]
  rfl

lemma encodeChar_of_single {u : UInt16} {c : Char} (h : single u = some c) : encodeChar c = [u] := by
  unfold single at h
  split at h
  · cases h
  · rename_i hu
    obtain rfl := Option.some.inj h
    have hv : u.toNat.isValidChar := by
      have hlt := u.toNat_lt
      simp only [isHigh, isLow, Bool.or_eq_true, Bool.and_eq_true, decide_eq_true_eq,
        UInt16.le_iff_toNat_le, UInt16.reduceToNat] at hu
      unfold Nat.isValidChar
      omega
    exact (Wide.spells_encodeChar _).unique (.single (Utf8.toNat_ofNat hv))

lemma encodeChar_pair {u v : UInt16} (hu : isHigh u = true) (hv : isLow v = true) :
    encodeChar (pair u v) = [u, v] := by
  simp only [isHigh, isLow, Bool.and_eq_true, decide_eq_true_eq] at hu hv
  have hvalid : (0x10000 + (u.toNat - 0xD800) * 0x400 + (v.toNat - 0xDC00)).isValidChar := by
    simp only [UInt16.le_iff_toNat_le, UInt16.reduceToNat] at hu hv
    unfold Nat.isValidChar
    omega
  exact (Wide.spells_encodeChar _).unique (.pair hu hv (Utf8.toNat_ofNat hvalid))

lemma encodeChar_eq_single_iff {c : Char} {u : UInt16} : encodeChar c = [u] ↔ single u = some c := by
  constructor
  · intro h
    have hs := Wide.spells_encodeChar c
    rw [h] at hs
    cases hs with
    | single value => exact single_of_toNat_eq value
  · exact encodeChar_of_single

lemma encodeChar_eq_pair_iff {c : Char} {u v : UInt16} :
    encodeChar c = [u, v] ↔ isHigh u = true ∧ isLow v = true ∧ pair u v = c := by
  constructor
  · intro h
    have hs := Wide.spells_encodeChar c
    rw [h] at hs
    cases hs with
    | pair hhigh hlow value =>
      exact ⟨by simpa [isHigh] using hhigh, by simpa [isLow] using hlow,
        by rw [pair, ← value, Char.ofNat_toNat]⟩
  · rintro ⟨hu, hv, rfl⟩
    exact encodeChar_pair hu hv

lemma scalars_encodeChar_append (c : Char) (units : List UInt16) :
    scalars (encodeChar c ++ units) = some c :: scalars units := by
  have hs := Wide.spells_encodeChar c
  generalize encodeChar c = front at hs
  cases hs with
  | single value =>
    rename_i u
    have hsingle := single_of_toNat_eq value
    cases units with
    | nil => simp [scalars, hsingle]
    | cons v rest =>
      have hu : isHigh u = false := by
        unfold single at hsingle
        split at hsingle
        · cases hsingle
        · simp_all
      simp [scalars, hsingle, hu]
  | pair hhigh hlow value =>
    rename_i high low
    have hu : isHigh high = true := by simpa [isHigh] using hhigh
    have hv : isLow low = true := by simpa [isLow] using hlow
    have hc : pair high low = c := by rw [pair, ← value, Char.ofNat_toNat]
    simp [scalars, hu, hv, hc]

lemma encode_cons (c : Char) (s : List Char) : encode (c :: s) = encodeChar c ++ encode s :=
  List.flatMap_cons

lemma scalars_encode (s : List Char) : scalars (encode s) = s.map some := by
  induction s with
  | nil => rfl
  | cons c s ih => rw [encode_cons, scalars_encodeChar_append, ih, List.map_cons]

/-- Units that have no scalar value missing are encoded by their scalar values. -/
lemma encode_of_scalars {units : List UInt16} {s : List Char} (h : scalars units = s.map some) :
    encode s = units := by
  induction units using scalars.induct generalizing s with
  | case1 =>
    obtain rfl := List.map_eq_nil_iff.1 h.symm
    rfl
  | case2 u =>
    rw [scalars] at h
    cases s with
    | nil => cases h
    | cons c s =>
      obtain ⟨hc, hs⟩ := List.cons.inj h
      obtain rfl := List.map_eq_nil_iff.1 hs.symm
      rw [encode_cons, encodeChar_of_single hc]
      rfl
  | case3 u v rest hpair ih =>
    obtain ⟨hu, hv⟩ := Bool.and_eq_true_iff.1 hpair
    rw [scalars, if_pos hpair] at h
    cases s with
    | nil => cases h
    | cons c s =>
      obtain ⟨hc, hs⟩ := List.cons.inj h
      rw [encode_cons, ← Option.some.inj hc, encodeChar_pair hu hv, ih hs]
      rfl
  | case4 u v rest hpair ih =>
    rw [scalars, if_neg hpair] at h
    cases s with
    | nil => cases h
    | cons c s =>
      obtain ⟨hc, hs⟩ := List.cons.inj h
      rw [encode_cons, encodeChar_of_single hc, ih hs]
      rfl

/-- Strict reading accepts exactly the encoding of what it returns. -/
theorem decode?_eq_some_iff_encode (units : List UInt16) (s : List Char) :
    decode? units = some s ↔ encode s = units := by
  rw [decode?_eq_some_iff]
  constructor
  · exact encode_of_scalars
  · rintro rfl
    exact scalars_encode s

theorem decodeLossy_encode (s : List Char) : decodeLossy (encode s) = s := by
  rw [decodeLossy, scalars_encode, List.map_map]
  exact List.map_id s

lemma encode_injective : Function.Injective encode := by
  intro s t h
  rw [← decodeLossy_encode s, h, decodeLossy_encode]

/-- No surrogate is lone iff the units are the encoding of a text. -/
theorem wellFormed_iff (units : List UInt16) : WellFormed units ↔ ∃ s, encode s = units := by
  rw [wellFormed_iff_scalars]
  constructor
  · intro h
    refine ⟨decodeLossy units, encode_of_scalars ?_⟩
    rw [decodeLossy, List.map_map]
    refine (List.map_id _).symm.trans (List.map_congr_left fun c hc => ?_)
    obtain ⟨d, rfl⟩ := Option.isSome_iff_exists.1 (h c hc)
    rfl
  · rintro ⟨s, rfl⟩ c hc
    rw [scalars_encode] at hc
    obtain ⟨d, -, rfl⟩ := List.mem_map.1 hc
    rfl

end Interop.Utf16
