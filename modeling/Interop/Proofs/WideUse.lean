import Interop.Wide.Argument
import Mathlib.Tactic.Common

/-!
# Arguments in use

An argument is made from one of several sources. From then on a callee may write to it and the library
may look at it, in any order and any number of times. None of this changes how long the argument is or
whether it is null: a null argument comes from a source with nothing to point at, and what is written
stays within the units that were there at first, the terminator among them.
-/

namespace Interop.Wide

/-- What an argument is made from. -/
inductive Source
  | bytes (content : List UInt8)
  | string (s : String)
  | option (s : Option String)
  | pointee (content : Option (List UInt8))
  | null
  deriving Repr, DecidableEq

/-- The argument made from a source, with the records about its conversion. -/
def Source.build : Source → Log.Logged Argument
  | .bytes content => Argument.ofBytes content
  | .string s => Argument.ofString s
  | .option s => Argument.ofOption s
  | .pointee content => Argument.ofPointee content
  | .null => ⟨.null, []⟩

/-- The sources with nothing to point at. Empty ones are not among them. -/
def Source.IsAbsent (source : Source) : Prop :=
  source = .null ∨ source = .option none ∨ source = .pointee none

/-- What is done with an argument while it lives. -/
inductive Act
  | write (i : Nat) (unit : UInt16)
  | upcase
  | read
  | inspect
  | move
  deriving Repr, DecidableEq

namespace Argument

/-- The argument after an act. A write that is refused leaves it as it was. -/
def after (a : Argument) : Act → Argument
  | .write i unit =>
    match a.write i unit with
    | .stored b => b
    | .noBuffer | .outOfRange => a
  | .upcase => a.upcase
  | .read | .inspect | .move => a

/-- The argument after acts, oldest first. -/
def through (a : Argument) (acts : List Act) : Argument := acts.foldl after a

variable {a : Argument}

/-! ### Writes -/

lemma write_eq_noBuffer_iff (i : Nat) (unit : UInt16) :
    a.write i unit = .noBuffer ↔ a.isNull = true := by
  unfold write
  by_cases hnull : a.isNull = true
  · simp [hnull]
  · by_cases hi : a.length < i <;> simp [hnull, hi]

lemma write_eq_stored_iff (i : Nat) (unit : UInt16) (b : Argument) :
    a.write i unit = .stored b ↔
      a.isNull = false ∧ i ≤ a.length ∧ b = { a with units := a.units.set i unit } := by
  unfold write
  by_cases hnull : a.isNull = true
  · simp [hnull]
  · by_cases hi : a.length < i
    · simp [hnull, hi, Nat.not_le.2 hi]
    · simp [hnull, hi, Nat.not_lt.1 hi, eq_comm]

lemma after_write (i : Nat) (unit : UInt16) :
    a.after (.write i unit) = a ∨ a.after (.write i unit) = { a with units := a.units.set i unit } := by
  rw [after]
  cases h : a.write i unit with
  | noBuffer => exact .inl rfl
  | outOfRange => exact .inl rfl
  | stored b =>
    obtain ⟨-, -, rfl⟩ := (write_eq_stored_iff i unit b).1 h
    exact .inr rfl

lemma length_capitalsToZero (units : List UInt16) : (capitalsToZero units).length = units.length := by
  induction units with
  | nil => rfl
  | cons unit rest ih =>
    rw [capitalsToZero]
    split
    · rfl
    · rw [List.length_cons, List.length_cons, ih]

lemma length_upcase_units : a.upcase.units.length = a.units.length := by
  unfold upcase
  split
  · rfl
  · have hle : a.length ≤ a.units.length := Nat.sub_le _ _
    simp only [List.length_append, length_capitalsToZero, content, List.length_take, List.length_drop]
    omega

theorem after_keeps (a : Argument) (act : Act) :
    (a.after act).units.length = a.units.length ∧ (a.after act).isNull = a.isNull := by
  cases act with
  | write i unit =>
    rcases after_write (a := a) i unit with h | h
    · rw [h]
      exact ⟨rfl, rfl⟩
    · rw [h]
      exact ⟨List.length_set, rfl⟩
  | upcase =>
    refine ⟨length_upcase_units, ?_⟩
    change a.upcase.isNull = a.isNull
    unfold upcase
    split <;> rfl
  | read | inspect | move => exact ⟨rfl, rfl⟩

lemma length_after (a : Argument) (act : Act) : (a.after act).length = a.length :=
  congrArg (· - 1) (a.after_keeps act).1

/-- Nothing reaches the buffer of a null argument. -/
lemma after_of_isNull (h : a.isNull = true) (act : Act) : a.after act = a := by
  cases act with
  | write i unit => rw [after, (write_eq_noBuffer_iff i unit).2 h]
  | upcase => exact if_pos h
  | read | inspect | move => rfl

/-! ### Whole lives -/

lemma through_keeps (a : Argument) (acts : List Act) :
    (a.through acts).units.length = a.units.length ∧ (a.through acts).isNull = a.isNull := by
  induction acts generalizing a with
  | nil => exact ⟨rfl, rfl⟩
  | cons act acts ih =>
    obtain ⟨hlength, hnull⟩ := a.after_keeps act
    rw [← hlength, ← hnull]
    exact ih (a.after act)

lemma through_of_isNull (h : a.isNull = true) (acts : List Act) : a.through acts = a := by
  induction acts with
  | nil => rfl
  | cons act acts ih =>
    change (a.after act).through acts = a
    rw [after_of_isNull h, ih]

lemma content_eq_dropLast (a : Argument) : a.content = a.units.dropLast :=
  List.dropLast_eq_take.symm

lemma length_content (a : Argument) : a.content.length = a.length := by
  rw [content_eq_dropLast, List.length_dropLast]
  rfl

end Argument

namespace Source

/-- What is built from a source is a text with its terminator behind. -/
lemma exists_units_build (source : Source) :
    ∃ s, source.build.value.units = Utf16.encode s ++ [0] := by
  have hconvert : ∀ bytes, ∃ s, (convert bytes).value = Utf16.encode s ++ [0] :=
    fun bytes => ⟨_, rfl⟩
  have hlone : ∃ s, [0] = Utf16.encode s ++ [0] := ⟨[], rfl⟩
  cases source with
  | bytes content => exact hconvert content
  | string s => exact hconvert _
  | option s =>
    cases s with
    | none => exact hlone
    | some s => exact hconvert _
  | pointee content =>
    cases content with
    | none => exact hlone
    | some content => exact hconvert _
  | null => exact hlone

lemma length_units_pos (source : Source) : 0 < source.build.value.units.length := by
  obtain ⟨s, hs⟩ := source.exists_units_build
  rw [hs, List.length_append]
  exact Nat.succ_pos _

/-- An argument is built null iff there is nothing to point at, and then it is the null argument. -/
lemma isNull_build_iff (source : Source) : source.build.value.isNull = true ↔ source.IsAbsent := by
  unfold IsAbsent
  cases source with
  | bytes content => simp [build, Argument.ofBytes]
  | string s => simp [build, Argument.ofString, Argument.ofBytes]
  | option s =>
    cases s with
    | none => simp [build, Argument.ofOption, Argument.null]
    | some s => simp [build, Argument.ofOption, Argument.ofString, Argument.ofBytes]
  | pointee content => cases content <;> simp [build, Argument.ofPointee]
  | null => simp [build, Argument.null]

lemma isNull_through {source : Source} (h : ¬source.IsAbsent) (acts : List Act) :
    (source.build.value.through acts).isNull = false := by
  rw [(source.build.value.through_keeps acts).2, ← Bool.not_eq_true, isNull_build_iff]
  exact h

lemma build_of_isAbsent {source : Source} (h : source.IsAbsent) : source.build.value = .null := by
  rcases h with rfl | rfl | rfl <;> rfl

end Source

/-- Whatever is done with an argument after it was built: it is null iff its source had nothing to
point at, and then no pointer to it is handed out for reading or for writing; it keeps being null or
not, and its length; it has one unit behind its content, so that the content is all units but the
last; a callee's writes go through up to that unit and no further; and a null argument stays a lone
terminator. -/
theorem nullness_and_length_last (source : Source) (acts : List Act) :
    let built := source.build.value
    let a := built.through acts
    (a.isNull = true ↔ source.IsAbsent) ∧
      (a.pointee = none ↔ a.isNull = true) ∧
      (∀ i unit, (a.write i unit = .noBuffer ↔ a.isNull = true) ∧
        ((∃ b, a.write i unit = .stored b) ↔ a.isNull = false ∧ i ≤ a.length)) ∧
      a.isNull = built.isNull ∧ a.length = built.length ∧
      a.units.length = a.length + 1 ∧ a.content = a.units.dropLast ∧
      (a.isEmpty = true ↔ a.length = 0) ∧
      (a.isNull = true → a.length = 0 ∧ a.units = [0]) := by
  intro built a
  obtain ⟨hunits, hnull⟩ : a.units.length = built.units.length ∧ a.isNull = built.isNull :=
    built.through_keeps acts
  have hpos : 0 < built.units.length := source.length_units_pos
  have hlength : a.length = built.length := congrArg (· - 1) hunits
  have hpointee : a.pointee = none ↔ a.isNull = true := by
    unfold Argument.pointee
    split <;> simp_all
  refine ⟨?_, hpointee, ?_, hnull, hlength, ?_, a.content_eq_dropLast, ?_, ?_⟩
  · rw [hnull]
    exact source.isNull_build_iff
  · intro i unit
    refine ⟨Argument.write_eq_noBuffer_iff i unit, ?_⟩
    simp only [Argument.write_eq_stored_iff]
    exact ⟨fun ⟨_, hsome, hle, _⟩ => ⟨hsome, hle⟩, fun ⟨hsome, hle⟩ => ⟨_, hsome, hle, rfl⟩⟩
  · have hsub : a.length = a.units.length - 1 := rfl
    omega
  · simp [Argument.isEmpty]
  · intro h
    have hbuilt : built.isNull = true := hnull ▸ h
    have hself : a = .null := by
      rw [show a = built from Argument.through_of_isNull hbuilt acts]
      exact Source.build_of_isAbsent (source.isNull_build_iff.1 hbuilt)
    rw [hself]
    exact ⟨rfl, rfl⟩

end Interop.Wide
