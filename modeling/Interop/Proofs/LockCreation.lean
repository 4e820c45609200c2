import Interop.Proofs.LockDisposal

/-!
# The native calls of a creation

Whatever codes the operating system returns, a creation calls what sets a lock up until a call
fails, and then, if there is an attribute object, destroys it. So each call finds the objects that
it works on, no attribute object is left behind, and a lock is there iff the creation says so.
-/

namespace Interop.Lock

/-! ### What the calls work on -/

/-- The native objects of a creation: whether the attribute object and the lock are there. -/
structure Objects where
  attributes : Bool := false
  lock : Bool := false
  deriving Repr, DecidableEq

namespace Objects

/-- Whether a call finds what it needs. An object is initialised that is not there yet, and any
other call is about an object that is there; to initialise a lock takes an attribute object too. -/
def allows (o : Objects) : NativeCall → Bool
  | .attributeInit => !o.attributes
  | .attributeSetType | .attributeDestroy => o.attributes
  | .mutexInit => o.attributes && !o.lock
  | .mutexLock | .mutexTryLock | .mutexUnlock | .mutexDestroy => o.lock

/-- The objects after a call that returned a code: an object is there after a call to initialise it
that returned zero, and no longer after a call to destroy it. -/
def after (o : Objects) (code : Int32) : NativeCall → Objects
  | .attributeInit => { o with attributes := code = 0 }
  | .mutexInit => { o with lock := code = 0 }
  | .attributeDestroy => { o with attributes := false }
  | .mutexDestroy => { o with lock := false }
  | .attributeSetType | .mutexLock | .mutexTryLock | .mutexUnlock => o

/-- The objects after calls that return the given codes, or none if a call does not find what it
needs. -/
def through (codes : NativeCall → Int32) : List NativeCall → Objects → Option Objects
  | [], o => some o
  | call :: calls, o =>
    if o.allows call then through codes calls (o.after (codes call) call) else none

end Objects

/-! ### The calls up to the first that fails -/

/-- The calls of a list up to the first that returns a code other than zero. -/
def upToFailure (codes : NativeCall → Int32) : List NativeCall → List NativeCall
  | [] => []
  | call :: calls => if codes call = 0 then call :: upToFailure codes calls else [call]

section UpToFailure

variable {codes : NativeCall → Int32}

lemma upToFailure_sublist (calls : List NativeCall) : (upToFailure codes calls).Sublist calls := by
  induction calls with
  | nil => exact .slnil
  | cons call calls ih =>
    unfold upToFailure
    split
    · exact ih.cons_cons call
    · exact (List.nil_sublist calls).cons_cons call

lemma upToFailure_eq_self {calls : List NativeCall} (h : ∀ call ∈ calls, codes call = 0) :
    upToFailure codes calls = calls := by
  induction calls with
  | nil => rfl
  | cons call calls ih =>
    obtain ⟨hcall, hcalls⟩ := List.forall_mem_cons.1 h
    rw [upToFailure, if_pos hcall, ih hcalls]

lemma upToFailure_append_cons {before : List NativeCall} {call : NativeCall}
    (hbefore : ∀ c ∈ before, codes c = 0) (hcall : codes call ≠ 0) (rest : List NativeCall) :
    upToFailure codes (before ++ call :: rest) = before ++ [call] := by
  induction before with
  | nil => exact if_neg hcall
  | cons c before ih =>
    obtain ⟨hc, hbefore⟩ := List.forall_mem_cons.1 hbefore
    rw [List.cons_append, upToFailure, if_pos hc, ih hbefore]
    rfl

end UpToFailure

namespace NativeLock

variable (codes : NativeCall → Int32)

/-- The calls that clear up after a creation: if the attribute object could be initialised it is
destroyed. -/
def cleanUp : List NativeCall := if codes .attributeInit = 0 then [.attributeDestroy] else []

/-- A creation makes the calls that set the lock up until one fails, and says which one did. -/
lemma create_eq :
    create codes = ⟨upToFailure codes setUp ++ cleanUp codes,
      match setUpFailure? codes with
      | some (call, code) => .error (call.failure code)
      | none => .ok .free⟩ := by
  unfold create setUpFailure? setUp cleanUp
  by_cases hinit : codes .attributeInit = 0
  · by_cases hset : codes .attributeSetType = 0
    · by_cases hmutex : codes .mutexInit = 0 <;> simp [upToFailure, hinit, hset, hmutex]
    · simp [upToFailure, hinit, hset]
  · simp [upToFailure, hinit]

lemma calls_create : (create codes).calls = upToFailure codes setUp ++ cleanUp codes := by
  rw [create_eq]

lemma setUpFailure?_append_cons {before : List NativeCall} {call : NativeCall}
    {rest : List NativeCall} (hsetUp : setUp = before ++ call :: rest)
    (hbefore : ∀ c ∈ before, codes c = 0) (hcall : codes call ≠ 0) :
    setUpFailure? codes = some (call, codes call) := by
  rw [setUpFailure?, hsetUp, List.map_append, List.find?_append]
  have hnone : (before.map fun call => (call, codes call)).find? (fun p => p.2 ≠ 0) = none := by
    simpa using hbefore
  rw [hnone]
  simp [hcall]

lemma setUpFailure?_eq_none_iff :
    setUpFailure? codes = none ↔ ∀ call ∈ setUp, codes call = 0 := by
  simp [setUpFailure?]

lemma outcome_create_eq_ok_iff (lock : NativeLock) :
    (create codes).outcome = .ok lock ↔ lock = .free ∧ ∀ call ∈ setUp, codes call = 0 := by
  rw [← setUpFailure?_eq_none_iff, create_eq]
  cases setUpFailure? codes with
  | some failure => simp
  | none => simp [eq_comm]

/-- A creation looks at the codes of the calls that set the lock up, and at no others. -/
lemma create_congr {codes codes' : NativeCall → Int32}
    (h : ∀ call ∈ setUp, codes call = codes' call) : create codes = create codes' := by
  simp only [setUp, List.forall_mem_cons] at h
  obtain ⟨hinit, hset, hmutex, -⟩ := h
  rw [create, create, hinit, hset, hmutex]

/-- Every call of a creation finds what it needs; in the end there is no attribute object, and there
is a lock iff the creation says so. -/
theorem through_create :
    Objects.through codes (create codes).calls {} =
      some { attributes := false, lock := (create codes).outcome.isOk } := by
  unfold create
  by_cases hinit : codes .attributeInit = 0
  · by_cases hset : codes .attributeSetType = 0
    · by_cases hmutex : codes .mutexInit = 0 <;>
        simp [hinit, hset, hmutex, Objects.through, Objects.allows, Objects.after, Except.isOk,
          Except.toBool]
    · simp [hinit, hset, Objects.through, Objects.allows, Objects.after, Except.isOk, Except.toBool]
  · simp [hinit, Objects.through, Objects.allows, Objects.after, Except.isOk, Except.toBool]

lemma count_attributeDestroy_create :
    (create codes).calls.count .attributeDestroy = if codes .attributeInit = 0 then 1 else 0 := by
  have hnone : .attributeDestroy ∉ upToFailure codes setUp := by
    intro hmem
    exact absurd ((upToFailure_sublist setUp).subset hmem) (by decide)
  rw [calls_create, List.count_append, List.count_eq_zero.2 hnone, Nat.zero_add, cleanUp]
  split <;> rfl

end NativeLock

/-- The creation of a mutex leaves one record: that there is one, or why there is none. -/
lemma Mutex.create_ok_or_error (codes : NativeCall → Int32) :
    ((NativeLock.create codes).outcome = .ok .free ∧
      Mutex.create codes = ⟨.ok ⟨.free, 0⟩, [⟨.trace, target, "native mutex created"⟩]⟩) ∨
    ∃ failure, (NativeLock.create codes).outcome = .error failure ∧
      Mutex.create codes =
        ⟨.error failure,
          [⟨.error, target, "native mutex creation failed: " ++ failure.message⟩]⟩ := by
  unfold Mutex.create ofCreation
  cases hout : (NativeLock.create codes).outcome with
  | ok lock =>
    obtain rfl := NativeLock.eq_free_of_create hout
    exact .inl ⟨rfl, rfl⟩
  | error failure => exact .inr ⟨failure, rfl, rfl⟩

/-- A creation balances its native calls, whatever codes they return. It makes the calls that set a
lock up until one of them fails, which it reports by name and with its code; if all return zero, and
only then, there is a lock, and it is free. The attribute object is destroyed once if it could be
initialised, after everything else, and otherwise not at all; the lock is not destroyed. So each
call finds the objects that it needs, and in the end there is no attribute object, and there is a
lock iff the creation says so. The codes of other calls than those that set the lock up change
nothing. The creation of a mutex leaves one record, that the mutex is there or one that ends in the
failure in words. -/
theorem creation_balances_its_calls (codes : NativeCall → Int32) :
    let creation := NativeLock.create codes
    (∀ before call rest, NativeLock.setUp = before ++ call :: rest →
      (∀ c ∈ before, codes c = 0) → codes call ≠ 0 →
        creation.outcome = .error (.posix call.name (codes call)) ∧
        creation.calls = before ++ [call] ++ NativeLock.cleanUp codes) ∧
    ((∀ call ∈ NativeLock.setUp, codes call = 0) →
      creation.calls = NativeLock.setUp ++ [.attributeDestroy]) ∧
    (∀ lock, creation.outcome = .ok lock ↔
      lock = .free ∧ ∀ call ∈ NativeLock.setUp, codes call = 0) ∧
    creation.calls.count .attributeDestroy = (if codes .attributeInit = 0 then 1 else 0) ∧
    .mutexDestroy ∉ creation.calls ∧
    Objects.through codes creation.calls {} =
      some { attributes := false, lock := creation.outcome.isOk } ∧
    (∀ codes', (∀ call ∈ NativeLock.setUp, codes call = codes' call) →
      creation = NativeLock.create codes') ∧
    ((creation.outcome = .ok .free ∧
      Mutex.create codes = ⟨.ok ⟨.free, 0⟩, [⟨.trace, Mutex.target, "native mutex created"⟩]⟩) ∨
    ∃ failure, creation.outcome = .error failure ∧
      Mutex.create codes =
        ⟨.error failure,
          [⟨.error, Mutex.target, "native mutex creation failed: " ++ failure.message⟩]⟩) := by
  intro creation
  refine ⟨?_, ?_, NativeLock.outcome_create_eq_ok_iff codes,
    NativeLock.count_attributeDestroy_create codes, NativeLock.destroy_notMem_create codes,
    NativeLock.through_create codes, fun codes' => NativeLock.create_congr,
    Mutex.create_ok_or_error codes⟩
  · intro before call rest hsetUp hbefore hcall
    have hfailure := NativeLock.setUpFailure?_append_cons codes hsetUp hbefore hcall
    refine ⟨(NativeLock.create_eq_error_iff codes _).2 ⟨call, _, hfailure, rfl⟩, ?_⟩
    change (NativeLock.create codes).calls = _
    rw [NativeLock.calls_create, hsetUp, upToFailure_append_cons hbefore hcall]
  · intro hzero
    change (NativeLock.create codes).calls = _
    rw [NativeLock.calls_create, upToFailure_eq_self hzero, NativeLock.cleanUp,
      if_pos (hzero .attributeInit (by decide))]

/-- The attribute object cannot be made recursive, and to destroy it fails as well. -/
def troubledCodes : NativeCall → Int32
  | .attributeSetType => 22
  | .attributeDestroy => 16
  | _ => 0

theorem creation_balances_troubledCodes :
    (NativeLock.create troubledCodes).outcome = .error (.posix "pthread_mutexattr_settype" 22) ∧
      (NativeLock.create troubledCodes).calls =
        [.attributeInit, .attributeSetType, .attributeDestroy] ∧
      (NativeLock.create Faults.none.code).calls =
        [.attributeInit, .attributeSetType, .mutexInit, .attributeDestroy] := by
  obtain ⟨hfails, -⟩ := creation_balances_its_calls troubledCodes
  obtain ⟨hout, hcalls⟩ :=
    hfails [.attributeInit] .attributeSetType [.mutexInit] rfl (by decide) (by decide)
  obtain ⟨-, hzero, -⟩ := creation_balances_its_calls Faults.none.code
  exact ⟨hout, hcalls, hzero (by decide)⟩

end Interop.Lock
