import Interop.Proofs.LockLevels

/-!
# Calls that fail

A call to create or to take a mutex fails if the operating system returns a code other than zero. The
answer says so, and nothing else comes of it: if such calls are left out of a run, whichever they are
and whatever else is going on, then every other turn is taken in the very state in which it was taken
before, and so has the same report.
-/

namespace Interop.Lock

/-! ### Codes other than zero -/

namespace NativeLock

/-- The code that a call to take the lock returns to a thread, or none if the call waits. -/
def returned? (lock : NativeLock) (t : Thread) (faults : Faults) (call : NativeCall) : Option Int32 :=
  match faults call, lock.attempt t with
  | some code, _ => some code
  | none, .busy => if call = .mutexLock then none else some busyCode
  | none, attempt => some attempt.code

end NativeLock

namespace Mutex

variable (m : Mutex) (t : Thread) (faults : Faults)

lemma acquire_eq_failed_iff (code : Int32) :
    m.acquire t faults = .failed code ↔
      m.native.returned? t faults .mutexLock = some code ∧ code ≠ 0 := by
  unfold acquire NativeLock.returned?
  cases faults .mutexLock with
  | some fault =>
    by_cases h : fault = 0
    · grind
    · simp only [if_neg h, Acquisition.failed.injEq, Option.some.injEq]
      exact ⟨fun heq => ⟨heq, heq ▸ h⟩, And.left⟩
  | none =>
    cases m.native.attempt t with
    | taken lock => grind [NativeLock.Attempt.code]
    | busy => simp
    | saturated =>
      have hcode : NativeLock.saturatedCode ≠ 0 := by decide
      simp only [Acquisition.failed.injEq, NativeLock.Attempt.code, Option.some.injEq]
      exact ⟨fun heq => ⟨heq, heq ▸ hcode⟩, And.left⟩

lemma tryAcquire_eq_none_iff :
    m.tryAcquire t faults = none ↔
      ∃ code, m.native.returned? t faults .mutexTryLock = some code ∧ code ≠ 0 := by
  unfold tryAcquire NativeLock.returned?
  cases faults .mutexTryLock with
  | some fault => by_cases h : fault = 0 <;> simp [h]
  | none =>
    cases m.native.attempt t <;>
      simp [NativeLock.Attempt.code, NativeLock.saturatedCode, NativeLock.busyCode]

end Mutex

namespace Supervisor

variable (s : Supervisor) (c : Conditions)

/-- The code other than zero that is returned to a thread that asks for a mutex, with the call. A
thread that is blocked makes no call. -/
def takeFailure? (m number : Nat) (call : NativeCall) : Option (NativeCall × Int32) :=
  match s.account? m with
  | none => none
  | some a =>
    if s.isBlocked (s.thread number) then none
    else
      match a.mutex.native.returned? (s.thread number) c.faults call with
      | none => none
      | some code => if code = 0 then none else some (call, code)

/-- The call in which the operating system returns a code other than zero to a step that creates or
takes a mutex, with the code. -/
def failure? : Step → Option (NativeCall × Int32)
  | .new m => if (s.account? m).isSome then none else NativeLock.setUpFailure? c.faults.code
  | .byThread m number (.acquire _) => s.takeFailure? c m number .mutexLock
  | .byThread m number (.tryAcquire _) => s.takeFailure? c m number .mutexTryLock
  | _ => none

lemma takeFailure?_eq_some_iff (m number : Nat) (call call' : NativeCall) (code : Int32) :
    s.takeFailure? c m number call = some (call', code) ↔
      call' = call ∧ code ≠ 0 ∧ ∃ a, s.account? m = some a ∧
        s.isBlocked (s.thread number) = false ∧
        a.mutex.native.returned? (s.thread number) c.faults call = some code := by
  unfold takeFailure?
  cases s.account? m with
  | none => simp
  | some a =>
    cases hb : s.isBlocked (s.thread number) with
    | true => simp
    | false =>
      cases hr : a.mutex.native.returned? (s.thread number) c.faults call with
      | none => simp [hr]
      | some code' =>
        by_cases h : code' = 0
        · simp only [hr, h]
          grind
        · simp only [hr, h]
          grind

/-- To put the account of a mutex in its own place changes nothing. -/
lemma update_account? (hk : (s.mutexes.map Prod.fst).Nodup) {m : Nat} {a : Account}
    (ha : s.account? m = some a) : s.update m a = s := by
  have hmutexes : (s.update m a).mutexes = s.mutexes := by
    refine (List.map_congr_left ?_).trans (List.map_id _)
    rintro ⟨n, b⟩ hmem
    by_cases hn : n = m
    · subst hn
      have hb := (mem_iff_lookup hk n b).1 hmem
      rw [Option.some.inj (ha.symm.trans hb)]
      simp
    · simp [hn]
  calc
    s.update m a = { s with mutexes := (s.update m a).mutexes } := rfl
    _ = s := by rw [hmutexes]

lemma update_summon (hk : (s.mutexes.map Prod.fst).Nodup) {m : Nat} {a : Account}
    (ha : s.account? m = some a) (number : Nat) :
    (s.summon number).update m a = s.summon number := by
  refine (s.summon number).update_account? ?_ ?_
  · rwa [s.mutexes_summon]
  · rwa [s.account?_summon]

end Supervisor

namespace Entry

/-- The native call of the turn that returned a code other than zero, if the turn is a call to create
or to take a mutex, with the code. -/
def failure? (e : Entry) : Option (NativeCall × Int32) :=
  e.before.failure? e.turn.conditions e.turn.step

/-- What a call that failed comes to: a failure or a text that names the native call and the code, or
the plain answer that the mutex was not taken. -/
inductive Fails (e : Entry) (call : NativeCall) (code : Int32) : Prop
  | new (m : Nat) (step : e.turn.step = .new m)
      (report : e.report =
        { after := e.before
          outcome := .ok (.failed (call.failure code))
          records := [Mutex.creationFailedRecord (call.failure code)]
          calls := (NativeLock.create e.turn.conditions.faults.code).calls })
  | acquire (m number : Nat) (hold : Hold) (step : e.turn.step = .byThread m number (.acquire hold))
      (report : e.report =
        Supervisor.reply (e.before.summon number) (.aborted (Mutex.abortText code)))
  | tryAcquire (m number : Nat) (hold : Hold)
      (step : e.turn.step = .byThread m number (.tryAcquire hold))
      (report : e.report = Supervisor.reply (e.before.summon number) (.tried false))

lemma report_byThread {s : Supervisor} {m number : Nat} {step : ThreadStep} {c : Conditions}
    {hc : c.Honest} {a : Account} {after : Supervisor} {answer : Reply} (ha : s.account? m = some a)
    (hb : s.isBlocked (s.thread number) = false)
    (h : (s.summon number).stepOf c m a (s.thread number) step = .ok (after, answer)) :
    report ⟨s, .byThread m number step, c, hc⟩ = Supervisor.reply after answer := by
  change s.runBy c m number step = _
  unfold Supervisor.runBy
  simp [ha, hb, h]

/-- A code other than zero makes the call fail. -/
theorem fails_of_failure? {e : Entry} (hv : e.before.Valid) {call : NativeCall} {code : Int32}
    (h : e.failure? = some (call, code)) : e.Fails call code := by
  obtain ⟨s, step, c, hc⟩ := e
  unfold failure? Supervisor.failure? at h
  dsimp only at h
  split at h
  · rename_i m
    split at h
    · cases h
    · rename_i hnone
      have hm : s.account? m = none := by simpa using hnone
      have hcreate := (NativeLock.create_eq_error_iff c.faults.code _).2 ⟨call, code, h, rfl⟩
      refine .new m rfl ?_
      change s.create c m = _
      unfold Supervisor.create Mutex.ofCreation
      simp [hm, hcreate]
  · rename_i m number hold
    obtain ⟨rfl, hcode, a, ha, hb, hreturned⟩ := (s.takeFailure?_eq_some_iff c _ _ _ _ _).1 h
    have hfailed := (a.mutex.acquire_eq_failed_iff (s.thread number) c.faults code).2
      ⟨hreturned, hcode⟩
    refine .acquire m number hold rfl (report_byThread ha hb ?_)
    simp [Supervisor.stepOf, Account.acquire, hfailed]
  · rename_i m number hold
    obtain ⟨rfl, hcode, a, ha, hb, hreturned⟩ := (s.takeFailure?_eq_some_iff c _ _ _ _ _).1 h
    have hnone := (a.mutex.tryAcquire_eq_none_iff (s.thread number) c.faults).2
      ⟨code, hreturned, hcode⟩
    refine .tryAcquire m number hold rfl (report_byThread ha hb ?_)
    simp [Supervisor.stepOf, Account.tryAcquire, hnone, s.update_summon hv.keys ha]
  · cases h

end Entry

/-! ### Only these calls fail -/

def Reply.saysFailed : Reply → Bool
  | .failed _ | .aborted _ | .tried false => true
  | _ => false

lemma failed_of_saysFailed {s after : Supervisor} {c : Conditions} {m : Nat} {a : Account}
    {t : Thread} {step : ThreadStep} {answer : Reply}
    (h : s.stepOf c m a t step = .ok (after, answer)) (hf : answer.saysFailed = true) :
    (∃ hold code, step = .acquire hold ∧ a.mutex.acquire t c.faults = .failed code) ∨
      ∃ hold, step = .tryAcquire hold ∧ a.mutex.tryAcquire t c.faults = none := by
  cases step with
  | acquire hold =>
    refine .inl ⟨hold, ?_⟩
    cases hm : a.mutex.acquire t c.faults with
    | failed code => exact ⟨code, rfl, rfl⟩
    | taken mutex =>
      simp only [Supervisor.stepOf, Account.acquire, hm, Except.ok.injEq, Prod.mk.injEq] at h
      obtain ⟨-, rfl⟩ := h
      cases hf
    | waits =>
      simp only [Supervisor.stepOf, Account.acquire, hm] at h
      split at h
      · simp only [Except.ok.injEq, Prod.mk.injEq] at h
        obtain ⟨-, rfl⟩ := h
        cases hf
      · cases h
  | tryAcquire hold =>
    refine .inr ⟨hold, rfl, ?_⟩
    cases hm : a.mutex.tryAcquire t c.faults with
    | none => rfl
    | some mutex =>
      simp only [Supervisor.stepOf, Account.tryAcquire, hm, Except.ok.injEq, Prod.mk.injEq] at h
      obtain ⟨-, rfl⟩ := h
      cases hf
  | release _ | forget | inspectGuard =>
    rw [Supervisor.stepOf] at h
    split at h
    · simp only [Except.ok.injEq, Prod.mk.injEq] at h
      obtain ⟨-, rfl⟩ := h
      cases hf
    · cases h

lemma saysFailed_onMutex {s : Supervisor} {c : Conditions} {m : Nat} {a : Account} {step : MutexStep}
    {answer : Reply} (h : (s.runOn c m a step).outcome = .ok answer) : answer.saysFailed = false := by
  cases step with
  | handOver | probe | inspect =>
    cases h
    rfl
  | stress _ _ | move | drop =>
    unfold Supervisor.runOn at h
    dsimp only at h
    split at h <;> cases h
    rfl

namespace Entry

lemma Fails.saysFailed {e : Entry} {call : NativeCall} {code : Int32} (h : e.Fails call code) :
    ∃ answer, e.report.outcome = .ok answer ∧ answer.saysFailed = true := by
  cases h with
  | new m _ report => exact ⟨_, by rw [report], rfl⟩
  | acquire m number hold _ report => exact ⟨_, by rw [report]; rfl, rfl⟩
  | tryAcquire m number hold _ report => exact ⟨_, by rw [report]; rfl, rfl⟩

section

variable {s : Supervisor} {c : Conditions} {m : Nat} {answer : Reply}

lemma exists_failure?_of_create (hout : (s.create c m).outcome = .ok answer)
    (hf : answer.saysFailed = true) : ∃ failure, s.failure? c (.new m) = some failure := by
  unfold Supervisor.create at hout
  split at hout
  · cases hout
  · rename_i hm
    cases hcreate : (NativeLock.create c.faults.code).outcome with
    | ok lock =>
      simp only [Mutex.ofCreation, hcreate, Except.ok.injEq] at hout
      rw [← hout] at hf
      cases hf
    | error f =>
      obtain ⟨call, code, hfirst, -⟩ := (NativeLock.create_eq_error_iff _ _).1 hcreate
      refine ⟨(call, code), ?_⟩
      simp [Supervisor.failure?, hm, hfirst]

lemma exists_failure?_of_runBy {number : Nat} {step : ThreadStep}
    (hout : (s.runBy c m number step).outcome = .ok answer) (hf : answer.saysFailed = true) :
    ∃ failure, s.failure? c (.byThread m number step) = some failure := by
  rcases runBy_cases s c m number step with
    ⟨after, r, hrep, -⟩ | ⟨a, after, answer', ha, hb, hstep, hrep⟩
  · rw [hrep] at hout
    cases hout
  · rw [hrep] at hout
    obtain rfl := Except.ok.inj hout
    rcases failed_of_saysFailed hstep hf with ⟨hold, code, rfl, hfailed⟩ | ⟨hold, rfl, hnone⟩
    · obtain ⟨hreturned, hcode⟩ := (a.mutex.acquire_eq_failed_iff _ _ _).1 hfailed
      exact ⟨(.mutexLock, code), (s.takeFailure?_eq_some_iff c _ _ _ _ _).2
        ⟨rfl, hcode, a, ha, hb, hreturned⟩⟩
    · obtain ⟨code, hreturned, hcode⟩ := (a.mutex.tryAcquire_eq_none_iff _ _).1 hnone
      exact ⟨(.mutexTryLock, code), (s.takeFailure?_eq_some_iff c _ _ _ _ _).2
        ⟨rfl, hcode, a, ha, hb, hreturned⟩⟩

end

/-- A call says that it failed iff a native call returned a code other than zero. -/
theorem failure?_isSome_iff {e : Entry} (hv : e.before.Valid) :
    e.failure?.isSome = true ↔
      ∃ answer, e.report.outcome = .ok answer ∧ answer.saysFailed = true := by
  constructor
  · intro h
    obtain ⟨⟨call, code⟩, hfailure⟩ := Option.isSome_iff_exists.1 h
    exact (fails_of_failure? hv hfailure).saysFailed
  · rintro ⟨answer, hout, hf⟩
    obtain ⟨s, step, c, hc⟩ := e
    rw [Option.isSome_iff_exists]
    cases step with
    | new m => exact exists_failure?_of_create hout hf
    | byThread m number step => exact exists_failure?_of_runBy hout hf
    | onMutex m step =>
      change (s.runUnder c (.onMutex m step)).outcome = .ok answer at hout
      cases ha : s.account? m with
      | none =>
        rw [runUnder_onMutex_of_none ha] at hout
        cases hout
      | some a =>
        rw [runUnder_onMutex ha] at hout
        rw [saysFailed_onMutex hout] at hf
        cases hf
    | exit number =>
      change (s.exit c number).outcome = .ok answer at hout
      rcases exit_cases s c number with ⟨r, hrep⟩ | ⟨-, hrep⟩
      · rw [hrep] at hout
        cases hout
      · rw [hrep] at hout
        obtain rfl := Except.ok.inj hout
        cases hf

end Entry

/-! ### Runs with calls left out -/

/-- What is left of a run when some of its calls are left out: a turn, or only that a thread has come
to life, which it did in order to make a call. -/
inductive Event
  | turn (turn : Turn)
  | start (number : Nat)

def stateThrough : List Event → Supervisor
  | [] => {}
  | .turn turn :: earlier => Entry.after ⟨stateThrough earlier, turn⟩
  | .start number :: earlier => (stateThrough earlier).summon number

/-- The turns that are left of a run with the states in which they are taken, most recent first. -/
def historyThrough : List Event → List Entry
  | [] => []
  | .turn turn :: earlier => ⟨stateThrough earlier, turn⟩ :: historyThrough earlier
  | .start _ :: earlier => historyThrough earlier

/-- What is left of a turn without its call. -/
def Step.withoutCall : Step → List Event
  | .byThread _ number _ => [.start number]
  | _ => []

/-- Leaves calls that failed out of a run, all of them or only some. -/
def erase (which : Entry → Bool) : List Turn → List Event
  | [] => []
  | turn :: earlier =>
    let e : Entry := ⟨stateAfter earlier, turn⟩
    if e.failure?.isSome && which e then turn.step.withoutCall ++ erase which earlier
    else .turn turn :: erase which earlier

/-- A call that failed brings its thread to life and does nothing else. -/
lemma Entry.Fails.through_withoutCall {e : Entry} {call : NativeCall} {code : Int32}
    (h : e.Fails call code) {events : List Event} (hs : stateThrough events = e.before) :
    stateThrough (e.turn.step.withoutCall ++ events) = e.after ∧
      historyThrough (e.turn.step.withoutCall ++ events) = historyThrough events := by
  cases h with
  | new m step report =>
    rw [step, after, report]
    exact ⟨hs, rfl⟩
  | acquire m number hold step report =>
    rw [step, after, report, ← hs]
    exact ⟨rfl, rfl⟩
  | tryAcquire m number hold step report =>
    rw [step, after, report, ← hs]
    exact ⟨rfl, rfl⟩

/-- Without calls that failed, a run leads to the same state, and the turns that are left are taken in
the same states. -/
theorem through_erase (which : Entry → Bool) (run : List Turn) :
    stateThrough (erase which run) = stateAfter run ∧
      historyThrough (erase which run) =
        (history run).filter fun e => !(e.failure?.isSome && which e) := by
  induction run with
  | nil => exact ⟨rfl, rfl⟩
  | cons turn earlier ih =>
    obtain ⟨hstate, hhistory⟩ := ih
    simp only [erase, history, List.filter_cons]
    cases h : (Entry.failure? ⟨stateAfter earlier, turn⟩).isSome && which ⟨stateAfter earlier, turn⟩
    · have hentry : historyThrough (.turn turn :: erase which earlier) =
          ⟨stateAfter earlier, turn⟩ :: historyThrough (erase which earlier) := by
        rw [historyThrough, hstate]
      exact ⟨congrArg (fun s => Entry.after ⟨s, turn⟩) hstate,
        hentry.trans (congrArg (List.cons _) hhistory)⟩
    · obtain ⟨⟨call, code⟩, hfailure⟩ := Option.isSome_iff_exists.1 (Bool.and_eq_true_iff.1 h).1
      have hfails := Entry.fails_of_failure? (valid_stateAfter earlier) hfailure
      obtain ⟨hs, hh⟩ := hfails.through_withoutCall hstate
      exact ⟨hs, hh.trans hhistory⟩

lemma ne_zero_of_failure? {s : Supervisor} {c : Conditions} {step : Step} {call : NativeCall}
    {code : Int32} (h : s.failure? c step = some (call, code)) : code ≠ 0 := by
  unfold Supervisor.failure? at h
  split at h
  · split at h
    · cases h
    · exact NativeLock.ne_zero_of_setUpFailure? h
  · exact ((s.takeFailure?_eq_some_iff c _ _ _ _ _).1 h).2.1
  · exact ((s.takeFailure?_eq_some_iff c _ _ _ _ _).1 h).2.1
  · cases h

/-- Over every run: if calls that failed are left out, all of them or any choice of them, the state at
the end is the same, with its owners, levels, guards and counts of holds, and every turn that is left
is taken in the same state as before, so that its answer, its records and its native calls, as when a
mutex is dropped, are the same too. In the next turn of the run, a call to create or to take a mutex
says that it failed iff the operating system returned a code other than zero. It changes no mutex and
adds none; a creation names the native call and the code, a blocking call stops with a text that does,
and one that does not block says that it has not taken the mutex. -/
theorem failed_calls_leave_no_trace (run : List Turn) :
    (∀ which : Entry → Bool,
      stateThrough (erase which run) = stateAfter run ∧
      historyThrough (erase which run) =
        (history run).filter fun e => !(e.failure?.isSome && which e)) ∧
    ∀ turn : Turn,
      let e : Entry := ⟨stateAfter run, turn⟩
      (e.failure?.isSome = true ↔
        ∃ answer, e.report.outcome = .ok answer ∧ answer.saysFailed = true) ∧
      ∀ call code, e.failure? = some (call, code) →
        code ≠ 0 ∧ e.after.mutexes = e.before.mutexes ∧
        (∀ m, turn.step = .new m → e.report.outcome = .ok (.failed (.posix call.name code))) ∧
        (∀ m number hold, turn.step = .byThread m number (.acquire hold) →
          e.report.outcome =
            .ok (.aborted ("pthread_mutex_lock" ++ s!" failed (errno {code.toInt})"))) ∧
        (∀ m number hold, turn.step = .byThread m number (.tryAcquire hold) →
          e.report.outcome = .ok (.tried false)) := by
  refine ⟨fun which => through_erase which run, ?_⟩
  intro turn e
  have hv : e.before.Valid := valid_stateAfter run
  refine ⟨Entry.failure?_isSome_iff hv, ?_⟩
  intro call code h
  refine ⟨ne_zero_of_failure? h, ?_⟩
  have hturn : e.turn.step = turn.step := rfl
  cases Entry.fails_of_failure? hv h with
  | new m step report =>
    rw [← hturn, step, Entry.after, report]
    exact ⟨rfl, fun _ _ => rfl, fun _ _ _ h => Step.noConfusion h, fun _ _ _ h => Step.noConfusion h⟩
  | acquire m number hold step report =>
    rw [← hturn, step, Entry.after, report]
    refine ⟨e.before.mutexes_summon number, fun _ h => Step.noConfusion h, fun _ _ _ _ => rfl, ?_⟩
    intro _ _ _ h
    cases h
  | tryAcquire m number hold step report =>
    rw [← hturn, step, Entry.after, report]
    refine ⟨e.before.mutexes_summon number, fun _ h => Step.noConfusion h, ?_, fun _ _ _ _ => rfl⟩
    intro _ _ _ h
    cases h

lemma Faults.only_ne_some_zero {code : Int32} (h : code ≠ 0) (call other : NativeCall) :
    Faults.only call code other ≠ some 0 := by
  unfold Faults.only
  split <;> simp [h]

def Turn.failing (step : Step) (call : NativeCall) (code : Int32) (h : code ≠ 0) : Turn where
  step := step
  conditions := ⟨Faults.only call code, Supervisor.firstCome, true⟩
  honest := ⟨Faults.only_ne_some_zero h call _, Faults.only_ne_some_zero h call _,
    fun _ _ h => List.mem_of_head? h⟩

/-- A thread holds a mutex. A call that another one makes fails natively, its next finds the mutex
busy, and a second mutex cannot be set up. -/
def troubledRun : List Turn :=
  [.failing (.new 1) .mutexInit 12 (by decide), .plain (.byThread 0 2 (.tryAcquire .guard)),
    .failing (.byThread 0 2 (.acquire .raw)) .mutexLock 35 (by decide),
    .plain (.byThread 0 1 (.acquire .guard)), .plain (.new 0)]

theorem failed_calls_in_troubledRun :
    let e : Entry :=
      ⟨stateAfter troubledRun, .failing (.byThread 0 1 (.acquire .guard)) .mutexLock 11 (by decide)⟩
    e.failure? = some (.mutexLock, 11) ∧
      e.report.outcome = .ok (.aborted "pthread_mutex_lock failed (errno 11)") ∧
      historyThrough (erase (fun _ => true) troubledRun) = (history troubledRun).drop 3 := by
  intro e
  have hfailure : e.failure? = some (.mutexLock, 11) := by rfl
  obtain ⟨-, -, -, hacquire, -⟩ :=
    ((failed_calls_leave_no_trace troubledRun).2 _).2 _ _ hfailure
  have herased := ((failed_calls_leave_no_trace troubledRun).1 fun _ => true).2
  exact ⟨hfailure, hacquire 0 1 .guard rfl, herased.trans (by rfl)⟩

end Interop.Lock
