import Interop.Proofs.LockAccounts
import Interop.Proofs.LockDeeds

/-!
# Turns of the supervisor

A turn is a step under conditions that the system is free to choose, such as which native calls fail
and which blocked call goes next. This file says once what a turn can do to the account of a mutex,
in terms of deeds that are read off the step and its answer, and what it can do to the set of
mutexes, with its records and native calls.
-/

namespace Interop.Lock

/-- What the system is bound to: a native call that reports success has done its work, and a free
mutex goes to a call that waits. -/
structure Conditions.Honest (c : Conditions) : Prop where
  lock : c.faults .mutexLock ≠ some 0
  tryLock : c.faults .mutexTryLock ≠ some 0
  chosen : ∀ ws w, c.choose ws = some w → w ∈ ws

/-- A step and the conditions under which it is taken. -/
structure Turn where
  step : Step
  conditions : Conditions
  honest : conditions.Honest

/-- A turn in the state in which it is taken. -/
structure Entry where
  before : Supervisor
  turn : Turn

namespace Entry

def report (e : Entry) : Report := e.before.runUnder e.turn.conditions e.turn.step

def after (e : Entry) : Supervisor := e.report.after

end Entry

/-! ### The deeds of a turn -/

/-- What a step of the thread `t` did to the mutex, by the answer it got. -/
def ThreadStep.deeds (a : Account) (t : Thread) : ThreadStep → Reply → List Deed
  | .acquire hold, .acquired => [.take t hold]
  | .acquire hold, .blocked => [.wait ⟨t, hold⟩]
  | .tryAcquire hold, .tried true => [.take t hold]
  | .release hold, .released woke => .giveBack t hold :: a.completions woke
  | .forget, .forgotten => [.forget t]
  | _, _ => []

/-- What a step did to the mutex `m`, by the answer it got. A thread that ends drops its guards. -/
def Step.deeds (s : Supervisor) (m : Nat) (a : Account) : Step → Reply → List Deed
  | .byThread n number step, reply => if n = m then step.deeds a (s.thread number) reply else []
  | .onMutex n .handOver, .released woke => if n = m then a.completions woke else []
  | .exit number, .exited woke =>
    List.replicate (a.guards.count (s.thread number)) (.giveBack (s.thread number) .guard) ++
      a.completions woke
  | _, _ => []

namespace Entry

def deeds (e : Entry) (m : Nat) : List Deed :=
  match e.before.account? m, e.report.outcome with
  | some a, .ok reply => e.turn.step.deeds e.before m a reply
  | _, _ => []

def creates (e : Entry) (m : Nat) : Bool :=
  match e.turn.step, e.report.outcome with
  | .new n, .ok .created => n = m
  | _, _ => false

def drops (e : Entry) (m : Nat) : Bool :=
  match e.turn.step, e.report.outcome with
  | .onMutex n .drop, .ok .dropped => n = m
  | _, _ => false

end Entry

/-! ### What a turn can do -/

/-- A state in which the account `a` of the mutex `m` has performed deeds, and all else stayed. -/
def Account.PerformsIn (a : Account) (s : Supervisor) (m : Nat) (ds : List Deed)
    (after : Supervisor) : Prop :=
  ∃ b, a.Performs ds b ∧ (after = s.update m b ∨ after = s ∧ b = a)

lemma of_ite_eq_ok {α : Type} {p : Prop} [Decidable p] {x y : α} {refusal : Refusal}
    (h : (if p then .ok x else .error refusal : Except Refusal α) = .ok y) : p ∧ x = y := by
  split at h
  · exact ⟨‹p›, Except.ok.inj h⟩
  · cases h

section

variable {s after : Supervisor} {c : Conditions} {m : Nat} {a : Account} {t : Thread} {hold : Hold}
  {reply : Reply}

lemma stepOf_acquire (hc : c.Honest)
    (h : s.stepOf c m a t (.acquire hold) = .ok (after, reply)) :
    a.PerformsIn s m (ThreadStep.deeds a t (.acquire hold) reply) after := by
  rw [Supervisor.stepOf] at h
  cases hq : a.acquire t hold c.faults with
  | mk b call =>
    rw [hq] at h
    cases call with
    | completed =>
      obtain ⟨rfl, rfl⟩ := Prod.mk.inj (Except.ok.inj h)
      exact ⟨b, Account.acquire_performs hc.lock hq, .inl rfl⟩
    | waits =>
      obtain ⟨-, heq⟩ := of_ite_eq_ok h
      obtain ⟨rfl, rfl⟩ := Prod.mk.inj heq
      exact ⟨b, Account.acquire_waits hq, .inl rfl⟩
    | aborted code =>
      obtain ⟨rfl, rfl⟩ := Prod.mk.inj (Except.ok.inj h)
      exact ⟨a, .nil a, .inr ⟨rfl, rfl⟩⟩

lemma stepOf_tryAcquire (hc : c.Honest)
    (h : s.stepOf c m a t (.tryAcquire hold) = .ok (after, reply)) :
    a.PerformsIn s m (ThreadStep.deeds a t (.tryAcquire hold) reply) after := by
  rw [Supervisor.stepOf] at h
  cases hq : a.tryAcquire t hold c.faults with
  | mk b success =>
    rw [hq] at h
    obtain ⟨rfl, rfl⟩ := Prod.mk.inj (Except.ok.inj h)
    cases success with
    | true => exact ⟨b, Account.tryAcquire_performs hc.tryLock hq, .inl rfl⟩
    | false =>
      have hb := Account.eq_of_tryAcquire_false hq
      exact ⟨b, hb ▸ .nil b, .inl rfl⟩

lemma stepOf_release (hc : c.Honest) (hn : (a.waiting.map Waiter.thread).Nodup)
    (h : s.stepOf c m a t (.release hold) = .ok (after, reply)) :
    a.PerformsIn s m (ThreadStep.deeds a t (.release hold) reply) after := by
  rw [Supervisor.stepOf] at h
  obtain ⟨hmem, heq⟩ := of_ite_eq_ok h
  obtain ⟨rfl, rfl⟩ := Prod.mk.inj heq
  have hwaiting := Account.waiting_giveBack a t hold
  have hover := Account.handOver_performs (a := a.giveBack t hold) hc.chosen (hwaiting ▸ hn)
  refine ⟨_, .cons (List.contains_iff_mem.1 hmem) ?_, .inl rfl⟩
  rwa [Account.completions_congr (b := a.giveBack t hold) hwaiting.symm fun _ _ => Iff.rfl]

lemma stepOf_forget (h : s.stepOf c m a t .forget = .ok (after, reply)) :
    a.PerformsIn s m (ThreadStep.deeds a t .forget reply) after := by
  rw [Supervisor.stepOf] at h
  obtain ⟨hmem, heq⟩ := of_ite_eq_ok h
  obtain ⟨rfl, rfl⟩ := Prod.mk.inj heq
  exact ⟨_, .single (List.contains_iff_mem.1 hmem), .inl rfl⟩

lemma stepOf_inspectGuard (h : s.stepOf c m a t .inspectGuard = .ok (after, reply)) :
    a.PerformsIn s m (ThreadStep.deeds a t .inspectGuard reply) after := by
  rw [Supervisor.stepOf] at h
  obtain ⟨-, heq⟩ := of_ite_eq_ok h
  obtain ⟨rfl, rfl⟩ := Prod.mk.inj heq
  exact ⟨a, .nil a, .inr ⟨rfl, rfl⟩⟩

/-- What a step of a thread that is not refused does: the account of its mutex performs the deeds,
and all else stays. -/
lemma stepOf_performs (hc : c.Honest) {step : ThreadStep} (hn : (a.waiting.map Waiter.thread).Nodup)
    (h : s.stepOf c m a t step = .ok (after, reply)) :
    a.PerformsIn s m (step.deeds a t reply) after := by
  cases step with
  | acquire hold => exact stepOf_acquire hc h
  | tryAcquire hold => exact stepOf_tryAcquire hc h
  | release hold => exact stepOf_release hc hn h
  | forget => exact stepOf_forget h
  | inspectGuard => exact stepOf_inspectGuard h

end

/-- Whether the thread is one of those that went by its number so far. -/
def Supervisor.HasLived (s : Supervisor) (t : Thread) : Prop := t.life ≤ s.ended.count t.number

/-- What every state of a run satisfies: mutexes have distinct numbers, a thread is blocked in one
call at most, and only threads that have lived have or want holds. -/
structure Supervisor.Valid (s : Supervisor) : Prop where
  keys : (s.mutexes.map Prod.fst).Nodup
  once : ∀ m, (s.waitingOn m).Nodup
  apart : ∀ m n t, t ∈ s.waitingOn m → t ∈ s.waitingOn n → m = n
  lived : ∀ m a t, s.account? m = some a → a.Involves t → s.HasLived t

lemma Supervisor.Valid.waiting {s : Supervisor} (hv : s.Valid) {m : Nat} {a : Account}
    (ha : s.account? m = some a) : (a.waiting.map Waiter.thread).Nodup := by
  simpa [waitingOn, ha] using hv.once m

namespace Entry

/-- What a turn can make of the account of a mutex. -/
inductive Alters (e : Entry) (m : Nat) : Option Account → Option Account → Prop
  | absent : e.Alters m none none
  | created (h : e.creates m = true) : e.Alters m none (some (Account.fresh ⟨.free, 0⟩))
  | dropped (a : Account) (h : e.drops m = true) : e.Alters m (some a) none
  | performed {a b : Account} (h : a.Performs (e.deeds m) b) : e.Alters m (some a) (some b)

variable {e : Entry}

lemma deeds_of_error (r : Refusal) (h : e.report.outcome = .error r) (m : Nat) :
    e.deeds m = [] := by
  unfold deeds
  rw [h]
  cases e.before.account? m <;> rfl

lemma Alters.idle {m : Nat} (hd : e.deeds m = [])
    (ha : e.after.account? m = e.before.account? m) :
    e.Alters m (e.before.account? m) (e.after.account? m) := by
  rw [ha]
  cases e.before.account? m with
  | none => exact .absent
  | some a => exact .performed (hd ▸ .nil a)

lemma Alters.update {n : Nat} {a b : Account} (ha : e.before.account? n = some a)
    (hp : a.Performs (e.deeds n) b) (hd : ∀ m, m ≠ n → e.deeds m = [])
    (hafter : ∀ m, e.after.account? m = (e.before.account? m).map fun old => if m = n then b else old)
    (m : Nat) : e.Alters m (e.before.account? m) (e.after.account? m) := by
  by_cases hm : m = n
  · subst hm
    rw [hafter, ha, Option.map_some, if_pos rfl]
    exact .performed hp
  · refine .idle (hd m hm) ?_
    rw [hafter]
    simp [hm]

lemma deeds_byThread {s after : Supervisor} {n number : Nat} {step : ThreadStep} {c : Conditions}
    (hc : c.Honest) {a : Account} {answer : Reply} (ha : s.account? n = some a)
    (h : s.runBy c n number step = Supervisor.reply after answer) (m : Nat) :
    deeds ⟨s, .byThread n number step, c, hc⟩ m =
      if m = n then step.deeds a (s.thread number) answer else [] := by
  have hrep : report ⟨s, .byThread n number step, c, hc⟩ = Supervisor.reply after answer := h
  unfold deeds
  rw [hrep]
  by_cases hm : m = n
  · subst hm
    simp [ha, Supervisor.reply, Step.deeds]
  · have hm' : ¬n = m := fun h => hm h.symm
    cases s.account? m <;> simp [Supervisor.reply, Step.deeds, hm, hm']

lemma alters_byThread {s : Supervisor} {n number : Nat} {step : ThreadStep} {c : Conditions}
    {hc : c.Honest} (hv : s.Valid) (m : Nat) :
    let e : Entry := ⟨s, .byThread n number step, c, hc⟩
    e.Alters m (s.account? m) (e.after.account? m) := by
  intro e
  rcases runBy_cases s c n number step with
    ⟨after, r, hrep, hmut, -⟩ | ⟨a, after, answer, ha, -, hstep, hrep⟩
  · have hrep' : e.report = Supervisor.refuse after r := hrep
    refine .idle (deeds_of_error r (by rw [hrep']; rfl) m) ?_
    change e.report.after.account? m = s.account? m
    rw [hrep']
    exact congrArg (List.lookup m) hmut
  · have hrep' : e.report = Supervisor.reply after answer := hrep
    obtain ⟨b, hp, hafter⟩ := stepOf_performs hc (hv.waiting ha) hstep
    have hdeeds := deeds_byThread hc ha hrep
    refine Alters.update (b := b) ha ?_ ?_ ?_ m
    · rw [hdeeds, if_pos rfl]
      exact hp
    · intro k hk
      rw [hdeeds, if_neg hk]
    · intro k
      change (e.report.after).account? k = _
      rw [hrep']
      change after.account? k = (s.account? k).map _
      rcases hafter with rfl | ⟨rfl, rfl⟩
      · rw [Supervisor.account?_update, Supervisor.account?_summon]
      · rw [Supervisor.account?_summon]
        by_cases hk : k = n
        · simp [hk, ha]
        · simp [hk]

lemma alters_new {s : Supervisor} {n : Nat} {c : Conditions} {hc : c.Honest} (m : Nat) :
    let e : Entry := ⟨s, .new n, c, hc⟩
    e.Alters m (s.account? m) (e.after.account? m) := by
  intro e
  have hd : ∀ k, e.deeds k = [] := by
    intro k
    unfold deeds
    split <;> rfl
  rcases create_cases s c n with ⟨r, hrep⟩ | ⟨f, hrep⟩ | ⟨hnone, hrep⟩
  · refine .idle (hd m) ?_
    exact congrArg (fun r => r.after.account? m) hrep
  · refine .idle (hd m) ?_
    exact congrArg (fun r => r.after.account? m) hrep
  · have hafter : e.after.account? m =
        if m = n then some (Account.fresh ⟨.free, 0⟩) else s.account? m :=
      (congrArg (fun r => r.after.account? m) hrep).trans (Supervisor.lookup_insert hnone m _)
    have hrep' : e.report = _ := hrep
    by_cases hm : m = n
    · subst hm
      rw [hafter, if_pos rfl, hnone]
      apply Alters.created
      unfold creates
      rw [hrep']
      simp [e]
    · refine .idle (hd m) ?_
      rw [hafter, if_neg hm]

lemma deeds_onMutex (s : Supervisor) (n : Nat) {step : MutexStep} {c : Conditions} (hc : c.Honest)
    (h : step ≠ .handOver) (m : Nat) : deeds ⟨s, .onMutex n step, c, hc⟩ m = [] := by
  unfold deeds
  split
  · cases step <;> first | rfl | exact absurd rfl h
  · rfl

lemma after_runOn {s : Supervisor} {c : Conditions} {n : Nat} {a : Account} {step : MutexStep}
    (h : step ≠ .handOver) (hd : step ≠ .drop) : (s.runOn c n a step).after = s := by
  cases step with
  | handOver => exact absurd rfl h
  | drop => exact absurd rfl hd
  | probe => rfl
  | inspect => rfl
  | stress threads iterations =>
    unfold Supervisor.runOn
    dsimp only
    split <;> rfl
  | move =>
    unfold Supervisor.runOn
    dsimp only
    split <;> rfl

lemma deeds_handOver {s : Supervisor} {n : Nat} {c : Conditions} (hc : c.Honest) {a : Account}
    (ha : s.account? n = some a) (m : Nat) :
    deeds ⟨s, .onMutex n .handOver, c, hc⟩ m =
      if m = n then a.completions (a.handOver c.choose).2 else [] := by
  have hout : (report ⟨s, .onMutex n .handOver, c, hc⟩).outcome =
      .ok (.released (a.handOver c.choose).2) :=
    congrArg Report.outcome (runUnder_onMutex ha c .handOver)
  unfold deeds
  rw [hout]
  by_cases hm : m = n
  · subst hm
    simp [ha, Step.deeds]
  · have hm' : ¬n = m := fun h => hm h.symm
    cases s.account? m <;> simp [Step.deeds, hm, hm']

lemma alters_onMutex {s : Supervisor} {n : Nat} {step : MutexStep} {c : Conditions} {hc : c.Honest}
    (hv : s.Valid) (m : Nat) :
    let e : Entry := ⟨s, .onMutex n step, c, hc⟩
    e.Alters m (s.account? m) (e.after.account? m) := by
  intro e
  cases ha : s.account? n with
  | none =>
    have hrep : e.report = Supervisor.refuse s .noSuchMutex := runUnder_onMutex_of_none ha c step
    refine .idle (deeds_of_error .noSuchMutex (by rw [hrep]; rfl) m) ?_
    exact congrArg (fun r => r.after.account? m) hrep
  | some a =>
    have hrep : e.report = s.runOn c n a step := runUnder_onMutex ha c step
    by_cases hh : step = .handOver
    · subst hh
      have hdeeds := deeds_handOver hc ha
      refine Alters.update (b := (a.handOver c.choose).1) ha ?_ ?_ ?_ m
      · rw [hdeeds, if_pos rfl]
        exact Account.handOver_performs hc.chosen (hv.waiting ha)
      · intro k hk
        rw [hdeeds, if_neg hk]
      · intro k
        change e.report.after.account? k = _
        rw [hrep]
        exact Supervisor.account?_update s n _ k
    · have hd := deeds_onMutex s n hc hh m
      by_cases hdrop : step = .drop
      · subst hdrop
        rcases drop_cases s c n a with ⟨-, hdrop⟩ | ⟨-, hdrop⟩
        · exact .idle hd (congrArg (fun r => r.after.account? m) (hrep.trans hdrop))
        · have hgone := hrep.trans hdrop
          have hafter : e.after.account? m = if m = n then none else s.account? m :=
            (congrArg (fun r => r.after.account? m) hgone).trans (Supervisor.account?_remove s n m)
          by_cases hm : m = n
          · subst hm
            rw [hafter, if_pos rfl, ha]
            apply Alters.dropped
            unfold drops
            rw [hgone]
            simp [e]
          · refine .idle hd ?_
            rw [hafter, if_neg hm]
      · refine .idle hd ?_
        change e.report.after.account? m = s.account? m
        rw [hrep, after_runOn hh hdrop]

/-- The answer to the end of a thread lists those woken on all mutexes. A thread waits for one mutex
only, so those with a call blocked on this one were woken on this one. -/
lemma completions_exit {s : Supervisor} {c : Conditions} (hc : c.Honest) (hv : s.Valid) {m : Nat}
    {a : Account} (ha : s.account? m = some a) (t : Thread) :
    a.completions (s.mutexes.flatMap fun p => (p.2.sweep c.choose t).2) =
      a.completions (a.sweep c.choose t).2 := by
  refine Account.completions_congr rfl fun w hw => ?_
  have hwm : w.thread ∈ s.waitingOn m := (s.mem_waitingOn_iff m _).2 ⟨a, ha, w, hw, rfl⟩
  simp only [List.mem_flatMap, Prod.exists]
  constructor
  · rintro ⟨n, b, hb, hwb⟩
    rw [Supervisor.mem_iff_lookup hv.keys] at hb
    have hwn : w.thread ∈ s.waitingOn n := by
      obtain ⟨v, hv, hvt⟩ := List.mem_map.1 (Account.mem_sweep hc.chosen hwb)
      exact (s.mem_waitingOn_iff n _).2 ⟨b, hb, v, hv, hvt⟩
    obtain rfl := hv.apart m n _ hwm hwn
    obtain rfl := Option.some.inj (ha.symm.trans hb)
    exact hwb
  · exact fun hwa => ⟨m, a, (Supervisor.mem_iff_lookup hv.keys m a).2 ha, hwa⟩

lemma deeds_exit {s after : Supervisor} {number : Nat} {c : Conditions} (hc : c.Honest)
    (hv : s.Valid) {m : Nat} {a : Account} (ha : s.account? m = some a)
    (h : s.exit c number = Supervisor.reply after
      (.exited (s.mutexes.flatMap fun (_, a) => (a.sweep c.choose (s.thread number)).2))) :
    deeds ⟨s, .exit number, c, hc⟩ m =
      List.replicate (a.guards.count (s.thread number)) (.giveBack (s.thread number) .guard) ++
        a.completions (a.sweep c.choose (s.thread number)).2 := by
  have hrep : report ⟨s, .exit number, c, hc⟩ = _ := h
  unfold deeds
  rw [hrep, ← completions_exit hc hv ha]
  simp only [ha, Supervisor.reply, Step.deeds]

lemma alters_exit {s : Supervisor} {number : Nat} {c : Conditions} {hc : c.Honest} (hv : s.Valid)
    (m : Nat) :
    let e : Entry := ⟨s, .exit number, c, hc⟩
    e.Alters m (s.account? m) (e.after.account? m) := by
  intro e
  let t := s.thread number
  let sweep := fun a : Account => a.sweep c.choose t
  rcases exit_cases s c number with ⟨r, hrep⟩ | ⟨-, hrep⟩
  · have hrep' : e.report = Supervisor.refuse s r := hrep
    refine .idle (deeds_of_error r (by rw [hrep']; rfl) m) ?_
    exact congrArg (fun r => r.after.account? m) hrep
  · have hafter : e.after.account? m = (s.account? m).map fun a => (sweep a).1 :=
      (congrArg (fun r => r.after.account? m) hrep).trans
        (Supervisor.lookup_map (fun _ a => (sweep a).1) s.mutexes m)
    rw [hafter]
    cases ha : s.account? m with
    | none => exact .absent
    | some a =>
      apply Alters.performed
      rw [deeds_exit hc hv ha hrep]
      exact Account.sweep_performs hc.chosen (hv.waiting ha) t

/-- The account of a mutex changes by the deeds of the turn, unless the turn creates or drops it. -/
theorem alters (e : Entry) (hv : e.before.Valid) (m : Nat) :
    e.Alters m (e.before.account? m) (e.after.account? m) := by
  obtain ⟨s, step, c, hc⟩ := e
  cases step with
  | new n => exact alters_new m
  | onMutex n step => exact alters_onMutex hv m
  | byThread n number step => exact alters_byThread hv m
  | exit number => exact alters_exit hv m

end Entry

/-! ### Mutexes that come and go -/

namespace Entry

variable {e : Entry}

/-- What a turn can do to the set of mutexes, with the records and the native calls that it takes. -/
inductive Treats (e : Entry) : Prop
  | keeps (records : e.report.records = []) (calls : e.report.calls = [])
      (keys : e.after.mutexes.map Prod.fst = e.before.mutexes.map Prod.fst)
      (ended : e.before.ended.Sublist e.after.ended)
  | fails (m : Nat) (f : Failure) (step : e.turn.step = .new m)
      (report : e.report =
        { after := e.before
          outcome := .ok (.failed f)
          records := [Mutex.creationFailedRecord f]
          calls := (NativeLock.create e.turn.conditions.faults.code).calls })
  | creates (m : Nat) (step : e.turn.step = .new m) (absent : e.before.account? m = none)
      (report : e.report =
        { after := { e.before with
            mutexes := Supervisor.insert m (Account.fresh ⟨.free, 0⟩) e.before.mutexes }
          outcome := .ok .created
          records := [Mutex.createdRecord]
          calls := (NativeLock.create e.turn.conditions.faults.code).calls })
  | drops (m : Nat) (a : Account) (step : e.turn.step = .onMutex m .drop)
      (account : e.before.account? m = some a) (unborrowed : a.isBorrowed = false)
      (report : e.report =
        { after := e.before.remove m
          outcome := .ok .dropped
          records := (a.mutex.drop e.turn.conditions.faults.code).records
          calls := (a.mutex.drop e.turn.conditions.faults.code).calls })

lemma Treats.refused {s : Supervisor} {r : Refusal} (h : e.report = Supervisor.refuse s r)
    (hk : s.mutexes = e.before.mutexes) (he : s.ended = e.before.ended) : e.Treats := by
  refine .keeps ?_ ?_ ?_ ?_
  · rw [h]
    rfl
  · rw [h]
    rfl
  · rw [after, h, ← hk]
    rfl
  · rw [after, h, ← he]
    exact List.Sublist.refl _

lemma Treats.replied {s : Supervisor} {r : Reply} (h : e.report = Supervisor.reply s r)
    (hk : s.mutexes.map Prod.fst = e.before.mutexes.map Prod.fst)
    (he : e.before.ended.Sublist s.ended) : e.Treats := by
  refine .keeps ?_ ?_ ?_ ?_
  · rw [h]
    rfl
  · rw [h]
    rfl
  · rw [after, h, ← hk]
    rfl
  · rw [after, h]
    exact he

lemma treats_onMutex {s : Supervisor} {n : Nat} {step : MutexStep} {c : Conditions} {hc : c.Honest} :
    (⟨s, .onMutex n step, c, hc⟩ : Entry).Treats := by
  cases ha : s.account? n with
  | none => exact .refused (runUnder_onMutex_of_none ha c step) rfl rfl
  | some a =>
    have hrep : report ⟨s, .onMutex n step, c, hc⟩ = s.runOn c n a step :=
      runUnder_onMutex ha c step
    cases step with
    | handOver => exact .replied hrep (s.keys_update n _) (List.Sublist.refl _)
    | probe => exact .replied hrep rfl (List.Sublist.refl _)
    | inspect => exact .replied hrep rfl (List.Sublist.refl _)
    | stress threads iterations =>
      by_cases hheld : a.mutex.native.owner?.isSome = true
      · exact .refused (hrep.trans (if_pos hheld)) rfl rfl
      · exact .replied (hrep.trans (if_neg hheld)) rfl (List.Sublist.refl _)
    | move =>
      by_cases hb : a.isBorrowed = true
      · exact .refused (hrep.trans (if_pos hb)) rfl rfl
      · exact .replied (hrep.trans (if_neg hb)) rfl (List.Sublist.refl _)
    | drop =>
      rcases drop_cases s c n a with ⟨-, hdrop⟩ | ⟨hb, hdrop⟩
      · exact .refused (hrep.trans hdrop) rfl rfl
      · exact .drops n a rfl ha hb (hrep.trans hdrop)

/-- A turn creates a mutex, fails to, drops one, or keeps the set of mutexes as it is. -/
theorem treats (e : Entry) (hv : e.before.Valid) : e.Treats := by
  obtain ⟨s, step, c, hc⟩ := e
  cases step with
  | new n =>
    rcases create_cases s c n with ⟨r, hrep⟩ | ⟨f, hrep⟩ | ⟨hnone, hrep⟩
    · exact .refused hrep rfl rfl
    · exact .fails n f rfl hrep
    · exact .creates n rfl hnone hrep
  | onMutex n step => exact treats_onMutex
  | byThread n number step =>
    rcases runBy_cases s c n number step with
      ⟨after, r, hrep, hmut, hended⟩ | ⟨a, after, answer, ha, -, hstep, hrep⟩
    · exact .refused hrep hmut hended
    · have hk := congrArg (List.map Prod.fst) (s.mutexes_summon number)
      have he : s.ended.Sublist (s.summon number).ended := by rw [s.ended_summon number]
      obtain ⟨b, -, rfl | ⟨rfl, -⟩⟩ := stepOf_performs hc (hv.waiting ha) hstep
      · exact .replied hrep (((s.summon number).keys_update n b).trans hk) he
      · exact .replied hrep hk he
  | exit number =>
    rcases exit_cases s c number with ⟨r, hrep⟩ | ⟨-, hrep⟩
    · exact .refused hrep rfl rfl
    · refine .replied hrep ?_ (List.sublist_cons_self _ _)
      rw [List.map_map]
      rfl

end Entry

lemma Entry.report_exit {e : Entry} {number : Nat} (h : e.turn.step = .exit number) :
    e.report = e.before.exit e.turn.conditions number := by
  unfold report
  rw [h]
  rfl

lemma Entry.step_of_creates {e : Entry} {m : Nat} (h : e.creates m = true) :
    e.turn.step = .new m := by
  unfold creates at h
  split at h
  · rename_i n hstep _
    obtain rfl : n = m := by simpa using h
    exact hstep
  · cases h

lemma Entry.step_of_drops {e : Entry} {m : Nat} (h : e.drops m = true) :
    e.turn.step = .onMutex m .drop := by
  unfold drops at h
  split at h
  · rename_i n hstep _
    obtain rfl : n = m := by simpa using h
    exact hstep
  · cases h

lemma Entry.account?_of_creates {e : Entry} {m : Nat} (h : e.creates m = true) :
    e.before.account? m = none := by
  obtain ⟨s, step, c, hc⟩ := e
  unfold creates at h
  split at h
  · rename_i n hstep hout
    obtain rfl : n = m := by simpa using h
    change step = _ at hstep
    subst hstep
    change (s.create c n).outcome = _ at hout
    rcases create_cases s c n with ⟨r, hrep⟩ | ⟨f, hrep⟩ | ⟨hnone, -⟩
    · rw [hrep] at hout
      cases hout
    · rw [hrep] at hout
      cases hout
    · exact hnone
  · cases h

lemma Entry.account?_of_drops {e : Entry} {m : Nat} (h : e.drops m = true) :
    e.after.account? m = none := by
  obtain ⟨s, step, c, hc⟩ := e
  unfold drops at h
  split at h
  · rename_i n hstep hout
    obtain rfl : n = m := by simpa using h
    change step = _ at hstep
    subst hstep
    change (s.runUnder c (.onMutex n .drop)).outcome = _ at hout
    change (s.runUnder c (.onMutex n .drop)).after.account? n = none
    cases ha : s.account? n with
    | none =>
      rw [runUnder_onMutex_of_none ha] at hout
      cases hout
    | some a =>
      rw [runUnder_onMutex ha] at hout ⊢
      rcases drop_cases s c n a with ⟨-, hrep⟩ | ⟨-, hrep⟩
      · rw [hrep] at hout
        cases hout
      · rw [hrep]
        exact (s.account?_remove n n).trans (if_pos rfl)
  · cases h

lemma Entry.unborrowed_of_drops {e : Entry} {m : Nat} {a : Account} (h : e.drops m = true)
    (ha : e.before.account? m = some a) : a.isBorrowed = false := by
  obtain ⟨s, step, c, hc⟩ := e
  unfold drops at h
  split at h
  · rename_i n hstep hout
    obtain rfl : n = m := by simpa using h
    change step = _ at hstep
    subst hstep
    change (s.runUnder c (.onMutex n .drop)).outcome = _ at hout
    rw [runUnder_onMutex ha] at hout
    rcases drop_cases s c n a with ⟨-, hrep⟩ | ⟨hb, -⟩
    · rw [hrep] at hout
      cases hout
    · exact hb
  · cases h

end Interop.Lock
