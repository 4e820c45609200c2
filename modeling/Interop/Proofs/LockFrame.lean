import Interop.Proofs.LockTurns

/-!
# What a step depends on

A step names one mutex, and what comes of it depends on the account of that mutex and on which
threads have ended, and on nothing else, as long as the thread whose step it is has no blocked call.
It changes no other account, and brings no other thread to life. The end of a thread names no mutex
and is about all of them, but what it does to one depends on that one alone.
-/

namespace Interop.Lock

/-- The mutex that a step names. The end of a thread names none. -/
def Step.mutex? : Step → Option Nat
  | .new m | .onMutex m _ | .byThread m _ _ => some m
  | .exit _ => none

def Supervisor.stepper? (s : Supervisor) : Step → Option Thread
  | .byThread _ number _ | .exit number => some (s.thread number)
  | .new _ | .onMutex _ _ => none

lemma Supervisor.thread_congr {s s' : Supervisor} (he : s'.ended = s.ended) (number : Nat) :
    s'.thread number = s.thread number := by
  rw [thread, thread, he]

lemma Supervisor.stepper?_congr {s s' : Supervisor} (he : s'.ended = s.ended) (step : Step) :
    s'.stepper? step = s.stepper? step := by
  cases step with
  | byThread _ number _ | exit number => exact congrArg some (thread_congr he number)
  | new _ | onMutex _ _ => rfl

/-! ### What a step depends on -/

/-- A step of a thread does the same to the account of its mutex whatever else there is. -/
lemma stepOf_cases (c : Conditions) (m : Nat) (a : Account) (t : Thread) (step : ThreadStep) :
    (∃ r ∈ [Refusal.hasWaiter, .notHeld], ∀ s : Supervisor, s.stepOf c m a t step = .error r) ∨
    (∃ b answer, ∀ s : Supervisor, s.stepOf c m a t step = .ok (s.update m b, answer)) ∨
    ∃ answer, ∀ s : Supervisor, s.stepOf c m a t step = .ok (s, answer) := by
  cases step with
  | acquire hold =>
    cases h : a.acquire t hold c.faults with
    | mk b call =>
      cases call with
      | completed => exact .inr (.inl ⟨b, .acquired, fun s => by rw [Supervisor.stepOf, h]⟩)
      | waits =>
        by_cases hq : (a.waiting.isEmpty || c.queues) = true
        · exact .inr (.inl ⟨b, .blocked, fun s => by simp only [Supervisor.stepOf, h, if_pos hq]⟩)
        · refine .inl ⟨.hasWaiter, by simp, fun s => ?_⟩
          simp only [Supervisor.stepOf, h, if_neg hq]
      | aborted code =>
        exact .inr (.inr ⟨.aborted (Mutex.abortText code), fun s => by rw [Supervisor.stepOf, h]⟩)
  | tryAcquire hold => exact .inr (.inl ⟨_, _, fun s => rfl⟩)
  | release hold =>
    by_cases hmem : (a.holders hold).contains t
    · exact .inr (.inl ⟨_, _, fun s => by rw [Supervisor.stepOf, if_pos hmem]⟩)
    · exact .inl ⟨.notHeld, by simp, fun s => by rw [Supervisor.stepOf, if_neg hmem]⟩
  | forget =>
    by_cases hmem : a.guards.contains t
    · exact .inr (.inl ⟨_, _, fun s => by rw [Supervisor.stepOf, if_pos hmem]⟩)
    · exact .inl ⟨.notHeld, by simp, fun s => by rw [Supervisor.stepOf, if_neg hmem]⟩
  | inspectGuard =>
    by_cases hmem : a.guards.contains t
    · exact .inr (.inr ⟨_, fun s => by rw [Supervisor.stepOf, if_pos hmem]⟩)
    · exact .inl ⟨.notHeld, by simp, fun s => by rw [Supervisor.stepOf, if_neg hmem]⟩

/-- Two reports that say the same, and agree on what has become of a mutex. -/
structure Report.SameOn (m : Nat) (r r' : Report) : Prop where
  outcome : r.outcome = r'.outcome
  records : r.records = r'.records
  calls : r.calls = r'.calls
  account : r.after.account? m = r'.after.account? m

section Congruence

variable {s s' : Supervisor} {m : Nat} (c : Conditions)

lemma create_sameOn (ha : s.account? m = s'.account? m) :
    (s.create c m).SameOn m (s'.create c m) := by
  unfold Supervisor.create
  rw [← ha]
  cases hm : s.account? m with
  | some a => exact ⟨rfl, rfl, rfl, ha⟩
  | none =>
    have hm' : s'.account? m = none := ha.symm.trans hm
    dsimp only
    cases (Mutex.ofCreation (NativeLock.create c.faults.code)).value with
    | error f => exact ⟨rfl, rfl, rfl, ha⟩
    | ok mutex =>
      refine ⟨rfl, rfl, rfl, ?_⟩
      have hs := Supervisor.lookup_insert hm m (Account.fresh mutex)
      have hs' := Supervisor.lookup_insert hm' m (Account.fresh mutex)
      rw [if_pos rfl] at hs hs'
      exact hs.trans hs'.symm

lemma runOn_sameOn (ha : s.account? m = s'.account? m) (he : s.ended = s'.ended) (a : Account)
    (step : MutexStep) : (s.runOn c m a step).SameOn m (s'.runOn c m a step) := by
  cases step with
  | handOver =>
    refine ⟨rfl, rfl, rfl, ?_⟩
    change (s.update m _).account? m = (s'.update m _).account? m
    rw [Supervisor.account?_update, Supervisor.account?_update, ha]
  | probe =>
    refine ⟨?_, rfl, rfl, ha⟩
    change Except.ok (Reply.probed (a.mutex.isOpenTo (s.newcomer 0))) = _
    rw [Supervisor.newcomer, he]
    rfl
  | inspect => exact ⟨rfl, rfl, rfl, ha⟩
  | stress _ _ | move =>
    unfold Supervisor.runOn
    dsimp only
    split <;> exact ⟨rfl, rfl, rfl, ha⟩
  | drop =>
    unfold Supervisor.runOn
    dsimp only
    split
    · exact ⟨rfl, rfl, rfl, ha⟩
    · refine ⟨rfl, rfl, rfl, ?_⟩
      change (s.remove m).account? m = (s'.remove m).account? m
      rw [Supervisor.account?_remove, Supervisor.account?_remove, if_pos rfl, if_pos rfl]

lemma runBy_sameOn (ha : s.account? m = s'.account? m) (he : s.ended = s'.ended) (number : Nat)
    (step : ThreadStep) (hs : (s.runBy c m number step).outcome ≠ .error .threadBlocked)
    (hb : s'.isBlocked (s.thread number) = true → s.isBlocked (s.thread number) = true) :
    (s'.runBy c m number step).SameOn m (s.runBy c m number step) := by
  have hthread := Supervisor.thread_congr he.symm number
  have hsummon : (s'.summon number).account? m = (s.summon number).account? m := by
    rw [Supervisor.account?_summon, Supervisor.account?_summon, ha]
  unfold Supervisor.runBy at hs ⊢
  rw [← ha, hthread]
  cases hm : s.account? m with
  | none => exact ⟨rfl, rfl, rfl, ha.symm⟩
  | some a =>
    have hfree : ¬s.isBlocked (s.thread number) = true := by
      intro hblocked
      rw [hm] at hs
      simp only [if_pos hblocked] at hs
      exact hs rfl
    simp only [if_neg hfree, if_neg fun h => hfree (hb h)]
    rcases stepOf_cases c m a (s.thread number) step with
      ⟨r, -, h⟩ | ⟨b, answer, h⟩ | ⟨answer, h⟩
    · simp only [h]
      exact ⟨rfl, rfl, rfl, hsummon⟩
    · simp only [h]
      refine ⟨rfl, rfl, rfl, ?_⟩
      change ((s'.summon number).update m b).account? m = ((s.summon number).update m b).account? m
      rw [Supervisor.account?_update, Supervisor.account?_update, hsummon]
    · simp only [h]
      exact ⟨rfl, rfl, rfl, hsummon⟩

/-- What comes of a step depends on the account of the mutex that it names and on the threads that
have ended. -/
theorem runUnder_sameOn {step : Step} (hstep : step.mutex? = some m)
    (ha : s.account? m = s'.account? m) (he : s.ended = s'.ended)
    (hs : (s.runUnder c step).outcome ≠ .error .threadBlocked)
    (hb : ∀ t ∈ s.stepper? step, s'.isBlocked t = true → s.isBlocked t = true) :
    (s'.runUnder c step).SameOn m (s.runUnder c step) := by
  cases step with
  | new n =>
    obtain rfl := Option.some.inj hstep
    exact create_sameOn c ha.symm
  | onMutex n step =>
    obtain rfl := Option.some.inj hstep
    cases hm : s.account? n with
    | none =>
      rw [runUnder_onMutex_of_none hm, runUnder_onMutex_of_none (ha.symm.trans hm)]
      exact ⟨rfl, rfl, rfl, ha.symm⟩
    | some a =>
      rw [runUnder_onMutex hm, runUnder_onMutex (ha.symm.trans hm)]
      exact runOn_sameOn c ha.symm he.symm a step
  | byThread n number step =>
    obtain rfl := Option.some.inj hstep
    exact runBy_sameOn c ha he number step hs (hb _ rfl)
  | exit number => cases hstep

end Congruence

/-! ### What a step leaves alone -/

namespace Supervisor

variable (s : Supervisor) (number : Option Nat)

/-- The thread that goes by a number comes to life if need be, if there is a number. -/
def summon? : Option Nat → Supervisor
  | some number => s.summon number
  | none => s

@[simp] lemma account?_summon? (m : Nat) : (s.summon? number).account? m = s.account? m := by
  cases number with
  | some number => exact s.account?_summon number m
  | none => rfl

@[simp] lemma ended_summon? : (s.summon? number).ended = s.ended := by
  cases number with
  | some number => exact s.ended_summon number
  | none => rfl

lemma mem_alive_summon? (k : Nat) : k ∈ (s.summon? number).alive ↔ k ∈ s.alive ∨ k ∈ number := by
  cases number with
  | some number =>
    simp only [summon?, summon]
    by_cases h : s.alive.contains number = true
    · rw [if_pos h]
      refine ⟨.inl, ?_⟩
      rintro (hk | hk)
      · exact hk
      · exact Option.mem_some_iff.1 hk ▸ List.contains_iff_mem.1 h
    · rw [if_neg h]
      simp [or_comm, eq_comm]
  | none => simp [summon?]

variable {s} {s' : Supervisor}

lemma alive_summon?_congr (h : s'.alive = s.alive) :
    (s'.summon? number).alive = (s.summon? number).alive := by
  cases number with
  | some number =>
    simp only [summon?, summon, h]
    split
    · exact h
    · rfl
  | none => exact h

end Supervisor

/-- The number of the thread that a step brings to life if need be, by the answer that it got. -/
def Step.starts? : Step → Except Refusal Reply → Option Nat
  | .byThread _ _ _, .error .noSuchMutex => none
  | .byThread _ _ _, .error .threadBlocked => none
  | .byThread _ number _, _ => some number
  | _, _ => none

namespace Entry

variable {e : Entry} {m : Nat}

def starts? (e : Entry) : Option Nat := e.turn.step.starts? e.report.outcome

/-- A step that names a mutex ends no thread and brings one to life at most. -/
lemma threads_after (hstep : e.turn.step.mutex? = some m) :
    e.after.ended = e.before.ended ∧
      e.after.alive = (e.before.summon? e.starts?).alive := by
  obtain ⟨s, step, c, hc⟩ := e
  unfold after starts? report
  cases step with
  | new n =>
    change (s.create c n).after.ended = s.ended ∧ (s.create c n).after.alive = s.alive
    rcases create_cases s c n with ⟨r, hrep⟩ | ⟨f, hrep⟩ | ⟨-, hrep⟩
    · rw [hrep]
      exact ⟨rfl, rfl⟩
    · rw [hrep]
      exact ⟨rfl, rfl⟩
    · rw [hrep]
      exact ⟨rfl, rfl⟩
  | onMutex n step =>
    change (s.runUnder c (.onMutex n step)).after.ended = s.ended ∧
      (s.runUnder c (.onMutex n step)).after.alive = s.alive
    cases ha : s.account? n with
    | none =>
      rw [runUnder_onMutex_of_none ha]
      exact ⟨rfl, rfl⟩
    | some a =>
      rw [runUnder_onMutex ha]
      unfold Supervisor.runOn
      cases step with
      | handOver | probe | inspect => exact ⟨rfl, rfl⟩
      | stress _ _ | move | drop =>
        dsimp only
        split <;> exact ⟨rfl, rfl⟩
  | byThread n number step =>
    change (s.runBy c n number step).after.ended = s.ended ∧
      (s.runBy c n number step).after.alive =
        (s.summon? ((Step.byThread n number step).starts? (s.runBy c n number step).outcome)).alive
    unfold Supervisor.runBy
    cases s.account? n with
    | none => exact ⟨rfl, rfl⟩
    | some a =>
      by_cases hb : s.isBlocked (s.thread number) = true
      · simp only [if_pos hb]
        exact ⟨rfl, rfl⟩
      · simp only [if_neg hb]
        rcases stepOf_cases c n a (s.thread number) step with
          ⟨r, hr, h⟩ | ⟨b, answer, h⟩ | ⟨answer, h⟩
        · simp only [h]
          simp only [List.mem_cons, List.not_mem_nil, or_false] at hr
          rcases hr with rfl | rfl <;> exact ⟨s.ended_summon number, rfl⟩
        · simp only [h]
          exact ⟨s.ended_summon number, rfl⟩
        · simp only [h]
          exact ⟨s.ended_summon number, rfl⟩
  | exit number => cases hstep

lemma mem_alive_after (hstep : e.turn.step.mutex? = some m) (k : Nat) :
    k ∈ e.after.alive ↔ k ∈ e.before.alive ∨ k ∈ e.starts? := by
  rw [(threads_after hstep).2, Supervisor.mem_alive_summon?]

lemma deeds_of_ne (hstep : e.turn.step.mutex? = some m) {k : Nat} (hk : k ≠ m) : e.deeds k = [] := by
  have hm : ¬m = k := fun h => hk h.symm
  unfold deeds
  split
  · cases hs : e.turn.step with
    | new n => rfl
    | onMutex n step =>
      rw [hs] at hstep
      obtain rfl := Option.some.inj hstep
      unfold Step.deeds
      split <;> simp_all
    | byThread n number step =>
      rw [hs] at hstep
      obtain rfl := Option.some.inj hstep
      exact if_neg hm
    | exit number =>
      rw [hs] at hstep
      cases hstep
  · rfl

lemma Alters.eq_of_idle {before after : Option Account} (h : e.Alters m before after)
    (hdeeds : e.deeds m = []) (hcreates : e.creates m = false) (hdrops : e.drops m = false) :
    after = before := by
  cases h with
  | absent => rfl
  | created h =>
    rw [hcreates] at h
    cases h
  | dropped a h =>
    rw [hdrops] at h
    cases h
  | performed h =>
    rw [hdeeds] at h
    cases h
    rfl

/-- A step changes no other account than that of the mutex that it names. -/
theorem account?_of_ne (hv : e.before.Valid) (hstep : e.turn.step.mutex? = some m) {k : Nat}
    (hk : k ≠ m) : e.after.account? k = e.before.account? k := by
  refine (e.alters hv k).eq_of_idle (e.deeds_of_ne hstep hk) ?_ ?_
  · by_contra hcreates
    rw [step_of_creates (by simpa using hcreates)] at hstep
    exact hk (Option.some.inj hstep)
  · by_contra hdrops
    rw [step_of_drops (by simpa using hdrops)] at hstep
    exact hk (Option.some.inj hstep)

/-- A step that is refused changes no account. -/
theorem account?_of_error (hv : e.before.Valid) {r : Refusal} (h : e.report.outcome = .error r)
    (k : Nat) : e.after.account? k = e.before.account? k := by
  refine (e.alters hv k).eq_of_idle (e.deeds_of_error r h k) ?_ ?_
  · unfold creates
    rw [h]
    cases e.turn.step <;> rfl
  · unfold drops
    rw [h]
    split <;> trivial

end Entry

/-! ### Turns that agree on a mutex -/

/-- The same turn in two states, in which it finds the mutex `m` in the same condition, does the
same to it and leaves it in the same condition. If it names the mutex its report is the same too. -/
structure Entry.SameOn (m : Nat) (e' e : Entry) : Prop where
  turn : e'.turn = e.turn
  before : e'.before.account? m = e.before.account? m
  deeds : e'.deeds m = e.deeds m
  after : e'.after.account? m = e.after.account? m
  report : e.turn.step.mutex? = some m → e'.report.SameOn m e.report

/-- A turn that names a mutex does the same in every state that agrees on this mutex and on the
threads that have ended, if its thread is not blocked. -/
theorem Entry.sameOn_of_mutex {e : Entry} {m : Nat} (hstep : e.turn.step.mutex? = some m)
    (hs : e.report.outcome ≠ .error .threadBlocked) {s' : Supervisor}
    (ha : s'.account? m = e.before.account? m) (he : s'.ended = e.before.ended)
    (hb : ∀ t ∈ e.before.stepper? e.turn.step, s'.isBlocked t = true → e.before.isBlocked t = true) :
    SameOn m ⟨s', e.turn⟩ e := by
  have hreport := runUnder_sameOn e.turn.conditions hstep ha.symm he.symm hs hb
  refine ⟨rfl, ha, ?_, hreport.account, fun _ => hreport⟩
  unfold Entry.deeds Entry.report
  rw [ha, hreport.outcome]
  split
  · unfold Step.deeds
    simp only [Supervisor.thread_congr he]
  · rfl

lemma Entry.SameOn.starts? {e' e : Entry} (h : e'.SameOn m e) (hstep : e.turn.step.mutex? = some m) :
    e'.starts? = e.starts? := by
  unfold Entry.starts?
  rw [h.turn, (h.report hstep).outcome]

/-! ### Ends of threads -/

lemma Step.exists_exit {step : Step} (h : step.mutex? = none) : ∃ number, step = .exit number := by
  cases step with
  | exit number => exact ⟨number, rfl⟩
  | new _ | onMutex _ _ | byThread _ _ _ => cases h

lemma Entry.after_of_exit_error {e : Entry} {number : Nat} (hexit : e.turn.step = .exit number)
    {r : Refusal} (h : e.report.outcome = .error r) : e.after = e.before := by
  rw [after]
  rw [report_exit hexit] at h ⊢
  rcases exit_cases e.before e.turn.conditions number with ⟨r, hrep⟩ | ⟨-, hrep⟩
  · rw [hrep]
    rfl
  · rw [hrep] at h
    cases h

lemma Entry.deeds_of_none {e : Entry} {m : Nat} (h : e.before.account? m = none) :
    e.deeds m = [] := by
  unfold deeds
  rw [h]

/-- What is left when the thread that goes by a number ends. -/
def Supervisor.without (s : Supervisor) (c : Conditions) (number : Nat) : Supervisor where
  mutexes := s.mutexes.map fun (n, a) => (n, (a.sweep c.choose (s.thread number)).1)
  alive := s.alive.erase number
  ended := number :: s.ended

/-- The threads whose blocked calls complete when the thread that goes by a number ends. -/
def Supervisor.wokenBy (s : Supervisor) (c : Conditions) (number : Nat) : List Thread :=
  s.mutexes.flatMap fun (_, a) => (a.sweep c.choose (s.thread number)).2

lemma Supervisor.account?_without (s : Supervisor) (c : Conditions) (number m : Nat) :
    (s.without c number).account? m =
      (s.account? m).map fun a => (a.sweep c.choose (s.thread number)).1 :=
  lookup_map (fun _ a => (a.sweep c.choose (s.thread number)).1) s.mutexes m

section Exits

variable {s s' : Supervisor} {c : Conditions} {number : Nat}

lemma exit_eq (halive : s.alive.contains number = true)
    (hfree : s.isBlocked (s.thread number) = false) :
    s.exit c number =
      Supervisor.reply (s.without c number) (.exited (s.wokenBy c number)) := by
  unfold Supervisor.exit
  rw [if_pos halive, if_neg (by simp [hfree])]
  rfl

/-- A thread that is not blocked ends in both of two states in which the same threads are there, or
in none. -/
lemma exit_together (halive : s'.alive = s.alive) (he : s'.ended = s.ended)
    (hs : (s.exit c number).outcome ≠ .error .threadBlocked)
    (hb : s'.isBlocked (s.thread number) = true → s.isBlocked (s.thread number) = true) :
    (s.exit c number = Supervisor.refuse s .noSuchThread ∧
      s'.exit c number = Supervisor.refuse s' .noSuchThread) ∨
    (s.exit c number = Supervisor.reply (s.without c number) (.exited (s.wokenBy c number)) ∧
      s'.exit c number =
        Supervisor.reply (s'.without c number) (.exited (s'.wokenBy c number))) := by
  have hthread := Supervisor.thread_congr he number
  by_cases hnumber : s.alive.contains number = true
  · have hfree : ¬s.isBlocked (s.thread number) = true := by
      intro hblocked
      refine hs ?_
      unfold Supervisor.exit
      rw [if_pos hnumber, if_pos hblocked]
      rfl
    have hfree' : ¬s'.isBlocked (s'.thread number) = true := fun h => hfree (hb (hthread ▸ h))
    exact .inr ⟨exit_eq hnumber (by simpa using hfree),
      exit_eq (halive ▸ hnumber) (by simpa using hfree')⟩
  · exact .inl ⟨if_neg hnumber, if_neg (halive ▸ hnumber)⟩

end Exits

/-- A turn in which a thread ends does the same to a mutex in every state that agrees on it and has
the same threads, if the thread is not blocked. -/
theorem Entry.sameOn_of_exit {e : Entry} (hv : e.before.Valid) {m number : Nat}
    (hstep : e.turn.step = .exit number) (hs : e.report.outcome ≠ .error .threadBlocked)
    {s' : Supervisor} (hv' : s'.Valid) (ha : s'.account? m = e.before.account? m)
    (hlive : s'.alive = e.before.alive) (he : s'.ended = e.before.ended)
    (hb : ∀ t ∈ e.before.stepper? e.turn.step, s'.isBlocked t = true → e.before.isBlocked t = true) :
    SameOn m ⟨s', e.turn⟩ e := by
  obtain ⟨s, step, c, hc⟩ := e
  obtain rfl : step = _ := hstep
  have hthread : s'.thread number = s.thread number := Supervisor.thread_congr he number
  have hafter (t : Supervisor) : (Entry.after ⟨t, .exit number, c, hc⟩) = (t.exit c number).after :=
    rfl
  rcases exit_together hlive he hs (hb _ rfl) with ⟨hrep, hrep'⟩ | ⟨hrep, hrep'⟩
  · refine ⟨rfl, ha, ?_, ?_, nofun⟩
    · have hnone := Entry.deeds_of_error (e := ⟨s, .exit number, c, hc⟩) .noSuchThread
        (congrArg Report.outcome hrep) m
      have hnone' := Entry.deeds_of_error (e := ⟨s', .exit number, c, hc⟩) .noSuchThread
        (congrArg Report.outcome hrep') m
      exact hnone'.trans hnone.symm
    · rw [hafter, hafter, hrep, hrep']
      exact ha
  · refine ⟨rfl, ha, ?_, ?_, nofun⟩
    · cases hm : s.account? m with
      | none => exact (Entry.deeds_of_none (ha.trans hm)).trans (Entry.deeds_of_none hm).symm
      | some a =>
        rw [Entry.deeds_exit hc hv hm hrep, Entry.deeds_exit hc hv' (ha.trans hm) hrep', hthread]
    · rw [hafter, hafter, hrep, hrep']
      change (s'.without c number).account? m = (s.without c number).account? m
      rw [Supervisor.account?_without, Supervisor.account?_without, hthread]
      exact congrArg _ ha

end Interop.Lock
