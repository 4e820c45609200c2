import Interop.Proofs.LockAbandonment

/-!
# Calls that do not wait

A call that does not wait is told at once whether it took the mutex. It is refused when another thread
has the mutex, and also when its own thread has it at as many levels as the native lock can count. In
both cases nothing about any mutex is changed.
-/

namespace Interop.Lock

namespace NativeLock

lemma attempt_eq_busy_iff (lock : NativeLock) (t : Thread) :
    lock.attempt t = .busy ↔ ∃ u, u ≠ t ∧ 0 < lock.levelOf u := by
  cases lock with
  | free => simp [attempt]
  | held owner n =>
    by_cases ho : owner = t
    · subst ho
      by_cases hn : n + 1 < maxLevel <;> simp [attempt, hn, eq_comm]
    · simp only [attempt, ho, if_false, levelOf_held, true_iff]
      exact ⟨owner, ho, by simp⟩

end NativeLock

namespace Mutex

variable {m m' : Mutex} {t : Thread} {faults : Faults}

/-- A call that does not wait is refused when another thread has a level of the native lock, or its own
thread has them all. -/
lemma tryAcquire_eq_none_iff_levelOf (hworks : faults .mutexTryLock = none)
    (hle : m.native.level ≤ NativeLock.maxLevel) :
    m.tryAcquire t faults = none ↔
      (∃ u, u ≠ t ∧ 0 < m.native.levelOf u) ∨ m.native.levelOf t = NativeLock.maxLevel := by
  unfold tryAcquire
  rw [hworks]
  cases hlock : m.native.attempt t with
  | taken lock =>
    obtain ⟨hown, hlt, -⟩ := (NativeLock.attempt_eq_taken_iff _ _ _).1 hlock
    simp only [reduceCtorEq, false_iff, not_or]
    refine ⟨?_, ?_⟩
    · rintro ⟨u, hne, hpos⟩
      exact hne (hown u ((NativeLock.levelOf_pos_iff _ _).1 hpos))
    · have hlevel := m.native.levelOf_le_level t
      omega
  | busy => exact iff_of_true rfl (.inl ((NativeLock.attempt_eq_busy_iff _ _).1 hlock))
  | saturated =>
    obtain ⟨hown, hge⟩ := (NativeLock.attempt_eq_saturated_iff _ _).1 hlock
    refine iff_of_true rfl (.inr ?_)
    rw [NativeLock.levelOf_eq_level hown]
    exact Nat.le_antisymm hle hge

lemma eq_of_tryAcquire_some (hf : faults .mutexTryLock ≠ some 0)
    (h : m.tryAcquire t faults = some m') : m' = ⟨.held t m.native.level, m.holds + 1⟩ := by
  obtain ⟨lock, hlock, rfl⟩ := attempt_of_tryAcquire_some hf h
  obtain ⟨-, -, rfl⟩ := (NativeLock.attempt_eq_taken_iff _ _ _).1 hlock
  rfl

end Mutex

namespace Entry

variable {e : Entry} {m number : Nat} {hold : Hold} {a : Account}

/-- What comes of a call that does not wait, by a thread that is not blocked. -/
lemma report_tryAcquire (hstep : e.turn.step = .byThread m number (.tryAcquire hold))
    (ha : e.before.account? m = some a) (hfree : e.before.isBlocked (e.before.thread number) = false) :
    let tried := a.tryAcquire (e.before.thread number) hold e.turn.conditions.faults
    e.report = Supervisor.reply ((e.before.summon number).update m tried.1) (.tried tried.2) := by
  obtain ⟨s, step, c, hc⟩ := e
  obtain rfl : step = _ := hstep
  exact report_byThread ha hfree rfl

/-- It is refused and changes no mutex, or it takes the mutex and enters the hold. -/
lemma tryAcquire_cases (hv : e.before.Valid)
    (hstep : e.turn.step = .byThread m number (.tryAcquire hold))
    (ha : e.before.account? m = some a) (hfree : e.before.isBlocked (e.before.thread number) = false) :
    let t := e.before.thread number
    (a.mutex.tryAcquire t e.turn.conditions.faults = none ∧
      e.report.outcome = .ok (.tried false) ∧ e.after.mutexes = e.before.mutexes) ∨
    ((a.mutex.tryAcquire t e.turn.conditions.faults).isSome = true ∧
      e.report.outcome = .ok (.tried true) ∧ e.after.account? m =
        some ({ a with mutex := ⟨.held t a.mutex.native.level, a.mutex.holds + 1⟩ }.enter t hold)) := by
  intro t
  have hreport := report_tryAcquire hstep ha hfree
  unfold after
  rw [hreport]
  cases htry : a.mutex.tryAcquire t e.turn.conditions.faults with
  | none =>
    have htried : a.tryAcquire t hold e.turn.conditions.faults = (a, false) := by
      rw [Account.tryAcquire, htry]
    refine .inl ⟨rfl, ?_⟩
    rw [htried, e.before.update_summon hv.keys ha]
    exact ⟨rfl, e.before.mutexes_summon number⟩
  | some mutex =>
    obtain rfl := Mutex.eq_of_tryAcquire_some e.turn.honest.tryLock htry
    have htried : a.tryAcquire t hold e.turn.conditions.faults =
        ({ a with mutex := ⟨.held t a.mutex.native.level, a.mutex.holds + 1⟩ }.enter t hold, true) := by
      rw [Account.tryAcquire, htry]
    refine .inr ⟨rfl, ?_⟩
    rw [htried]
    refine ⟨rfl, (Supervisor.account?_update _ _ _ _).trans ?_⟩
    rw [Supervisor.account?_summon, ha, Option.map_some, if_pos rfl]

end Entry

/-- In a run the tallies of the threads decide: a call that does not wait is refused when another thread
is ahead in its tally, or its own thread is ahead by all the levels. -/
lemma tryAcquire_eq_none_iff_tally (run : List Turn) {m : Nat} {a : Account}
    (ha : (stateAfter run).account? m = some a) (t : Thread) {faults : Faults}
    (hworks : faults .mutexTryLock = none) :
    a.mutex.tryAcquire t faults = none ↔
      (∃ u, u ≠ t ∧ returned run m u < taken run m u) ∨
        taken run m t = returned run m t + NativeLock.maxLevel := by
  have htally := levelOf_add_returned run ha
  rw [Mutex.tryAcquire_eq_none_iff_levelOf hworks (level_le_maxLevel run ha)]
  refine or_congr (exists_congr fun u => and_congr_right fun _ => ?_) ?_
  · have hu := htally u
    omega
  · have ht := htally t
    omega

/-- In every state of every run, a thread that is not blocked and calls without waiting, for a raw hold
or for a guard, is answered. It is refused iff another thread has taken the mutex more often than it
gave it back, or it has itself done so as often as the native lock can count. Then every mutex is as it
was, with its owner, its levels and its holds. Otherwise the mutex has the thread as its owner, with one
level and one hold more. So an owner that calls again takes the mutex at every depth below the last. -/
theorem try_fails_on_contention_or_exhaustion (run : List Turn) (turn : Turn) (m number : Nat)
    (hold : Hold) (hstep : turn.step = .byThread m number (.tryAcquire hold))
    (hworks : turn.conditions.faults .mutexTryLock = none) (a : Account)
    (ha : (stateAfter run).account? m = some a)
    (hfree : (stateAfter run).isBlocked ((stateAfter run).thread number) = false) :
    let e : Entry := ⟨stateAfter run, turn⟩
    let t := (stateAfter run).thread number
    ∃ success, e.report.outcome = .ok (.tried success) ∧
      (success = false ↔
        (∃ u, u ≠ t ∧ returned run m u < taken run m u) ∨
          taken run m t = returned run m t + NativeLock.maxLevel) ∧
      (success = false → e.after.mutexes = (stateAfter run).mutexes) ∧
      (success = true → e.after.account? m =
        some ({ a with mutex := ⟨.held t a.mutex.native.level, a.mutex.holds + 1⟩ }.enter t hold)) ∧
      (returned run m t < taken run m t →
        taken run m t < returned run m t + NativeLock.maxLevel → success = true) := by
  intro e t
  have hnone := tryAcquire_eq_none_iff_tally run ha t hworks
  have howner : returned run m t < taken run m t →
      taken run m t < returned run m t + NativeLock.maxLevel →
        a.mutex.tryAcquire t turn.conditions.faults ≠ none := by
    intro hheld hbelow hrefused
    have hpos {v : Thread} (h : returned run m v < taken run m v) :
        0 < a.mutex.native.levelOf v := by
      have hl := levelOf_add_returned run ha v
      omega
    rcases hnone.1 hrefused with ⟨u, hne, hu⟩ | hlast
    · exact hne (NativeLock.eq_of_levelOf_pos (hpos hu) (hpos hheld))
    · omega
  rcases Entry.tryAcquire_cases (e := e) (valid_stateAfter run) hstep ha hfree with
    ⟨hrefused, hout, hsame⟩ | ⟨hsome, hout, haccount⟩
  · exact ⟨false, hout, iff_of_true rfl (hnone.1 hrefused), fun _ => hsame,
      fun h => absurd h Bool.false_ne_true, fun hheld hbelow => absurd hrefused (howner hheld hbelow)⟩
  · have hne : a.mutex.tryAcquire t turn.conditions.faults ≠ none :=
      Option.isSome_iff_ne_none.1 hsome
    exact ⟨true, hout, iff_of_false Bool.false_ne_true.symm fun h => hne (hnone.2 h),
      fun h => absurd h Bool.false_ne_true.symm, fun _ => haccount, fun _ _ => rfl⟩

/-- A thread takes a mutex over and over. -/
def nestedRun (depth : Nat) : List Turn :=
  List.replicate depth (.plain (.byThread 0 1 (.acquire .raw))) ++ [.plain (.new 0)]

lemma stateAfter_nestedRun {depth : Nat} (h : depth < NativeLock.maxLevel) :
    stateAfter (nestedRun (depth + 1)) =
      { mutexes := [(0, .abandoned ⟨1, 0⟩ (depth + 1) [])], alive := [1] } := by
  induction depth with
  | zero => rfl
  | succ depth ih =>
    have hbefore := ih (Nat.lt_of_succ_lt h)
    have hlock : NativeLock.attempt (.held ⟨1, 0⟩ depth) ⟨1, 0⟩ =
        .taken (.held ⟨1, 0⟩ (depth + 1)) := by
      rw [NativeLock.attempt, if_pos rfl, if_pos h]
    have hacquire : (Account.abandoned ⟨1, 0⟩ (depth + 1) []).acquire ⟨1, 0⟩ .raw Faults.none =
        (.abandoned ⟨1, 0⟩ (depth + 2) [], .completed) := by
      have hmutex : Mutex.acquire ⟨.held ⟨1, 0⟩ depth, depth + 1⟩ ⟨1, 0⟩ Faults.none =
          .taken ⟨.held ⟨1, 0⟩ (depth + 1), depth + 2⟩ := by
        simp only [Mutex.acquire, Faults.none, hlock, Mutex.count]
      simp only [Account.acquire, Account.abandoned, Nat.add_sub_cancel, hmutex]
      rfl
    let s : Supervisor := { mutexes := [(0, .abandoned ⟨1, 0⟩ (depth + 1) [])], alive := [1] }
    have hstep : (s.summon 1).stepOf ⟨Faults.none, Supervisor.firstCome, true⟩ 0
        (.abandoned ⟨1, 0⟩ (depth + 1) []) (s.thread 1) (.acquire .raw) =
          .ok ((s.summon 1).update 0 (.abandoned ⟨1, 0⟩ (depth + 2) []), .acquired) := by
      rw [Supervisor.stepOf, show s.thread 1 = ⟨1, 0⟩ from rfl, hacquire]
    change Entry.after ⟨stateAfter (nestedRun (depth + 1)), .plain _⟩ = _
    rw [hbefore]
    exact congrArg Report.after (Entry.report_byThread rfl rfl hstep)

/-- The owner's next try is refused at the last level, though no other thread has the mutex. -/
theorem owner_refused_at_the_last_level :
    let run := nestedRun NativeLock.maxLevel
    let owner : Thread := ⟨1, 0⟩
    (Entry.report ⟨stateAfter run, .plain (.byThread 0 1 (.tryAcquire .raw))⟩).outcome =
        .ok (.tried false) ∧
      returned run 0 owner < taken run 0 owner ∧
      ∀ u, u ≠ owner → taken run 0 u = returned run 0 u := by
  obtain ⟨depth, hdepth⟩ : ∃ depth, NativeLock.maxLevel = depth + 1 := ⟨4294967294, rfl⟩
  intro run owner
  have hstate : stateAfter run =
      { mutexes := [(0, .abandoned owner (depth + 1) [])], alive := [1] } := by
    change stateAfter (nestedRun NativeLock.maxLevel) = _
    rw [hdepth]
    exact stateAfter_nestedRun (hdepth ▸ Nat.lt_succ_self depth)
  -- all there is to know about the run, which is far too long to be computed
  clear_value run
  have haccount : (stateAfter run).account? 0 = some (.abandoned owner (depth + 1) []) := by
    rw [hstate]
    rfl
  have hlevel (u : Thread) :
      (if owner = u then depth + 1 else 0) + returned run 0 u = taken run 0 u := by
    rw [← levelOf_add_returned run haccount u]
    exact congrArg (· + _) (NativeLock.levelOf_held owner u depth).symm
  have hlock : NativeLock.attempt (.held owner depth) owner = .saturated := by
    rw [NativeLock.attempt, if_pos rfl, if_neg (hdepth ▸ Nat.lt_irrefl _)]
  have htry : (Account.abandoned owner (depth + 1) []).tryAcquire owner .raw Faults.none =
      (.abandoned owner (depth + 1) [], false) := by
    have hnone : Mutex.tryAcquire ⟨.held owner depth, depth + 1⟩ owner Faults.none = none := by
      simp only [Mutex.tryAcquire, Faults.none, hlock]
    simp only [Account.tryAcquire, Account.abandoned, Nat.add_sub_cancel, hnone]
  refine ⟨?_, ?_, ?_⟩
  · rw [Entry.report_tryAcquire rfl haccount (by rw [hstate]; rfl)]
    dsimp only
    rw [hstate]
    exact congrArg (fun p => Except.ok (Reply.tried p.2)) htry
  · have hown := hlevel owner
    rw [if_pos rfl] at hown
    omega
  · intro u hu
    have hother := hlevel u
    rw [if_neg hu.symm] at hother
    omega

/-- While a guard lives, its thread takes the mutex again and another thread is refused. -/
theorem tries_in_mixedRun :
    let s := stateAfter mixedRun
    let again : Turn := .plain (.byThread 0 1 (.tryAcquire .guard))
    let other : Turn := .plain (.byThread 0 3 (.tryAcquire .raw))
    s.account? 0 = some ⟨⟨.held ⟨1, 0⟩ 0, 1⟩, [], [⟨1, 0⟩], [⟨⟨2, 0⟩, .guard⟩]⟩ ∧
      s.isBlocked ⟨1, 0⟩ = false ∧ s.isBlocked ⟨3, 0⟩ = false ∧
      again.conditions.faults .mutexTryLock = none ∧
      (Entry.report ⟨s, again⟩).outcome = .ok (.tried true) ∧
      (Entry.after ⟨s, again⟩).account? 0 =
        some ⟨⟨.held ⟨1, 0⟩ 1, 2⟩, [], [⟨1, 0⟩, ⟨1, 0⟩], [⟨⟨2, 0⟩, .guard⟩]⟩ ∧
      (Entry.report ⟨s, other⟩).outcome = .ok (.tried false) ∧
      (Entry.after ⟨s, other⟩).mutexes = s.mutexes := by
  intro s again other
  have haccount : s.account? 0 =
      some ⟨⟨.held ⟨1, 0⟩ 0, 1⟩, [], [⟨1, 0⟩], [⟨⟨2, 0⟩, .guard⟩]⟩ := by rfl
  have hagain : s.isBlocked ⟨1, 0⟩ = false := by rfl
  have hother : s.isBlocked ⟨3, 0⟩ = false := by rfl
  obtain ⟨success, hout, -, -, htaken, hbelow⟩ :=
    try_fails_on_contention_or_exhaustion mixedRun again 0 1 .guard rfl rfl _ haccount hagain
  obtain ⟨success', hout', hiff, hsame, -⟩ :=
    try_fails_on_contention_or_exhaustion mixedRun other 0 3 .raw rfl rfl _ haccount hother
  obtain rfl : success = true := hbelow (by decide) (by decide)
  obtain rfl : success' = false := hiff.2 (.inl ⟨⟨1, 0⟩, by decide, by decide⟩)
  exact ⟨haccount, hagain, hother, rfl, hout, htaken rfl, hout', hsame rfl⟩

end Interop.Lock
