import Interop.Proofs.LockBlocking
import Interop.Proofs.LockDisposal
import Interop.Proofs.LockErasure

/-!
# Holds of threads that ended

A thread that ends drops its guards and keeps its raw holds. No other thread can give those back,
and no later thread is the one that ended, also if it goes by the same number. So the mutex has an
owner for ever: the only thing that still happens to it is that calls are blocked, none of them
completes, and when it is dropped its native lock is left behind with the holds that the thread had.
-/

namespace Interop.Lock

/-- The turns that follow a run with their states, most recent first. -/
def historyAfter (run : List Turn) : List Turn → List Entry
  | [] => []
  | turn :: later => ⟨stateAfter (later ++ run), turn⟩ :: historyAfter run later

/-! ### An owner that does nothing -/

namespace Account

/-- The account of a mutex that nobody uses but a thread with `k` raw holds, and the calls that are
blocked. -/
def abandoned (t : Thread) (k : Nat) (waiting : List Waiter) : Account :=
  ⟨⟨.held t (k - 1), k⟩, List.replicate k t, [], waiting⟩

lemma owner_of_mem_holders {a : Account} (ha : a.Sound) {u : Thread} {hold : Hold}
    (h : u ∈ a.holders hold) : a.mutex.native.owner? = some u := by
  have hpos := holdsOf_pos_of_mem h
  rw [← ha.level u] at hpos
  exact (NativeLock.levelOf_pos_iff _ _).1 hpos

/-- While the owner does nothing the others can only be blocked. -/
lemma Sound.eq_wait_of_permits {a : Account} (ha : a.Sound) {t : Thread}
    (hown : a.mutex.native.owner? = some t) {d : Deed} (hd : a.Permits d) (hact : d.actor ≠ t) :
    ∃ w, d = .wait w := by
  have hothers : ∀ u, a.mutex.native.owner? = some u → u = t :=
    fun u hu => Option.some.inj (hu.symm.trans hown)
  cases d with
  | take u hold =>
    obtain ⟨lock, hlock⟩ := hd
    have hu := ((NativeLock.attempt_eq_taken_iff _ _ _).1 hlock).1 t hown
    exact absurd hu.symm hact
  | wait w => exact ⟨w, rfl⟩
  | complete w =>
    rw [hd.1] at hown
    cases hown
  | giveBack u hold => exact absurd (hothers u (owner_of_mem_holders ha hd)) hact
  | forget u =>
    have hu : u ∈ a.holders .guard := hd
    exact absurd (hothers u (owner_of_mem_holders ha hu)) hact

lemma Performs.eq_waits {a b : Account} {ds : List Deed} (h : a.Performs ds b) (ha : a.Sound)
    {t : Thread} (hown : a.mutex.native.owner? = some t) (hds : ∀ d ∈ ds, d.actor ≠ t) :
    ∃ ws : List Waiter, ds = ws.map .wait ∧ b = { a with waiting := a.waiting ++ ws } := by
  induction h with
  | nil a => exact ⟨[], rfl, by rw [List.append_nil]⟩
  | cons hd hp ih =>
    rename_i a b d ds
    obtain ⟨w, rfl⟩ := ha.eq_wait_of_permits hown hd (hds d List.mem_cons_self)
    obtain ⟨ws, rfl, rfl⟩ := ih (ha.apply hd) hown fun d hmem => hds d (List.mem_cons_of_mem _ hmem)
    exact ⟨w :: ws, rfl, by simp [apply]⟩

/-- A thread with raw holds and no guards is the only user of its mutex. -/
lemma Sound.eq_abandoned {a : Account} (ha : a.Sound) {t : Thread} {k : Nat} (hpos : 0 < k)
    (hraw : a.raw.count t = k) (hguards : a.guards.count t = 0) :
    a = abandoned t k a.waiting := by
  have hlevel := ha.level t
  rw [holdsOf, hraw, hguards, Nat.add_zero] at hlevel
  have hown := (NativeLock.levelOf_pos_iff _ _).1 (hlevel ▸ hpos)
  have hholder : ∀ hold, ∀ u ∈ a.holders hold, u = t := by
    intro hold u hu
    exact Option.some.inj ((owner_of_mem_holders ha hu).symm.trans hown)
  have hholds : a.mutex.holds = k := by
    rw [ha.holds, ← NativeLock.levelOf_eq_level hown, hlevel]
  have hnative : a.mutex.native = .held t (k - 1) := by
    rw [NativeLock.levelOf_eq_level hown] at hlevel
    cases hlock : a.mutex.native with
    | free =>
      rw [hlock] at hown
      cases hown
    | held owner n =>
      rw [hlock] at hown hlevel
      obtain rfl := Option.some.inj hown
      rw [← hlevel]
      rfl
  have hrawEq : a.raw = List.replicate k t := by
    have hall : a.raw = List.replicate a.raw.length t := List.eq_replicate_of_mem (hholder .raw)
    rw [hall, List.count_replicate_self] at hraw
    rwa [hraw] at hall
  have hguardsEq : a.guards = [] := by
    rw [List.eq_nil_iff_forall_not_mem]
    intro u hu
    rw [hholder .guard u hu, ← List.count_pos_iff, hguards] at hu
    omega
  obtain ⟨⟨native, holds⟩, raw, guards, waiting⟩ := a
  simp only at hholds hnative hrawEq hguardsEq
  rw [hholds, hnative, hrawEq, hguardsEq]
  rfl

lemma raw_dropGuards (a : Account) (t : Thread) : (a.dropGuards t).raw = a.raw := by
  unfold dropGuards
  generalize a.guards.count t = n
  induction n with
  | zero => rfl
  | succ n ih => exact ih

/-- A thread that ends with raw holds leaves nothing but them, and the mutex is not handed on. -/
lemma Sound.sweep_eq_abandoned {a : Account} (ha : a.Sound) {t : Thread} {k : Nat} (hpos : 0 < k)
    (hraw : a.raw.count t = k) (choose : List Waiter → Option Waiter) :
    (a.sweep choose t).1 = abandoned t k a.waiting := by
  have hdropped : a.dropGuards t = abandoned t k a.waiting := by
    have hguards := (a.repeat_giveBack t (a.guards.count t)).1
    rw [Nat.sub_self] at hguards
    have heq := ((a.dropGuards_performs t).sound ha).eq_abandoned hpos
      ((congrArg _ (a.raw_dropGuards t)).trans hraw) hguards
    rwa [show (a.dropGuards t).waiting = a.waiting from (a.repeat_giveBack t _).2] at heq
  unfold sweep
  split
  · rw [hdropped]
    rfl
  · rename_i hg
    have hnone : a.guards.count t = 0 := List.count_eq_zero.2 (by simpa using hg)
    rw [← hdropped, dropGuards, hnone]
    rfl

lemma sound_abandoned {t : Thread} {k : Nat} (hpos : 0 < k) (waiting : List Waiter) :
    (abandoned t k waiting).Sound where
  level u := by
    by_cases hu : t = u
    · subst hu
      simp only [abandoned, NativeLock.levelOf_held, holdsOf, List.count_replicate_self,
        List.count_nil, if_pos]
      omega
    · simp [abandoned, holdsOf, List.count_replicate, hu]
  holds := by
    change k = k - 1 + 1
    omega

end Account

/-! ### What a dead thread left behind -/

/-- The thread has ended, and its `k` raw holds are all that there is of the mutex `m`, apart from
the calls that are blocked. -/
structure Supervisor.Abandoned (s : Supervisor) (m : Nat) (t : Thread) (k : Nat)
    (waiting : List Waiter) : Prop where
  ended : t.life < s.ended.count t.number
  account : s.account? m = some (.abandoned t k waiting)
  absent : t ∉ waiting.map Waiter.thread

namespace Supervisor.Abandoned

variable {s : Supervisor} {m : Nat} {t : Thread} {k : Nat} {waiting : List Waiter}

/-- No thread is the one that ended, whatever its number. -/
lemma thread_ne (h : s.Abandoned m t k waiting) (number : Nat) : s.thread number ≠ t := by
  rintro rfl
  exact Nat.lt_irrefl _ h.ended

lemma attempt_eq_busy (h : s.Abandoned m t k waiting) (number : Nat) :
    (Account.abandoned t k waiting).mutex.native.attempt (s.thread number) = .busy :=
  if_neg (h.thread_ne number).symm

end Supervisor.Abandoned

/-- In a turn that does not drop the mutex, all that can happen to it is that a call is blocked. -/
theorem Entry.abandoned_after {e : Entry} (hv : e.before.Valid) {m : Nat} {t : Thread} {k : Nat}
    (hpos : 0 < k) {waiting : List Waiter} (h : e.before.Abandoned m t k waiting)
    (hkept : e.drops m = false) :
    ∃ ws : List Waiter, e.deeds m = ws.map .wait ∧ e.after.Abandoned m t k (waiting ++ ws) := by
  have hact : ∀ d ∈ e.deeds m, d.actor ≠ t := by
    intro d hd hdt
    obtain ⟨a, reply, ha, -, hdeeds⟩ := Entry.mem_deeds hd
    obtain rfl := Option.some.inj (h.account.symm.trans ha)
    rw [hdeeds] at hd
    rcases Step.actor_of_mem_deeds hd with ⟨number, hnumber⟩ | hmem
    · exact h.thread_ne number (hnumber.symm.trans hdt)
    · exact h.absent (hdt ▸ hmem)
  have halters := e.alters hv m
  rw [h.account] at halters
  generalize hafter : e.after.account? m = after at halters
  cases halters with
  | dropped _ hdrops =>
    rw [hkept] at hdrops
    cases hdrops
  | performed hp =>
    obtain ⟨ws, hws, rfl⟩ := hp.eq_waits (Account.sound_abandoned hpos waiting) rfl hact
    refine ⟨ws, hws, Nat.lt_of_lt_of_le h.ended ((Entry.frame hv).2.count_le _), hafter, ?_⟩
    rw [List.map_append, List.mem_append]
    rintro (hbefore | hnew)
    · exact h.absent hbefore
    · obtain ⟨w, hw, hwt⟩ := List.mem_map.1 hnew
      exact hact (.wait w) (hws ▸ List.mem_map_of_mem hw) hwt

/-- A thread that ends with raw holds on a mutex leaves the mutex to nobody. -/
theorem Entry.abandoned_of_exit {e : Entry} (hv : e.before.Valid) {number m k : Nat} {a : Account}
    (hstep : e.turn.step = .exit number) {woke : List Thread}
    (hexit : e.report.outcome = .ok (.exited woke)) (ha : e.before.account? m = some a)
    (hs : a.Sound) (hpos : 0 < k) (hk : a.raw.count (e.before.thread number) = k) :
    e.after.Abandoned m (e.before.thread number) k a.waiting := by
  have hrep := Entry.report_exit hstep
  rcases exit_cases e.before e.turn.conditions number with ⟨r, href⟩ | ⟨hfree, hreply⟩
  · rw [hrep, href] at hexit
    cases hexit
  · have hafter := congrArg Report.after (hrep.trans hreply)
    refine ⟨?_, ?_, ?_⟩
    · unfold Entry.after
      rw [hafter]
      change e.before.ended.count number < (number :: e.before.ended).count number
      rw [List.count_cons_self]
      exact Nat.lt_succ_self _
    · unfold Entry.after
      rw [hafter, ← hs.sweep_eq_abandoned hpos hk e.turn.conditions.choose]
      exact (Supervisor.lookup_map (fun _ a => (a.sweep _ _).1) e.before.mutexes m).trans
        (congrArg (Option.map _) ha)
    · exact Entry.notMem_waiting hv ha hfree

/-- What was done to a mutex in turns that are listed most recent first, oldest first. -/
def deedsIn (m : Nat) (entries : List Entry) : List Deed :=
  entries.reverse.flatMap fun e => e.deeds m

lemma deedsIn_cons (m : Nat) (e : Entry) (entries : List Entry) :
    deedsIn m (e :: entries) = deedsIn m entries ++ e.deeds m := by
  simp [deedsIn]

/-- However a run goes on, a mutex that was left to nobody stays so until it is dropped. -/
theorem abandoned_stateAfter (run later : List Turn) {m : Nat} {t : Thread} {k : Nat} (hpos : 0 < k)
    {waiting : List Waiter} (h : (stateAfter run).Abandoned m t k waiting)
    (hkept : ∀ e ∈ historyAfter run later, e.drops m = false) :
    ∃ ws : List Waiter, deedsIn m (historyAfter run later) = ws.map .wait ∧
      (stateAfter (later ++ run)).Abandoned m t k (waiting ++ ws) := by
  induction later with
  | nil => exact ⟨[], rfl, by rwa [List.append_nil]⟩
  | cons turn later ih =>
    rw [historyAfter, List.forall_mem_cons] at hkept
    obtain ⟨ws, hws, habandoned⟩ := ih hkept.2
    obtain ⟨vs, hvs, hafter⟩ := Entry.abandoned_after (valid_stateAfter _) hpos habandoned hkept.1
    refine ⟨ws ++ vs, ?_, ?_⟩
    · rw [historyAfter, deedsIn_cons, hws, hvs, List.map_append]
    · rwa [List.append_assoc] at hafter

/-! ### Calls that meet an abandoned mutex -/

namespace Supervisor.Abandoned

variable {s : Supervisor} {m : Nat} {t : Thread} {k : Nat} {waiting : List Waiter}

/-- A thread that is not blocked is told that the mutex is not free. -/
lemma outcome_tryAcquire (h : s.Abandoned m t k waiting) {turn : Turn} {number : Nat} {hold : Hold}
    (hstep : turn.step = .byThread m number (.tryAcquire hold))
    (hfree : s.isBlocked (s.thread number) = false) :
    (Entry.report ⟨s, turn⟩).outcome = .ok (.tried false) := by
  obtain ⟨step, c, hc⟩ := turn
  obtain rfl : step = _ := hstep
  have hnone : (Account.abandoned t k waiting).mutex.tryAcquire (s.thread number) c.faults = none := by
    cases htry : (Account.abandoned t k waiting).mutex.tryAcquire (s.thread number) c.faults with
    | none => rfl
    | some mutex =>
      obtain ⟨lock, hlock, -⟩ := Mutex.attempt_of_tryAcquire_some hc.tryLock htry
      rw [h.attempt_eq_busy number] at hlock
      cases hlock
  have htried : (s.summon number).stepOf c m (.abandoned t k waiting) (s.thread number)
      (.tryAcquire hold) = .ok ((s.summon number).update m (.abandoned t k waiting), .tried false) := by
    simp [Supervisor.stepOf, Account.tryAcquire, hnone]
  rw [Entry.report_byThread h.account hfree htried]
  rfl

/-- A thread that is not blocked becomes blocked. -/
lemma outcome_acquire (h : s.Abandoned m t k waiting) {turn : Turn} {number : Nat} {hold : Hold}
    (hstep : turn.step = .byThread m number (.acquire hold))
    (hfree : s.isBlocked (s.thread number) = false)
    (hnative : turn.conditions.faults .mutexLock = none)
    (hqueues : waiting = [] ∨ turn.conditions.queues = true) :
    (Entry.report ⟨s, turn⟩).outcome = .ok .blocked := by
  obtain ⟨step, c, hc⟩ := turn
  obtain rfl : step = _ := hstep
  have hwaits : (Account.abandoned t k waiting).mutex.acquire (s.thread number) c.faults = .waits := by
    simp only [Mutex.acquire, show c.faults .mutexLock = none from hnative, h.attempt_eq_busy number]
  have hqueue : ((Account.abandoned t k waiting).waiting.isEmpty || c.queues) = true := by
    rcases hqueues with rfl | hq
    · rfl
    · rw [show c.queues = true from hq, Bool.or_true]
  have hblocked : ∃ b, (s.summon number).stepOf c m (.abandoned t k waiting) (s.thread number)
      (.acquire hold) = .ok ((s.summon number).update m b, .blocked) := by
    simp only [Supervisor.stepOf, Account.acquire, hwaits, hqueue, if_true]
    exact ⟨_, rfl⟩
  obtain ⟨b, hblocked⟩ := hblocked
  rw [Entry.report_byThread h.account hfree hblocked]
  rfl

end Supervisor.Abandoned

lemma Account.isBorrowed_abandoned (t : Thread) (k : Nat) (waiting : List Waiter) :
    (abandoned t k waiting).isBorrowed = false ↔ waiting = [] := by
  simp [isBorrowed, abandoned]

/-- The native lock of an abandoned mutex is left behind. -/
lemma Mutex.drop_abandoned (t : Thread) {k : Nat} (hpos : 0 < k) (waiting : List Waiter)
    (codes : NativeCall → Int32) :
    (Account.abandoned t k waiting).mutex.drop codes = ⟨[], [leakedRecord k]⟩ :=
  if_pos (Nat.ne_of_gt hpos)

/-- A hold that a thread left behind when it ended is never given back. Take a run in which a thread
ends with `k` raw holds on a mutex, and any continuation of it in which the mutex is not dropped.
All that the continuation does to the mutex is that calls are blocked, in addition to those that
were blocked before, and none of them completes. At its end the thread is still the owner, at the
level `k` and with `k` holds counted. Whatever comes next: a thread that tries to take the mutex is
told that it cannot, one that asks for it is blocked, and if the mutex is dropped, which it can be
iff no call is blocked, no native call is made and the `k` holds are reported. -/
theorem abandoned_holds_stay (run later : List Turn) (ending : Turn) (number m k : Nat) (a : Account)
    (woke : List Thread) (hstep : ending.step = .exit number)
    (hends : (Entry.report ⟨stateAfter run, ending⟩).outcome = .ok (.exited woke))
    (ha : (stateAfter run).account? m = some a) (hpos : 0 < k)
    (hk : a.raw.count ((stateAfter run).thread number) = k)
    (hkept : ∀ e ∈ historyAfter (ending :: run) later, e.drops m = false) :
    ∃ ws : List Waiter,
      let t := (stateAfter run).thread number
      let s := stateAfter (later ++ ending :: run)
      deedsIn m (historyAfter (ending :: run) later) = ws.map .wait ∧
      s.account? m = some ⟨⟨.held t (k - 1), k⟩, List.replicate k t, [], a.waiting ++ ws⟩ ∧
      ∀ turn : Turn,
        let e : Entry := ⟨s, turn⟩
        (∀ other hold, turn.step = .byThread m other (.tryAcquire hold) →
          s.isBlocked (s.thread other) = false → e.report.outcome = .ok (.tried false)) ∧
        (∀ other hold, turn.step = .byThread m other (.acquire hold) →
          s.isBlocked (s.thread other) = false → turn.conditions.faults .mutexLock = none →
          a.waiting ++ ws = [] ∨ turn.conditions.queues = true → e.report.outcome = .ok .blocked) ∧
        (turn.step = .onMutex m .drop → (e.drops m = true ↔ a.waiting ++ ws = [])) ∧
        (e.drops m = true → e.report.calls = [] ∧
          e.report.records = [⟨.error, "widebridge::sync",
            s!"native mutex dropped with {k} outstanding holds; leaking it"⟩]) := by
  have hended := Entry.abandoned_of_exit (e := ⟨stateAfter run, ending⟩) (valid_stateAfter run) hstep
    hends ha (sound_account run ha) hpos hk
  obtain ⟨ws, hws, hlater⟩ := abandoned_stateAfter (ending :: run) later hpos hended hkept
  refine ⟨ws, hws, hlater.account, ?_⟩
  intro turn e
  have hdrop : e.drops m = true → a.waiting ++ ws = [] := fun hdrops =>
    (Account.isBorrowed_abandoned _ k _).1 (Entry.unborrowed_of_drops hdrops hlater.account)
  refine ⟨?_, ?_, ?_, ?_⟩
  · intro other hold hother hfree
    exact hlater.outcome_tryAcquire hother hfree
  · intro other hold hother hfree hnative hqueues
    exact hlater.outcome_acquire hother hfree hnative hqueues
  · intro hturn
    refine ⟨hdrop, fun hnone => ?_⟩
    have hrep : e.report = _ :=
      report_of_drop hturn hlater.account ((Account.isBorrowed_abandoned _ k _).2 hnone)
    unfold Entry.drops
    rw [hrep]
    simp [e, hturn]
  · intro hdrops
    have hrep : e.report = _ := report_of_drop (Entry.step_of_drops hdrops) hlater.account
      ((Account.isBorrowed_abandoned _ k _).2 (hdrop hdrops))
    rw [hrep, Mutex.drop_abandoned _ hpos]
    exact ⟨rfl, rfl⟩

/-- A thread takes a mutex twice for good and once with a guard. -/
def hoardingRun : List Turn :=
  [.plain (.byThread 0 1 (.acquire .guard)), .plain (.byThread 0 1 (.acquire .raw)),
    .plain (.byThread 0 1 (.acquire .raw)), .plain (.new 0)]

/-- The thread ends, and a later one by its number tries to take the mutex. -/
theorem abandoned_holds_stay_in_hoardingRun :
    let later : List Turn := [.plain (.byThread 0 1 (.tryAcquire .raw))]
    let s := stateAfter (later ++ .plain (.exit 1) :: hoardingRun)
    s.account? 0 = some ⟨⟨.held ⟨1, 0⟩ 1, 2⟩, [⟨1, 0⟩, ⟨1, 0⟩], [], []⟩ ∧
      s.thread 1 = ⟨1, 1⟩ ∧
      (Entry.report ⟨s, .plain (.byThread 0 1 (.tryAcquire .guard))⟩).outcome = .ok (.tried false) ∧
      (Entry.report ⟨s, .plain (.onMutex 0 .drop)⟩).calls = [] ∧
      (Entry.report ⟨s, .plain (.onMutex 0 .drop)⟩).records = [⟨.error, "widebridge::sync",
        "native mutex dropped with 2 outstanding holds; leaking it"⟩] := by
  intro later s
  obtain ⟨ws, hws, haccount, hnext⟩ := abandoned_holds_stay hoardingRun later (.plain (.exit 1)) 1 0 2
    ⟨⟨.held ⟨1, 0⟩ 2, 3⟩, [⟨1, 0⟩, ⟨1, 0⟩], [⟨1, 0⟩], []⟩ [] rfl (by rfl) (by rfl) (by decide)
    (by decide) (by decide)
  have hnone : ws = [] := List.map_eq_nil_iff.1 (hws.symm.trans (by rfl))
  subst hnone
  obtain ⟨htry, -, hdrops, -⟩ := hnext (.plain (.byThread 0 1 (.tryAcquire .guard)))
  obtain ⟨-, -, hdrop, hleak⟩ := hnext (.plain (.onMutex 0 .drop))
  exact ⟨haccount, by rfl, htry 1 .guard rfl (by rfl), hleak ((hdrop rfl).2 rfl)⟩

end Interop.Lock
