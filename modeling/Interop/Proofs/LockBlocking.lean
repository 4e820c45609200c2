import Interop.Proofs.LockLevels

/-!
# Blocked calls

A blocked call completes when the mutex is handed over, and it is handed over only when it is free:
nobody has a hold then, so the thread of the call comes out with the only one. A turn hands a mutex
over once at most, after the holds that it gives back, and those are the holds of a thread that is not
blocked itself.
-/

namespace Interop.Lock

/-- The blocked call that completes in a deed. -/
def Deed.completed? : Deed → Option Waiter
  | .complete w => some w
  | _ => none

def Entry.completed (e : Entry) (m : Nat) : List Waiter := (e.deeds m).filterMap Deed.completed?

/-- Whether a deed only adds to what threads have or want, and leaves the blocked calls blocked. -/
def Deed.isQuiet : Deed → Bool
  | .take _ _ | .wait _ | .forget _ => true
  | .complete _ | .giveBack _ _ => false

/-- Whether a deed gives back a hold of a thread that is not in the list. -/
def Deed.ReturnsNoneOf (blocked : List Thread) (d : Deed) : Prop :=
  ∃ t hold, d = .giveBack t hold ∧ t ∉ blocked

namespace Account

variable {a b mid : Account} {ds : List Deed} {choose : List Waiter → Option Waiter}

lemma Performs.unique {b' : Account} (h : a.Performs ds b) (h' : a.Performs ds b') : b = b' := by
  induction h with
  | nil => cases h'; rfl
  | cons _ _ ih =>
    cases h' with
    | cons _ hp => exact ih hp

lemma Performs.sound (h : a.Performs ds b) (ha : a.Sound) : b.Sound :=
  h.invariant (fun _ _ _ ha hd => ha.apply hd) ha

/-! ### Deeds that complete no call -/

lemma completed?_of_isQuiet {d : Deed} (h : d.isQuiet = true) : d.completed? = none := by
  cases d with
  | take _ _ | wait _ | forget _ => rfl
  | complete _ | giveBack _ _ => cases h

lemma Performs.quiet (h : a.Performs ds b) (hq : ∀ d ∈ ds, d.isQuiet = true) :
    (∀ t, a.mutex.native.levelOf t ≤ b.mutex.native.levelOf t) ∧ a.waiting <+: b.waiting := by
  induction h with
  | nil => exact ⟨fun t => Nat.le_refl _, List.prefix_rfl⟩
  | cons hd hp ih =>
    rename_i a b d ds
    obtain ⟨hlevel, hwaiting⟩ := ih fun d hmem => hq d (List.mem_cons_of_mem _ hmem)
    have hquiet := hq d List.mem_cons_self
    suffices hstep : (∀ t, a.mutex.native.levelOf t ≤ (a.apply d).mutex.native.levelOf t) ∧
        a.waiting <+: (a.apply d).waiting from
      ⟨fun t => Nat.le_trans (hstep.1 t) (hlevel t), hstep.2.trans hwaiting⟩
    cases d with
    | take t hold =>
      obtain ⟨lock, hlock⟩ := hd
      refine ⟨fun u => ?_, by simp [apply]⟩
      rw [apply, mutex_enter, Mutex.acquired_of_taken hlock, NativeLock.levelOf_of_taken hlock]
      exact Nat.le_add_right _ _
    | wait w => exact ⟨fun t => Nat.le_refl _, List.prefix_append _ _⟩
    | forget t => exact ⟨fun u => by simp [apply, forget], by simp [apply, forget]⟩
    | complete _ | giveBack _ _ => cases hquiet

lemma Performs.returns {blocked : List Thread} (h : a.Performs ds b)
    (hr : ∀ d ∈ ds, d.ReturnsNoneOf blocked) :
    (∀ t, b.mutex.native.levelOf t ≤ a.mutex.native.levelOf t) ∧ b.waiting = a.waiting ∧
      ds.filterMap Deed.completed? = [] := by
  induction h with
  | nil => exact ⟨fun t => Nat.le_refl _, rfl, rfl⟩
  | cons hd hp ih =>
    rename_i a b d ds
    obtain ⟨hlevel, hwaiting, hnone⟩ := ih fun d hmem => hr d (List.mem_cons_of_mem _ hmem)
    obtain ⟨t, hold, rfl, -⟩ := hr d List.mem_cons_self
    refine ⟨fun u => Nat.le_trans (hlevel u) ?_, hwaiting.trans (waiting_giveBack a t hold), hnone⟩
    change a.mutex.native.unlock.levelOf u ≤ _
    rw [NativeLock.levelOf_unlock]
    exact Nat.sub_le _ _

/-- A thread whose level goes down to nothing by holds that are given back is not blocked. -/
lemma Performs.not_blocked {blocked : List Thread} (h : a.Performs ds b) (ha : a.Sound)
    (hr : ∀ d ∈ ds, d.ReturnsNoneOf blocked) {t : Thread} (ht : 0 < a.mutex.native.levelOf t)
    (hb : b.mutex.native.levelOf t = 0) : t ∉ blocked := by
  cases h with
  | nil => omega
  | cons hd hp =>
    obtain ⟨u, hold, rfl, hu⟩ := hr _ List.mem_cons_self
    have hpos : 0 < a.mutex.native.levelOf u := ha.level u ▸ holdsOf_pos_of_mem hd
    rwa [NativeLock.eq_of_levelOf_pos ht hpos]

/-! ### The call that completes -/

lemma Sound.apply_complete (ha : a.Sound) {w : Waiter} (hfree : a.mutex.native = .free) :
    a.apply (.complete w) =
      (Account.enter ⟨⟨.held w.thread 0, 1⟩, [], [], a.waiting.erase w⟩ w.thread w.hold) := by
  obtain ⟨mutex, raw, guards, waiting⟩ := a
  have hnone (t : Thread) : raw.count t + guards.count t = 0 := by
    have hl := ha.level t
    rw [show mutex.native = .free from hfree] at hl
    exact hl.symm
  obtain rfl : raw = [] := List.eq_nil_iff_forall_not_mem.2 fun t ht => by
    have hpos := List.count_pos_iff.2 ht
    have hzero := hnone t
    omega
  obtain rfl : guards = [] := List.eq_nil_iff_forall_not_mem.2 fun t ht => by
    have hpos := List.count_pos_iff.2 ht
    have hzero := hnone t
    omega
  have hholds := ha.holds
  obtain ⟨native, holds⟩ := mutex
  obtain rfl : native = .free := hfree
  obtain rfl : holds = 0 := hholds
  rfl

lemma completions_of_waiting (h : b.waiting = a.waiting) (woke : List Thread) :
    a.completions woke = b.completions woke := by
  unfold completions
  rw [h]

end Account

/-! ### What a turn does to the blocked calls -/

/-- What a turn can do to the account of a mutex: quiet deeds, or holds of a thread that is not blocked
are given back and then the mutex is handed over. -/
inductive Entry.Moves (e : Entry) (m : Nat) (a b : Account) : Prop
  | quietly (quiet : ∀ d ∈ e.deeds m, d.isQuiet = true) (performs : a.Performs (e.deeds m) b)
  | handing {returned : List Deed} {mid : Account}
    (returns : ∀ d ∈ returned, d.ReturnsNoneOf (a.waiting.map Waiter.thread))
    (performs : a.Performs returned mid)
    (deeds : e.deeds m =
      returned ++ mid.completions (mid.handOver e.turn.conditions.choose).2)
    (after : b = (mid.handOver e.turn.conditions.choose).1)

namespace Entry

variable {e : Entry} {m : Nat} {a b : Account}

lemma performs_deeds (hv : e.before.Valid) (ha : e.before.account? m = some a)
    (hb : e.after.account? m = some b) : a.Performs (e.deeds m) b := by
  have h := e.alters hv m
  rw [ha, hb] at h
  cases h with
  | performed hp => exact hp

lemma Moves.of_handOver (hv : e.before.Valid) (ha : e.before.account? m = some a)
    (hb : e.after.account? m = some b) (returned : List Deed) {mid : Account}
    (returns : ∀ d ∈ returned, d.ReturnsNoneOf (a.waiting.map Waiter.thread))
    (performs : a.Performs returned mid)
    (deeds : e.deeds m = returned ++ mid.completions (mid.handOver e.turn.conditions.choose).2) :
    e.Moves m a b := by
  refine .handing returns performs deeds ?_
  have hwaiting := (performs.returns returns).2.1
  have hover := Account.handOver_performs (a := mid) e.turn.honest.chosen (hwaiting ▸ hv.waiting ha)
  exact (deeds ▸ performs_deeds hv ha hb).unique (performs.append hover)

lemma isQuiet_of_mem_deeds {t : Thread} {step : ThreadStep} (h : ∀ hold, step ≠ .release hold)
    (reply : Reply) {d : Deed} (hd : d ∈ step.deeds a t reply) : d.isQuiet = true := by
  unfold ThreadStep.deeds at hd
  split at hd
  · exact List.mem_singleton.1 hd ▸ rfl
  · exact List.mem_singleton.1 hd ▸ rfl
  · exact List.mem_singleton.1 hd ▸ rfl
  · exact absurd rfl (h _)
  · exact List.mem_singleton.1 hd ▸ rfl
  · cases hd

section

variable {s after : Supervisor} {c : Conditions} {hc : c.Honest}

lemma notMem_waiting (hv : s.Valid) (ha : s.account? m = some a) {t : Thread}
    (ht : s.isBlocked t = false) : t ∉ a.waiting.map Waiter.thread := by
  intro hmem
  have hblocked := (s.isBlocked_iff hv.keys t).2 ⟨m, by simpa [Supervisor.waitingOn, ha] using hmem⟩
  rw [ht] at hblocked
  cases hblocked

lemma moves_release {number : Nat} {hold : Hold} {answer : Reply} (hv : s.Valid)
    (ha : s.account? m = some a)
    (hb : (Entry.after ⟨s, .byThread m number (.release hold), c, hc⟩).account? m = some b)
    (ht : s.isBlocked (s.thread number) = false)
    (hstep : (s.summon number).stepOf c m a (s.thread number) (.release hold) = .ok (after, answer))
    (hdeeds : deeds ⟨s, .byThread m number (.release hold), c, hc⟩ m =
      (ThreadStep.release hold).deeds a (s.thread number) answer) :
    Moves ⟨s, .byThread m number (.release hold), c, hc⟩ m a b := by
  rw [Supervisor.stepOf] at hstep
  by_cases hmem : (a.holders hold).contains (s.thread number)
  · simp only [if_pos hmem, Except.ok.injEq, Prod.mk.injEq] at hstep
    obtain ⟨-, rfl⟩ := hstep
    refine .of_handOver hv ha hb [.giveBack (s.thread number) hold] ?_
      (.single (List.contains_iff_mem.1 hmem)) ?_
    · intro d hd
      exact ⟨_, hold, List.mem_singleton.1 hd, notMem_waiting hv ha ht⟩
    · have hwaiting := a.waiting_giveBack (s.thread number) hold
      exact hdeeds.trans (congrArg (List.cons _) (Account.completions_of_waiting hwaiting _))
  · rw [if_neg hmem] at hstep
    cases hstep

lemma moves_byThread {n number : Nat} {step : ThreadStep} (hv : s.Valid)
    (ha : s.account? m = some a)
    (hb : (Entry.after ⟨s, .byThread n number step, c, hc⟩).account? m = some b) :
    Moves ⟨s, .byThread n number step, c, hc⟩ m a b := by
  have hp := performs_deeds hv ha hb
  rcases runBy_cases s c n number step with
    ⟨after, r, hrep, -⟩ | ⟨a', after, answer, ha', ht, hstep, hrep⟩
  · have hnone := deeds_of_error (e := ⟨s, .byThread n number step, c, hc⟩) r
      (congrArg Report.outcome hrep) m
    exact .quietly (by simp [hnone]) hp
  · have hdeeds := deeds_byThread hc ha' hrep m
    by_cases hmn : m = n
    · subst hmn
      obtain rfl := Option.some.inj (ha'.symm.trans ha)
      rw [if_pos rfl] at hdeeds
      by_cases hrelease : ∃ hold, step = .release hold
      · obtain ⟨hold, rfl⟩ := hrelease
        exact moves_release hv ha hb ht hstep hdeeds
      · refine .quietly (fun d hd => ?_) hp
        rw [hdeeds] at hd
        exact isQuiet_of_mem_deeds (not_exists.1 hrelease) answer hd
    · rw [if_neg hmn] at hdeeds
      exact .quietly (by simp [hdeeds]) hp

lemma moves_onMutex {n : Nat} {step : MutexStep} (hv : s.Valid) (ha : s.account? m = some a)
    (hb : (Entry.after ⟨s, .onMutex n step, c, hc⟩).account? m = some b) :
    Moves ⟨s, .onMutex n step, c, hc⟩ m a b := by
  have hp := performs_deeds hv ha hb
  by_cases hover : step = .handOver ∧ n = m
  · obtain ⟨rfl, rfl⟩ := hover
    refine .of_handOver hv ha hb [] (by simp) (.nil a) ?_
    rw [deeds_handOver hc ha, if_pos rfl, List.nil_append]
  · have hnone : deeds ⟨s, .onMutex n step, c, hc⟩ m = [] := by
      by_cases hstep : step = .handOver
      · subst hstep
        cases ha' : s.account? n with
        | none =>
          have hrep : report ⟨s, .onMutex n .handOver, c, hc⟩ = Supervisor.refuse s .noSuchMutex :=
            runUnder_onMutex_of_none ha' c .handOver
          exact deeds_of_error _ (congrArg Report.outcome hrep) m
        | some a' => exact (deeds_handOver hc ha' m).trans (if_neg fun h => hover ⟨rfl, h.symm⟩)
      · exact deeds_onMutex s n hc hstep m
    exact .quietly (by simp [hnone]) hp

lemma moves_exit {number : Nat} (hv : s.Valid) (ha : s.account? m = some a)
    (hb : (Entry.after ⟨s, .exit number, c, hc⟩).account? m = some b) :
    Moves ⟨s, .exit number, c, hc⟩ m a b := by
  have hp := performs_deeds hv ha hb
  rcases exit_cases s c number with ⟨r, hrep⟩ | ⟨ht, hrep⟩
  · have hnone := deeds_of_error (e := ⟨s, .exit number, c, hc⟩) r
      (congrArg Report.outcome hrep) m
    exact .quietly (by simp [hnone]) hp
  · have hdeeds := deeds_exit hc hv ha hrep
    by_cases hg : s.thread number ∈ a.guards
    · have hsweep : a.sweep c.choose (s.thread number) =
          (a.dropGuards (s.thread number)).handOver c.choose :=
        if_pos (List.contains_iff_mem.2 hg)
      have hwaiting : (a.dropGuards (s.thread number)).waiting = a.waiting :=
        (a.repeat_giveBack (s.thread number) _).2
      rw [hsweep, Account.completions_of_waiting hwaiting] at hdeeds
      refine .of_handOver hv ha hb _ ?_ (a.dropGuards_performs _) hdeeds
      intro d hd
      exact ⟨_, .guard, List.eq_of_mem_replicate hd, notMem_waiting hv ha ht⟩
    · have hsweep : a.sweep c.choose (s.thread number) = (a, []) := if_neg (by simpa using hg)
      rw [hsweep, List.count_eq_zero.2 hg, a.completions_nil] at hdeeds
      exact .quietly (by simp [hdeeds]) hp

end

theorem moves (hv : e.before.Valid) (ha : e.before.account? m = some a)
    (hb : e.after.account? m = some b) : e.Moves m a b := by
  obtain ⟨s, step, c, hc⟩ := e
  cases step with
  | new n =>
    have hnone : deeds ⟨s, .new n, c, hc⟩ m = [] := by
      unfold deeds
      split <;> rfl
    exact .quietly (by simp [hnone]) (performs_deeds hv ha hb)
  | onMutex n step => exact moves_onMutex hv ha hb
  | byThread n number step => exact moves_byThread hv ha hb
  | exit number => exact moves_exit hv ha hb

/-! ### Who completes -/

/-- A turn hands a mutex to a blocked call: holds are given back until the mutex is free, and then the
call, which was chosen, completes. -/
structure HandsTo (e : Entry) (m : Nat) (a b : Account) (w : Waiter) (returned : List Deed)
    (mid : Account) : Prop where
  returns : ∀ d ∈ returned, d.ReturnsNoneOf (a.waiting.map Waiter.thread)
  performs : a.Performs returned mid
  free : mid.mutex.native = .free
  chosen : e.turn.conditions.choose a.waiting = some w
  deeds : e.deeds m = returned ++ [.complete w]
  after : b = mid.apply (.complete w)

namespace HandsTo

variable {w : Waiter} {returned : List Deed} {mid : Account}

lemma completed (h : e.HandsTo m a b w returned mid) : e.completed m = [w] := by
  rw [Entry.completed, h.deeds, List.filterMap_append, (h.performs.returns h.returns).2.2]
  rfl

lemma waiting (h : e.HandsTo m a b w returned mid) : b.waiting = a.waiting.erase w := by
  rw [h.after, Account.apply, Account.waiting_enter, (h.performs.returns h.returns).2.1]

lemma mem (h : e.HandsTo m a b w returned mid) : w ∈ a.waiting :=
  e.turn.honest.chosen _ _ h.chosen

lemma account (h : e.HandsTo m a b w returned mid) (ha : a.Sound) :
    b = Account.enter ⟨⟨.held w.thread 0, 1⟩, [], [], a.waiting.erase w⟩ w.thread w.hold := by
  rw [h.after, (h.performs.sound ha).apply_complete h.free, (h.performs.returns h.returns).2.1]

lemma levelOf (h : e.HandsTo m a b w returned mid) (ha : a.Sound) (t : Thread) :
    b.mutex.native.levelOf t = if w.thread = t then 1 else 0 := by
  rw [h.account ha, Account.mutex_enter, NativeLock.levelOf_held]

lemma levelOf_before (h : e.HandsTo m a b w returned mid) (ha : a.Sound) :
    a.mutex.native.levelOf w.thread = 0 := by
  have hzero : mid.mutex.native.levelOf w.thread = 0 := by simp [h.free]
  by_contra hne
  exact h.performs.not_blocked ha h.returns (Nat.pos_of_ne_zero hne) hzero
    (List.mem_map_of_mem h.mem)

end HandsTo

/-- A mutex that is free once the holds are given back goes to the call that is chosen. -/
lemma handsTo_of_free {returned : List Deed} {mid : Account}
    (hn : (a.waiting.map Waiter.thread).Nodup)
    (returns : ∀ d ∈ returned, d.ReturnsNoneOf (a.waiting.map Waiter.thread))
    (performs : a.Performs returned mid)
    (deeds : e.deeds m = returned ++ mid.completions (mid.handOver e.turn.conditions.choose).2)
    (after : b = (mid.handOver e.turn.conditions.choose).1) (hfree : mid.mutex.native = .free)
    {w : Waiter} (hw : e.turn.conditions.choose a.waiting = some w) :
    e.HandsTo m a b w returned mid := by
  have hwaiting := (performs.returns returns).2.1
  rw [Account.handOver_of_choose hfree (hwaiting.symm ▸ hw)] at deeds after
  refine ⟨returns, performs, hfree, hw, ?_, after⟩
  rw [deeds, ← Account.completions_of_waiting hwaiting]
  exact congrArg (fun ws => returned ++ List.map Deed.complete ws)
    (Account.filter_thread hn (e.turn.honest.chosen _ _ hw))

lemma Moves.stays_or_hands (h : e.Moves m a b) (hn : (a.waiting.map Waiter.thread).Nodup) :
    (e.completed m = [] ∧ a.waiting <+: b.waiting) ∨
      ∃ w returned mid, e.HandsTo m a b w returned mid := by
  cases h with
  | quietly quiet performs =>
    refine .inl ⟨?_, (performs.quiet quiet).2⟩
    exact List.filterMap_eq_nil_iff.2 fun d hd => Account.completed?_of_isQuiet (quiet d hd)
  | handing returns performs deeds after =>
    rename_i returned mid
    obtain ⟨-, hwaiting, hnone⟩ := performs.returns returns
    rcases mid.handOver_cases e.turn.conditions.choose with hidle | ⟨w, hfree, hw, -⟩
    · rw [hidle] at deeds after
      rw [mid.completions_nil, List.append_nil] at deeds
      have hsame : b = mid := after
      refine .inl ⟨?_, ?_⟩
      · rw [completed, deeds, hnone]
      · exact hsame ▸ hwaiting ▸ List.prefix_rfl
    · exact .inr ⟨w, returned, mid,
        handsTo_of_free hn returns performs deeds after hfree (hwaiting ▸ hw)⟩

/-- A turn that takes away all levels of a thread hands the mutex to the call that is chosen. -/
lemma Moves.hands_of_chosen (h : e.Moves m a b) (hn : (a.waiting.map Waiter.thread).Nodup)
    {t : Thread} (ht : 0 < a.mutex.native.levelOf t) (hb : b.mutex.native.levelOf t = 0) {w : Waiter}
    (hw : e.turn.conditions.choose a.waiting = some w) :
    ∃ returned mid, e.HandsTo m a b w returned mid := by
  cases h with
  | quietly quiet performs =>
    have hle := (performs.quiet quiet).1 t
    omega
  | handing returns performs deeds after =>
    rename_i returned mid
    have hle := (performs.returns returns).1
    cases hfree : mid.mutex.native with
    | free => exact ⟨returned, mid, handsTo_of_free hn returns performs deeds after hfree hw⟩
    | held owner n =>
      -- the owner had a level before, so it is the thread, and the mutex is not handed over
      have howner : 0 < mid.mutex.native.levelOf owner := by simp [hfree]
      have hsame := NativeLock.eq_of_levelOf_pos ht (Nat.lt_of_lt_of_le howner (hle owner))
      have hidle : mid.handOver e.turn.conditions.choose = (mid, []) := by
        simp only [Account.handOver, hfree]
      rw [hidle] at after
      have hmid : b = mid := after
      rw [hmid, hsame] at hb
      omega

lemma Moves.mem_completed_iff (h : e.Moves m a b) (hn : (a.waiting.map Waiter.thread).Nodup)
    (w : Waiter) : w ∈ e.completed m ↔ w ∈ a.waiting ∧ w ∉ b.waiting := by
  rcases h.stays_or_hands hn with ⟨hnone, hkeeps⟩ | ⟨v, returned, mid, hands⟩
  · rw [hnone]
    exact ⟨fun hmem => absurd hmem List.not_mem_nil, fun hw => absurd (hkeeps.subset hw.1) hw.2⟩
  · have hnodup : a.waiting.Nodup := .of_map _ hn
    rw [hands.completed, hands.waiting, List.mem_singleton, hnodup.mem_erase_iff]
    constructor
    · rintro rfl
      exact ⟨hands.mem, fun hmem => hmem.1 rfl⟩
    · rintro ⟨hmem, hnot⟩
      by_contra hne
      exact hnot ⟨hne, hmem⟩

/-- The call that completes is the only one, and completes when the holds before it are given back. -/
lemma Moves.completed_of_mem (h : e.Moves m a b) (hn : (a.waiting.map Waiter.thread).Nodup)
    (ha : a.Sound) {w : Waiter} (hw : w ∈ e.completed m) :
    e.completed m = [w] ∧ (∀ u, u ≠ w.thread → b.mutex.native.levelOf u = 0) ∧
      ∃ returned mid, e.deeds m = returned ++ [.complete w] ∧ a.Performs returned mid ∧
        ∀ u, mid.mutex.native.levelOf u = 0 := by
  rcases h.stays_or_hands hn with ⟨hnone, -⟩ | ⟨v, returned, mid, hands⟩
  · rw [hnone] at hw
    cases hw
  · have hcompleted := hands.completed
    rw [hcompleted] at hw
    obtain rfl := List.mem_singleton.1 hw
    refine ⟨hcompleted, ?_, returned, mid, hands.deeds, hands.performs, ?_⟩
    · intro u hu
      rw [hands.levelOf ha, if_neg hu.symm]
    · exact (NativeLock.eq_free_iff _).1 hands.free

/-- Where a level of some thread stays, nothing completes. -/
lemma Moves.completed_of_kept (h : e.Moves m a b) (hn : (a.waiting.map Waiter.thread).Nodup)
    (ha : a.Sound) {t : Thread} (ht : 0 < a.mutex.native.levelOf t)
    (htafter : 0 < b.mutex.native.levelOf t) : e.completed m = [] := by
  rcases h.stays_or_hands hn with ⟨hnone, -⟩ | ⟨w, returned, mid, hands⟩
  · exact hnone
  · -- the thread would be that of the call, which had no level
    rw [hands.levelOf ha] at htafter
    have hsame : w.thread = t := by
      by_contra hne
      rw [if_neg hne] at htafter
      cases htafter
    rw [← hsame, hands.levelOf_before ha] at ht
    cases ht

/-- A mutex for which a call waits is not dropped. -/
lemma exists_account_of_waiting (hv : e.before.Valid) (ha : e.before.account? m = some a)
    (hwaiting : a.waiting ≠ []) : ∃ b, e.after.account? m = some b := by
  have halters := e.alters hv m
  rw [ha] at halters
  generalize e.after.account? m = after at halters
  cases halters with
  | dropped _ hdrops =>
    have hb := Entry.unborrowed_of_drops hdrops ha
    simp [Account.isBorrowed, hwaiting] at hb
  | performed _ => exact ⟨_, rfl⟩

end Entry

namespace Account

variable {a b : Account} {ds : List Deed}

/-- The calls that were blocked are those that completed and those that are blocked still. -/
theorem Performs.count_waiting (h : a.Performs ds b) (w : Waiter) :
    ds.count (.wait w) + a.waiting.count w = ds.count (.complete w) + b.waiting.count w := by
  induction h with
  | nil => simp
  | cons hd hp ih =>
    rename_i a b d ds
    suffices hstep : [d].count (.wait w) + a.waiting.count w =
        [d].count (.complete w) + (a.apply d).waiting.count w by
      rw [← List.singleton_append, List.count_append, List.count_append]
      omega
    cases d with
    | take t hold => simp [apply]
    | wait v =>
      by_cases hv : v = w
      · simp [apply, hv, Nat.add_comm]
      · simp [apply, hv]
    | complete v =>
      by_cases hv : v = w
      · subst hv
        have hpos := List.count_pos_iff.2 hd.2
        simp only [apply, waiting_enter, List.count_erase_self, List.count_singleton_self]
        simp only [List.count_singleton, reduceCtorEq, beq_iff_eq, if_false]
        omega
      · simp [apply, hv, List.count_erase_of_ne (Ne.symm hv)]
    | giveBack t hold => simp [apply]
    | forget t => simp [apply, forget]

end Account

/-- No hold is lost or duplicated when calls are blocked. Take any turn after any run, and the account
of a mutex before it. If calls are blocked the mutex is still there after the turn. The calls that
complete are those that were blocked and are so no more; one at most does, at a moment at which nobody
has a level, so that nobody but its thread comes out with one. If the turn takes away all levels of a
thread, and the system chooses one of the blocked calls, that call completes: its thread is the owner
at the first level, with the only hold there is, and the other calls are blocked as before. If a thread
has a level before and after the turn, no call completes. And in the whole life of the mutex a call
became blocked as often as one completed, and once more if it is blocked now. -/
theorem no_hold_lost_in_blocking (run : List Turn) (turn : Turn) (m : Nat) (a : Account)
    (ha : (stateAfter run).account? m = some a) :
    let e : Entry := ⟨stateAfter run, turn⟩
    (a.waiting ≠ [] → ∃ b, (stateAfter (turn :: run)).account? m = some b) ∧
    (∀ b, (stateAfter (turn :: run)).account? m = some b →
      (∀ w, w ∈ e.completed m ↔ w ∈ a.waiting ∧ w ∉ b.waiting) ∧
      (∀ w ∈ e.completed m, e.completed m = [w] ∧
        (∀ u, u ≠ w.thread → b.mutex.native.levelOf u = 0) ∧
        ∃ returned mid, e.deeds m = returned ++ [.complete w] ∧ a.Performs returned mid ∧
          ∀ u, mid.mutex.native.levelOf u = 0) ∧
      (∀ t w, 0 < a.mutex.native.levelOf t → b.mutex.native.levelOf t = 0 →
        turn.conditions.choose a.waiting = some w →
          w ∈ a.waiting ∧ e.completed m = [w] ∧ b.mutex = ⟨.held w.thread 0, 1⟩ ∧
          (∀ hold, b.holders hold = if w.hold = hold then [w.thread] else []) ∧
          b.waiting = a.waiting.erase w) ∧
      ∀ t, 0 < a.mutex.native.levelOf t → 0 < b.mutex.native.levelOf t → e.completed m = []) ∧
    ∀ w, a.waiting.count w ≤ 1 ∧
      (deedsSince m (history run)).count (.wait w) =
        (deedsSince m (history run)).count (.complete w) + a.waiting.count w := by
  intro e
  have hv : e.before.Valid := valid_stateAfter run
  have hn := hv.waiting ha
  have hsound := sound_account run ha
  refine ⟨Entry.exists_account_of_waiting hv ha, ?_, ?_⟩
  · intro b hb
    have hmoves : e.Moves m a b := Entry.moves hv ha hb
    refine ⟨hmoves.mem_completed_iff hn, fun w => hmoves.completed_of_mem hn hsound, ?_,
      fun t => hmoves.completed_of_kept hn hsound⟩
    intro t w ht hzero hw
    obtain ⟨returned, mid, hands⟩ := hmoves.hands_of_chosen hn ht hzero hw
    have haccount := hands.account hsound
    refine ⟨hands.mem, hands.completed, ?_, ?_, hands.waiting⟩
    · rw [haccount, Account.mutex_enter]
    · intro hold
      rw [haccount]
      cases w.hold <;> cases hold <;> rfl
  · intro w
    refine ⟨List.nodup_iff_count_le_one.1 (hn.of_map _) w, ?_⟩
    have hcount := (performs_deedsSince run ha).count_waiting w
    rwa [Account.fresh, List.count_nil, Nat.add_zero] at hcount

/-- A thread takes a mutex twice with guards, and two others wait, for a raw hold and for a guard. -/
def crowdedRun : List Turn :=
  [.plain (.byThread 0 3 (.acquire .guard)), .plain (.byThread 0 2 (.acquire .raw)),
    .plain (.byThread 0 1 (.acquire .guard)), .plain (.byThread 0 1 (.acquire .guard)),
    .plain (.new 0)]

/-- The owner ends with its guards, and the call that came last goes first. -/
def lastComeTurn : Turn where
  step := .exit 1
  conditions := ⟨Faults.none, List.getLast?, true⟩
  honest := ⟨nofun, nofun, fun _ _ h => List.mem_of_getLast? h⟩

/-- The call for a guard completes, and the other one is blocked still. -/
theorem no_hold_lost_in_crowdedRun :
    ∃ a b, (stateAfter crowdedRun).account? 0 = some a ∧
      (stateAfter (lastComeTurn :: crowdedRun)).account? 0 = some b ∧
      a.waiting = [⟨⟨2, 0⟩, .raw⟩, ⟨⟨3, 0⟩, .guard⟩] ∧
      Entry.completed ⟨stateAfter crowdedRun, lastComeTurn⟩ 0 = [⟨⟨3, 0⟩, .guard⟩] ∧
      b.mutex = ⟨.held ⟨3, 0⟩ 0, 1⟩ ∧ b.holders .guard = [⟨3, 0⟩] ∧ b.holders .raw = [] ∧
      b.waiting = [⟨⟨2, 0⟩, .raw⟩] := by
  let a : Account :=
    ⟨⟨.held ⟨1, 0⟩ 1, 2⟩, [], [⟨1, 0⟩, ⟨1, 0⟩], [⟨⟨2, 0⟩, .raw⟩, ⟨⟨3, 0⟩, .guard⟩]⟩
  have ha : (stateAfter crowdedRun).account? 0 = some a := by rfl
  obtain ⟨hthere, hturn, -⟩ := no_hold_lost_in_blocking crowdedRun lastComeTurn 0 a ha
  obtain ⟨b, hb⟩ := hthere (by decide)
  have hlevel : b.mutex.native.levelOf ⟨1, 0⟩ = 0 := by
    have hafter : (stateAfter (lastComeTurn :: crowdedRun)).account? 0 =
        some ⟨⟨.held ⟨3, 0⟩ 0, 1⟩, [], [⟨3, 0⟩], [⟨⟨2, 0⟩, .raw⟩]⟩ := by rfl
    obtain rfl := Option.some.inj (hb.symm.trans hafter)
    rfl
  obtain ⟨-, -, hchosen, -⟩ := hturn b hb
  obtain ⟨-, hcompleted, hmutex, hholders, hwaiting⟩ :=
    hchosen ⟨1, 0⟩ ⟨⟨3, 0⟩, .guard⟩ (by decide) hlevel rfl
  exact ⟨a, b, ha, hb, rfl, hcompleted, hmutex, hholders .guard, hholders .raw, hwaiting⟩

end Interop.Lock
