import Interop.Proofs.LockBlocking
import Interop.Proofs.LockErasure
import Interop.Proofs.LockFrame

/-!
# Mutexes do not interfere

What becomes of a mutex can be learnt from the steps that name it and the ends of threads alone, and
two steps on different mutexes can change places.
-/

namespace Interop.Lock

/-! ### The steps that name a mutex -/

/-- Whether the turn concerns the mutex `m`: its step names it, or is the end of a thread, and is
not refused because the thread has a blocked call. -/
def Entry.concerns (m : Nat) (e : Entry) : Bool :=
  e.turn.step.mutex?.getD m = m ∧ e.report.outcome ≠ .error .threadBlocked

lemma Entry.after_of_not_concerns {e : Entry} (hv : e.before.Valid) {m : Nat}
    (hc : e.concerns m = false) :
    e.after.account? m = e.before.account? m ∧ e.after.ended = e.before.ended ∧
      e.after.alive = (e.before.summon? e.starts?).alive := by
  have hidle : e.turn.step.mutex?.getD m = m → e.report.outcome = .error .threadBlocked := by
    simpa [concerns] using hc
  cases hmutex : e.turn.step.mutex? with
  | some n =>
    rw [hmutex] at hidle
    refine ⟨?_, threads_after hmutex⟩
    by_cases hn : n = m
    · exact account?_of_error hv (hidle hn) m
    · exact account?_of_ne hv hmutex (Ne.symm hn)
  | none =>
    rw [hmutex] at hidle
    obtain ⟨number, hexit⟩ := Step.exists_exit hmutex
    rw [after_of_exit_error hexit (hidle rfl), starts?, hexit]
    exact ⟨rfl, rfl, rfl⟩

/-- A run without the turns that do not concern the mutex `m`. It stays that they bring threads to
life. -/
def restrict (m : Nat) : List Turn → List Event
  | [] => []
  | turn :: earlier =>
    let e : Entry := ⟨stateAfter earlier, turn⟩
    if e.concerns m then .turn turn :: restrict m earlier
    else e.starts?.toList.map .start ++ restrict m earlier

/-- The state `s'` has the same threads as `s`, and of the mutexes only `m`, in the same condition.
-/
structure Supervisor.IsPartOf (m : Nat) (s' s : Supervisor) : Prop where
  valid : s'.Valid
  account : s'.account? m = s.account? m
  others : ∀ k, k ≠ m → s'.account? k = none
  alive : s'.alive = s.alive
  ended : s'.ended = s.ended

lemma Supervisor.IsPartOf.isBlocked {m : Nat} {s' s : Supervisor} (h : s'.IsPartOf m s)
    (hv : s.Valid) {t : Thread} (ht : s'.isBlocked t = true) : s.isBlocked t = true := by
  obtain ⟨k, hk⟩ := (s'.isBlocked_iff h.valid.keys t).1 ht
  by_cases hkm : k = m
  · subst hkm
    refine (s.isBlocked_iff hv.keys t).2 ⟨k, ?_⟩
    rwa [waitingOn, ← h.account]
  · rw [waitingOn, h.others k hkm] at hk
    cases hk

lemma Supervisor.Valid.summon {s : Supervisor} (hv : s.Valid) (number : Nat) :
    (s.summon number).Valid where
  keys := by
    rw [s.mutexes_summon]
    exact hv.keys
  once m := by
    rw [waitingOn, s.account?_summon]
    exact hv.once m
  apart m n t hm hn := by
    rw [waitingOn, s.account?_summon] at hm hn
    exact hv.apart m n t hm hn
  lived m a t ha ht := by
    rw [s.account?_summon] at ha
    rw [HasLived, s.ended_summon]
    exact hv.lived m a t ha ht

namespace Supervisor.IsPartOf

variable {m : Nat} {e : Entry} {s' : Supervisor}

lemma after_exit {s : Supervisor} (h : s'.IsPartOf m s) (hv : s.Valid) {c : Conditions}
    {number : Nat} (hs : (s.exit c number).outcome ≠ .error .threadBlocked) :
    (∀ k, k ≠ m → (s'.exit c number).after.account? k = none) ∧
      (s'.exit c number).after.alive = (s.exit c number).after.alive ∧
      (s'.exit c number).after.ended = (s.exit c number).after.ended := by
  rcases exit_together h.alive h.ended hs (h.isBlocked hv) with ⟨hrep, hrep'⟩ | ⟨hrep, hrep'⟩
  · rw [hrep, hrep']
    exact ⟨h.others, h.alive, h.ended⟩
  · rw [hrep, hrep']
    refine ⟨?_, congrArg (List.erase · number) h.alive, congrArg (List.cons number) h.ended⟩
    intro k hk
    exact (s'.account?_without c number k).trans (congrArg _ (h.others k hk))

/-- A turn that concerns the mutex does the same in the part as in the whole. -/
theorem turn (h : s'.IsPartOf m e.before) (hv : e.before.Valid) (hc : e.concerns m = true) :
    (Entry.after ⟨s', e.turn⟩).IsPartOf m e.after ∧ Entry.SameOn m ⟨s', e.turn⟩ e := by
  obtain ⟨hstep, hs⟩ : e.turn.step.mutex?.getD m = m ∧ e.report.outcome ≠ .error .threadBlocked := by
    simpa [Entry.concerns] using hc
  have hblocked : ∀ t ∈ e.before.stepper? e.turn.step,
      s'.isBlocked t = true → e.before.isBlocked t = true := fun t _ => h.isBlocked hv
  have hvalid : (Entry.after ⟨s', e.turn⟩).Valid := Entry.valid_after h.valid
  cases hmutex : e.turn.step.mutex? with
  | some n =>
    rw [hmutex] at hstep
    obtain rfl : n = m := hstep
    have hsame := Entry.sameOn_of_mutex hmutex hs h.account h.ended hblocked
    obtain ⟨hended, halive⟩ := Entry.threads_after hmutex
    obtain ⟨hended', halive'⟩ := Entry.threads_after (e := ⟨s', e.turn⟩) hmutex
    have hstarts : Entry.starts? ⟨s', e.turn⟩ = e.starts? :=
      congrArg e.turn.step.starts? (hsame.report hmutex).outcome
    refine ⟨⟨hvalid, hsame.after, ?_, ?_, ?_⟩, hsame⟩
    · intro k hk
      exact (Entry.account?_of_ne (e := ⟨s', e.turn⟩) h.valid hmutex hk).trans (h.others k hk)
    · rw [halive, halive', hstarts]
      exact Supervisor.alive_summon?_congr _ h.alive
    · rw [hended, hended', h.ended]
  | none =>
    obtain ⟨number, hexit⟩ := Step.exists_exit hmutex
    have hsame := Entry.sameOn_of_exit hv hexit hs h.valid h.account h.alive h.ended hblocked
    have hreport := Entry.report_exit hexit
    have hreport' := Entry.report_exit (e := ⟨s', e.turn⟩) hexit
    obtain ⟨hothers, halive, hended⟩ := h.after_exit hv (hreport ▸ hs)
    refine ⟨⟨hvalid, hsame.after, ?_, ?_, ?_⟩, hsame⟩
    · rw [Entry.after, hreport']
      exact hothers
    · rw [Entry.after, Entry.after, hreport, hreport']
      exact halive
    · rw [Entry.after, Entry.after, hreport, hreport']
      exact hended

/-- A turn that does not concern the mutex at most brings a thread to life. -/
theorem start (h : s'.IsPartOf m e.before) (hv : e.before.Valid) (hc : e.concerns m = false) :
    (s'.summon? e.starts?).IsPartOf m e.after := by
  obtain ⟨haccount, hended, halive⟩ := Entry.after_of_not_concerns hv hc
  refine ⟨?_, ?_, ?_, ?_, ?_⟩
  · cases e.starts? with
    | some number => exact h.valid.summon number
    | none => exact h.valid
  · rw [Supervisor.account?_summon?, haccount, h.account]
  · intro k hk
    rw [Supervisor.account?_summon?, h.others k hk]
  · rw [halive]
    exact Supervisor.alive_summon?_congr _ h.alive
  · rw [Supervisor.ended_summon?, hended, h.ended]

end Supervisor.IsPartOf

theorem through_restrict (m : Nat) (run : List Turn) :
    (stateThrough (restrict m run)).IsPartOf m (stateAfter run) ∧
      List.Forall₂ (Entry.SameOn m) (historyThrough (restrict m run))
        ((history run).filter (Entry.concerns m)) := by
  induction run with
  | nil => exact ⟨⟨.initial, rfl, fun _ _ => rfl, rfl, rfl⟩, .nil⟩
  | cons turn earlier ih =>
    obtain ⟨hpart, hsame⟩ := ih
    have hv := valid_stateAfter earlier
    simp only [restrict, history, List.filter_cons]
    cases hc : Entry.concerns m ⟨stateAfter earlier, turn⟩ with
    | true =>
      obtain ⟨hafter, hentry⟩ := hpart.turn (e := ⟨stateAfter earlier, turn⟩) hv hc
      exact ⟨hafter, .cons hentry hsame⟩
    | false =>
      have hafter := hpart.start (e := ⟨stateAfter earlier, turn⟩) hv hc
      cases hstarts : Entry.starts? ⟨stateAfter earlier, turn⟩ with
      | none =>
        rw [hstarts] at hafter
        exact ⟨hafter, hsame⟩
      | some number =>
        rw [hstarts] at hafter
        exact ⟨hafter, hsame⟩

/-! ### Steps that change places -/

namespace Entry

variable {e : Entry} {m : Nat}

/-- The threads that a turn on the mutex `m` is the work of: the one whose step it is, and those
whose blocked calls complete in it. -/
def parties (e : Entry) (m : Nat) : List Thread :=
  (e.before.stepper? e.turn.step).toList ++ (e.completed m).map Waiter.thread

/-- A turn unblocks no other threads than those whose calls complete in it. -/
lemma isBlocked_after (hv : e.before.Valid) (hstep : e.turn.step.mutex? = some m) {t : Thread}
    (ht : e.before.isBlocked t = true) (hparties : t ∉ e.parties m) : e.after.isBlocked t = true := by
  obtain ⟨k, hk⟩ := (e.before.isBlocked_iff hv.keys t).1 ht
  refine (e.after.isBlocked_iff (valid_after hv).keys t).2 ⟨k, ?_⟩
  by_cases hkm : k = m
  · subst hkm
    obtain ⟨a, ha, w, hw, rfl⟩ := (e.before.mem_waitingOn_iff k t).1 hk
    cases hb : e.after.account? k with
    | none =>
      have halters := e.alters hv k
      rw [ha, hb] at halters
      cases halters with
      | dropped _ hdrops =>
        have hunborrowed := unborrowed_of_drops hdrops ha
        have hnone : a.waiting = [] := by
          simpa [Account.isBorrowed] using (Bool.or_eq_false_iff.1 hunborrowed).2
        rw [hnone] at hw
        cases hw
    | some b =>
      have hcompleted := (moves hv ha hb).mem_completed_iff (hv.waiting ha) w
      refine (e.after.mem_waitingOn_iff k _).2 ⟨b, hb, w, ?_, rfl⟩
      by_contra hnot
      refine hparties (List.mem_append_right _ (List.mem_map_of_mem ?_))
      exact hcompleted.2 ⟨hw, hnot⟩
  · rwa [Supervisor.waitingOn, account?_of_ne hv hstep hkm]

/-- A turn blocks no other thread than the one whose step it is. -/
lemma isBlocked_before (hv : e.before.Valid) {t : Thread} (ht : e.after.isBlocked t = true)
    (hstepper : t ∉ e.before.stepper? e.turn.step) : e.before.isBlocked t = true := by
  obtain ⟨k, hk⟩ := (e.after.isBlocked_iff (valid_after hv).keys t).1 ht
  refine (e.before.isBlocked_iff hv.keys t).2 ⟨k, ?_⟩
  rcases waitingOn_after hv k with hsub | ⟨w, hdeeds, hafter⟩
  · exact hsub.subset hk
  · rw [hafter, List.mem_append, List.mem_singleton] at hk
    rcases hk with hk | rfl
    · exact hk
    · have hmem : .wait w ∈ e.deeds k := hdeeds ▸ List.mem_singleton_self _
      obtain ⟨a, reply, -, -, hstepDeeds⟩ := mem_deeds hmem
      obtain ⟨-, number, act, hturn, hw⟩ := Step.deeds_of_wait (hstepDeeds ▸ hmem)
      refine absurd ?_ hstepper
      rw [hturn, hw]
      rfl

end Entry

/-- Two states with the same mutexes, in which the same threads live and have ended. -/
structure Supervisor.Agrees (s' s : Supervisor) : Prop where
  account : ∀ k, s'.account? k = s.account? k
  alive : ∀ number, number ∈ s'.alive ↔ number ∈ s.alive
  ended : s'.ended = s.ended

/-- Two steps on different mutexes change places, unless the thread of the second has a part in the
first. -/
theorem turns_commute {s : Supervisor} (hv : s.Valid) {p q : Turn} {m n : Nat}
    (hp : p.step.mutex? = some m) (hq : q.step.mutex? = some n) (hmn : m ≠ n) :
    let e₁ : Entry := ⟨s, p⟩
    let e₂ : Entry := ⟨e₁.after, q⟩
    let f₁ : Entry := ⟨s, q⟩
    let f₂ : Entry := ⟨f₁.after, p⟩
    e₁.report.outcome ≠ .error .threadBlocked → e₂.report.outcome ≠ .error .threadBlocked →
      (∀ t ∈ s.stepper? q.step, t ∉ e₁.parties m) →
      f₁.SameOn n e₂ ∧ f₂.SameOn m e₁ ∧ f₂.after.Agrees e₂.after := by
  intro e₁ e₂ f₁ f₂ hs₁ hs₂ hparties
  have hv₁ : e₁.after.Valid := Entry.valid_after (e := e₁) hv
  have hw₁ : f₁.after.Valid := Entry.valid_after (e := f₁) hv
  obtain ⟨hended₁, -⟩ := Entry.threads_after (e := e₁) hp
  obtain ⟨hended₂, -⟩ := Entry.threads_after (e := e₂) hq
  obtain ⟨hendedf₁, -⟩ := Entry.threads_after (e := f₁) hq
  obtain ⟨hendedf₂, -⟩ := Entry.threads_after (e := f₂) hp
  have hstepper : e₁.after.stepper? q.step = s.stepper? q.step :=
    Supervisor.stepper?_congr hended₁ q.step
  have hframe₁ {k : Nat} (hk : k ≠ m) : e₁.after.account? k = s.account? k :=
    Entry.account?_of_ne (e := e₁) hv hp hk
  have hframe₂ {k : Nat} (hk : k ≠ n) : e₂.after.account? k = e₁.after.account? k :=
    Entry.account?_of_ne (e := e₂) hv₁ hq hk
  have hframef₁ {k : Nat} (hk : k ≠ n) : f₁.after.account? k = s.account? k :=
    Entry.account?_of_ne (e := f₁) hv hq hk
  have hframef₂ {k : Nat} (hk : k ≠ m) : f₂.after.account? k = f₁.after.account? k :=
    Entry.account?_of_ne (e := f₂) hw₁ hp hk
  -- what blocks the second thread in `s` would still do so after the first step
  have hsame₁ : f₁.SameOn n e₂ := by
    refine Entry.sameOn_of_mutex (e := e₂) hq hs₂ (hframe₁ hmn.symm).symm hended₁.symm ?_
    intro t ht hblocked
    exact Entry.isBlocked_after (e := e₁) hv hp hblocked (hparties t (hstepper ▸ ht))
  have hsame₂ : f₂.SameOn m e₁ := by
    refine Entry.sameOn_of_mutex (e := e₁) hp hs₁ (hframef₁ hmn) hendedf₁ ?_
    intro t ht hblocked
    refine Entry.isBlocked_before (e := f₁) hv hblocked ?_
    intro hq'
    exact hparties t hq' (List.mem_append_left _ (Option.mem_toList.2 ht))
  refine ⟨hsame₁, hsame₂, ?_, ?_, ?_⟩
  · intro k
    by_cases hkm : k = m
    · subst hkm
      rw [hsame₂.after, hframe₂ hmn]
    · rw [hframef₂ hkm]
      by_cases hkn : k = n
      · subst hkn
        exact hsame₁.after
      · rw [hframef₁ hkn, hframe₂ hkn, hframe₁ hkm]
  · intro number
    have hstarts₁ := hsame₁.starts? hq
    have hstarts₂ := hsame₂.starts? hp
    rw [Entry.mem_alive_after (e := f₂) hp, Entry.mem_alive_after (e := f₁) hq,
      Entry.mem_alive_after (e := e₂) hq, Entry.mem_alive_after (e := e₁) hp, hstarts₁, hstarts₂]
    exact or_right_comm
  · rw [hendedf₂, hendedf₁, hended₂, hended₁]

/-- Mutexes do not interfere. Take from any run the turns that concern one mutex, which are those
whose steps name it and those in which threads end, and of the others only that they bring threads
to life: a thread that is blocked takes no steps. Then the mutex fares as in the whole run: the same
is done to it turn by turn, with the same answers, records and native calls if the step names it,
and in the end its owner, level, count of holds, guards and blocked calls are the same. So steps on
different mutexes change places, after any run, if neither is by a thread that is blocked, and the
thread of the second is not that of the first and has no blocked call that completes in it: in
either order both steps have the same reports, and they lead to the same accounts and the same
threads. -/
theorem mutexes_are_independent (run : List Turn) :
    (∀ m, (stateThrough (restrict m run)).account? m = (stateAfter run).account? m ∧
      List.Forall₂ (Entry.SameOn m) (historyThrough (restrict m run))
        ((history run).filter (Entry.concerns m))) ∧
    ∀ (p q : Turn) (m n : Nat), p.step.mutex? = some m → q.step.mutex? = some n → m ≠ n →
      let e₁ : Entry := ⟨stateAfter run, p⟩
      let e₂ : Entry := ⟨stateAfter (p :: run), q⟩
      e₁.report.outcome ≠ .error .threadBlocked → e₂.report.outcome ≠ .error .threadBlocked →
        (∀ t ∈ (stateAfter run).stepper? q.step, t ∉ e₁.parties m) →
        Entry.SameOn n ⟨stateAfter run, q⟩ e₂ ∧ Entry.SameOn m ⟨stateAfter (q :: run), p⟩ e₁ ∧
        (stateAfter (p :: q :: run)).Agrees (stateAfter (q :: p :: run)) := by
  refine ⟨?_, ?_⟩
  · intro m
    obtain ⟨hpart, hsame⟩ := through_restrict m run
    exact ⟨hpart.account, hsame⟩
  · intro p q m n hp hq hmn
    exact turns_commute (valid_stateAfter run) hp hq hmn

/-- Two mutexes in use: a thread holds one with a guard and another waits for it, and a third thread
holds the other one. -/
def doubleRun : List Turn :=
  [.plain (.byThread 0 3 (.acquire .raw)), .plain (.byThread 1 2 (.tryAcquire .raw)),
    .plain (.byThread 0 1 (.acquire .guard)), .plain (.new 1), .plain (.new 0)]

/-- The first mutex is handed over, and the second is taken again, in either order. -/
theorem mutexes_are_independent_in_doubleRun :
    let p : Turn := .plain (.byThread 0 1 (.release .guard))
    let q : Turn := .plain (.byThread 1 2 (.acquire .guard))
    (stateThrough (restrict 0 (q :: p :: doubleRun))).account? 0 =
        some ⟨⟨.held ⟨3, 0⟩ 0, 1⟩, [⟨3, 0⟩], [], []⟩ ∧
      (Entry.report ⟨stateAfter doubleRun, q⟩).outcome = .ok .acquired ∧
      (Entry.report ⟨stateAfter (q :: doubleRun), p⟩).outcome = .ok (.released [⟨3, 0⟩]) ∧
      (stateAfter (p :: q :: doubleRun)).Agrees (stateAfter (q :: p :: doubleRun)) := by
  intro p q
  obtain ⟨haccount, -⟩ := (mutexes_are_independent (q :: p :: doubleRun)).1 0
  obtain ⟨hq, hp, hagrees⟩ := (mutexes_are_independent doubleRun).2 p q 0 1 rfl rfl (by decide)
    (by decide) (by decide) (by decide)
  exact ⟨haccount.trans (by rfl), (hq.report rfl).outcome.trans (by rfl),
    (hp.report rfl).outcome.trans (by rfl), hagrees⟩

end Interop.Lock
