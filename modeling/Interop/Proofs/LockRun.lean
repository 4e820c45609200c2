import Interop.Proofs.LockTurns

/-!
# Runs of the supervisor

A run is a list of turns, most recent first. Whatever holds of a fresh account and is kept by every
deed holds of every mutex in every state that a run reaches, and the account of a mutex comes of all
the deeds since the mutex was created.
-/

namespace Interop.Lock

def stateAfter : List Turn → Supervisor
  | [] => {}
  | turn :: earlier => Entry.after ⟨stateAfter earlier, turn⟩

/-- The turns of a run with their states, most recent first. -/
def history : List Turn → List Entry
  | [] => []
  | turn :: earlier => ⟨stateAfter earlier, turn⟩ :: history earlier

/-! ### What every state satisfies -/

lemma ThreadStep.deeds_of_wait {a : Account} {t : Thread} {step : ThreadStep} {reply : Reply}
    {w : Waiter} (h : .wait w ∈ step.deeds a t reply) :
    step.deeds a t reply = [.wait w] ∧ w.thread = t := by
  unfold ThreadStep.deeds at h ⊢
  split at h
  · simp at h
  · simp only [List.mem_singleton, Deed.wait.injEq] at h
    subst h
    exact ⟨rfl, rfl⟩
  · simp at h
  · rcases List.mem_cons.1 h with h | h
    · cases h
    · exact absurd h (a.wait_notMem_completions _ w)
  · simp at h
  · cases h

lemma Step.deeds_of_wait {s : Supervisor} {m : Nat} {a : Account} {step : Step} {reply : Reply}
    {w : Waiter} (h : .wait w ∈ step.deeds s m a reply) :
    step.deeds s m a reply = [.wait w] ∧
      ∃ number act, step = .byThread m number act ∧ w.thread = s.thread number := by
  unfold Step.deeds at h ⊢
  split at h
  · split at h
    · rename_i n number act hn
      subst hn
      obtain ⟨hd, hw⟩ := ThreadStep.deeds_of_wait h
      simp only [if_true]
      exact ⟨hd, number, act, rfl, hw⟩
    · cases h
  · split at h
    · exact absurd h (a.wait_notMem_completions _ w)
    · cases h
  · rcases List.mem_append.1 h with h | h
    · cases List.eq_of_mem_replicate h
    · exact absurd h (a.wait_notMem_completions _ w)
  · cases h

lemma Account.actor_of_mem_completions {a : Account} {woke : List Thread} {d : Deed}
    (h : d ∈ a.completions woke) : d.actor ∈ a.waiting.map Waiter.thread := by
  obtain ⟨w, hw, rfl⟩ := List.mem_map.1 h
  exact List.mem_map_of_mem (List.mem_of_mem_filter hw)

lemma ThreadStep.actor_of_mem_deeds {a : Account} {t : Thread} {step : ThreadStep} {reply : Reply}
    {d : Deed} (h : d ∈ step.deeds a t reply) :
    d.actor = t ∨ d.actor ∈ a.waiting.map Waiter.thread := by
  unfold ThreadStep.deeds at h
  split at h
  · exact .inl (List.mem_singleton.1 h ▸ rfl)
  · exact .inl (List.mem_singleton.1 h ▸ rfl)
  · exact .inl (List.mem_singleton.1 h ▸ rfl)
  · rcases List.mem_cons.1 h with rfl | h
    · exact .inl rfl
    · exact .inr (Account.actor_of_mem_completions h)
  · exact .inl (List.mem_singleton.1 h ▸ rfl)
  · cases h

lemma Step.actor_of_mem_deeds {s : Supervisor} {m : Nat} {a : Account} {step : Step} {reply : Reply}
    {d : Deed} (h : d ∈ step.deeds s m a reply) :
    (∃ number, d.actor = s.thread number) ∨ d.actor ∈ a.waiting.map Waiter.thread := by
  unfold Step.deeds at h
  split at h
  · split at h
    · exact (ThreadStep.actor_of_mem_deeds h).imp_left fun h => ⟨_, h⟩
    · cases h
  · split at h
    · exact .inr (Account.actor_of_mem_completions h)
    · cases h
  · rcases List.mem_append.1 h with h | h
    · exact .inl ⟨_, congrArg Deed.actor (List.eq_of_mem_replicate h)⟩
    · exact .inr (Account.actor_of_mem_completions h)
  · cases h

namespace Entry

variable {e : Entry}

lemma mem_deeds {d : Deed} {m : Nat} (h : d ∈ e.deeds m) :
    ∃ a reply, e.before.account? m = some a ∧ e.report.outcome = .ok reply ∧
      e.deeds m = e.turn.step.deeds e.before m a reply := by
  unfold deeds at h ⊢
  split at h
  · rename_i a reply ha hout
    exact ⟨a, reply, ha, hout, rfl⟩
  · cases h

/-- A call that becomes blocked is by a thread that was not. -/
lemma deeds_of_wait {m : Nat} {w : Waiter} (h : .wait w ∈ e.deeds m) :
    e.deeds m = [.wait w] ∧ e.before.isBlocked w.thread = false ∧
      ∃ number act, e.turn.step = .byThread m number act := by
  obtain ⟨a, reply, -, hout, hdeeds⟩ := mem_deeds h
  rw [hdeeds] at h ⊢
  obtain ⟨hd, number, act, hstep, hw⟩ := Step.deeds_of_wait h
  refine ⟨hd, ?_, number, act, hstep⟩
  have hrep : e.report = e.before.runBy e.turn.conditions m number act := by
    unfold report
    rw [hstep]
    rfl
  rcases runBy_cases e.before e.turn.conditions m number act with
    ⟨after, r, hr, -⟩ | ⟨-, -, -, -, hb, -⟩
  · rw [hrep, hr] at hout
    cases hout
  · rw [hw]
    exact hb

/-- Mutexes keep distinct numbers, and the threads that ended stay ended. -/
lemma frame (hv : e.before.Valid) : (e.after.mutexes.map Prod.fst).Nodup ∧
    e.before.ended.Sublist e.after.ended := by
  cases e.treats hv with
  | keeps _ _ keys ended => exact ⟨keys ▸ hv.keys, ended⟩
  | fails m f _ report =>
    rw [after, report]
    exact ⟨hv.keys, List.Sublist.refl _⟩
  | creates m _ absent report =>
    rw [after, report]
    refine ⟨?_, List.Sublist.refl _⟩
    rw [(Supervisor.keys_insert_perm m _ e.before.mutexes).nodup_iff, List.nodup_cons]
    refine ⟨?_, hv.keys⟩
    intro hmem
    obtain ⟨⟨k, a⟩, hka, rfl⟩ := List.mem_map.1 hmem
    rw [Supervisor.mem_iff_lookup hv.keys] at hka
    cases hka.symm.trans absent
  | drops m a _ _ _ report =>
    rw [after, report]
    exact ⟨hv.keys.sublist (List.filter_sublist.map Prod.fst), List.Sublist.refl _⟩

lemma waitingOn_after (hv : e.before.Valid) (m : Nat) :
    (e.after.waitingOn m).Sublist (e.before.waitingOn m) ∨
      ∃ w, e.deeds m = [.wait w] ∧
        e.after.waitingOn m = e.before.waitingOn m ++ [w.thread] := by
  have h := e.alters hv m
  unfold Supervisor.waitingOn
  cases hb : e.before.account? m <;> cases ha : e.after.account? m <;> rw [ha, hb] at h
  · exact .inl (List.Sublist.refl _)
  · cases h
    exact .inl (List.Sublist.refl _)
  · exact .inl (List.nil_sublist _)
  · rename_i a b
    have hp : a.Performs (e.deeds m) b := by
      cases h with
      | performed hp => exact hp
    by_cases hw : ∃ w, .wait w ∈ e.deeds m
    · obtain ⟨w, hw⟩ := hw
      have hd := (deeds_of_wait hw).1
      rw [hd] at hp
      obtain _ | ⟨-, hnil⟩ := hp
      cases hnil
      exact .inr ⟨w, hd, by simp [Account.apply]⟩
    · exact .inl ((hp.waiting_sublist (not_exists.1 hw)).map _)

lemma notMem_waitingOn (hv : e.before.Valid) {t : Thread} (h : e.before.isBlocked t = false) (m : Nat) :
    t ∉ e.before.waitingOn m := by
  intro hm
  have hb := (e.before.isBlocked_iff hv.keys t).2 ⟨m, hm⟩
  rw [h] at hb
  cases hb

lemma hasLived_after (hv : e.before.Valid) {t : Thread} (h : e.before.HasLived t) :
    e.after.HasLived t :=
  Nat.le_trans h ((frame hv).2.count_le t.number)

lemma hasLived_actor (hv : e.before.Valid) {m : Nat} {d : Deed} (h : d ∈ e.deeds m) :
    e.before.HasLived d.actor := by
  obtain ⟨a, reply, ha, -, hdeeds⟩ := mem_deeds h
  rw [hdeeds] at h
  rcases Step.actor_of_mem_deeds h with ⟨number, hact⟩ | hact
  · rw [hact]
    exact Nat.le_refl _
  · exact hv.lived m a _ ha (.inr (.inr hact))

theorem valid_after (hv : e.before.Valid) : e.after.Valid where
  keys := (frame hv).1
  once m := by
    rcases waitingOn_after hv m with hsub | ⟨w, hd, happ⟩
    · exact (hv.once m).sublist hsub
    · have hfree := (deeds_of_wait (hd ▸ List.mem_singleton_self _)).2.1
      rw [happ, List.nodup_append]
      refine ⟨hv.once m, List.nodup_singleton _, ?_⟩
      intro t ht u hu heq
      rw [List.mem_singleton] at hu
      exact notMem_waitingOn hv hfree m (hu ▸ heq ▸ ht)
  apart m n t hm hn := by
    rcases waitingOn_after hv m with hsubm | ⟨w, hdm, happm⟩ <;>
      rcases waitingOn_after hv n with hsubn | ⟨v, hdn, happn⟩
    · exact hv.apart m n t (hsubm.subset hm) (hsubn.subset hn)
    · have hfree := (deeds_of_wait (hdn ▸ List.mem_singleton_self _)).2.1
      rw [happn, List.mem_append, List.mem_singleton] at hn
      rcases hn with hn | rfl
      · exact hv.apart m n t (hsubm.subset hm) hn
      · exact absurd (hsubm.subset hm) (notMem_waitingOn hv hfree m)
    · have hfree := (deeds_of_wait (hdm ▸ List.mem_singleton_self _)).2.1
      rw [happm, List.mem_append, List.mem_singleton] at hm
      rcases hm with hm | rfl
      · exact hv.apart m n t hm (hsubn.subset hn)
      · exact absurd (hsubn.subset hn) (notMem_waitingOn hv hfree n)
    · obtain ⟨-, -, number, act, hstep⟩ := deeds_of_wait (hdm ▸ List.mem_singleton_self _)
      obtain ⟨-, -, number', act', hstep'⟩ := deeds_of_wait (hdn ▸ List.mem_singleton_self _)
      exact (Step.byThread.inj (hstep.symm.trans hstep')).1
  lived m b t hb ht := by
    have h := e.alters hv m
    rw [hb] at h
    generalize hbefore : e.before.account? m = before at h
    cases h with
    | created h => simp [Account.Involves, Account.fresh] at ht
    | performed hp =>
      refine hasLived_after hv ?_
      rcases hp.involves ht with ha | ⟨d, hd, rfl⟩
      · exact hv.lived m _ t hbefore ha
      · exact hasLived_actor hv hd

end Entry

lemma Supervisor.Valid.initial : Supervisor.Valid {} where
  keys := List.nodup_nil
  once _ := List.nodup_nil
  apart _ _ _ h := by cases h
  lived _ _ _ h := by cases h

theorem valid_stateAfter (run : List Turn) : (stateAfter run).Valid := by
  induction run with
  | nil => exact .initial
  | cons turn earlier ih => exact Entry.valid_after ih

/-- Induction over the life of a mutex: what holds when it is created, and in each turn passes from
the account before to the account after, holds of its account now. -/
theorem account_induction {m : Nat} {P : List Turn → Account → Prop}
    (created : ∀ turn earlier, Entry.creates ⟨stateAfter earlier, turn⟩ m = true →
      P (turn :: earlier) (Account.fresh ⟨.free, 0⟩))
    (performed : ∀ turn earlier a b,
      (stateAfter earlier).account? m = some a → (stateAfter (turn :: earlier)).account? m = some b →
      a.Performs (Entry.deeds ⟨stateAfter earlier, turn⟩ m) b → P earlier a → P (turn :: earlier) b)
    (run : List Turn) {a : Account} (ha : (stateAfter run).account? m = some a) : P run a := by
  induction run generalizing a with
  | nil => cases ha
  | cons turn earlier ih =>
    have h := Entry.alters ⟨stateAfter earlier, turn⟩ (valid_stateAfter earlier) m
    change Entry.Alters _ m _ ((stateAfter (turn :: earlier)).account? m) at h
    rw [ha] at h
    generalize hbefore : Supervisor.account? _ m = before at h
    cases h with
    | created h => exact created turn earlier h
    | performed hp => exact performed turn earlier _ a hbefore ha hp (ih hbefore)

/-- What holds of a fresh account and is kept by every deed holds of every mutex in a run. -/
theorem account_invariant {P : Account → Prop} (fresh : P (Account.fresh ⟨.free, 0⟩))
    (step : ∀ a d, P a → a.Permits d → P (a.apply d)) (run : List Turn) {m : Nat} {a : Account}
    (ha : (stateAfter run).account? m = some a) : P a :=
  account_induction (P := fun _ a => P a) (fun _ _ _ => fresh)
    (fun _ _ _ _ _ _ hp ih => hp.invariant (fun a d _ => step a d) ih) run ha

theorem sound_account (run : List Turn) {m : Nat} {a : Account}
    (ha : (stateAfter run).account? m = some a) : a.Sound :=
  account_invariant .fresh (fun _ _ => Account.Sound.apply) run ha

/-! ### The deeds of a lifetime -/

/-- What was done to the mutex `m` since it was last created, oldest first. -/
def deedsSince (m : Nat) : List Entry → List Deed
  | [] => []
  | e :: earlier => if e.creates m then [] else deedsSince m earlier ++ e.deeds m

/-- The account of a mutex comes of a fresh one by the deeds since the mutex was created. -/
theorem performs_deedsSince (run : List Turn) {m : Nat} {a : Account}
    (ha : (stateAfter run).account? m = some a) :
    (Account.fresh ⟨.free, 0⟩).Performs (deedsSince m (history run)) a := by
  refine account_induction
    (P := fun run a => (Account.fresh ⟨.free, 0⟩).Performs (deedsSince m (history run)) a) ?_ ?_ run ha
  · intro turn earlier hc
    rw [history, deedsSince, if_pos hc]
    exact .nil _
  · intro turn earlier a b hbefore _ hp ih
    have hc : ¬Entry.creates ⟨stateAfter earlier, turn⟩ m = true := by
      intro hc
      have hnone : (stateAfter earlier).account? m = none := Entry.account?_of_creates hc
      rw [hnone] at hbefore
      cases hbefore
    rw [history, deedsSince, if_neg hc]
    exact ih.append hp

end Interop.Lock
