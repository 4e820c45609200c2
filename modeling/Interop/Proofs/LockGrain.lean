import Interop.Proofs.LockDeeds
import Mathlib.Logic.Function.Basic

/-!
# The count of holds between the steps of an operation

To take a mutex is two atomic steps, the native lock and then the count of holds; to give it back is
two in the opposite order. Here the steps of any number of threads are interleaved at will. The level
of a thread is what it owns and has not begun to give back, and one more while it is between two
steps. So only the owner can be there, and the count is behind the native lock by one while it is.
-/

namespace Interop.Lock

/-- Where a thread is: outside all operations, or between the two steps of one. -/
inductive Phase
  | idle
  | counting
  | unlocking
  deriving Repr, DecidableEq

/-- One atomic step of an operation. -/
inductive Grain
  | lock
  | count
  | uncount
  | unlock
  deriving Repr, DecidableEq

/-- A mutex with, for each thread, where it is and how often it has taken the mutex without having
begun to give it back. -/
structure Machine where
  mutex : Mutex
  phase : Thread → Phase
  own : Thread → Nat

namespace Machine

def initial : Machine := ⟨⟨.free, 0⟩, fun _ => .idle, fun _ => 0⟩

/-- The machine once a thread has changed the mutex and its own place in it. -/
def put (s : Machine) (t : Thread) (mutex : Mutex) (phase : Phase) (own : Nat) : Machine where
  mutex := mutex
  phase := Function.update s.phase t phase
  own := Function.update s.own t own

/-- A thread takes an atomic step. It gives back only what it owns. -/
inductive Step (s : Machine) (t : Thread) : Grain → Machine → Prop
  | lock {native : NativeLock} : s.phase t = .idle → s.mutex.native.attempt t = .taken native →
      Step s t .lock (s.put t { s.mutex with native := native } .counting (s.own t))
  | count : s.phase t = .counting →
      Step s t .count (s.put t s.mutex.count .idle (s.own t + 1))
  | uncount : s.phase t = .idle → 0 < s.own t →
      Step s t .uncount (s.put t s.mutex.uncount .unlocking (s.own t - 1))
  | unlock : s.phase t = .unlocking →
      Step s t .unlock (s.put t s.mutex.unlockNative .idle (s.own t))

inductive Reachable : Machine → Prop
  | initial : Reachable initial
  | step {s s' : Machine} {t : Thread} {grain : Grain} : Reachable s → Step s t grain s' →
      Reachable s'

/-! ### The steps put together -/

/-- The two steps of a call that takes the mutex are `Mutex.acquire` when nothing comes between. -/
theorem acquire_in_steps {s : Machine} {t : Thread} (hidle : s.phase t = .idle) (mutex : Mutex) :
    s.mutex.acquire t Faults.none = .taken mutex ↔
      ∃ s₁ s₂, Step s t .lock s₁ ∧ Step s₁ t .count s₂ ∧ s₂.mutex = mutex := by
  constructor
  · intro h
    unfold Mutex.acquire Faults.none at h
    cases hl : s.mutex.native.attempt t with
    | taken native =>
      simp only [hl, Mutex.Acquisition.taken.injEq] at h
      exact ⟨_, _, .lock hidle hl, .count (Function.update_self ..), h⟩
    | busy => simp [hl] at h
    | saturated => simp [hl] at h
  · rintro ⟨s₁, s₂, hlock, hcount, rfl⟩
    cases hlock with
    | lock _ hl =>
      cases hcount
      simp [Mutex.acquire, Faults.none, hl, put]

theorem tryAcquire_in_steps {s : Machine} {t : Thread} (hidle : s.phase t = .idle) (mutex : Mutex) :
    s.mutex.tryAcquire t Faults.none = some mutex ↔
      ∃ s₁ s₂, Step s t .lock s₁ ∧ Step s₁ t .count s₂ ∧ s₂.mutex = mutex := by
  rw [← acquire_in_steps hidle]
  unfold Mutex.tryAcquire Mutex.acquire Faults.none
  cases s.mutex.native.attempt t <;> simp

/-- The two steps of a call that gives the mutex back are `Mutex.release`. -/
theorem release_in_steps {s : Machine} {t : Thread} (hidle : s.phase t = .idle)
    (hown : 0 < s.own t) :
    ∃ s₁ s₂, Step s t .uncount s₁ ∧ Step s₁ t .unlock s₂ ∧ s₂.mutex = s.mutex.release :=
  ⟨_, _, .uncount hidle hown, .unlock (Function.update_self ..), rfl⟩

end Machine

/-! ### The invariant -/

/-- One level if the thread is between two steps: natively it is locked and not counted. -/
def Phase.pending : Phase → Nat
  | .idle => 0
  | .counting | .unlocking => 1

namespace Machine

/-- How the native lock and the count agree with what the threads own and where they are. -/
structure Balanced (s : Machine) : Prop where
  level : ∀ t, s.mutex.native.levelOf t = s.own t + (s.phase t).pending
  settled : (∀ t, s.phase t = .idle) → s.mutex.holds = s.mutex.native.level
  behind : ∀ t, s.phase t ≠ .idle → s.mutex.holds + 1 = s.mutex.native.level

lemma Balanced.initial : initial.Balanced where
  level _ := rfl
  settled _ := rfl
  behind _ h := absurd rfl h

namespace Balanced

variable {s : Machine} {t : Thread}

lemma owner_of_busy (h : s.Balanced) (ht : s.phase t ≠ .idle) :
    s.mutex.native.owner? = some t := by
  have hl := h.level t
  rw [← NativeLock.levelOf_pos_iff, hl]
  cases hp : s.phase t with
  | idle => exact absurd hp ht
  | counting => simp [Phase.pending]
  | unlocking => simp [Phase.pending]

lemma owner_of_own (h : s.Balanced) (ht : 0 < s.own t) : s.mutex.native.owner? = some t := by
  have hl := h.level t
  rw [← NativeLock.levelOf_pos_iff]
  omega

/-- While nobody but `t` has the lock, the others are outside all operations. -/
lemma others_idle (h : s.Balanced) (ht : ∀ u, s.mutex.native.owner? = some u → u = t) :
    ∀ u, u ≠ t → s.phase u = .idle := by
  intro u hne
  by_contra hu
  exact hne (ht u (h.owner_of_busy hu))

lemma others_idle_of_owner (h : s.Balanced) (hown : s.mutex.native.owner? = some t) :
    ∀ u, u ≠ t → s.phase u = .idle :=
  h.others_idle fun _ hu => Option.some.inj (hu.symm.trans hown)

/-- While the others are outside all operations, the count is behind by what `t` has pending. -/
lemma holds_add_pending (h : s.Balanced) (ht : ∀ u, u ≠ t → s.phase u = .idle) :
    s.mutex.holds + (s.phase t).pending = s.mutex.native.level := by
  cases hp : s.phase t with
  | idle =>
    refine h.settled fun u => ?_
    by_cases hu : u = t
    · exact hu ▸ hp
    · exact ht u hu
  | counting => exact h.behind t (by simp [hp])
  | unlocking => exact h.behind t (by simp [hp])

/-- What a thread owns and has not begun to give back is counted. -/
lemma holds_pos (h : s.Balanced) (hp : s.phase t = .idle) (hpos : 0 < s.own t) :
    0 < s.mutex.holds := by
  have hc := h.holds_add_pending (h.others_idle_of_owner (h.owner_of_own hpos))
  have hl := h.level t
  have hle := NativeLock.levelOf_le_level s.mutex.native t
  rw [hp] at hl hc
  simp only [Phase.pending] at hl hc
  omega

/-- A thread keeps the balance if the others are outside all operations and it changes no level but
its own. -/
lemma put (h : s.Balanced) (ht : ∀ u, u ≠ t → s.phase u = .idle) {mutex : Mutex} {phase : Phase}
    {own : Nat} (hself : mutex.native.levelOf t = own + phase.pending)
    (hothers : ∀ u, u ≠ t → mutex.native.levelOf u = s.mutex.native.levelOf u)
    (hcount : mutex.holds + phase.pending = mutex.native.level) :
    (s.put t mutex phase own).Balanced where
  level u := by
    by_cases hu : u = t
    · subst hu
      simpa [Machine.put] using hself
    · have hl := h.level u
      simpa [Machine.put, Function.update_of_ne hu, hothers u hu] using hl
  settled hidle := by
    have hphase : phase = .idle := by simpa [Machine.put] using hidle t
    rw [hphase] at hcount
    exact hcount
  behind u hu := by
    have hut : u = t := by
      by_contra hne
      exact hu (by simpa [Machine.put, Function.update_of_ne hne] using ht u hne)
    subst hut
    have hphase : phase ≠ .idle := by simpa [Machine.put] using hu
    cases phase with
    | idle => exact absurd rfl hphase
    | counting => exact hcount
    | unlocking => exact hcount

theorem step (h : s.Balanced) {grain : Grain} {s' : Machine} (hs : Step s t grain s') :
    s'.Balanced := by
  have hl := h.level t
  cases hs with
  | lock hp hlock =>
    -- the lock was free or the thread's own, so nobody is between two steps yet
    have hown := ((NativeLock.attempt_eq_taken_iff _ _ _).1 hlock).1
    have hidle := h.others_idle hown
    have hc := h.holds_add_pending hidle
    have hlevel := NativeLock.level_of_taken hlock
    rw [hp] at hl hc
    refine h.put hidle ?_ ?_ ?_
    · rw [NativeLock.levelOf_of_taken hlock, if_pos rfl, hl]
      rfl
    · intro u hu
      rw [NativeLock.levelOf_of_taken hlock, if_neg (Ne.symm hu), Nat.add_zero]
    · rw [hlevel, ← hc]
      rfl
  | count hp =>
    have hown := h.owner_of_busy (t := t) (by simp [hp])
    have hidle := h.others_idle_of_owner hown
    have hc := h.holds_add_pending hidle
    rw [hp] at hl hc
    exact h.put hidle hl (fun _ _ => rfl) hc
  | uncount hp hpos =>
    have hown := h.owner_of_own hpos
    have hidle := h.others_idle_of_owner hown
    have hc := h.holds_add_pending hidle
    have hholds := h.holds_pos hp hpos
    rw [hp] at hl hc
    simp only [Phase.pending] at hl hc
    refine h.put hidle ?_ (fun _ _ => rfl) ?_
    · change s.mutex.native.levelOf t = s.own t - 1 + 1
      omega
    · change s.mutex.holds - 1 + 1 = s.mutex.native.level
      omega
  | unlock hp =>
    have hown := h.owner_of_busy (t := t) (by simp [hp])
    have hidle := h.others_idle_of_owner hown
    have hc := h.holds_add_pending hidle
    rw [hp] at hl hc
    refine h.put hidle ?_ ?_ ?_
    · change s.mutex.native.unlock.levelOf t = _
      rw [NativeLock.levelOf_unlock, hl]
      rfl
    · intro u hu
      have hzero : s.mutex.native.levelOf u = 0 :=
        if_neg fun h => hu (Option.some.inj (h.symm.trans hown))
      change s.mutex.native.unlock.levelOf u = _
      rw [NativeLock.levelOf_unlock, hzero]
    · change s.mutex.holds + 0 = s.mutex.native.unlock.level
      rw [NativeLock.level_unlock, ← hc]
      rfl

end Balanced

theorem Reachable.balanced {s : Machine} (h : Reachable s) : s.Balanced := by
  induction h with
  | initial => exact .initial
  | step _ hs ih => exact ih.step hs

/-- In every reachable state: the count is one behind the native lock exactly while some thread is
between two steps and agrees with it exactly while none is; such a thread owns the lock, so there is
one at most; no step takes one from a count of zero; and the count never exceeds the level. -/
theorem count_follows_the_lock {s : Machine} (h : Reachable s) :
    (s.mutex.holds + 1 = s.mutex.native.level ↔ ∃ t, s.phase t ≠ .idle) ∧
    (s.mutex.holds = s.mutex.native.level ↔ ∀ t, s.phase t = .idle) ∧
    (∀ t, s.phase t ≠ .idle → s.mutex.native.owner? = some t) ∧
    (∀ t u, s.phase t ≠ .idle → s.phase u ≠ .idle → t = u) ∧
    (∀ t s', Step s t .uncount s' → 0 < s.mutex.holds) ∧
    s.mutex.holds ≤ s.mutex.native.level := by
  have hb := h.balanced
  have hcases : (∀ t, s.phase t = .idle) ∨ ∃ t, s.phase t ≠ .idle := by
    by_cases hidle : ∀ t, s.phase t = .idle
    · exact .inl hidle
    · exact .inr (not_forall.1 hidle)
  refine ⟨⟨fun hone => ?_, fun ⟨t, ht⟩ => hb.behind t ht⟩,
    ⟨fun hall => ?_, hb.settled⟩, fun t ht => hb.owner_of_busy ht, ?_, ?_, ?_⟩
  · refine hcases.resolve_left fun hidle => ?_
    have hall := hb.settled hidle
    omega
  · refine hcases.resolve_right fun ⟨t, ht⟩ => ?_
    have hone := hb.behind t ht
    omega
  · intro t u ht hu
    exact Option.some.inj ((hb.owner_of_busy ht).symm.trans (hb.owner_of_busy hu))
  · intro t s' hs
    cases hs with
    | uncount hp hpos => exact hb.holds_pos hp hpos
  · rcases hcases with hidle | ⟨t, ht⟩
    · exact Nat.le_of_eq (hb.settled hidle)
    · have hone := hb.behind t ht
      omega

/-- A thread that has taken a mutex begins to take it again. -/
theorem count_behind_the_lock :
    ∃ s, Reachable s ∧ (∃ t, s.phase t = .counting) ∧ s.mutex.holds = 1 ∧
      s.mutex.native.level = 2 := by
  let t : Thread := ⟨1, 0⟩
  have h₁ := Reachable.initial.step (Step.lock (t := t) rfl rfl)
  have h₂ := h₁.step (Step.count (t := t) rfl)
  have h₃ := h₂.step (Step.lock (t := t) rfl rfl)
  have hone := (count_follows_the_lock h₃).1.2 ⟨t, by simp [Machine.put]⟩
  exact ⟨_, h₃, ⟨t, rfl⟩, rfl, hone.symm⟩

end Machine

end Interop.Lock
