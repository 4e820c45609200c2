import Interop.Lock.Supervisor
import Mathlib.Data.List.Nodup
import Mathlib.Tactic.Common

/-!
# What is done to a mutex

Whatever a step of the supervisor does to a mutex is a sequence of deeds: a call takes the mutex or
is blocked, a blocked call completes, a hold is given back, a guard is forgotten. A deed acts on the
account by the account's own operations. The account stays sound under each deed: the level at which
a thread holds the native lock is the number of its holds, and the count of holds is the level of
the native lock.
-/

namespace Interop.Lock

/-! ### The native lock -/

namespace NativeLock

def levelOf (lock : NativeLock) (t : Thread) : Nat := if lock.owner? = some t then lock.level else 0

@[simp] lemma levelOf_free (t : Thread) : levelOf .free t = 0 := rfl

@[simp] lemma levelOf_held (owner t : Thread) (n : Nat) :
    levelOf (.held owner n) t = if owner = t then n + 1 else 0 := by
  simp [levelOf, owner?, level]

@[simp] lemma level_free : level .free = 0 := rfl

@[simp] lemma level_held (owner : Thread) (n : Nat) : level (.held owner n) = n + 1 := rfl

lemma levelOf_le_level (lock : NativeLock) (t : Thread) : lock.levelOf t ≤ lock.level := by
  unfold levelOf
  split <;> omega

lemma levelOf_pos_iff (lock : NativeLock) (t : Thread) :
    0 < lock.levelOf t ↔ lock.owner? = some t := by
  cases lock with
  | free => simp [owner?]
  | held owner n => by_cases h : owner = t <;> simp [owner?, h]

lemma levelOf_eq_level {lock : NativeLock} {t : Thread} (h : lock.owner? = some t) :
    lock.levelOf t = lock.level := if_pos h

lemma eq_of_levelOf_pos {lock : NativeLock} {t u : Thread} (ht : 0 < lock.levelOf t)
    (hu : 0 < lock.levelOf u) : t = u := by
  rw [levelOf_pos_iff] at ht hu
  exact Option.some.inj (ht.symm.trans hu)

lemma eq_free_iff (lock : NativeLock) : lock = .free ↔ ∀ t, lock.levelOf t = 0 := by
  cases lock with
  | free => simp
  | held owner n =>
    simp only [reduceCtorEq, levelOf_held, false_iff, not_forall]
    exact ⟨owner, by simp⟩

lemma level_eq_zero_iff (lock : NativeLock) : lock.level = 0 ↔ lock = .free := by
  cases lock <;> simp

/-- An attempt succeeds iff nobody else holds the lock and the levels are not used up. -/
lemma attempt_eq_taken_iff (lock lock' : NativeLock) (t : Thread) :
    lock.attempt t = .taken lock' ↔
      (∀ u, lock.owner? = some u → u = t) ∧ lock.level < maxLevel ∧ lock' = .held t lock.level := by
  cases lock with
  | free => simp [attempt, owner?, maxLevel, eq_comm]
  | held owner n =>
    by_cases ho : owner = t
    · by_cases hn : n + 1 < maxLevel <;> simp [attempt, owner?, ho, hn, eq_comm]
    · simp [attempt, owner?, ho]

lemma attempt_eq_saturated_iff (lock : NativeLock) (t : Thread) :
    lock.attempt t = .saturated ↔ lock.owner? = some t ∧ maxLevel ≤ lock.level := by
  cases lock with
  | free => simp [attempt, owner?]
  | held owner n =>
    by_cases ho : owner = t
    · by_cases hn : n + 1 < maxLevel
      · simp [attempt, owner?, ho, hn]
      · simp [attempt, owner?, ho, hn, Nat.le_of_not_lt hn]
    · simp [attempt, owner?, ho]

lemma level_of_taken {lock lock' : NativeLock} {t : Thread} (h : lock.attempt t = .taken lock') :
    lock'.level = lock.level + 1 := by
  obtain ⟨-, -, rfl⟩ := (attempt_eq_taken_iff _ _ _).1 h
  rfl

lemma levelOf_of_taken {lock lock' : NativeLock} {t : Thread} (h : lock.attempt t = .taken lock')
    (u : Thread) : lock'.levelOf u = lock.levelOf u + if t = u then 1 else 0 := by
  obtain ⟨hown, -, rfl⟩ := (attempt_eq_taken_iff _ _ _).1 h
  cases lock with
  | free => simp
  | held owner n =>
    have ho : owner = t := hown owner rfl
    subst ho
    by_cases hu : owner = u <;> simp [hu]

@[simp] lemma level_unlock (lock : NativeLock) : lock.unlock.level = lock.level - 1 := by
  rcases lock with _ | ⟨owner, _ | n⟩ <;> rfl

@[simp] lemma levelOf_unlock (lock : NativeLock) (u : Thread) :
    lock.unlock.levelOf u = lock.levelOf u - 1 := by
  rcases lock with _ | ⟨owner, _ | n⟩
  · rfl
  · by_cases h : owner = u <;> simp [unlock, h]
  · by_cases h : owner = u <;> simp [unlock, h]

end NativeLock

/-! ### Calls to take a mutex -/

namespace Mutex

variable {m m' : Mutex} {t : Thread} {faults : Faults}

lemma acquired_of_taken {lock : NativeLock} (h : m.native.attempt t = .taken lock) :
    m.acquired t = ⟨lock, m.holds + 1⟩ := by
  simp [acquired, acquire, Faults.none, h, count]

/-- A call that takes the mutex took the native lock, unless the native call only says so. -/
lemma attempt_of_acquire_taken (hf : faults .mutexLock ≠ some 0)
    (h : m.acquire t faults = .taken m') :
    ∃ lock, m.native.attempt t = .taken lock ∧ m' = ⟨lock, m.holds + 1⟩ := by
  unfold acquire at h
  cases hc : faults .mutexLock with
  | some code =>
    have hne : code ≠ 0 := fun h0 => hf (by rw [hc, h0])
    simp [hc, hne] at h
  | none =>
    cases hl : m.native.attempt t with
    | taken lock => exact ⟨lock, rfl, by simpa [hc, hl, count, eq_comm] using h⟩
    | busy => simp [hc, hl] at h
    | saturated => simp [hc, hl] at h

lemma attempt_of_acquire_waits (h : m.acquire t faults = .waits) : m.native.attempt t = .busy := by
  unfold acquire at h
  cases hc : faults .mutexLock with
  | some code => by_cases h0 : code = 0 <;> simp [hc, h0] at h
  | none =>
    cases hl : m.native.attempt t with
    | taken lock => simp [hc, hl] at h
    | busy => rfl
    | saturated => simp [hc, hl] at h

lemma attempt_of_tryAcquire_some (hf : faults .mutexTryLock ≠ some 0)
    (h : m.tryAcquire t faults = some m') :
    ∃ lock, m.native.attempt t = .taken lock ∧ m' = ⟨lock, m.holds + 1⟩ := by
  unfold tryAcquire at h
  cases hc : faults .mutexTryLock with
  | some code =>
    have hne : code ≠ 0 := fun h0 => hf (by rw [hc, h0])
    simp [hc, hne] at h
  | none =>
    cases hl : m.native.attempt t with
    | taken lock => exact ⟨lock, rfl, by simpa [hc, hl, count, eq_comm] using h⟩
    | busy => simp [hc, hl] at h
    | saturated => simp [hc, hl] at h

end Mutex

/-! ### Deeds -/

/-- One thing that happens to a mutex. -/
inductive Deed
  | take (t : Thread) (hold : Hold)
  | wait (w : Waiter)
  | complete (w : Waiter)
  | giveBack (t : Thread) (hold : Hold)
  | forget (t : Thread)
  deriving Repr, DecidableEq

/-- The thread whose call or hold it is. -/
def Deed.actor : Deed → Thread
  | .take t _ | .giveBack t _ | .forget t => t
  | .wait w | .complete w => w.thread

namespace Account

def apply (a : Account) : Deed → Account
  | .take t hold => { a with mutex := a.mutex.acquired t }.enter t hold
  | .wait w => { a with waiting := a.waiting ++ [w] }
  | .complete w =>
    { a with mutex := a.mutex.acquired w.thread, waiting := a.waiting.erase w }.enter w.thread w.hold
  | .giveBack t hold => a.giveBack t hold
  | .forget t => a.forget t

/-- When a deed can happen: a call takes the mutex if nobody else has it and is blocked otherwise, a
blocked call completes once the mutex is free, and only what is held is given back. -/
def Permits (a : Account) : Deed → Prop
  | .take t _ => ∃ lock, a.mutex.native.attempt t = .taken lock
  | .wait w => a.mutex.native.attempt w.thread = .busy
  | .complete w => a.mutex.native = .free ∧ w ∈ a.waiting
  | .giveBack t hold => t ∈ a.holders hold
  | .forget t => t ∈ a.guards

/-- Deeds that happen one after the other lead from one account to another. -/
inductive Performs : Account → List Deed → Account → Prop
  | nil (a : Account) : Performs a [] a
  | cons {a b : Account} {d : Deed} {ds : List Deed} :
      a.Permits d → Performs (a.apply d) ds b → Performs a (d :: ds) b

lemma Performs.single {a : Account} {d : Deed} (h : a.Permits d) : a.Performs [d] (a.apply d) :=
  .cons h (.nil _)

lemma Performs.append {a b c : Account} {ds es : List Deed} (h : a.Performs ds b)
    (h' : b.Performs es c) : a.Performs (ds ++ es) c := by
  induction h with
  | nil => exact h'
  | cons hd _ ih => exact .cons hd (ih h')

lemma Performs.invariant {P : Account → Prop} {a b : Account} {ds : List Deed}
    (step : ∀ a, ∀ d ∈ ds, P a → a.Permits d → P (a.apply d)) (h : a.Performs ds b) (ha : P a) :
    P b := by
  induction h with
  | nil => exact ha
  | cons hd _ ih =>
    refine ih (fun a d hmem => step a d (List.mem_cons_of_mem _ hmem)) ?_
    exact step _ _ List.mem_cons_self ha hd

/-! ### Soundness -/

def holdsOf (a : Account) (t : Thread) : Nat := a.raw.count t + a.guards.count t

/-- The bookkeeping agrees with the native lock. -/
structure Sound (a : Account) : Prop where
  level : ∀ t, a.mutex.native.levelOf t = a.holdsOf t
  holds : a.mutex.holds = a.mutex.native.level

lemma Sound.fresh : (fresh ⟨.free, 0⟩).Sound := ⟨fun _ => rfl, rfl⟩

@[simp] lemma holdsOf_enter (a : Account) (t u : Thread) (hold : Hold) :
    (a.enter t hold).holdsOf u = a.holdsOf u + if t = u then 1 else 0 := by
  cases hold <;> by_cases h : t = u <;> simp [enter, holdsOf, h] <;> omega

lemma holdsOf_pos_of_mem {a : Account} {t : Thread} {hold : Hold} (h : t ∈ a.holders hold) :
    0 < a.holdsOf t := by
  have hc := List.count_pos_iff.mpr h
  cases hold <;> simp only [holders] at hc <;> simp only [holdsOf] <;> omega

lemma holdsOf_strike {a : Account} {t : Thread} {hold : Hold} (h : t ∈ a.holders hold)
    (u : Thread) : (a.strike t hold).holdsOf u = a.holdsOf u - if t = u then 1 else 0 := by
  have hc := List.count_pos_iff.mpr h
  cases hold <;> simp only [holders] at hc <;> by_cases htu : t = u
  all_goals simp only [strike, holdsOf, List.count_erase, htu, beq_self_eq_true, beq_iff_eq, ite_true,
    ite_false, Nat.sub_zero]
  all_goals subst htu; omega

@[simp] lemma mutex_enter (a : Account) (t : Thread) (hold : Hold) :
    (a.enter t hold).mutex = a.mutex := by cases hold <;> rfl

@[simp] lemma waiting_enter (a : Account) (t : Thread) (hold : Hold) :
    (a.enter t hold).waiting = a.waiting := by cases hold <;> rfl

@[simp] lemma mutex_strike (a : Account) (t : Thread) (hold : Hold) :
    (a.strike t hold).mutex = a.mutex := by cases hold <;> rfl

@[simp] lemma waiting_strike (a : Account) (t : Thread) (hold : Hold) :
    (a.strike t hold).waiting = a.waiting := by cases hold <;> rfl

lemma Sound.enter {a : Account} (ha : a.Sound) {t : Thread} {lock : NativeLock}
    (h : a.mutex.native.attempt t = .taken lock) (hold : Hold) (waiting : List Waiter) :
    ({ a with mutex := a.mutex.acquired t, waiting := waiting }.enter t hold).Sound where
  level u := by
    have hu := NativeLock.levelOf_of_taken h u
    rw [mutex_enter, holdsOf_enter, Mutex.acquired_of_taken h, hu, ha.level u]
    rfl
  holds := by
    have hl := NativeLock.level_of_taken h
    rw [mutex_enter, Mutex.acquired_of_taken h, hl, ha.holds]

lemma Sound.giveBack {a : Account} (ha : a.Sound) {t : Thread} {hold : Hold}
    (h : t ∈ a.holders hold) : (a.giveBack t hold).Sound where
  level u := by
    have hs := holdsOf_strike h u
    have hown := (NativeLock.levelOf_pos_iff _ _).1 (ha.level t ▸ holdsOf_pos_of_mem h)
    change a.mutex.native.unlock.levelOf u = (a.strike t hold).holdsOf u
    rw [NativeLock.levelOf_unlock, hs, ← ha.level u]
    by_cases htu : t = u
    · rw [if_pos htu]
    · have hu : a.mutex.native.levelOf u = 0 := if_neg fun h => htu (Option.some.inj (hown ▸ h))
      rw [hu, if_neg htu]
  holds := by
    change a.mutex.holds - 1 = a.mutex.native.unlock.level
    rw [NativeLock.level_unlock, ha.holds]

lemma Sound.forget {a : Account} (ha : a.Sound) {t : Thread} (h : t ∈ a.guards) :
    (a.forget t).Sound where
  level u := by
    have hg : t ∈ a.holders .guard := h
    have hs := holdsOf_strike hg u
    have hp := holdsOf_pos_of_mem hg
    have hl := ha.level u
    rw [Account.forget, mutex_enter, mutex_strike, holdsOf_enter, hs, hl]
    by_cases htu : t = u
    · subst htu
      rw [if_pos rfl]
      omega
    · rw [if_neg htu]
      rfl
  holds := by
    rw [Account.forget, mutex_enter, mutex_strike]
    exact ha.holds

/-- Every deed keeps the account sound. -/
theorem Sound.apply {a : Account} {d : Deed} (ha : a.Sound) (h : a.Permits d) :
    (a.apply d).Sound := by
  cases d with
  | take t hold =>
    obtain ⟨lock, hlock⟩ := h
    exact ha.enter hlock hold a.waiting
  | wait w => exact ⟨ha.level, ha.holds⟩
  | complete w =>
    obtain ⟨hfree, -⟩ := h
    have hlock : a.mutex.native.attempt w.thread = .taken (.held w.thread 0) := by rw [hfree]; rfl
    exact ha.enter hlock w.hold _
  | giveBack t hold => exact ha.giveBack h
  | forget t => exact ha.forget h

/-! ### The operations of an account as deeds -/

lemma Performs.take {a : Account} {t : Thread} {lock : NativeLock}
    (h : a.mutex.native.attempt t = .taken lock) (hold : Hold) :
    a.Performs [.take t hold] ({ a with mutex := ⟨lock, a.mutex.holds + 1⟩ }.enter t hold) := by
  have hp := Performs.single (d := .take t hold) ⟨lock, h⟩
  rwa [apply, Mutex.acquired_of_taken h] at hp

lemma acquire_performs {a b : Account} {t : Thread} {hold : Hold} {faults : Faults}
    (hf : faults .mutexLock ≠ some 0) (h : a.acquire t hold faults = (b, .completed)) :
    a.Performs [.take t hold] b := by
  unfold acquire at h
  cases hm : a.mutex.acquire t faults with
  | taken mutex =>
    obtain ⟨lock, hlock, rfl⟩ := Mutex.attempt_of_acquire_taken hf hm
    simp only [hm, Prod.mk.injEq, and_true] at h
    exact h ▸ .take hlock hold
  | waits => simp [hm] at h
  | failed code => simp [hm] at h

lemma acquire_waits {a b : Account} {t : Thread} {hold : Hold} {faults : Faults}
    (h : a.acquire t hold faults = (b, .waits)) : a.Performs [.wait ⟨t, hold⟩] b := by
  unfold acquire at h
  cases hm : a.mutex.acquire t faults with
  | taken mutex => simp [hm] at h
  | waits =>
    have hbusy := Mutex.attempt_of_acquire_waits hm
    have hp := Performs.single (a := a) (d := .wait ⟨t, hold⟩) hbusy
    simp only [hm, Prod.mk.injEq, and_true] at h
    exact h ▸ hp
  | failed code => simp [hm] at h

lemma tryAcquire_performs {a b : Account} {t : Thread} {hold : Hold} {faults : Faults}
    (hf : faults .mutexTryLock ≠ some 0) (h : a.tryAcquire t hold faults = (b, true)) :
    a.Performs [.take t hold] b := by
  unfold tryAcquire at h
  cases hm : a.mutex.tryAcquire t faults with
  | some mutex =>
    obtain ⟨lock, hlock, rfl⟩ := Mutex.attempt_of_tryAcquire_some hf hm
    simp only [hm, Prod.mk.injEq, and_true] at h
    exact h ▸ .take hlock hold
  | none => simp [hm] at h

lemma eq_of_tryAcquire_false {a b : Account} {t : Thread} {hold : Hold} {faults : Faults}
    (h : a.tryAcquire t hold faults = (b, false)) : b = a := by
  unfold tryAcquire at h
  cases hm : a.mutex.tryAcquire t faults with
  | some mutex => simp [hm] at h
  | none => simpa [hm, eq_comm] using h

@[simp] lemma waiting_giveBack (a : Account) (t : Thread) (hold : Hold) :
    (a.giveBack t hold).waiting = a.waiting := waiting_strike a t hold

lemma repeat_giveBack (a : Account) (t : Thread) (n : Nat) :
    (Nat.repeat (fun b => b.giveBack t .guard) n a).guards.count t = a.guards.count t - n ∧
      (Nat.repeat (fun b => b.giveBack t .guard) n a).waiting = a.waiting := by
  induction n with
  | zero => exact ⟨rfl, rfl⟩
  | succ n ih =>
    rw [Nat.repeat]
    refine ⟨?_, ih.2⟩
    change (List.erase _ t).count t = _
    rw [List.count_erase_self, ih.1]
    omega

lemma dropGuards_performs (a : Account) (t : Thread) :
    a.Performs (List.replicate (a.guards.count t) (.giveBack t .guard)) (a.dropGuards t) := by
  have h : ∀ n, n ≤ a.guards.count t → a.Performs (List.replicate n (.giveBack t .guard))
      (Nat.repeat (fun b => b.giveBack t .guard) n a) := by
    intro n
    induction n with
    | zero => exact fun _ => .nil a
    | succ n ih =>
      intro hn
      have hleft := (repeat_giveBack a t n).1
      rw [List.replicate_succ', Nat.repeat]
      refine (ih (by omega)).append (.single ?_)
      apply List.count_pos_iff.mp
      change 0 < (Nat.repeat _ n a).guards.count t
      rw [hleft]
      omega
  exact h _ (Nat.le_refl _)

/-- The blocked calls of the threads that woke, as they complete. -/
def completions (a : Account) (woke : List Thread) : List Deed :=
  (a.waiting.filter fun w => woke.contains w.thread).map .complete

lemma completions_nil (a : Account) : a.completions [] = [] := by simp [completions]

lemma completions_congr {a b : Account} {woke woke' : List Thread} (hw : a.waiting = b.waiting)
    (h : ∀ w ∈ a.waiting, w.thread ∈ woke ↔ w.thread ∈ woke') :
    a.completions woke = b.completions woke' := by
  unfold completions
  rw [← hw]
  congr 1
  apply List.filter_congr
  intro w hmem
  simp [h w hmem]

lemma filter_thread {ws : List Waiter} (hn : (ws.map Waiter.thread).Nodup) {w : Waiter}
    (hw : w ∈ ws) : (ws.filter fun v => [w.thread].contains v.thread) = [w] := by
  induction ws with
  | nil => simp at hw
  | cons v ws ih =>
    rw [List.map_cons, List.nodup_cons] at hn
    rcases List.mem_cons.1 hw with rfl | hmem
    · have hrest : (ws.filter fun v => [w.thread].contains v.thread) = [] := by
        rw [List.filter_eq_nil_iff]
        intro v hv hc
        have hvt : v.thread = w.thread := by simpa using hc
        exact hn.1 (hvt ▸ List.mem_map_of_mem hv)
      rw [List.filter_cons, hrest]
      simp
    · have hne : v.thread ≠ w.thread := fun h => hn.1 (h ▸ List.mem_map_of_mem hmem)
      rw [List.filter_cons, ih hn.2 hmem]
      simp [hne]

lemma handOver_of_choose {a : Account} {choose : List Waiter → Option Waiter} {w : Waiter}
    (hfree : a.mutex.native = .free) (hw : choose a.waiting = some w) :
    a.handOver choose = (a.apply (.complete w), [w.thread]) := by
  have hlock : a.mutex.native.attempt w.thread = .taken (.held w.thread 0) := by rw [hfree]; rfl
  have hcomplete : a.complete w = some (a.apply (.complete w)) := by
    simp [complete, apply, Mutex.acquire, Mutex.acquired, Faults.none, hlock]
  simp only [handOver, hfree, hw, hcomplete]

/-- Handing the mutex over does nothing, or one blocked call was chosen and completes. -/
lemma handOver_cases (a : Account) (choose : List Waiter → Option Waiter) :
    a.handOver choose = (a, []) ∨
      ∃ w, a.mutex.native = .free ∧ choose a.waiting = some w ∧
        a.handOver choose = (a.apply (.complete w), [w.thread]) := by
  cases hm : a.mutex.native with
  | held owner n => exact .inl (by simp only [handOver, hm])
  | free =>
    cases hw : choose a.waiting with
    | none => exact .inl (by simp only [handOver, hm, hw])
    | some w => exact .inr ⟨w, rfl, rfl, handOver_of_choose hm hw⟩

/-- Handing the mutex over lets the blocked calls of those that wake complete, and nothing else
happens. -/
lemma handOver_performs {a : Account} {choose : List Waiter → Option Waiter}
    (hc : ∀ ws w, choose ws = some w → w ∈ ws) (hn : (a.waiting.map Waiter.thread).Nodup) :
    a.Performs (a.completions (a.handOver choose).2) (a.handOver choose).1 := by
  rcases a.handOver_cases choose with hidle | ⟨w, hfree, hw, hover⟩
  · rw [hidle]
    exact completions_nil a ▸ .nil a
  · rw [hover]
    unfold completions
    rw [filter_thread hn (hc _ _ hw)]
    exact .single ⟨hfree, hc _ _ hw⟩

/-- The end of a thread drops its guards, and then the mutex may be handed over. -/
lemma sweep_performs {a : Account} {choose : List Waiter → Option Waiter}
    (hc : ∀ ws w, choose ws = some w → w ∈ ws) (hn : (a.waiting.map Waiter.thread).Nodup)
    (t : Thread) :
    a.Performs (List.replicate (a.guards.count t) (.giveBack t .guard) ++
      a.completions (a.sweep choose t).2) (a.sweep choose t).1 := by
  have hw : (a.dropGuards t).waiting = a.waiting := (repeat_giveBack a t _).2
  unfold sweep
  -- a mutex of which the thread has no guard is not handed over by its end, even if it is free
  by_cases hg : t ∈ a.guards
  · rw [if_pos (List.contains_iff_mem.2 hg)]
    have hh := handOver_performs (a := a.dropGuards t) hc (hw ▸ hn)
    rw [completions_congr (a := a) (b := a.dropGuards t) hw.symm (fun _ _ => Iff.rfl)]
    exact (dropGuards_performs a t).append hh
  · rw [if_neg (by simpa using hg), List.count_eq_zero.2 hg, completions_nil]
    exact .nil a

lemma mem_handOver {a : Account} {choose : List Waiter → Option Waiter}
    (hc : ∀ ws w, choose ws = some w → w ∈ ws) {u : Thread} (hu : u ∈ (a.handOver choose).2) :
    u ∈ a.waiting.map Waiter.thread := by
  rcases a.handOver_cases choose with hidle | ⟨w, -, hw, hover⟩
  · rw [hidle] at hu
    cases hu
  · rw [hover] at hu
    obtain rfl := List.mem_singleton.1 hu
    exact List.mem_map_of_mem (hc _ _ hw)

lemma mem_sweep {a : Account} {choose : List Waiter → Option Waiter}
    (hc : ∀ ws w, choose ws = some w → w ∈ ws) {t u : Thread} (hu : u ∈ (a.sweep choose t).2) :
    u ∈ a.waiting.map Waiter.thread := by
  unfold sweep at hu
  split at hu
  · have hmem := mem_handOver hc hu
    rwa [show (a.dropGuards t).waiting = a.waiting from (repeat_giveBack a t _).2] at hmem
  · cases hu

lemma wait_notMem_completions (a : Account) (woke : List Thread) (w : Waiter) :
    .wait w ∉ a.completions woke := by simp [completions]

lemma Performs.waiting_sublist {a b : Account} {ds : List Deed} (h : a.Performs ds b)
    (hw : ∀ w, .wait w ∉ ds) : b.waiting.Sublist a.waiting := by
  induction h with
  | nil => exact List.Sublist.refl _
  | cons hd hp ih =>
    rename_i a b d ds
    have hsub : (a.apply d).waiting.Sublist a.waiting := by
      cases d with
      | take t hold => simp [apply]
      | wait w => exact absurd List.mem_cons_self (hw w)
      | complete w => simpa [apply] using List.erase_sublist
      | giveBack t hold => simp [apply]
      | forget t => simp [apply, forget]
    exact (ih fun w hmem => hw w (List.mem_cons_of_mem _ hmem)).trans hsub

/-- Whether a thread has a hold or a blocked call. -/
def Involves (a : Account) (t : Thread) : Prop :=
  t ∈ a.raw ∨ t ∈ a.guards ∨ t ∈ a.waiting.map Waiter.thread

lemma involves_enter {a : Account} {t u : Thread} {hold : Hold} (h : (a.enter t hold).Involves u) :
    a.Involves u ∨ t = u := by
  cases hold <;> simp only [enter, Involves, List.mem_cons] at h ⊢ <;> tauto

lemma involves_strike {a : Account} {t u : Thread} {hold : Hold}
    (h : (a.strike t hold).Involves u) : a.Involves u := by
  cases hold with
  | raw => exact h.imp_left List.mem_of_mem_erase
  | guard => exact h.imp_right (Or.imp_left List.mem_of_mem_erase)

lemma Performs.involves {a b : Account} {ds : List Deed} (h : a.Performs ds b) {t : Thread}
    (ht : b.Involves t) : a.Involves t ∨ ∃ d ∈ ds, d.actor = t := by
  induction h with
  | nil => exact .inl ht
  | cons hd hp ih =>
    rename_i a b d ds
    rcases ih ht with hmid | ⟨d', hd', hact⟩
    · have hstep : a.Involves t ∨ d.actor = t := by
        cases d with
        | take u hold =>
          have h := involves_enter hmid
          exact h
        | wait w =>
          rcases hmid with h | h | h
          · exact .inl (.inl h)
          · exact .inl (.inr (.inl h))
          · simp only [apply, List.map_append, List.mem_append] at h
            rcases h with h | h
            · exact .inl (.inr (.inr h))
            · simp only [List.map_cons, List.map_nil, List.mem_singleton] at h
              exact .inr h.symm
        | complete w =>
          have h := involves_enter hmid
          refine h.imp_left fun h => ?_
          have hsub := (List.erase_sublist (a := w) (l := a.waiting)).map Waiter.thread
          exact h.imp_right (Or.imp_right fun h => hsub.subset h)
        | giveBack u hold => exact .inl (involves_strike hmid)
        | forget u => exact (involves_enter hmid).imp_left involves_strike
      exact hstep.imp_right fun h => ⟨d, List.mem_cons_self, h⟩
    · exact .inr ⟨d', List.mem_cons_of_mem _ hd', hact⟩

end Account

end Interop.Lock
