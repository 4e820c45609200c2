import Interop.Proofs.LockRun

/-!
# Levels of ownership

Every thread keeps its own tally of a mutex: the calls by which it took the mutex, the holds that it
gave back, the guards that it forgot. In every state of every run the tally of each thread agrees
with the native lock, so at most one thread is ahead in its tally, its next call succeeds, and a
thread that is new to the mutex can take it exactly when all tallies are even.
-/

namespace Interop.Lock

namespace Deed

/-- Whether a call of the thread took the mutex, as a hold of the given kind. -/
def takes (t : Thread) (hold : Hold) : Deed → Bool
  | .take u kind => u = t && kind = hold
  | .complete w => w.thread = t && w.hold = hold
  | _ => false

/-- Whether the thread gave back a hold of the given kind. -/
def returns (t : Thread) (hold : Hold) : Deed → Bool
  | .giveBack u kind => u = t && kind = hold
  | _ => false

def forgets (t : Thread) : Deed → Bool
  | .forget u => u = t
  | _ => false

end Deed

section Tally

variable (run : List Turn) (m : Nat) (t : Thread)

/-- How often a thread took the mutex `m` as a hold of some kind. -/
def takenAs (hold : Hold) : Nat := (deedsSince m (history run)).countP (Deed.takes t hold)

def returnedAs (hold : Hold) : Nat := (deedsSince m (history run)).countP (Deed.returns t hold)

def forgotten : Nat := (deedsSince m (history run)).countP (Deed.forgets t)

/-- How often a thread took the mutex `m`. -/
def taken : Nat := takenAs run m t .raw + takenAs run m t .guard

/-- How many holds a thread gave back, by releases and by guards that were dropped. -/
def returned : Nat := returnedAs run m t .raw + returnedAs run m t .guard

end Tally

namespace Account

lemma count_holders_enter (a : Account) (u t : Thread) (kind hold : Hold) :
    ((a.enter u kind).holders hold).count t =
      (a.holders hold).count t + if u = t ∧ kind = hold then 1 else 0 := by
  cases kind <;> cases hold <;> by_cases hu : u = t <;> simp [enter, holders, hu]

lemma count_holders_strike {a : Account} {u : Thread} {kind : Hold} (h : u ∈ a.holders kind)
    (t : Thread) (hold : Hold) :
    ((a.strike u kind).holders hold).count t + (if u = t ∧ kind = hold then 1 else 0) =
      (a.holders hold).count t := by
  have hpos := List.count_pos_iff.mpr h
  by_cases hk : kind = hold
  · subst hk
    have herase : (a.strike u kind).holders kind = (a.holders kind).erase u := by cases kind <;> rfl
    rw [herase]
    by_cases hu : u = t
    · subst hu
      rw [List.count_erase_self, if_pos ⟨rfl, rfl⟩]
      omega
    · rw [List.count_erase_of_ne (Ne.symm hu), if_neg fun h => hu h.1]
      rfl
  · have hother : (a.strike u kind).holders hold = a.holders hold := by
      cases kind <;> cases hold <;> first | rfl | exact absurd rfl hk
    rw [hother, if_neg fun h => hk h.2]
    rfl

/-- A deed adds one hold for each call that took the mutex and takes one away for each that was given
back; a forgotten guard becomes a raw hold. -/
lemma count_holders_apply {a : Account} {d : Deed} (h : a.Permits d) (t : Thread) (hold : Hold) :
    ((a.apply d).holders hold).count t + (if d.returns t hold then 1 else 0) +
        (if d.forgets t ∧ hold = .guard then 1 else 0) =
      (a.holders hold).count t + (if d.takes t hold then 1 else 0) +
        (if d.forgets t ∧ hold = .raw then 1 else 0) := by
  cases d with
  | take u kind =>
    have he : ((a.apply (.take u kind)).holders hold).count t =
        (a.holders hold).count t + if u = t ∧ kind = hold then 1 else 0 := by
      cases hold <;> exact count_holders_enter { a with mutex := a.mutex.acquired u } u t kind _
    simpa [Deed.returns, Deed.forgets, Deed.takes] using he
  | wait w => cases hold <;> rfl
  | complete w =>
    have he : ((a.apply (.complete w)).holders hold).count t =
        (a.holders hold).count t + if w.thread = t ∧ w.hold = hold then 1 else 0 := by
      cases hold <;> exact count_holders_enter
        { a with mutex := a.mutex.acquired w.thread, waiting := a.waiting.erase w } w.thread t w.hold _
    simpa [Deed.returns, Deed.forgets, Deed.takes] using he
  | giveBack u kind =>
    have hs : ((a.apply (.giveBack u kind)).holders hold).count t +
        (if u = t ∧ kind = hold then 1 else 0) = (a.holders hold).count t := by
      have hstrike := count_holders_strike h t hold
      cases hold <;> exact hstrike
    simpa [Deed.returns, Deed.forgets, Deed.takes] using hs
  | forget u =>
    have hs := count_holders_strike (show u ∈ a.holders .guard from h) t hold
    have he : ((a.apply (.forget u)).holders hold).count t =
        ((a.strike u .guard).holders hold).count t + if u = t ∧ .raw = hold then 1 else 0 :=
      count_holders_enter (a.strike u .guard) u t .raw hold
    rw [he, ← hs]
    cases hold <;> simp [Deed.returns, Deed.forgets, Deed.takes]

lemma Performs.count_holders {a b : Account} {ds : List Deed} (h : a.Performs ds b) (t : Thread)
    (hold : Hold) :
    (b.holders hold).count t + ds.countP (Deed.returns t hold) +
        (if hold = .guard then ds.countP (Deed.forgets t) else 0) =
      (a.holders hold).count t + ds.countP (Deed.takes t hold) +
        (if hold = .raw then ds.countP (Deed.forgets t) else 0) := by
  induction h with
  | nil a => simp
  | cons hd hp ih =>
    rename_i a b d ds
    have hstep := count_holders_apply hd t hold
    simp only [List.countP_cons]
    cases hold
    · simp only [reduceCtorEq, and_false, and_true, if_false, if_true] at hstep ih ⊢
      omega
    · simp only [reduceCtorEq, and_false, and_true, if_false, if_true] at hstep ih ⊢
      omega

end Account

/-- The holds of each kind are those taken and not given back, where a forgotten guard counts as raw
from then on. -/
theorem count_holders_eq (run : List Turn) {m : Nat} {a : Account}
    (ha : (stateAfter run).account? m = some a) (t : Thread) :
    a.raw.count t + returnedAs run m t .raw = takenAs run m t .raw + forgotten run m t ∧
      a.guards.count t + returnedAs run m t .guard + forgotten run m t = takenAs run m t .guard := by
  have hp := performs_deedsSince run ha
  have hraw := hp.count_holders t .raw
  have hguard := hp.count_holders t .guard
  simp only [Account.holders, Account.fresh, List.count_nil, reduceCtorEq, if_false, if_true] at *
  unfold returnedAs takenAs forgotten
  omega

theorem levelOf_add_returned (run : List Turn) {m : Nat} {a : Account}
    (ha : (stateAfter run).account? m = some a) (t : Thread) :
    a.mutex.native.levelOf t + returned run m t = taken run m t := by
  obtain ⟨hraw, hguard⟩ := count_holders_eq run ha t
  have hlevel := (sound_account run ha).level t
  unfold Account.holdsOf at hlevel
  unfold returned taken
  omega

lemma level_le_maxLevel (run : List Turn) {m : Nat} {a : Account}
    (ha : (stateAfter run).account? m = some a) : a.mutex.native.level ≤ NativeLock.maxLevel := by
  refine account_invariant (P := fun a => a.mutex.native.level ≤ NativeLock.maxLevel)
    (Nat.zero_le _) ?_ run ha
  intro a d hle hd
  cases d with
  | take t hold =>
    obtain ⟨lock, hlock⟩ := hd
    obtain ⟨-, hlt, rfl⟩ := (NativeLock.attempt_eq_taken_iff _ _ _).1 hlock
    rw [Account.apply, Account.mutex_enter, Mutex.acquired_of_taken hlock]
    exact hlt
  | wait w => exact hle
  | complete w =>
    have hlock : a.mutex.native.attempt w.thread = .taken (.held w.thread 0) := by rw [hd.1]; rfl
    rw [Account.apply, Account.mutex_enter, Mutex.acquired_of_taken hlock]
    simp [NativeLock.maxLevel]
  | giveBack t hold =>
    change a.mutex.native.unlock.level ≤ _
    rw [NativeLock.level_unlock]
    omega
  | forget t =>
    rw [Account.apply, Account.forget, Account.mutex_enter, Account.mutex_strike]
    exact hle

/-- The owner's next blocking call is not blocked: it adds one level, unless the levels are used up. -/
lemma Mutex.acquire_owner {mutex : Mutex} {t : Thread} (hown : 0 < mutex.native.levelOf t) :
    (∃ mutex', mutex.acquire t Faults.none = .taken mutex' ∧
      mutex'.native.levelOf t = mutex.native.levelOf t + 1) ∨
    NativeLock.maxLevel ≤ mutex.native.level ∧
      mutex.acquire t Faults.none = .failed NativeLock.saturatedCode := by
  rw [NativeLock.levelOf_pos_iff] at hown
  by_cases hmax : mutex.native.level < NativeLock.maxLevel
  · have hu : ∀ u, mutex.native.owner? = some u → u = t := fun u hu =>
      Option.some.inj (hu.symm.trans hown)
    have hlock := (NativeLock.attempt_eq_taken_iff _ _ _).2 ⟨hu, hmax, rfl⟩
    refine .inl ⟨⟨.held t mutex.native.level, mutex.holds + 1⟩, ?_, ?_⟩
    · simp [Mutex.acquire, Faults.none, hlock, Mutex.count]
    · have hl := NativeLock.levelOf_of_taken hlock t
      rwa [if_pos rfl] at hl
  · have hlock := (NativeLock.attempt_eq_saturated_iff _ t).2 ⟨hown, Nat.le_of_not_lt hmax⟩
    exact .inr ⟨Nat.le_of_not_lt hmax, by simp [Mutex.acquire, Faults.none, hlock]⟩

/-- A thread without a level can take the mutex at once iff nobody has a level. -/
lemma Mutex.isOpenTo_iff {mutex : Mutex} {t : Thread} (ht : mutex.native.levelOf t = 0) :
    mutex.isOpenTo t = true ↔ ∀ u, mutex.native.levelOf u = 0 := by
  rw [← NativeLock.eq_free_iff]
  unfold Mutex.isOpenTo Mutex.tryAcquire
  cases hm : mutex.native with
  | free => simp [Faults.none, NativeLock.attempt]
  | held owner n =>
    have hne : owner ≠ t := by
      rintro rfl
      rw [hm, NativeLock.levelOf_held, if_pos rfl] at ht
      cases ht
    simp [Faults.none, NativeLock.attempt, hne]

lemma levelOf_of_not_hasLived (run : List Turn) {m : Nat} {a : Account}
    (ha : (stateAfter run).account? m = some a) {t : Thread} (ht : ¬(stateAfter run).HasLived t) :
    a.mutex.native.levelOf t = 0 := by
  have hnot : ¬a.Involves t := fun h => ht ((valid_stateAfter run).lived m a t ha h)
  unfold Account.Involves at hnot
  rw [(sound_account run ha).level t, Account.holdsOf]
  rw [List.count_eq_zero.2 fun h => hnot (.inl h), List.count_eq_zero.2 fun h => hnot (.inr (.inl h))]

/-- In every state of every run: at most one thread has taken a mutex more often than it gave it
back; the level of each thread is that surplus; its live guards are the guards it took and neither
dropped nor forgot; the owner's next blocking call adds a level at once, or fails because the native
lock can count no further; and a thread that is new takes the mutex at the first try iff nobody has a
surplus. -/
theorem ownership_follows_the_tally (run : List Turn) (m : Nat) (a : Account)
    (ha : (stateAfter run).account? m = some a) :
    (∀ t u, returned run m t < taken run m t → returned run m u < taken run m u → t = u) ∧
    (∀ t, a.mutex.native.levelOf t + returned run m t = taken run m t) ∧
    (∀ t, a.guards.count t + returnedAs run m t .guard + forgotten run m t =
      takenAs run m t .guard) ∧
    (∀ t, returned run m t < taken run m t →
      (∃ mutex, a.mutex.acquire t Faults.none = .taken mutex ∧
        mutex.native.levelOf t = a.mutex.native.levelOf t + 1) ∨
      a.mutex.native.levelOf t = NativeLock.maxLevel ∧
        a.mutex.acquire t Faults.none = .failed NativeLock.saturatedCode) ∧
    (∀ t, ¬(stateAfter run).HasLived t →
      ((a.mutex.tryAcquire t Faults.none).isSome = true ↔
        ∀ u, taken run m u = returned run m u)) := by
  have hlevel := levelOf_add_returned run ha
  have hpos : ∀ t, returned run m t < taken run m t → 0 < a.mutex.native.levelOf t := by
    intro t ht
    have hl := hlevel t
    omega
  refine ⟨?_, hlevel, fun t => (count_holders_eq run ha t).2, ?_, ?_⟩
  · intro t u ht hu
    exact NativeLock.eq_of_levelOf_pos (hpos t ht) (hpos u hu)
  · intro t ht
    have hown := (NativeLock.levelOf_pos_iff _ _).1 (hpos t ht)
    refine (Mutex.acquire_owner (hpos t ht)).imp_right fun ⟨hmax, hfail⟩ => ⟨?_, hfail⟩
    rw [NativeLock.levelOf_eq_level hown]
    exact Nat.le_antisymm (level_le_maxLevel run ha) hmax
  · intro t ht
    have hopen := Mutex.isOpenTo_iff (levelOf_of_not_hasLived run ha ht)
    refine hopen.trans (forall_congr' fun u => ?_)
    have hl := hlevel u
    omega

/-- A step in which no native call fails and the first call that waits goes first. -/
def Turn.plain (step : Step) : Turn where
  step := step
  conditions := ⟨Faults.none, Supervisor.firstCome, true⟩
  honest := ⟨nofun, nofun, fun _ _ h => List.mem_of_head? h⟩

/-- A thread takes a mutex twice, once with a guard, and gives the raw hold back first, while another
thread waits. -/
def mixedRun : List Turn :=
  [.plain (.byThread 0 1 (.release .raw)), .plain (.byThread 0 2 (.acquire .guard)),
    .plain (.byThread 0 1 (.acquire .guard)), .plain (.byThread 0 1 (.acquire .raw)),
    .plain (.new 0)]

theorem ownership_in_mixedRun :
    (stateAfter mixedRun).account? 0 =
        some ⟨⟨.held ⟨1, 0⟩ 0, 1⟩, [], [⟨1, 0⟩], [⟨⟨2, 0⟩, .guard⟩]⟩ ∧
      ∀ t, NativeLock.levelOf (.held ⟨1, 0⟩ 0) t + returned mixedRun 0 t = taken mixedRun 0 t :=
  ⟨by rfl, (ownership_follows_the_tally mixedRun 0 _ (by rfl)).2.1⟩

end Interop.Lock
