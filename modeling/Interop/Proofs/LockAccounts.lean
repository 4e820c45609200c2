import Interop.Lock.Supervisor
import Mathlib.Data.List.Nodup
import Mathlib.Tactic.Common

/-!
# The accounts of a supervisor

An account is found by the number of its mutex, and the numbers are distinct. Here stands what it
means for that when an account is put in, replaced or taken out, and in what ways each kind of step
can end.
-/

namespace Interop.Lock

/-! ### Accounts by number -/

namespace Supervisor

variable (s : Supervisor)

lemma lookup_cons_of_ne {m n : Nat} (h : m ≠ n) (a : Account) (l : List (Nat × Account)) :
    ((n, a) :: l).lookup m = l.lookup m := by
  rw [List.lookup_cons, beq_eq_false_iff_ne.mpr h]

lemma lookup_map (f : Nat → Account → Account) (l : List (Nat × Account)) (m : Nat) :
    (l.map fun (n, a) => (n, f n a)).lookup m = (l.lookup m).map (f m) := by
  induction l with
  | nil => rfl
  | cons p l ih =>
    obtain ⟨n, a⟩ := p
    rw [List.map_cons]
    by_cases h : m = n
    · simp [h]
    · rw [lookup_cons_of_ne h, lookup_cons_of_ne h, ih]

lemma account?_update (n : Nat) (a : Account) (m : Nat) :
    (s.update n a).account? m = (s.account? m).map fun b => if m = n then a else b :=
  lookup_map (fun k b => if k = n then a else b) s.mutexes m

lemma lookup_filter (n : Nat) (l : List (Nat × Account)) (m : Nat) :
    (l.filter fun (k, _) => k ≠ n).lookup m = if m = n then none else l.lookup m := by
  induction l with
  | nil => simp
  | cons p l ih =>
    obtain ⟨k, a⟩ := p
    rw [List.filter_cons]
    by_cases hk : k = n
    · rw [if_neg (by simpa using hk), ih]
      by_cases hm : m = n
      · rw [if_pos hm, if_pos hm]
      · rw [if_neg hm, if_neg hm, lookup_cons_of_ne (hk ▸ hm)]
    · rw [if_pos (by simpa using hk)]
      by_cases hm : m = k
      · simp [hm, hk]
      · rw [lookup_cons_of_ne hm, lookup_cons_of_ne hm, ih]

lemma account?_remove (n m : Nat) :
    (s.remove n).account? m = if m = n then none else s.account? m :=
  lookup_filter n s.mutexes m

lemma lookup_insert {l : List (Nat × Account)} {n : Nat} (h : l.lookup n = none) (m : Nat)
    (a : Account) : (insert n a l).lookup m = if m = n then some a else l.lookup m := by
  induction l with
  | nil => by_cases hmn : m = n <;> simp [insert, hmn]
  | cons p l ih =>
    obtain ⟨k, b⟩ := p
    have hnk : n ≠ k := by
      rintro rfl
      simp at h
    rw [lookup_cons_of_ne hnk] at h
    unfold insert
    by_cases hlt : n < k
    · rw [if_pos hlt]
      by_cases hm : m = n
      · simp [hm]
      · rw [lookup_cons_of_ne hm, if_neg hm]
    · rw [if_neg hlt]
      by_cases hm : m = k
      · simp [hm, hnk.symm]
      · rw [lookup_cons_of_ne hm, lookup_cons_of_ne hm, ih h]

lemma keys_insert_perm (n : Nat) (a : Account) (l : List (Nat × Account)) :
    ((insert n a l).map Prod.fst).Perm (n :: l.map Prod.fst) := by
  induction l with
  | nil => rfl
  | cons p l ih =>
    unfold insert
    by_cases hlt : n < p.1
    · simp [hlt]
    · simp only [hlt, if_false, List.map_cons]
      exact (List.Perm.cons _ ih).trans (List.Perm.swap _ _ _)

lemma keys_update (n : Nat) (a : Account) :
    (s.update n a).mutexes.map Prod.fst = s.mutexes.map Prod.fst := by
  unfold update
  rw [List.map_map]
  rfl

@[simp] lemma mutexes_summon (number : Nat) : (s.summon number).mutexes = s.mutexes := by
  unfold summon
  split <;> rfl

@[simp] lemma ended_summon (number : Nat) : (s.summon number).ended = s.ended := by
  unfold summon
  split <;> rfl

@[simp] lemma account?_summon (number m : Nat) :
    (s.summon number).account? m = s.account? m := by simp [account?]

lemma mem_iff_lookup {l : List (Nat × Account)} (hk : (l.map Prod.fst).Nodup) (m : Nat)
    (a : Account) : (m, a) ∈ l ↔ l.lookup m = some a := by
  induction l with
  | nil => simp
  | cons p l ih =>
    obtain ⟨k, b⟩ := p
    rw [List.map_cons, List.nodup_cons] at hk
    rw [List.mem_cons, ih hk.2]
    by_cases hm : m = k
    · subst hm
      have hl : l.lookup m = none := by
        rw [List.lookup_eq_none_iff]
        intro p hp
        have hne : m ≠ p.1 := fun h => hk.1 (List.mem_map.2 ⟨p, hp, h.symm⟩)
        simpa using hne
      simp [hl, eq_comm]
    · rw [lookup_cons_of_ne hm]
      simp [hm]

def waitingOn (m : Nat) : List Thread :=
  ((s.account? m).map fun a => a.waiting.map Waiter.thread).getD []

lemma mem_waitingOn_iff (m : Nat) (t : Thread) :
    t ∈ s.waitingOn m ↔ ∃ a, s.account? m = some a ∧ ∃ w ∈ a.waiting, w.thread = t := by
  unfold waitingOn
  cases s.account? m <;> simp

lemma isBlocked_iff (hk : (s.mutexes.map Prod.fst).Nodup) (t : Thread) :
    s.isBlocked t = true ↔ ∃ m, t ∈ s.waitingOn m := by
  simp only [isBlocked, List.any_eq_true, decide_eq_true_eq, Prod.exists, mem_waitingOn_iff]
  simp only [mem_iff_lookup hk]
  rfl

end Supervisor

/-! ### How steps end -/

lemma runUnder_onMutex {s : Supervisor} {n : Nat} {a : Account} (ha : s.account? n = some a)
    (c : Conditions) (step : MutexStep) : s.runUnder c (.onMutex n step) = s.runOn c n a step := by
  simp only [Supervisor.runUnder, ha]

lemma runUnder_onMutex_of_none {s : Supervisor} {n : Nat} (ha : s.account? n = none)
    (c : Conditions) (step : MutexStep) :
    s.runUnder c (.onMutex n step) = Supervisor.refuse s .noSuchMutex := by
  simp only [Supervisor.runUnder, ha]

/-- A step of a thread is refused and changes no mutex, or the thread is not blocked and its step is
answered. -/
lemma runBy_cases (s : Supervisor) (c : Conditions) (m number : Nat) (step : ThreadStep) :
    (∃ after r, s.runBy c m number step = Supervisor.refuse after r ∧
      after.mutexes = s.mutexes ∧ after.ended = s.ended) ∨
    ∃ a after answer, s.account? m = some a ∧ s.isBlocked (s.thread number) = false ∧
      (s.summon number).stepOf c m a (s.thread number) step = .ok (after, answer) ∧
      s.runBy c m number step = Supervisor.reply after answer := by
  unfold Supervisor.runBy
  cases ha : s.account? m with
  | none => exact .inl ⟨s, _, rfl, rfl, rfl⟩
  | some a =>
    by_cases hb : s.isBlocked (s.thread number) = true
    · exact .inl ⟨s, _, if_pos hb, rfl, rfl⟩
    · simp only [if_neg hb]
      cases hr : (s.summon number).stepOf c m a (s.thread number) step with
      | error r => exact .inl ⟨s.summon number, r, rfl, s.mutexes_summon _, s.ended_summon _⟩
      | ok p => exact .inr ⟨a, p.1, p.2, rfl, by simpa using hb, hr, rfl⟩

lemma NativeLock.eq_free_of_create {codes : NativeCall → Int32} {lock : NativeLock}
    (h : (NativeLock.create codes).outcome = .ok lock) : lock = .free := by
  unfold NativeLock.create at h
  split at h
  · cases h
  · split at h
    · cases h
    · by_cases h0 : codes .mutexInit = 0
      · simpa [h0, eq_comm] using h
      · simp [h0] at h

namespace NativeLock

/-- The calls that set up a lock, in their order. -/
def setUp : List NativeCall := [.attributeInit, .attributeSetType, .mutexInit]

/-- The first of the calls that set up a lock to return a code other than zero, with the code. -/
def setUpFailure? (codes : NativeCall → Int32) : Option (NativeCall × Int32) :=
  (setUp.map fun call => (call, codes call)).find? fun p => p.2 ≠ 0

lemma create_eq_error_iff (codes : NativeCall → Int32) (f : Failure) :
    (create codes).outcome = .error f ↔
      ∃ call code, setUpFailure? codes = some (call, code) ∧ f = call.failure code := by
  unfold create setUpFailure? setUp
  by_cases hinit : codes .attributeInit = 0
  · by_cases hset : codes .attributeSetType = 0
    · by_cases hmutex : codes .mutexInit = 0 <;> simp [hinit, hset, hmutex, eq_comm]
    · simp [hinit, hset, eq_comm]
  · simp [hinit, eq_comm]

lemma ne_zero_of_setUpFailure? {codes : NativeCall → Int32} {call : NativeCall} {code : Int32}
    (h : setUpFailure? codes = some (call, code)) : code ≠ 0 := by
  simpa using List.find?_some h

end NativeLock

/-- A creation is refused, or it fails and adds no mutex, or it adds a free one. Whatever it does, its
native calls are those of the native creation, and it leaves one record. -/
lemma create_cases (s : Supervisor) (c : Conditions) (m : Nat) :
    (∃ r, s.create c m = Supervisor.refuse s r) ∨
    (∃ f, s.create c m = { after := s
                           outcome := .ok (.failed f)
                           records := [Mutex.creationFailedRecord f]
                           calls := (NativeLock.create c.faults.code).calls }) ∨
    (s.account? m = none ∧
      s.create c m =
        { after := { s with mutexes := Supervisor.insert m (Account.fresh ⟨.free, 0⟩) s.mutexes }
          outcome := .ok .created
          records := [Mutex.createdRecord]
          calls := (NativeLock.create c.faults.code).calls }) := by
  unfold Supervisor.create Mutex.ofCreation
  cases s.account? m with
  | some a => exact .inl ⟨_, rfl⟩
  | none =>
    cases hout : (NativeLock.create c.faults.code).outcome with
    | error f => exact .inr (.inl ⟨f, by simp [hout]⟩)
    | ok lock =>
      have hfree := NativeLock.eq_free_of_create hout
      exact .inr (.inr ⟨rfl, by simp [hout, hfree]⟩)

lemma exit_cases (s : Supervisor) (c : Conditions) (number : Nat) :
    (∃ r, s.exit c number = Supervisor.refuse s r) ∨
    (s.isBlocked (s.thread number) = false ∧
      s.exit c number = Supervisor.reply
        { mutexes := s.mutexes.map fun (n, a) => (n, (a.sweep c.choose (s.thread number)).1)
          alive := s.alive.erase number
          ended := number :: s.ended }
        (.exited (s.mutexes.flatMap fun (_, a) => (a.sweep c.choose (s.thread number)).2))) := by
  unfold Supervisor.exit
  by_cases hl : s.alive.contains number = true
  · simp only [if_pos hl]
    by_cases hb : s.isBlocked (s.thread number) = true
    · exact .inl ⟨_, if_pos hb⟩
    · exact .inr ⟨by simpa using hb, if_neg hb⟩
  · exact .inl ⟨_, if_neg hl⟩

lemma drop_cases (s : Supervisor) (c : Conditions) (n : Nat) (a : Account) :
    (a.isBorrowed = true ∧ s.runOn c n a .drop = Supervisor.refuse s .borrowed) ∨
    (a.isBorrowed = false ∧
      s.runOn c n a .drop = { after := s.remove n
                              outcome := .ok .dropped
                              records := (a.mutex.drop c.faults.code).records
                              calls := (a.mutex.drop c.faults.code).calls }) := by
  unfold Supervisor.runOn
  by_cases hb : a.isBorrowed = true
  · exact .inl ⟨hb, if_pos hb⟩
  · exact .inr ⟨by simpa using hb, if_neg hb⟩

end Interop.Lock
