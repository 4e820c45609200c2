import Interop.Proofs.LockLevels

/-!
# The end of a mutex

A mutex that is dropped has its native lock destroyed if nobody holds it, and left behind if somebody
does. A lock is destroyed only after its own creation and only once, and the records of a run add up:
every mutex that was created is alive, or is reported as destroyed or as left behind.
-/

namespace Interop.Lock

open Log (Record)

/-! ### Creation comes first -/

/-- A mutex that exists was created, and has not been dropped since. -/
theorem created_of_account? (run : List Turn) {m : Nat} {a : Account}
    (ha : (stateAfter run).account? m = some a) :
    ∃ since creation before, history run = since ++ creation :: before ∧
      creation.creates m = true ∧ ∀ e ∈ since, e.drops m = false := by
  refine account_induction (P := fun run _ => ∃ since creation before,
    history run = since ++ creation :: before ∧ creation.creates m = true ∧
      ∀ e ∈ since, e.drops m = false) ?_ ?_ run ha
  · intro turn earlier hc
    exact ⟨[], ⟨stateAfter earlier, turn⟩, history earlier, rfl, hc, nofun⟩
  · rintro turn earlier a b - hb - ⟨since, creation, before, hsplit, hc, hsince⟩
    refine ⟨⟨stateAfter earlier, turn⟩ :: since, creation, before,
      congrArg (List.cons _) hsplit, hc, ?_⟩
    intro d hd
    rcases List.mem_cons.1 hd with rfl | hd
    · rw [Bool.eq_false_iff]
      intro hdrop
      have hgone : (stateAfter (turn :: earlier)).account? m = none := Entry.account?_of_drops hdrop
      rw [hgone] at hb
      cases hb
    · exact hsince d hd

lemma NativeLock.destroy_notMem_create (codes : NativeCall → Int32) :
    .mutexDestroy ∉ (NativeLock.create codes).calls := by
  unfold NativeLock.create
  split
  · simp
  · split <;> simp

/-- A code other than zero from any of the calls that set a native lock up is a failure. -/
lemma NativeLock.create_eq_error {codes : NativeCall → Int32} {call : NativeCall}
    (hcall : call ∈ [.attributeInit, .attributeSetType, .mutexInit]) (h : codes call ≠ 0) :
    ∃ f, (NativeLock.create codes).outcome = .error f := by
  have hmem : (call, codes call) ∈ setUp.map fun call => (call, codes call) :=
    List.mem_map_of_mem (f := fun call => (call, codes call)) hcall
  have hfirst : (setUpFailure? codes).isSome = true :=
    List.find?_isSome.2 ⟨_, hmem, by simpa using h⟩
  obtain ⟨⟨first, code⟩, hfirst⟩ := Option.isSome_iff_exists.1 hfirst
  exact ⟨_, (create_eq_error_iff codes _).2 ⟨first, code, hfirst, rfl⟩⟩

lemma Supervisor.create_of_code {s : Supervisor} {c : Conditions} {m : Nat}
    (hm : s.account? m = none) {call : NativeCall}
    (hcall : call ∈ [.attributeInit, .attributeSetType, .mutexInit])
    (h : c.faults.code call ≠ 0) :
    ∃ f, (s.create c m).after = s ∧ (s.create c m).outcome = .ok (.failed f) ∧
      (s.create c m).records = [Mutex.creationFailedRecord f] ∧
      .mutexDestroy ∉ (s.create c m).calls := by
  obtain ⟨f, hf⟩ := NativeLock.create_eq_error hcall h
  have hd := NativeLock.destroy_notMem_create c.faults.code
  refine ⟨f, ?_⟩
  unfold Supervisor.create Mutex.ofCreation
  simp [hm, hf, hd]

/-! ### What a drop decides -/

lemma Mutex.drop_of_holds_eq_zero {mutex : Mutex} (h : mutex.holds = 0)
    (codes : NativeCall → Int32) :
    mutex.drop codes = ⟨[.mutexDestroy],
      (if codes .mutexDestroy = 0 then [] else [destroyFailedRecord (codes .mutexDestroy)]) ++
        [destroyedRecord]⟩ := if_neg (not_not.2 h)

/-- If nobody has a hold outstanding the native lock is destroyed. A code from that call is reported
right before the end of the mutex is. -/
lemma drop_of_returned (run : List Turn) {m : Nat} {a : Account}
    (ha : (stateAfter run).account? m = some a) (h : ∀ t, taken run m t = returned run m t)
    (codes : NativeCall → Int32) :
    a.mutex.native = .free ∧
    a.mutex.drop codes = ⟨[.mutexDestroy],
      (if codes .mutexDestroy = 0 then [] else [Mutex.destroyFailedRecord (codes .mutexDestroy)]) ++
        [Mutex.destroyedRecord]⟩ := by
  have hfree : a.mutex.native = .free := by
    rw [NativeLock.eq_free_iff]
    intro t
    have hl := levelOf_add_returned run ha t
    rw [h t] at hl
    omega
  have hholds := (sound_account run ha).holds
  rw [hfree, NativeLock.level_free] at hholds
  exact ⟨hfree, Mutex.drop_of_holds_eq_zero hholds codes⟩

/-- If a thread has holds outstanding the mutex is left behind, and their number is reported. -/
lemma drop_of_outstanding (run : List Turn) {m : Nat} {a : Account}
    (ha : (stateAfter run).account? m = some a) {t : Thread} {n : Nat} (hn : 0 < n)
    (h : taken run m t = returned run m t + n) (codes : NativeCall → Int32) :
    a.mutex.drop codes = ⟨[], [Mutex.leakedRecord n]⟩ := by
  have hl := levelOf_add_returned run ha t
  have hlevel : a.mutex.native.levelOf t = n := by omega
  have hown := (NativeLock.levelOf_pos_iff _ _).1 (hlevel ▸ hn)
  have hholds : a.mutex.holds = n := by
    rw [(sound_account run ha).holds, ← NativeLock.levelOf_eq_level hown, hlevel]
  rw [Mutex.drop, hholds]
  exact if_pos (by omega)

lemma returned_or_outstanding (run : List Turn) {m : Nat} {a : Account}
    (ha : (stateAfter run).account? m = some a) :
    (∀ t, taken run m t = returned run m t) ∨
      ∃ t n, 0 < n ∧ taken run m t = returned run m t + n := by
  by_cases h : ∀ t, taken run m t = returned run m t
  · exact .inl h
  · obtain ⟨t, ht⟩ := not_forall.1 h
    have hl := levelOf_add_returned run ha t
    exact .inr ⟨t, a.mutex.native.levelOf t, by omega, by omega⟩

/-! ### The records add up -/

def saysLeaked (r : Record) : Bool :=
  r.target = Mutex.target && "native mutex dropped with ".toList.isPrefixOf r.message.toList

def recordsOf (run : List Turn) : List Record := (history run).flatMap fun e => e.report.records

@[simp] lemma saysLeaked_leakedRecord (n : Nat) : saysLeaked (Mutex.leakedRecord n) = true := by
  have hmsg : (Mutex.leakedRecord n).message.toList = "native mutex dropped with ".toList ++
      ((toString n).toList ++ " outstanding holds; leaking it".toList) := by
    rw [← String.toList_append, ← String.toList_append, ← String.append_assoc]
    rfl
  unfold saysLeaked
  rw [hmsg, List.isPrefixOf_iff_prefix.2 (List.prefix_append _ _)]
  rfl

@[simp] lemma saysLeaked_creationFailedRecord (f : Failure) :
    saysLeaked (Mutex.creationFailedRecord f) = false := by
  simp [saysLeaked, Mutex.creationFailedRecord, String.toList_append, List.isPrefixOf]

@[simp] lemma saysLeaked_destroyFailedRecord (code : Int32) :
    saysLeaked (Mutex.destroyFailedRecord code) = false := by
  simp [saysLeaked, Mutex.destroyFailedRecord, Mutex.target, Mutex.nativeTarget]

@[simp] lemma saysLeaked_createdRecord : saysLeaked Mutex.createdRecord = false := by
  simp [saysLeaked, Mutex.createdRecord, List.isPrefixOf]

@[simp] lemma saysLeaked_destroyedRecord : saysLeaked Mutex.destroyedRecord = false := by
  simp [saysLeaked, Mutex.destroyedRecord, List.isPrefixOf]

lemma Mutex.records_drop (mutex : Mutex) (codes : NativeCall → Int32) :
    (mutex.drop codes).records.count createdRecord = 0 ∧
      (mutex.drop codes).records.count destroyedRecord +
        (mutex.drop codes).records.countP saysLeaked = 1 := by
  have hleak : ∀ n, leakedRecord n ≠ createdRecord ∧ leakedRecord n ≠ destroyedRecord :=
    fun n => ⟨by simp [leakedRecord, createdRecord], by simp [leakedRecord, destroyedRecord]⟩
  have hfail : ∀ code, destroyFailedRecord code ≠ createdRecord ∧
      destroyFailedRecord code ≠ destroyedRecord :=
    fun code => ⟨by simp [destroyFailedRecord, createdRecord],
      by simp [destroyFailedRecord, destroyedRecord]⟩
  have hend : destroyedRecord ≠ createdRecord := by decide
  unfold drop
  by_cases hheld : mutex.holds = 0
  · by_cases hcode : codes .mutexDestroy = 0
    · simp [hheld, hcode, hend]
    · simp [hheld, hcode, hend, hfail]
  · simp [hheld, hleak]

lemma length_remove {s : Supervisor} (hv : s.Valid) {m : Nat} {a : Account}
    (ha : s.account? m = some a) : (s.remove m).mutexes.length + 1 = s.mutexes.length := by
  have hmem : m ∈ s.mutexes.map Prod.fst :=
    List.mem_map.2 ⟨(m, a), (Supervisor.mem_iff_lookup hv.keys m a).2 ha, rfl⟩
  have hkeys : (s.remove m).mutexes.map Prod.fst = (s.mutexes.map Prod.fst).erase m := by
    rw [hv.keys.erase_eq_filter, List.filter_map]
    simp [Supervisor.remove, Function.comp_def, bne, Bool.beq_eq_decide_eq]
  have hl := congrArg List.length hkeys
  rw [List.length_map, List.length_erase_of_mem hmem, List.length_map] at hl
  have hpos := List.length_pos_of_mem hmem
  rw [List.length_map] at hpos
  omega

/-- What becomes of the number of mutexes in a turn is told by its records. -/
lemma Entry.records_balance (e : Entry) (hv : e.before.Valid) :
    e.report.records.count Mutex.createdRecord + e.before.mutexes.length =
      e.report.records.count Mutex.destroyedRecord + e.report.records.countP saysLeaked +
        e.after.mutexes.length := by
  have hfail : ∀ f, Mutex.creationFailedRecord f ≠ Mutex.createdRecord ∧
      Mutex.creationFailedRecord f ≠ Mutex.destroyedRecord :=
    fun f => ⟨by simp [Mutex.creationFailedRecord, Mutex.createdRecord],
      by simp [Mutex.creationFailedRecord, Mutex.destroyedRecord]⟩
  cases e.treats hv with
  | keeps records _ keys _ =>
    have hl := congrArg List.length keys
    rw [List.length_map, List.length_map] at hl
    rw [records, hl]
    rfl
  | fails m f _ report =>
    rw [after, report]
    simp [hfail f]
  | creates m _ _ report =>
    have hne : Mutex.createdRecord ≠ Mutex.destroyedRecord := by decide
    have hl := (Supervisor.keys_insert_perm m (Account.fresh ⟨.free, 0⟩) e.before.mutexes).length_eq
    rw [List.length_map, List.length_cons, List.length_map] at hl
    rw [after, report]
    simp [hne, hl, Nat.add_comm]
  | drops m a _ account _ report =>
    obtain ⟨hcreated, hended⟩ := a.mutex.records_drop e.turn.conditions.faults.code
    have hl := length_remove hv account
    rw [after, report]
    dsimp only
    omega

/-- Of the mutexes created, those that are not alive were reported as destroyed or left behind. -/
theorem records_add_up (run : List Turn) :
    (recordsOf run).count Mutex.createdRecord =
      (recordsOf run).count Mutex.destroyedRecord + (recordsOf run).countP saysLeaked +
        (stateAfter run).mutexes.length := by
  -- by induction on the run, each turn keeps the balance
  induction run with
  | nil => rfl
  | cons turn earlier ih =>
    let e : Entry := ⟨stateAfter earlier, turn⟩
    have hb := e.records_balance (valid_stateAfter earlier)
    have hsplit : recordsOf (turn :: earlier) = e.report.records ++ recordsOf earlier := rfl
    change _ = _ + _ + e.after.mutexes.length
    rw [hsplit, List.count_append, List.count_append, List.countP_append]
    change _ + (stateAfter earlier).mutexes.length = _ at hb
    omega

/-! ### Runs that use guards only -/

/-- Whether the step takes no raw hold and forgets no guard. -/
def ThreadStep.keepsToGuards : ThreadStep → Bool
  | .acquire hold | .tryAcquire hold => hold = .guard
  | .forget => false
  | .release _ | .inspectGuard => true

def Step.keepsToGuards : Step → Bool
  | .byThread _ _ step => step.keepsToGuards
  | .new _ | .onMutex _ _ | .exit _ => true

/-- Whether the deed adds no raw hold and no call that asks for one. -/
def Deed.keepsToGuards : Deed → Bool
  | .take _ hold => hold = .guard
  | .wait w => w.hold = .guard
  | .forget _ => false
  | .complete _ | .giveBack _ _ => true

lemma keepsToGuards_completions {a : Account} {woke : List Thread} {d : Deed}
    (h : d ∈ a.completions woke) : d.keepsToGuards = true := by
  obtain ⟨w, -, rfl⟩ := List.mem_map.1 h
  rfl

lemma ThreadStep.keepsToGuards_deeds {a : Account} {t : Thread} {step : ThreadStep} {reply : Reply}
    (hs : step.keepsToGuards = true) {d : Deed} (h : d ∈ step.deeds a t reply) :
    d.keepsToGuards = true := by
  unfold ThreadStep.deeds at h
  split at h
  · exact List.mem_singleton.1 h ▸ hs
  · exact List.mem_singleton.1 h ▸ hs
  · exact List.mem_singleton.1 h ▸ hs
  · rcases List.mem_cons.1 h with rfl | h
    · rfl
    · exact keepsToGuards_completions h
  · cases hs
  · cases h

lemma Step.keepsToGuards_deeds {s : Supervisor} {m : Nat} {a : Account} {step : Step} {reply : Reply}
    (hs : step.keepsToGuards = true) {d : Deed} (h : d ∈ step.deeds s m a reply) :
    d.keepsToGuards = true := by
  unfold Step.deeds at h
  split at h
  · split at h
    · exact ThreadStep.keepsToGuards_deeds hs h
    · cases h
  · split at h
    · exact keepsToGuards_completions h
    · cases h
  · rcases List.mem_append.1 h with h | h
    · rw [List.eq_of_mem_replicate h]
      rfl
    · exact keepsToGuards_completions h
  · cases h

/-- An account with no raw hold and no call that asks for one. -/
structure Account.Guarded (a : Account) : Prop where
  raw : a.raw = []
  waiting : ∀ w ∈ a.waiting, w.hold = .guard

lemma Account.Guarded.apply {a : Account} (ha : a.Guarded) {d : Deed} (hd : d.keepsToGuards = true)
    (hp : a.Permits d) : (a.apply d).Guarded := by
  cases d with
  | take t hold =>
    cases hold with
    | raw => cases hd
    | guard => exact ⟨ha.raw, ha.waiting⟩
  | wait w =>
    refine ⟨ha.raw, ?_⟩
    intro v hv
    rcases List.mem_append.1 hv with hv | hv
    · exact ha.waiting v hv
    · rw [List.mem_singleton.1 hv]
      simpa [Deed.keepsToGuards] using hd
  | complete w =>
    have hw : w.hold = .guard := ha.waiting w hp.2
    have hrest : ∀ v ∈ a.waiting.erase w, v.hold = .guard :=
      fun v hv => ha.waiting v (List.mem_of_mem_erase hv)
    rw [Account.apply, hw]
    exact ⟨ha.raw, hrest⟩
  | giveBack t hold =>
    cases hold with
    | raw => exact ⟨by simp [Account.apply, Account.giveBack, Account.strike, ha.raw], ha.waiting⟩
    | guard => exact ⟨ha.raw, ha.waiting⟩
  | forget t => cases hd

lemma guarded_account {run : List Turn} (hrun : ∀ turn ∈ run, turn.step.keepsToGuards = true)
    {m : Nat} {a : Account} (ha : (stateAfter run).account? m = some a) : a.Guarded := by
  refine account_induction
    (P := fun run a => (∀ turn ∈ run, turn.step.keepsToGuards = true) → a.Guarded) ?_ ?_ run ha hrun
  · exact fun _ _ _ _ => ⟨rfl, nofun⟩
  · intro turn earlier a b _ _ hp ih hrun
    refine hp.invariant ?_ (ih fun t ht => hrun t (List.mem_cons_of_mem _ ht))
    intro a d hd hguarded
    obtain ⟨c, reply, -, -, hdeeds⟩ := Entry.mem_deeds hd
    rw [hdeeds] at hd
    exact hguarded.apply (Step.keepsToGuards_deeds (hrun turn List.mem_cons_self) hd)

lemma Account.Guarded.holds {a : Account} (ha : a.Guarded) (hs : a.Sound)
    (hb : a.isBorrowed = false) : a.mutex.holds = 0 := by
  have hguards : a.guards = [] := by
    simp only [Account.isBorrowed, Bool.or_eq_false_iff, Bool.not_eq_false', List.isEmpty_iff] at hb
    exact hb.1
  rw [hs.holds, NativeLock.level_eq_zero_iff, NativeLock.eq_free_iff]
  intro t
  rw [hs.level t, Account.holdsOf, ha.raw, hguards]
  rfl

/-- A run that uses guards only and forgets none leaves no native lock behind. -/
theorem not_saysLeaked_of_keepsToGuards {run : List Turn}
    (hrun : ∀ turn ∈ run, turn.step.keepsToGuards = true) :
    ∀ r ∈ recordsOf run, saysLeaked r = false := by
  induction run with
  | nil => nofun
  | cons turn earlier ih =>
    have hearlier : ∀ t ∈ earlier, t.step.keepsToGuards = true :=
      fun t ht => hrun t (List.mem_cons_of_mem _ ht)
    let e : Entry := ⟨stateAfter earlier, turn⟩
    have hsplit : recordsOf (turn :: earlier) = e.report.records ++ recordsOf earlier := rfl
    intro r hr
    rw [hsplit] at hr
    rcases List.mem_append.1 hr with hr | hr
    · cases e.treats (valid_stateAfter earlier) with
      | keeps records _ _ _ =>
        rw [records] at hr
        cases hr
      | fails m f _ report =>
        rw [report] at hr
        simp only [List.mem_singleton] at hr
        simp [hr]
      | creates m _ _ report =>
        rw [report] at hr
        simp only [List.mem_singleton] at hr
        simp [hr]
      | drops m a _ account unborrowed report =>
        have hguarded := guarded_account hearlier account
        have hzero := hguarded.holds (sound_account earlier account) unborrowed
        rw [report, Mutex.drop_of_holds_eq_zero hzero] at hr
        rcases List.mem_append.1 hr with hr | hr
        · split at hr
          · cases hr
          · simp only [List.mem_singleton] at hr
            simp [hr]
        · simp only [List.mem_singleton] at hr
          simp [hr]
    · exact ih hearlier r hr

/-! ### The whole life of a mutex -/

/-- Whatever destroys a native lock is the drop of a mutex that nobody holds. -/
lemma drop_of_destroy (run : List Turn) {turn : Turn}
    (h : .mutexDestroy ∈ (Entry.report ⟨stateAfter run, turn⟩).calls) :
    ∃ m a, turn.step = .onMutex m .drop ∧ (stateAfter run).account? m = some a ∧
      (Entry.report ⟨stateAfter run, turn⟩).calls = [.mutexDestroy] ∧ a.mutex.native = .free ∧
      ∀ t, taken run m t = returned run m t := by
  cases Entry.treats ⟨stateAfter run, turn⟩ (valid_stateAfter run) with
  | keeps _ calls _ _ =>
    rw [calls] at h
    cases h
  | fails m f _ report =>
    rw [report] at h
    exact absurd h (NativeLock.destroy_notMem_create _)
  | creates m _ _ report =>
    rw [report] at h
    exact absurd h (NativeLock.destroy_notMem_create _)
  | drops m a step account _ report =>
    refine ⟨m, a, step, account, ?_⟩
    rw [report] at h ⊢
    dsimp only at h ⊢
    rcases returned_or_outstanding run account with hall | ⟨t, n, hn, ht⟩
    · obtain ⟨hfree, hdrop⟩ := drop_of_returned run account hall turn.conditions.faults.code
      exact ⟨by rw [hdrop], hfree, hall⟩
    · rw [drop_of_outstanding run account hn ht] at h
      cases h

lemma report_of_drop {run : List Turn} {turn : Turn} {m : Nat} {a : Account}
    (hstep : turn.step = .onMutex m .drop) (ha : (stateAfter run).account? m = some a)
    (hb : a.isBorrowed = false) :
    Entry.report ⟨stateAfter run, turn⟩ =
      { after := (stateAfter run).remove m
        outcome := .ok .dropped
        records := (a.mutex.drop turn.conditions.faults.code).records
        calls := (a.mutex.drop turn.conditions.faults.code).calls } := by
  have hrep : Entry.report ⟨stateAfter run, turn⟩ =
      (stateAfter run).runOn turn.conditions m a .drop := by
    unfold Entry.report
    rw [hstep]
    exact runUnder_onMutex ha turn.conditions .drop
  rcases drop_cases (stateAfter run) turn.conditions m a with ⟨hborrowed, -⟩ | ⟨-, hdrop⟩
  · rw [hb] at hborrowed
    cases hborrowed
  · exact hrep.trans hdrop

/-- Over every run, the records of creation are as many as those of destruction, those of a lock left
behind and the mutexes alive together, and with guards alone nothing is left behind. In the next turn
of the run:

* a native lock is destroyed only by a drop of its mutex, once, when every thread has given back what
  it took, and the mutex was created before and has not been dropped since;
* a drop destroys the lock if all holds were given back, and reports a code other than zero right
  before the end; if a thread has some outstanding it leaves the lock behind and reports how many;
* a creation in which a call returns a code other than zero leaves one record and no mutex. -/
theorem each_mutex_ends_once (run : List Turn) :
    (recordsOf run).count ⟨.trace, "widebridge::sync", "native mutex created"⟩ =
      (recordsOf run).count ⟨.trace, "widebridge::sync", "native mutex destroyed"⟩ +
        (recordsOf run).countP saysLeaked + (stateAfter run).mutexes.length ∧
    ((∀ turn ∈ run, turn.step.keepsToGuards = true) → ∀ r ∈ recordsOf run, saysLeaked r = false) ∧
    ∀ turn : Turn,
      let e : Entry := ⟨stateAfter run, turn⟩
      (.mutexDestroy ∈ e.report.calls →
        ∃ m a, turn.step = .onMutex m .drop ∧ e.before.account? m = some a ∧
          e.report.calls = [.mutexDestroy] ∧ a.mutex.native = .free ∧
          (∀ t, taken run m t = returned run m t) ∧
          ∃ since creation before, history run = since ++ creation :: before ∧
            creation.creates m = true ∧ ∀ d ∈ since, d.drops m = false) ∧
      (∀ m a, turn.step = .onMutex m .drop → e.before.account? m = some a →
        a.isBorrowed = false →
        e.drops m = true ∧ e.after.account? m = none ∧
        ((∀ t, taken run m t = returned run m t) →
          let code := turn.conditions.faults.code .mutexDestroy
          e.report.calls = [.mutexDestroy] ∧
          e.report.records =
            (if code = 0 then []
              else [⟨.error, "widebridge::platform::unix::pthread",
                "pthread_mutex_destroy" ++ s!" failed (errno {code.toInt})"⟩]) ++
              [⟨.trace, "widebridge::sync", "native mutex destroyed"⟩]) ∧
        ∀ t n, 0 < n → taken run m t = returned run m t + n →
          e.report.calls = [] ∧
          e.report.records = [⟨.error, "widebridge::sync",
            s!"native mutex dropped with {n} outstanding holds; leaking it"⟩]) ∧
      (∀ m call, turn.step = .new m → e.before.account? m = none →
        call ∈ [.attributeInit, .attributeSetType, .mutexInit] →
        turn.conditions.faults.code call ≠ 0 →
        ∃ f, e.after = e.before ∧ e.report.outcome = .ok (.failed f) ∧
          e.report.records =
            [⟨.error, "widebridge::sync", "native mutex creation failed: " ++ f.message⟩] ∧
          .mutexDestroy ∉ e.report.calls) := by
  refine ⟨records_add_up run, not_saysLeaked_of_keepsToGuards, ?_⟩
  intro turn e
  refine ⟨?_, ?_, ?_⟩
  · intro h
    obtain ⟨m, a, hstep, ha, hcalls, hfree, hall⟩ := drop_of_destroy run h
    exact ⟨m, a, hstep, ha, hcalls, hfree, hall, created_of_account? run ha⟩
  · intro m a hstep ha hb
    have hrep : e.report = _ := report_of_drop hstep ha hb
    have hdrops : e.drops m = true := by
      unfold Entry.drops
      rw [hrep]
      simp [e, hstep]
    refine ⟨hdrops, Entry.account?_of_drops hdrops, ?_, ?_⟩
    · intro hall
      have hdrop := (drop_of_returned run ha hall turn.conditions.faults.code).2
      rw [hrep, hdrop]
      exact ⟨rfl, rfl⟩
    · intro t n hn ht
      rw [hrep, drop_of_outstanding run ha hn ht]
      exact ⟨rfl, rfl⟩
  · intro m call hstep hm hcall hcode
    have hrep : e.report = (stateAfter run).create turn.conditions m := by
      unfold Entry.report Supervisor.runUnder
      simp only [e, hstep]
    unfold Entry.after
    rw [hrep]
    exact Supervisor.create_of_code hm hcall hcode

/-- A thread takes a mutex twice and ends with one of its holds. -/
def abandonedRun : List Turn :=
  [.plain (.exit 1), .plain (.byThread 0 1 (.acquire .guard)),
    .plain (.byThread 0 1 (.acquire .raw)), .plain (.new 0)]

theorem abandonedRun_leaks :
    let e : Entry := ⟨stateAfter abandonedRun, .plain (.onMutex 0 .drop)⟩
    e.report.calls = [] ∧ e.report.records = [⟨.error, "widebridge::sync",
      "native mutex dropped with 1 outstanding holds; leaking it"⟩] := by
  have hdrop := ((each_mutex_ends_once abandonedRun).2.2 (.plain (.onMutex 0 .drop))).2.1 0
    ⟨⟨.held ⟨1, 0⟩ 0, 1⟩, [⟨1, 0⟩], [], []⟩ rfl (by rfl) rfl
  exact hdrop.2.2.2 ⟨1, 0⟩ 1 Nat.one_pos (by decide)

end Interop.Lock
