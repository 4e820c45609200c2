import Interop.Log.Filter
import Interop.Proofs.SessionRuns
import Mathlib.Data.List.Induction

/-!
# What is written

A table of directives holds the last directive of each name, and of those that cover a target the
longest name decides. So the order in which the table was filled is forgotten, and the decision for a
target can be read off the directives as they were given: the longest name that starts the target, and
of the directives with that name the last.
-/

namespace Interop.Log

/-! ### Tables -/

namespace Directive

/-- The last of the directives with a name, or of those without a name. -/
def lastNamed (ds : List Directive) (name : Option (List Char)) : Option Directive :=
  (ds.filter fun d => d.name = name).getLast?

lemma lastNamed_concat (ds : List Directive) (d : Directive) (name : Option (List Char)) :
    lastNamed (ds ++ [d]) name = if d.name = name then some d else lastNamed ds name := by
  unfold lastNamed
  rw [List.filter_append]
  by_cases h : d.name = name
  · rw [if_pos h, List.filter_cons_of_pos (by simpa using h), List.filter_nil,
      List.getLast?_concat]
  · rw [if_neg h, List.filter_cons_of_neg (by simpa using h), List.filter_nil, List.append_nil]

lemma lastNamed_cons_of_ne {d : Directive} {name : Option (List Char)} (h : d.name ≠ name)
    (ds : List Directive) : lastNamed (d :: ds) name = lastNamed ds name := by
  unfold lastNamed
  rw [List.filter_cons_of_neg (by simpa using h)]

lemma lastNamed_cons_self {d : Directive} {name : Option (List Char)} (h : d.name = name)
    (ds : List Directive) : lastNamed (d :: ds) name = some ((lastNamed ds name).getD d) := by
  unfold lastNamed
  rw [List.filter_cons_of_pos (by simpa using h), List.getLast?_cons]

lemma lastNamed_eq_none_iff (ds : List Directive) (name : Option (List Char)) :
    lastNamed ds name = none ↔ ∀ d ∈ ds, d.name ≠ name := by
  rw [lastNamed, List.getLast?_eq_none_iff, List.filter_eq_nil_iff]
  simp only [decide_eq_true_eq, ne_eq]

lemma name_of_lastNamed {ds : List Directive} {name : Option (List Char)} {d : Directive}
    (h : lastNamed ds name = some d) : d.name = name := by
  have hmem := (List.mem_filter.1 (List.mem_of_getLast? h)).2
  simpa using hmem

lemma exists_lastNamed {ds : List Directive} {d : Directive} (h : d ∈ ds) :
    ∃ e, lastNamed ds d.name = some e :=
  Option.ne_none_iff_exists'.1 fun hnone => (lastNamed_eq_none_iff ds d.name).1 hnone d h rfl

lemma mem_enter (table : List Directive) (d e : Directive) :
    e ∈ enter table d ↔ e = d ∨ (d.name ≠ e.name ∧ e ∈ table) := by
  unfold enter
  split
  · rename_i hany
    obtain ⟨old, hold, hname⟩ := List.any_eq_true.1 hany
    rw [List.mem_map]
    constructor
    · rintro ⟨x, hx, rfl⟩
      by_cases h : x.name = d.name
      · exact .inl (if_pos h)
      · rw [if_neg h]
        exact .inr ⟨fun heq => h heq.symm, hx⟩
    · rintro (rfl | ⟨hne, he⟩)
      · exact ⟨old, hold, if_pos (by simpa using hname)⟩
      · exact ⟨e, he, if_neg fun heq => hne heq.symm⟩
  · rename_i hany
    have hnew : ∀ x ∈ table, d.name ≠ x.name := by
      intro x hx heq
      exact hany (List.any_eq_true.2 ⟨x, hx, by simp [heq]⟩)
    rw [List.mem_append, List.mem_singleton, or_comm]
    exact or_congr_right ⟨fun he => ⟨hnew e he, he⟩, And.right⟩

/-- A table holds the last directive of each name and nothing else. -/
theorem mem_table_iff (ds : List Directive) (e : Directive) :
    e ∈ table ds ↔ lastNamed ds e.name = some e := by
  induction ds using List.reverseRecOn with
  | nil => simp [table, lastNamed]
  | append_singleton ds d ih =>
    rw [table, List.foldl_append]
    change e ∈ enter (table ds) d ↔ _
    rw [mem_enter, ih, lastNamed_concat]
    by_cases h : d.name = e.name
    · simp [h, eq_comm]
    · have hne : e ≠ d := fun heq => h (heq ▸ rfl)
      simp [h, hne]

/-- The names of a target are compared by their bytes, which puts them in the order of their lengths. -/
lemma length_le_of_nameLength_le {d e : Directive} {name other target : List Char}
    (hd : d.name = some name) (he : e.name = some other) (hfits : name <+: target)
    (hother : other <+: target) (hle : e.nameLength ≤ d.nameLength) :
    other.length ≤ name.length := by
  by_contra hlt
  obtain ⟨tail, rfl⟩ := List.prefix_of_prefix_length_le hfits hother (Nat.le_of_not_le hlt)
  cases tail with
  | nil => simp at hlt
  | cons c tail =>
    have hpos : 0 < (String.utf8EncodeChar c).length := by
      rw [String.length_utf8EncodeChar]
      exact c.utf8Size_pos
    simp only [nameLength, hd, he, Option.map_some, Option.getD_some, Utf8.encode,
      List.flatMap_append, List.flatMap_cons, List.length_append] at hle
    omega

lemma nameLength_pos {d : Directive} {name : List Char} (hd : d.name = some name)
    (hne : name ≠ []) : 0 < d.nameLength := by
  cases name with
  | nil => exact absurd rfl hne
  | cons c name =>
    simp only [nameLength, hd, Option.map_some, Option.getD_some, Utf8.encode, List.flatMap_cons,
      List.length_append, String.length_utf8EncodeChar]
    have := c.utf8Size_pos
    omega

lemma covers_iff (d : Directive) (target : List Char) :
    d.covers target = true ↔ ∀ name, d.name = some name → name <+: target := by
  unfold covers
  cases d.name with
  | none => simp
  | some name => simp

end Directive

/-! ### The directive that decides -/

/-- The threshold that directives decide on for a target, with a level laid under them: that of the
last directive with the longest name that starts the target; where no name does, that of the last
directive without a name, or the level where there is none. -/
inductive Decides (level : Threshold) (ds : List Directive) (target : List Char) : Threshold → Prop
  | named {name : List Char} {d : Directive} (fits : name <+: target)
    (longest : ∀ e ∈ ds, ∀ other, e.name = some other → other <+: target →
      other.length ≤ name.length)
    (last : Directive.lastNamed ds (some name) = some d) : Decides level ds target d.threshold
  | unnamed {d : Directive} (unfit : ∀ e ∈ ds, ∀ name, e.name = some name → ¬name <+: target)
    (last : Directive.lastNamed ds none = some d) : Decides level ds target d.threshold
  | laidUnder (unfit : ∀ e ∈ ds, ∀ name, e.name = some name → ¬name <+: target)
    (last : Directive.lastNamed ds none = none) : Decides level ds target level

namespace Decides

variable {level t t' : Threshold} {ds : List Directive} {target : List Char}

lemma unique (h : Decides level ds target t) (h' : Decides level ds target t') : t = t' := by
  have mem {name : Option (List Char)} {d : Directive}
      (hlast : Directive.lastNamed ds name = some d) : d ∈ ds ∧ d.name = name :=
    ⟨(List.mem_filter.1 (List.mem_of_getLast? hlast)).1, Directive.name_of_lastNamed hlast⟩
  cases h with
  | named fits longest last =>
    obtain ⟨hmem, hname⟩ := mem last
    cases h' with
    | named fits' longest' last' =>
      obtain ⟨hmem', hname'⟩ := mem last'
      have hle := longest _ hmem' _ hname' fits'
      have hge := longest' _ hmem _ hname fits
      have hprefix := List.prefix_of_prefix_length_le fits fits' hge
      obtain rfl := hprefix.eq_of_length (Nat.le_antisymm hge hle)
      rw [Option.some.inj (last.symm.trans last')]
    | unnamed unfit last' => exact absurd fits (unfit _ hmem _ hname)
    | laidUnder unfit last' => exact absurd fits (unfit _ hmem _ hname)
  | unnamed unfit last =>
    cases h' with
    | named fits' longest' last' => exact absurd fits' (unfit _ (mem last').1 _ (mem last').2)
    | unnamed unfit' last' => rw [Option.some.inj (last.symm.trans last')]
    | laidUnder unfit' last' => cases last.symm.trans last'
  | laidUnder unfit last =>
    cases h' with
    | named fits' longest' last' => exact absurd fits' (unfit _ (mem last').1 _ (mem last').2)
    | unnamed unfit' last' => cases last.symm.trans last'
    | laidUnder unfit' last' => rfl

/-- The level counts as a directive without a name that comes before the others. -/
lemma of_lastNamed_none {d : Directive}
    (unfit : ∀ e ∈ ds, ∀ name, e.name = some name → ¬name <+: target)
    (last : Directive.lastNamed (⟨none, level⟩ :: ds) none = some d) :
    Decides level ds target d.threshold := by
  rw [Directive.lastNamed_cons_self rfl] at last
  have hd := Option.some.inj last
  cases h : Directive.lastNamed ds none with
  | some e =>
    rw [h, Option.getD_some] at hd
    exact hd ▸ .unnamed unfit h
  | none =>
    rw [h, Option.getD_none] at hd
    exact hd ▸ .laidUnder unfit h

/-- Directives with different names may change places. -/
lemma rearranged {ds' : List Directive}
    (hsame : ∀ name : Option (List Char),
      (ds'.filter fun d => d.name = name) = ds.filter fun d => d.name = name)
    (h : Decides level ds' target t) : Decides level ds target t := by
  have hlast (name : Option (List Char)) :
      Directive.lastNamed ds' name = Directive.lastNamed ds name := congrArg _ (hsame name)
  have hmem : ∀ e ∈ ds, e ∈ ds' := by
    intro e he
    have hfilter : e ∈ ds.filter fun d => d.name = e.name := List.mem_filter.2 ⟨he, by simp⟩
    rw [← hsame] at hfilter
    exact (List.mem_filter.1 hfilter).1
  cases h with
  | named fits longest last =>
    exact .named fits (fun e he => longest e (hmem e he)) (hlast _ ▸ last)
  | unnamed unfit last => exact .unnamed (fun e he => unfit e (hmem e he)) (hlast _ ▸ last)
  | laidUnder unfit last => exact .laidUnder (fun e he => unfit e (hmem e he)) (hlast _ ▸ last)

end Decides

namespace Filter

/-- A filter whose directives are the table of the given ones, in any order with shorter names first. -/
structure Arranges (f : Filter) (ds : List Directive) : Prop where
  perm : f.directives.Perm (Directive.table ds)
  sorted : f.directives.Pairwise fun a b => a.nameLength ≤ b.nameLength

lemma arranges_ofDirectives (ds : List Directive) (pattern : Option Pattern) :
    (ofDirectives ds pattern).Arranges ds where
  perm := List.mergeSort_perm _ _
  sorted := by
    refine (List.pairwise_mergeSort ?_ ?_ _).imp of_decide_eq_true
    · intro a b c hab hbc
      exact decide_eq_true (Nat.le_trans (of_decide_eq_true hab) (of_decide_eq_true hbc))
    · intro a b
      simpa using Nat.le_total a.nameLength b.nameLength

variable {f : Filter} {level : Threshold} {ds : List Directive} {target : List Char} {d : Directive}

lemma Arranges.mem_iff (h : f.Arranges ds) (e : Directive) :
    e ∈ f.directives ↔ Directive.lastNamed ds e.name = some e := by
  rw [h.perm.mem_iff, Directive.mem_table_iff]

/-- With shorter names first, the last directive that covers a target has the longest name. -/
lemma spec_of_deciding? (hsorted : f.directives.Pairwise fun a b => a.nameLength ≤ b.nameLength)
    (h : f.deciding? target = some d) :
    d ∈ f.directives ∧ d.covers target = true ∧
      ∀ e ∈ f.directives, e.covers target = true → e.nameLength ≤ d.nameLength := by
  obtain ⟨hcovers, behind, front, hsplit, hbehind⟩ := List.find?_eq_some_iff_append.1 h
  have hdirectives : f.directives = front.reverse ++ d :: behind.reverse := by
    have hback := congrArg List.reverse hsplit
    simpa using hback
  rw [hdirectives] at hsorted ⊢
  refine ⟨by simp, hcovers, ?_⟩
  intro e he hcover
  rcases List.mem_append.1 he with he | he
  · exact (List.pairwise_append.1 hsorted).2.2 e he d List.mem_cons_self
  · rcases List.mem_cons.1 he with rfl | he
    · exact Nat.le_refl _
    · have hnot := hbehind e (List.mem_reverse.1 he)
      simp [hcover] at hnot

/-- The directive laid under the others covers every target, so there is always one that decides. -/
lemma exists_deciding? (h : f.Arranges (⟨none, level⟩ :: ds)) (target : List Char) :
    ∃ d, f.deciding? target = some d := by
  have he := Directive.lastNamed_cons_self (d := ⟨none, level⟩) rfl ds
  generalize (Directive.lastNamed ds none).getD ⟨none, level⟩ = e at he
  have hname : e.name = none := Directive.name_of_lastNamed he
  have hmem : e ∈ f.directives := (h.mem_iff e).2 (hname ▸ he)
  refine Option.isSome_iff_exists.1 (List.find?_isSome.2 ⟨e, List.mem_reverse.2 hmem, ?_⟩)
  exact (e.covers_iff target).2 fun name hsome => by simp [hname] at hsome

/-- The directive that a filter finds decides by the longest name, whatever the arrangement. -/
theorem decides_of_deciding? (h : f.Arranges (⟨none, level⟩ :: ds))
    (hnames : ∀ e ∈ ds, e.name ≠ some []) (hd : f.deciding? target = some d) :
    Decides level ds target d.threshold := by
  obtain ⟨hmem, hcovers, hlongest⟩ := spec_of_deciding? h.sorted hd
  have hlast := (h.mem_iff d).1 hmem
  have hentry : ∀ e ∈ ds, ∀ other, e.name = some other → other <+: target →
      ∃ e' : Directive, e'.name = some other ∧ e'.nameLength ≤ d.nameLength := by
    intro e he other hother hfits
    obtain ⟨e', he'⟩ := Directive.exists_lastNamed (List.mem_cons_of_mem ⟨none, level⟩ he)
    have hname : e'.name = some other := (Directive.name_of_lastNamed he').trans hother
    refine ⟨e', hname, hlongest e' ((h.mem_iff e').2 ?_) ((e'.covers_iff target).2 ?_)⟩
    · rwa [hname, ← hother]
    · intro name heq
      rwa [← Option.some.inj (hname.symm.trans heq)]
  cases hname : d.name with
  | some name =>
    rw [hname, Directive.lastNamed_cons_of_ne (by simp)] at hlast
    have hfits := (d.covers_iff target).1 hcovers name hname
    refine .named hfits ?_ hlast
    intro e he other hother hstarts
    obtain ⟨e', he', hle⟩ := hentry e he other hother hstarts
    exact Directive.length_le_of_nameLength_le hname he' hfits hstarts hle
  | none =>
    have hunfit : ∀ e ∈ ds, ∀ other, e.name = some other → ¬other <+: target := by
      intro e he other hother hstarts
      obtain ⟨e', he', hle⟩ := hentry e he other hother hstarts
      have hpos := Directive.nameLength_pos he' fun hnil => hnames e he (hnil ▸ hother)
      have hzero : d.nameLength = 0 := by simp [Directive.nameLength, hname]
      omega
    exact .of_lastNamed_none hunfit (hname ▸ hlast)

/-- The decision of a filter, by the rule. -/
lemma enables_iff (h : f.Arranges (⟨none, level⟩ :: ds)) (hnames : ∀ e ∈ ds, e.name ≠ some [])
    {target : String} {t : Threshold} (ht : Decides level ds target.toList t) (l : Level) :
    f.enables l target = t.admits l := by
  obtain ⟨d, hd⟩ := exists_deciding? h target.toList
  obtain rfl := ht.unique (decides_of_deciding? h hnames hd)
  rw [enables, hd, Option.any_some]

/-- What a filter writes, by the rule. -/
lemma admits_iff (h : f.Arranges (⟨none, level⟩ :: ds)) (hnames : ∀ e ∈ ds, e.name ≠ some [])
    {r : Record} {t : Threshold} (ht : Decides level ds r.target.toList t) :
    f.admits r = true ↔
      t.admits r.level = true ∧ ∀ p, f.pattern = some p → p.isIn r.message = true := by
  rw [admits, enables_iff h hnames ht, Bool.and_eq_true, Option.all_eq_true]

lemma exists_decides (level : Threshold) {ds : List Directive} (hnames : ∀ e ∈ ds, e.name ≠ some [])
    (target : List Char) : ∃ t, Decides level ds target t := by
  have h := arranges_ofDirectives (⟨none, level⟩ :: ds) none
  obtain ⟨d, hd⟩ := exists_deciding? h target
  exact ⟨d.threshold, decides_of_deciding? h hnames hd⟩

/-! ### The ceiling -/

lemma rank_max (t u : Threshold) : (t.max u).rank = Nat.max t.rank u.rank := by
  unfold Threshold.max
  split <;> simp only [Nat.max_def] <;> grind

/-- No threshold of a directive lies above the ceiling. -/
theorem rank_le_maxThreshold (f : Filter) {d : Directive} (hd : d ∈ f.directives) :
    d.threshold.rank ≤ f.maxThreshold.rank := by
  have hfold : ∀ (ds : List Directive) (start : Threshold),
      start.rank ≤ (ds.foldl (fun t d => t.max d.threshold) start).rank ∧
        ∀ d ∈ ds, d.threshold.rank ≤ (ds.foldl (fun t d => t.max d.threshold) start).rank := by
    intro ds
    induction ds with
    | nil => intro start; simp
    | cons e ds ih =>
      intro start
      obtain ⟨hstart, hall⟩ := ih (start.max e.threshold)
      rw [rank_max] at hstart
      rw [List.foldl_cons]
      refine ⟨Nat.le_trans (Nat.le_max_left _ _) hstart, ?_⟩
      intro d hd
      rcases List.mem_cons.1 hd with rfl | hd
      · exact Nat.le_trans (Nat.le_max_right _ _) hstart
      · exact hall d hd
  exact (hfold f.directives .off).2 d hd

/-- What the directives enable, the ceiling lets through. -/
lemma admits_maxThreshold_of_enables {f : Filter} {l : Level} {target : String}
    (h : f.enables l target = true) : f.maxThreshold.admits l = true := by
  obtain ⟨d, hd, hadmits⟩ := (Option.any_eq_true _ _).1 h
  have hmem : d ∈ f.directives := List.mem_reverse.1 (List.mem_of_find?_eq_some hd)
  have hle := rank_le_maxThreshold f hmem
  simp only [Threshold.admits, decide_eq_true_eq] at hadmits ⊢
  omega

end Filter

/-! ### What filters carry -/

/-- The directives of filters that were accepted, in order, and the pattern for messages behind the
slash, if it can be read. A second slash spoils the whole. -/
inductive Carries : Option String → List Directive → Option Pattern → Prop
  | absent : Carries none [] none
  | plain {text : String} (slash : '/' ∉ text.toList) :
    Carries (some text) (Filters.ofDirectives text.toList).directives none
  | pattern {text : String} {front back : List Char} {p : Pattern}
    (split : text.toList = front ++ '/' :: back) (hfront : '/' ∉ front) (hback : '/' ∉ back)
    (valid : Pattern.parse back = .ok p) :
    Carries (some text) (Filters.ofDirectives front).directives (some p)
  | invalid {text : String} {front back : List Char} {fault : Pattern.Fault}
    (split : text.toList = front ++ '/' :: back) (hfront : '/' ∉ front) (hback : '/' ∉ back)
    (invalid : Pattern.parse back = .error fault) :
    Carries (some text) (Filters.ofDirectives front).directives none
  | spoiled {text : String} (many : 1 < text.toList.count '/') : Carries (some text) [] none

lemma filtersOf_of_carries {s : Settings} {ds : List Directive} {pattern : Option Pattern}
    (h : Carries s.filters ds pattern) :
    (Filter.filtersOf s).directives = ds ∧ (Filter.filtersOf s).pattern = pattern := by
  generalize hfilters : s.filters = filters at h
  unfold Filter.filtersOf
  rw [hfilters]
  cases h with
  | absent => exact ⟨rfl, rfl⟩
  | plain slash =>
    dsimp only
    rw [Filters.parse, Text.fields_of_notMem slash]
    exact ⟨rfl, rfl⟩
  | pattern split hfront hback valid =>
    dsimp only
    rw [Filters.parse, split, Text.fields_eq_pair hfront hback]
    dsimp only
    rw [valid]
    exact ⟨rfl, rfl⟩
  | invalid split hfront hback invalid =>
    dsimp only
    rw [Filters.parse, split, Text.fields_eq_pair hfront hback]
    dsimp only
    rw [invalid]
    exact ⟨rfl, rfl⟩
  | spoiled many =>
    obtain ⟨_, _, _, _, hfields⟩ := Text.exists_fields_of_many many
    dsimp only
    rw [Filters.parse, hfields]
    exact ⟨rfl, rfl⟩

/-- The filter of settings arranges their level and what their filters carry. -/
lemma arranges_of_carries {s : Settings} {ds : List Directive} {pattern : Option Pattern}
    (h : Carries s.filters ds pattern) :
    (Filter.ofSettings s).Arranges (⟨none, s.level⟩ :: ds) :=
  (filtersOf_of_carries h).1 ▸ Filter.arranges_ofDirectives _ _

lemma exists_carries (filters : Option String) : ∃ ds pattern, Carries filters ds pattern := by
  cases filters with
  | none => exact ⟨_, _, .absent⟩
  | some text =>
    rcases Text.separator_cases '/' text.toList with
      hslash | ⟨front, back, split, hfront, hback⟩ | hmany
    · exact ⟨_, _, .plain hslash⟩
    · cases hparse : Pattern.parse back with
      | ok p => exact ⟨_, _, .pattern split hfront hback hparse⟩
      | error fault => exact ⟨_, _, .invalid split hfront hback hparse⟩
    · exact ⟨_, _, .spoiled hmany⟩

/-- All filters carry something, and only that. -/
theorem exists_carries_iff (s : Settings) :
    ∃ ds pattern, ∀ ds' pattern',
      Carries s.filters ds' pattern' ↔ ds' = ds ∧ pattern' = pattern := by
  obtain ⟨ds, pattern, h⟩ := exists_carries s.filters
  refine ⟨ds, pattern, fun ds' pattern' => ⟨fun h' => ?_, ?_⟩⟩
  · obtain ⟨rfl, rfl⟩ := filtersOf_of_carries h
    obtain ⟨rfl, rfl⟩ := filtersOf_of_carries h'
    exact ⟨rfl, rfl⟩
  · rintro ⟨rfl, rfl⟩
    exact h

/-! ### What is written -/

/-- The ceiling lets through all that the filter of a logger admits. -/
lemma emit_of_writing {q : Session} {f : Filter} {timestamps : Bool}
    (hlogger : q.logger = some (.writing f timestamps)) (hceiling : q.ceiling = f.maxThreshold)
    (time : String) (r : Record) :
    q.emit time r =
      if f.admits r = true then { written := r.line (if timestamps then some time else none) }
      else {} := by
  unfold Session.emit Logger.take
  rw [hlogger, hceiling]
  by_cases h : f.admits r = true
  · have henables : f.enables r.level r.target = true := (Bool.and_eq_true_iff.1 h).1
    simp only [h, Filter.admits_maxThreshold_of_enables henables, if_true]
  · simp only [h, Bool.false_eq_true, if_false, ite_self]

lemma line_ne_empty (time : Option String) (r : Record) : r.line time ≠ "" := by
  intro h
  have hchars := congrArg String.toList h
  simp [Record.line] at hchars

/-- A record is written iff its level lies within the threshold that the directives decide on for its
target, and its message fits the pattern if there is one. This holds from the installation on, whatever
happens later. The directives may be given in another order as long as those with one name keep theirs,
and their table may be arranged in any order that puts shorter names first. -/
theorem longest_name_decides {p : Process} (hnone : p.session.logger = none) (now : String)
    (s : Settings) :
    ∃ ds pattern,
      (∀ ds' pattern', Carries s.filters ds' pattern' ↔ ds' = ds ∧ pattern' = pattern) ∧
      ((∀ d ∈ ds, d.name ≠ some []) → ∀ (later : List Process.Event) (time : String) (r : Record),
        let q := ((p.after ⟨now, .install s⟩).through later).session
        let line := r.line (if s.timestamps then some time else none)
        line ≠ "" ∧ ∃ t, (∀ t', Decides s.level ds r.target.toList t' ↔ t' = t) ∧
          q.emit time r =
            (if t.admits r.level = true ∧ ∀ pat, pattern = some pat → pat.isIn r.message = true then
              { written := line }
            else {}) ∧
          ∀ (ds' : List Directive) (f : Filter),
            (∀ name : Option (List Char),
              (ds'.filter fun d => d.name = name) = ds.filter fun d => d.name = name) →
            f.directives.Perm (Directive.table (⟨none, s.level⟩ :: ds')) →
            (f.directives.Pairwise fun a b => a.nameLength ≤ b.nameLength) → f.pattern = pattern →
            (f.admits r = true ↔
              t.admits r.level = true ∧ ∀ pat, pattern = some pat → pat.isIn r.message = true)) := by
  obtain ⟨ds, pattern, hunique⟩ := exists_carries_iff s
  refine ⟨ds, pattern, hunique, fun hnames later time r => ⟨line_ne_empty _ r, ?_⟩⟩
  have hcarries : Carries s.filters ds pattern := (hunique ds pattern).2 ⟨rfl, rfl⟩
  obtain ⟨-, hpattern⟩ := filtersOf_of_carries hcarries
  obtain ⟨t, ht⟩ := Filter.exists_decides s.level hnames r.target.toList
  refine ⟨t, fun t' => ⟨fun ht' => ht'.unique ht, fun heq => heq ▸ ht⟩, ?_, ?_⟩
  · have hadmits := Filter.admits_iff (arranges_of_carries hcarries) hnames ht
    rw [show (Filter.ofSettings s).pattern = pattern from hpattern] at hadmits
    obtain ⟨hlogger, hceiling⟩ := Process.session_of_installed hnone now s later
    rw [emit_of_writing hlogger hceiling]
    simp only [hadmits]
  · intro ds' f hsame hperm hsorted hpat
    have hnames' : ∀ d ∈ ds', d.name ≠ some [] := by
      intro d hd hname
      have hmem : d ∈ ds'.filter fun d => d.name = some [] := List.mem_filter.2 ⟨hd, by simp [hname]⟩
      rw [hsame] at hmem
      exact hnames d (List.mem_filter.1 hmem).1 hname
    obtain ⟨t', ht'⟩ := Filter.exists_decides s.level hnames' r.target.toList
    obtain rfl := (ht'.rearranged hsame).unique ht
    rw [Filter.admits_iff ⟨hperm, hsorted⟩ hnames' ht', hpat]

/-- A short name between two directives for a longer one, and a pattern. -/
def layeredSettings : Settings where
  level := .upTo .trace
  filters := some "ab=debug,a=error,ab=info/m"
  timestamps := false

/-- Of the names that start the target the longer one decides, by its last directive. -/
theorem longest_name_decides_in_layeredSettings :
    let ds : List Directive :=
      [⟨some ['a', 'b'], .upTo .debug⟩, ⟨some ['a'], .upTo .error⟩, ⟨some ['a', 'b'], .upTo .info⟩]
    let p : Process := ⟨{}, {}⟩
    let q := ((p.after ⟨"12:00", .install layeredSettings⟩).through
      [⟨"12:01", .install {}⟩]).session
    p.session.logger = none ∧ Carries layeredSettings.filters ds (some (.text ['m'])) ∧
      (∀ d ∈ ds, d.name ≠ some []) ∧
      q.emit "12:02" ⟨.info, "abc", "time"⟩ =
        { written := "[INFO  abc] time\n" } ∧
      q.emit "12:02" ⟨.debug, "abc", "time"⟩ = {} ∧ q.emit "12:02" ⟨.info, "abc", "tie"⟩ = {} := by
  intro ds p q
  have hsplit : "ab=debug,a=error,ab=info/m".toList =
      "ab=debug,a=error,ab=info".toList ++ '/' :: ['m'] := by decide
  have hcarries : Carries layeredSettings.filters ds (some (.text ['m'])) :=
    .pattern hsplit (by decide) (by decide) (by decide +kernel)
  have hnames : ∀ d ∈ ds, d.name ≠ some [] := by decide
  have hlast : Directive.lastNamed ds (some ['a', 'b']) =
      some ⟨some ['a', 'b'], .upTo .info⟩ := by decide
  have hlongest : ∀ e ∈ ds, ∀ other, e.name = some other → other <+: "abc".toList →
      other.length ≤ ['a', 'b'].length := by
    intro e he other hother _
    have hshort : ∀ e ∈ ds, (e.name.getD []).length ≤ 2 := by decide
    simpa [hother] using hshort e he
  have hdecides : Decides layeredSettings.level ds "abc".toList (.upTo .info) :=
    .named (by decide) hlongest hlast
  have hwritten (l : Level) (message : String) :
      q.emit "12:02" ⟨l, "abc", message⟩ =
        if (Threshold.upTo .info).admits l = true ∧ (Pattern.text ['m']).isIn message = true then
          { written := Record.line none ⟨l, "abc", message⟩ }
        else {} := by
    obtain ⟨ds', pattern, hunique, hwrites⟩ :=
      longest_name_decides (p := p) rfl "12:00" layeredSettings
    obtain ⟨rfl, rfl⟩ := (hunique _ _).1 hcarries
    obtain ⟨-, t, ht, hemit, -⟩ :=
      hwrites hnames [⟨"12:01", .install {}⟩] "12:02" ⟨l, "abc", message⟩
    obtain rfl := (ht _).1 hdecides
    simp only [Option.some.injEq, forall_eq'] at hemit
    exact hemit
  refine ⟨rfl, hcarries, hnames, ?_, ?_, ?_⟩
  · exact (hwritten .info "time").trans (if_pos ⟨rfl, by decide +kernel⟩)
  · exact (hwritten .debug "time").trans (if_neg fun h => absurd h.1 (by decide))
  · exact (hwritten .info "tie").trans (if_neg fun h => absurd h.2 (by decide +kernel))

end Interop.Log
