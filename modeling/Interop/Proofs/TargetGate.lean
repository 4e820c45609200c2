import Interop.Proofs.QuotedTexts
import Interop.Target.Family

/-!
# What the gate lets through

A name is a field of a text iff it stands between two separators, once there is a separator at
either end of the text. So the gate opens iff a supported name stands in the list as a whole,
wherever it stands and whatever stands beside it. When it stays shut nothing has been printed, and
the reason tells the list.
-/

namespace Interop

namespace Text

/-! ### Fields between separators -/

variable {separator : Char} {field front : List Char}

/-- The field at the front of a text ends at the first separator. -/
lemma append_prefix_iff (hfield : separator ∉ field) (hfront : separator ∉ front)
    (back : List Char) : field ++ [separator] <+: front ++ separator :: back ↔ field = front := by
  constructor
  · rintro ⟨rest, h⟩
    rw [List.append_assoc, List.singleton_append] at h
    have hfields := congrArg (fields separator) h
    rw [fields_append_cons hfield, fields_append_cons hfront] at hfields
    exact List.head_eq_of_cons_eq hfields
  · rintro rfl
    exact ⟨back, by rw [List.append_assoc, List.singleton_append]⟩

/-- What starts with a separator does not start in a text without one. -/
lemma infix_append_iff (hfront : separator ∉ front) (cs rest : List Char) :
    separator :: cs <:+: front ++ rest ↔ separator :: cs <:+: rest := by
  induction front with
  | nil => rfl
  | cons c front ih =>
    obtain ⟨hc, hfront⟩ := List.ne_and_not_mem_of_not_mem_cons hfront
    rw [List.cons_append, List.infix_cons_iff, List.cons_prefix_cons, ih hfront]
    exact or_iff_right fun h => hc h.1

/-- In a text with a separator at either end, a field stands first or behind the next separator. -/
lemma between_cons_iff (hfield : separator ∉ field) (hfront : separator ∉ front)
    (back : List Char) :
    separator :: (field ++ [separator]) <:+: separator :: (front ++ separator :: back) ↔
      field = front ∨ separator :: (field ++ [separator]) <:+: separator :: back := by
  rw [List.infix_cons_iff, List.cons_prefix_cons, and_iff_right rfl,
    append_prefix_iff hfield hfront, infix_append_iff hfront]

/-- The fields of a text are what stands between two separators, once there is one at either end. -/
theorem mem_fields_iff (hfield : separator ∉ field) (cs : List Char) :
    field ∈ fields separator cs ↔
      separator :: (field ++ [separator]) <:+: separator :: (cs ++ [separator]) := by
  -- the text is taken apart behind the part of its first field that was passed already
  suffices general : ∀ cs front : List Char, separator ∉ front →
      (field ∈ fields separator (front ++ cs) ↔
        separator :: (field ++ [separator]) <:+: separator :: (front ++ cs ++ [separator])) from
    general cs [] List.not_mem_nil
  intro cs
  induction cs with
  | nil =>
    intro front hfront
    have hshort : ¬separator :: (field ++ [separator]) <:+: [separator] := by
      intro h
      have hle := h.length_le
      simp at hle
    rw [List.append_nil, fields_of_notMem hfront, List.mem_singleton,
      between_cons_iff hfield hfront, or_iff_left hshort]
  | cons c cs ih =>
    intro front hfront
    by_cases hc : c = separator
    · subst hc
      rw [fields_append_cons hfront, List.mem_cons, List.append_assoc, List.cons_append,
        between_cons_iff hfield hfront, ← List.nil_append cs, ih [] List.not_mem_nil]
    · have hnext : separator ∉ front ++ [c] := by
        simp [hfront, Ne.symm hc]
      have hmoved : front ++ c :: cs = front ++ [c] ++ cs := by simp
      rw [hmoved, ih (front ++ [c]) hnext]

/-- The fields of texts that are joined by the separator are the fields of each. -/
lemma fields_intercalate (separator : Char) {pieces : List (List Char)} (h : pieces ≠ []) :
    fields separator ([separator].intercalate pieces) = pieces.flatMap (fields separator) := by
  induction pieces with
  | nil => exact absurd rfl h
  | cons piece pieces ih =>
    cases pieces with
    | nil => simp
    | cons next pieces =>
      rw [List.intercalate_cons_cons, List.append_assoc, List.singleton_append, fields_append,
        ih (List.cons_ne_nil next pieces)]
      rfl

end Text

namespace Target

/-! ### Supported lists -/

lemma isSupported_iff (families : String) :
    isSupported families = true ↔
      ∃ name ∈ supported, name.toList ∈ Text.fields ',' families.toList := by
  simp only [isSupported, List.any_eq_true, decide_eq_true_iff]
  constructor
  · rintro ⟨field, hfield, name, hname, rfl⟩
    exact ⟨name, hname, hfield⟩
  · rintro ⟨name, hname, hfield⟩
    exact ⟨name.toList, hfield, name, hname, rfl⟩

lemma comma_notMem_of_mem_supported : ∀ name ∈ supported, ',' ∉ name.toList := by decide

/-- A list is supported iff a supported name stands in it between commas. -/
lemma isSupported_iff_infix (families : String) :
    isSupported families = true ↔
      ∃ name ∈ supported, ("," ++ name ++ ",").toList <:+: ("," ++ families ++ ",").toList := by
  rw [isSupported_iff]
  refine exists_congr fun name => and_congr_right fun hname => ?_
  rw [Text.mem_fields_iff (comma_notMem_of_mem_supported name hname)]
  simp only [String.toList_append, List.append_assoc]
  rfl

/-- Lists that are joined are supported iff one of them is. -/
lemma isSupported_intercalate (lists : List String) :
    isSupported (",".intercalate lists) = true ↔ ∃ list ∈ lists, isSupported list = true := by
  rcases eq_or_ne lists [] with rfl | hne
  · exact iff_of_false (by decide) (by simp)
  · have hfields : Text.fields ',' (",".intercalate lists).toList =
        (lists.map String.toList).flatMap (Text.fields ',') := by
      rw [String.toList_intercalate]
      exact Text.fields_intercalate ',' fun hnil => hne (List.map_eq_nil_iff.1 hnil)
    simp only [isSupported_iff, hfields, List.mem_flatMap, List.mem_map]
    constructor
    · rintro ⟨name, hname, _, ⟨list, hlist, rfl⟩, hfield⟩
      exact ⟨list, hlist, name, hname, hfield⟩
    · rintro ⟨list, hlist, name, hname, hfield⟩
      exact ⟨name, hname, _, ⟨list, hlist, rfl⟩, hfield⟩

/-- One name is supported to the letter or not at all. -/
lemma isSupported_of_notMem {name : String} (h : ',' ∉ name.toList) :
    isSupported name = true ↔ name ∈ supported := by
  rw [isSupported_iff, Text.fields_of_notMem h]
  simp only [List.mem_singleton, String.toList_inj, exists_eq_right]

/-! ### The course of the script -/

variable {families others : Option String} {before : String}

lemma script_of_isSupported (h : isSupported (families.getD "") = true) :
    (script families).run before = .ok () (before ++ buildNotice) := by
  unfold script
  rw [if_pos h]
  rfl

lemma script_of_not_isSupported (h : isSupported (families.getD "") = false) :
    (script families).run before = .error (refusal (families.getD "")) before := by
  unfold script
  rw [if_neg (by simp [h])]
  rfl

/-- The build goes ahead. -/
def GoesAhead (families : Option String) : Prop :=
  ∃ printed, (script families).run "" = .ok () printed

/-- The build stops with a reason, and has printed a text by then. -/
def StopsWith (families : Option String) (reason printed : String) : Prop :=
  (script families).run "" = .error reason printed

lemma goesAhead_iff : GoesAhead families ↔ isSupported (families.getD "") = true := by
  unfold GoesAhead
  cases h : isSupported (families.getD "") with
  | true =>
    rw [script_of_isSupported h]
    simp
  | false =>
    rw [script_of_not_isSupported h]
    simp

lemma stopsWith_iff {reason printed : String} :
    StopsWith families reason printed ↔
      ¬GoesAhead families ∧ reason = refusal (families.getD "") ∧ printed = "" := by
  rw [goesAhead_iff]
  unfold StopsWith
  cases h : isSupported (families.getD "") with
  | true =>
    rw [script_of_isSupported h]
    simp
  | false =>
    rw [script_of_not_isSupported h]
    simp [eq_comm]

/-- The reason tells the list. -/
lemma refusal_injective : Function.Injective refusal := by
  intro v w h
  unfold refusal at h
  have hchars := congrArg String.toList h
  simp only [String.toList_append, List.append_assoc] at hchars
  have hquoted := List.append_cancel_right (List.append_cancel_left hchars)
  simp only [Text.quoted, String.toList_ofList] at hquoted
  exact String.toList_injective (Text.quotedChars_injective hquoted)

/-- Another list is refused for the same reason iff it is the same list. -/
lemma StopsWith.other_iff {reason : String} (h : StopsWith families reason "") :
    StopsWith others reason "" ↔ others.getD "" = families.getD "" := by
  obtain ⟨hshut, rfl, -⟩ := stopsWith_iff.1 h
  rw [goesAhead_iff] at hshut
  rw [stopsWith_iff, goesAhead_iff]
  constructor
  · rintro ⟨-, hreason, -⟩
    exact refusal_injective hreason.symm
  · intro heq
    rw [heq]
    exact ⟨hshut, rfl, rfl⟩

/-! ### Lists that are joined -/

variable {names more : List String}

lemma goesAhead_intercalate_iff (lists : List String) :
    GoesAhead (some (",".intercalate lists)) ↔ ∃ list ∈ lists, GoesAhead (some list) := by
  simp only [goesAhead_iff, Option.getD_some, isSupported_intercalate]

/-- A list that opens the gate still does when it is rearranged or has more in it. -/
lemma GoesAhead.of_subset (h : GoesAhead (some (",".intercalate names))) (hsub : names ⊆ more) :
    GoesAhead (some (",".intercalate more)) := by
  obtain ⟨name, hname, hopen⟩ := (goesAhead_intercalate_iff names).1 h
  exact (goesAhead_intercalate_iff more).2 ⟨name, hsub hname, hopen⟩

/-- Names open the gate iff one of them is a supported name to the letter. -/
lemma goesAhead_names_iff (h : ∀ name ∈ names, ',' ∉ name.toList) :
    GoesAhead (some (",".intercalate names)) ↔ ∃ name ∈ names, name ∈ supported := by
  rw [goesAhead_intercalate_iff]
  refine exists_congr fun name => and_congr_right fun hname => ?_
  rw [goesAhead_iff]
  exact isSupported_of_notMem (h name hname)

/-- The gate opens iff `windows` or `unix` stands between two commas, once the list has one at
either end. So it stays open when the names of a list are rearranged, repeated, or joined by others,
and names open it iff one of them is a supported name to the letter. If the gate stays shut, nothing
has been printed, and another list is refused for the same reason iff it is the same list. -/
theorem gate_opens_for_whole_names (families others : Option String) (names more : List String) :
    (GoesAhead families ↔
        ",windows,".toList <:+: ("," ++ families.getD "" ++ ",").toList ∨
          ",unix,".toList <:+: ("," ++ families.getD "" ++ ",").toList) ∧
      (names ⊆ more → GoesAhead (some (",".intercalate names)) →
        GoesAhead (some (",".intercalate more))) ∧
      ((∀ name ∈ names, ',' ∉ name.toList) →
        (GoesAhead (some (",".intercalate names)) ↔ "windows" ∈ names ∨ "unix" ∈ names)) ∧
      (¬GoesAhead families ↔ ∃ reason, StopsWith families reason "") ∧
      ∀ reason, StopsWith families reason "" →
        (StopsWith others reason "" ↔ others.getD "" = families.getD "") := by
  refine ⟨?_, fun hsub h => h.of_subset hsub, ?_, ?_, fun reason h => h.other_iff⟩
  · rw [goesAhead_iff, isSupported_iff_infix]
    simp only [supported, List.mem_cons, List.not_mem_nil, or_false, exists_eq_or_imp, exists_eq_left]
    rfl
  · intro hnames
    rw [goesAhead_names_iff hnames]
    simp only [supported, List.mem_cons, List.not_mem_nil, or_false, and_or_left, exists_or,
      exists_eq_right]
  · constructor
    · intro hshut
      exact ⟨refusal (families.getD ""), stopsWith_iff.2 ⟨hshut, rfl, rfl⟩⟩
    · rintro ⟨reason, h⟩
      exact (stopsWith_iff.1 h).1

/-- Names that are nearly supported do not open the gate; a supported one opens it among them. -/
theorem gate_shut_to_near_misses :
    let near := ["Unix", " unix", "unix\t", "unixware", "window", "windows;unix"]
    let among := ["Unix", "unix", " unix", "wasm", "unix"]
    ¬GoesAhead (some (",".intercalate near)) ∧ GoesAhead (some "wasm,unix") ∧
      GoesAhead (some (",".intercalate among)) ∧
      ∃ reason, StopsWith (some (",".intercalate near)) reason "" ∧ ¬StopsWith none reason "" := by
  intro near among
  have hnear : ∀ name ∈ near, ',' ∉ name.toList := by decide
  obtain ⟨-, -, hshut, hstops, hother⟩ :=
    gate_opens_for_whole_names (some (",".intercalate near)) none near []
  have hnot : ¬GoesAhead (some (",".intercalate near)) := by
    rw [hshut hnear]
    decide
  obtain ⟨hopen, hmore, -⟩ :=
    gate_opens_for_whole_names (some "wasm,unix") none ["wasm", "unix"] among
  have hfirst : GoesAhead (some "wasm,unix") := hopen.2 (.inr (by decide +kernel))
  obtain ⟨reason, hreason⟩ := hstops.1 hnot
  refine ⟨hnot, hfirst, hmore (by decide) hfirst, reason, hreason, ?_⟩
  rw [hother reason hreason]
  decide

end Target

end Interop
