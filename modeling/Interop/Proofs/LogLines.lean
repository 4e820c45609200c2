import Interop.Proofs.SessionRuns
import Interop.Proofs.Utf8Texts
import Mathlib.Data.List.SplitBy

/-!
# Lines that are read back

What a logger has written can be read without knowing what was emitted. A line with a bracket at the
margin starts a record, because the further lines of a message are indented. In its header the level
has a place and a width of its own, and the first closing bracket ends the target. So the records come
back from the text, and no message can pass for a record.
-/

namespace Interop

namespace Log

/-! ### Reading -/

/-- The lines of a text, each of which ends with a newline. -/
def linesOf (text : List Char) : List (List Char) := (Text.fields '\n' text).dropLast

/-- The lines of a text, put together record by record: a line that starts with a bracket starts a
record. -/
def entriesOf (text : List Char) : List (List (List Char)) :=
  (linesOf text).splitBy fun _ line => line.head? ≠ some '['

/-- The level at the front of a text, with the text behind it. -/
def levelAtFront? (cs : List Char) : Option (Level × List Char) :=
  [Level.error, .warn, .info, .debug, .trace].findSome? fun l =>
    if l.padded <+: cs then some (l, cs.drop l.padded.length) else none

/-- Reads the first line of a record from behind its bracket: an optional word in front of the level,
the level, the target up to the closing bracket, and the first line of the message. -/
def readHeader? (cs : List Char) : Option (Level × List Char × List Char) :=
  (levelAtFront? cs <|> levelAtFront? (cs.dropWhile (· ≠ ' ')).tail).map fun (level, rest) =>
    (level, (rest.takeWhile (· ≠ ']')).tail, (rest.dropWhile (· ≠ ']')).drop 2)

/-- Reads the lines of one record. The further lines of the message lose their margin. -/
def readEntry? : List (List Char) → Option Record
  | [] => none
  | first :: further =>
    (readHeader? first.tail).map fun (level, target, message) =>
      ⟨level, String.ofList target,
        String.ofList (['\n'].intercalate (message :: further.map (List.drop margin.length)))⟩

/-- Reads what a logger has written. -/
def readRecords? (text : List Char) : Option (List Record) := (entriesOf text).mapM readEntry?

/-! ### Times -/

/-- Whether a character may stand where a form has the given one: a zero stands for any digit. -/
def Fits (form c : Char) : Prop := c = form ∨ form = '0' ∧ c.isDigit = true

instance : DecidableRel Fits := fun form c =>
  inferInstanceAs (Decidable (c = form ∨ form = '0' ∧ c.isDigit = true))

/-- A time in UTC to the second, as it stands in a header. -/
def IsTime (t : String) : Prop := List.Forall₂ Fits "0000-00-00T00:00:00Z".toList t.toList

instance (t : String) : Decidable (IsTime t) :=
  inferInstanceAs (Decidable (List.Forall₂ Fits _ _))

lemma mem_or_isDigit_of_fits {form cs : List Char} (h : List.Forall₂ Fits form cs) {c : Char}
    (hc : c ∈ cs) : c ∈ form ∨ c.isDigit = true := by
  induction h with
  | nil => cases hc
  | cons hfits _ ih =>
    rcases List.mem_cons.1 hc with rfl | hc
    · exact hfits.imp (fun heq => List.mem_cons.2 (.inl heq)) And.right
    · exact (ih hc).imp_left (List.mem_cons_of_mem _)

namespace IsTime

variable {t : String}

lemma notMem (h : IsTime t) {c : Char} (hdigit : c.isDigit = false)
    (hform : c ∉ "0000-00-00T00:00:00Z".toList) : c ∉ t.toList := by
  intro hc
  rcases mem_or_isDigit_of_fits h hc with hmem | hmem
  · exact hform hmem
  · rw [hdigit] at hmem
    cases hmem

lemma exists_digit (h : IsTime t) : ∃ c rest, t.toList = c :: rest ∧ c.isDigit = true := by
  have hform : "0000-00-00T00:00:00Z".toList = '0' :: "000-00-00T00:00:00Z".toList := by decide
  rw [IsTime, hform, List.forall₂_cons_left_iff] at h
  obtain ⟨c, rest, hfits, -, heq⟩ := h
  exact ⟨c, rest, heq, hfits.elim (fun h => h ▸ rfl) And.right⟩

end IsTime

/-! ### Headers -/

lemma length_padded (l : Level) : l.padded.length = 5 := by
  cases l <;> decide

/-- Filled to one width, no name of a level begins another. -/
lemma padded_prefix_iff (l l' : Level) (rest : List Char) :
    l'.padded <+: l.padded ++ rest ↔ l' = l := by
  have hinj : ∀ l l' : Level, l'.padded = l.padded → l' = l := by
    intro l l'
    cases l <;> cases l' <;> decide
  constructor
  · intro h
    have hlength : l'.padded.length = l.padded.length := by rw [length_padded, length_padded]
    have hfront := List.prefix_of_prefix_length_le h (List.prefix_append l.padded rest)
      (Nat.le_of_eq hlength)
    exact hinj l l' (hfront.eq_of_length hlength)
  · rintro rfl
    exact List.prefix_append _ _

lemma levelAtFront?_padded (l : Level) (rest : List Char) :
    levelAtFront? (l.padded ++ rest) = some (l, rest) := by
  unfold levelAtFront?
  simp only [padded_prefix_iff]
  cases l <;> simp

lemma levelAtFront?_digit {c : Char} (hc : c.isDigit = true) (rest : List Char) :
    levelAtFront? (c :: rest) = none := by
  have hletter : ∀ l : Level, ∃ d tail, l.padded = d :: tail ∧ d.isDigit = false := by
    intro l
    cases l <;> exact ⟨_, _, rfl, rfl⟩
  refine List.findSome?_eq_none_iff.2 fun l _ => if_neg ?_
  obtain ⟨d, tail, hl, hd⟩ := hletter l
  rw [hl, List.cons_prefix_cons]
  rintro ⟨rfl, -⟩
  rw [hd] at hc
  cases hc

/-- The time as it stands in a header. -/
def timePart : Option String → List Char
  | none => []
  | some t => t.toList ++ [' ']

def targetPart (target : String) : List Char := if target = "" then [] else ' ' :: target.toList

lemma header_append (time : Option String) (r : Record) (message : List Char) :
    header time r ++ message =
      '[' :: (timePart time ++ (r.level.padded ++ (targetPart r.target ++ ']' :: ' ' :: message))) := by
  cases time <;> simp [header, timePart, targetPart]

lemma tail_targetPart (target : String) : (targetPart target).tail = target.toList := by
  unfold targetPart
  split
  · rename_i h
    rw [h]
    rfl
  · rfl

lemma notMem_targetPart {target : String} {c : Char} (hblank : c ≠ ' ') (h : c ∉ target.toList) :
    c ∉ targetPart target := by
  unfold targetPart
  split
  · exact List.not_mem_nil
  · exact List.not_mem_cons_of_ne_of_not_mem hblank h

lemma span_ne_of_notMem {c : Char} {front : List Char} (h : c ∉ front) (rest : List Char) :
    (front ++ c :: rest).takeWhile (· ≠ c) = front ∧
      (front ++ c :: rest).dropWhile (· ≠ c) = c :: rest := by
  have hfront : ∀ d ∈ front, decide (d ≠ c) = true := fun d hd =>
    decide_eq_true fun heq => h (heq ▸ hd)
  rw [List.takeWhile_append_of_pos hfront, List.dropWhile_append_of_pos hfront]
  simp

/-- Behind the level the target is read up to the bracket, whatever the message. -/
lemma readHeader?_of_level {cs : List Char} {l : Level} {target : String} {message : List Char}
    (htarget : ']' ∉ target.toList)
    (hlevel : (levelAtFront? cs <|> levelAtFront? (cs.dropWhile (· ≠ ' ')).tail) =
      some (l, targetPart target ++ ']' :: ' ' :: message)) :
    readHeader? cs = some (l, target.toList, message) := by
  obtain ⟨htake, hdrop⟩ :=
    span_ne_of_notMem (notMem_targetPart (by decide) htarget) (' ' :: message)
  rw [readHeader?, hlevel, Option.map_some]
  dsimp only
  rw [htake, hdrop, tail_targetPart]
  rfl

/-- The header is read, with a time or without. -/
lemma readHeader?_header {time : Option String} (htime : ∀ t, time = some t → IsTime t) {r : Record}
    (htarget : ']' ∉ r.target.toList) (message : List Char) :
    readHeader? (header time r ++ message).tail = some (r.level, r.target.toList, message) := by
  refine readHeader?_of_level htarget ?_
  rw [header_append, List.tail_cons]
  cases time with
  | none =>
    rw [timePart, List.nil_append, levelAtFront?_padded]
    rfl
  | some t =>
    have ht := htime t rfl
    obtain ⟨c, rest, hc, hdigit⟩ := ht.exists_digit
    have hnone (cs : List Char) : levelAtFront? (t.toList ++ cs) = none := by
      rw [hc, List.cons_append, levelAtFront?_digit hdigit]
    have hblank : ' ' ∉ t.toList := ht.notMem rfl (by decide)
    rw [timePart, List.append_assoc, List.singleton_append, hnone]
    rw [(span_ne_of_notMem hblank _).2, List.tail_cons, levelAtFront?_padded]
    rfl

/-! ### Lines -/

/-- What stands in front of lines stands in front of the first. -/
lemma append_intercalate (front first : List Char) (further : List (List Char)) :
    front ++ ['\n'].intercalate (first :: further) =
      ['\n'].intercalate ((front ++ first) :: further) := by
  cases further with
  | nil => simp
  | cons next further => simp [List.intercalate_cons_cons]

lemma indent_of_notMem {cs : List Char} (h : '\n' ∉ cs) : indent cs = cs := by
  induction cs with
  | nil => rfl
  | cons c cs ih =>
    obtain ⟨hc, hcs⟩ := List.ne_and_not_mem_of_not_mem_cons h
    rw [indent, List.flatMap_cons, if_neg hc.symm]
    exact congrArg (List.cons c) (ih hcs)

/-- Indented are all lines but the first. -/
lemma indent_intercalate {first : List Char} {further : List (List Char)}
    (h : ∀ line ∈ first :: further, '\n' ∉ line) :
    indent (['\n'].intercalate (first :: further)) =
      ['\n'].intercalate (first :: further.map (margin ++ ·)) := by
  induction further generalizing first with
  | nil => simpa using indent_of_notMem (h first List.mem_cons_self)
  | cons next further ih =>
    obtain ⟨hfirst, hrest⟩ := List.forall_mem_cons.1 h
    have happend : indent (first ++ ['\n'] ++ ['\n'].intercalate (next :: further)) =
        indent first ++ '\n' :: (margin ++ indent (['\n'].intercalate (next :: further))) := by
      simp [indent, List.flatMap_append]
    rw [List.intercalate_cons_cons, happend, indent_of_notMem hfirst, ih hrest, append_intercalate,
      List.map_cons, List.intercalate_cons_cons]
    simp

/-- A record, and the time in its header if it has one. -/
structure Stamped where
  time : Option String
  record : Record

namespace Stamped

/-- What is read back: a time is one, and the target has no closing bracket and stays on its line. -/
structure Readable (s : Stamped) : Prop where
  time : ∀ t, s.time = some t → IsTime t
  bracket : ']' ∉ s.record.target.toList
  newline : '\n' ∉ s.record.target.toList

def text (s : Stamped) : List Char := (s.record.line s.time).toList

def first (s : Stamped) : List Char := (Text.fields '\n' s.record.message.toList).headD []

def further (s : Stamped) : List (List Char) := (Text.fields '\n' s.record.message.toList).tail

def lines (s : Stamped) : List (List Char) :=
  (header s.time s.record ++ s.first) :: s.further.map (margin ++ ·)

variable {s : Stamped}

lemma fields_message (s : Stamped) :
    Text.fields '\n' s.record.message.toList = s.first :: s.further := by
  obtain ⟨line, lines, hfields⟩ :=
    List.exists_cons_of_ne_nil (Text.fields_ne_nil '\n' s.record.message.toList)
  rw [first, further, hfields]
  rfl

lemma intercalate_message (s : Stamped) :
    ['\n'].intercalate (s.first :: s.further) = s.record.message.toList := by
  rw [← s.fields_message, Text.fields_eq_splitOn, List.intercalate_splitOn]

lemma newline_notMem_message (s : Stamped) : ∀ line ∈ s.first :: s.further, '\n' ∉ line := by
  intro line hline hmem
  rw [← s.fields_message] at hline
  exact (Text.mem_and_ne_of_mem_fields hline hmem).2 rfl

lemma text_eq (s : Stamped) : s.text = ['\n'].intercalate s.lines ++ ['\n'] := by
  rw [text, Record.line, String.toList_ofList, ← s.intercalate_message,
    indent_intercalate s.newline_notMem_message, append_intercalate]
  rfl

/-- A record starts with a bracket at the margin. -/
lemma head?_header_append (time : Option String) (r : Record) (cs : List Char) :
    (header time r ++ cs).head? = some '[' := by
  rw [header_append, List.head?_cons]

lemma newline_notMem_header (h : s.Readable) : '\n' ∉ header s.time s.record := by
  have htime : '\n' ∉ timePart s.time := by
    cases htime : s.time with
    | none => exact List.not_mem_nil
    | some t =>
      rw [timePart, List.mem_append, not_or]
      exact ⟨(h.time t htime).notMem rfl (by decide), by decide⟩
  have hpadded : '\n' ∉ s.record.level.padded := by
    cases s.record.level <;> decide
  have htarget : '\n' ∉ targetPart s.record.target := notMem_targetPart (by decide) h.newline
  rw [← List.append_nil (header s.time s.record), header_append]
  simp [htime, hpadded, htarget]

lemma newline_notMem_lines (h : s.Readable) : ∀ line ∈ s.lines, '\n' ∉ line := by
  obtain ⟨hfirst, hfurther⟩ := List.forall_mem_cons.1 s.newline_notMem_message
  refine List.forall_mem_cons.2 ⟨?_, ?_⟩
  · rw [List.mem_append, not_or]
    exact ⟨newline_notMem_header h, hfirst⟩
  · intro line hline
    obtain ⟨rest, hrest, rfl⟩ := List.mem_map.1 hline
    rw [List.mem_append, not_or]
    exact ⟨by decide, hfurther rest hrest⟩

/-- The lines of a record are read whole, and then those of what comes behind it. -/
lemma linesOf_append (h : s.Readable) (rest : List Char) :
    linesOf (s.text ++ rest) = s.lines ++ linesOf rest := by
  have hlines : Text.fields '\n' (['\n'].intercalate s.lines) = s.lines := by
    rw [Text.fields_eq_splitOn]
    exact List.splitOn_intercalate _ (newline_notMem_lines h) (List.cons_ne_nil _ _)
  rw [linesOf, text_eq, List.append_assoc, List.singleton_append, Text.fields_append, hlines,
    List.dropLast_append_of_ne_nil (Text.fields_ne_nil _ _), linesOf]

/-- The lines of one record are read as that record. -/
lemma readEntry?_lines (h : s.Readable) : readEntry? s.lines = some s.record := by
  rw [lines, readEntry?, readHeader?_header h.time h.bracket, Option.map_some]
  dsimp only
  have hmargin : (s.further.map (margin ++ ·)).map (List.drop margin.length) = s.further := by
    simp [Function.comp_def]
  rw [hmargin, s.intercalate_message, String.ofList_toList, String.ofList_toList]

end Stamped

/-- The lines of records are the lines of each. -/
lemma linesOf_flatMap {ss : List Stamped} (h : ∀ s ∈ ss, s.Readable) :
    linesOf (ss.flatMap Stamped.text) = ss.flatMap Stamped.lines := by
  induction ss with
  | nil => rfl
  | cons s ss ih =>
    obtain ⟨hs, hss⟩ := List.forall_mem_cons.1 h
    rw [List.flatMap_cons, s.linesOf_append hs, ih hss, List.flatMap_cons]

/-- Only the first line of a record starts with a bracket, so the lines fall into records again. -/
lemma splitBy_lines (ss : List Stamped) :
    (ss.flatMap Stamped.lines).splitBy (fun _ line => line.head? ≠ some '[') =
      ss.map Stamped.lines := by
  induction ss with
  | nil => rfl
  | cons s ss ih =>
    have hsingle : s.lines.splitBy (fun _ line => line.head? ≠ some '[') = [s.lines] := by
      have hmargin (line : List Char) : decide ((margin ++ line).head? ≠ some '[') = true := rfl
      refine List.splitBy_of_isChain (List.cons_ne_nil _ _) (List.isChain_cons.2 ⟨?_, ?_⟩)
      · intro next hnext
        obtain ⟨line, -, rfl⟩ := List.mem_map.1 (List.mem_of_mem_head? hnext)
        exact hmargin line
      · exact (List.isChain_map _).2 (List.pairwise_of_forall fun _ line => hmargin line).isChain
    rw [List.flatMap_cons, List.splitBy_append, hsingle, ih]
    · rfl
    · intro line _ next hnext
      cases ss with
      | nil => cases hnext
      | cons s' ss =>
        obtain rfl := Option.some.inj hnext
        rw [Stamped.head?_header_append]
        rfl

/-- What was written is read as the records that were written. -/
theorem readRecords?_flatMap {ss : List Stamped} (h : ∀ s ∈ ss, s.Readable) :
    readRecords? (ss.flatMap Stamped.text) = some (ss.map Stamped.record) := by
  rw [readRecords?, entriesOf, linesOf_flatMap h, splitBy_lines]
  induction ss with
  | nil => rfl
  | cons s ss ih =>
    obtain ⟨hs, hss⟩ := List.forall_mem_cons.1 h
    rw [List.map_cons, List.mapM_cons, s.readEntry?_lines hs, ih hss]
    rfl

/-! ### Calls -/

/-- The macro by which a record is emitted. -/
inductive Macro
  | level (level : Level)
  | critical

/-- A call of a macro at some time. -/
structure Call where
  now : String
  kind : Macro
  target : String
  text : String

namespace Call

def record (c : Call) : Record :=
  match c.kind with
  | .level level => ⟨level, c.target, c.text⟩
  | .critical => .critical c.target c.text

/-- The call as an event in the life of a process. -/
def event (c : Call) : Process.Event := ⟨c.now, .emit c.record⟩

def stamped (timestamps : Bool) (c : Call) : Stamped where
  time := if timestamps then some c.now else none
  record := c.record

lemma target_record (c : Call) : c.record.target = c.target := by
  unfold record
  split <;> rfl

end Call

end Log

namespace Process

open Log

/-- What a run of events has written, most recent event first. -/
def written (start : Process) : List Event → String
  | [] => ""
  | e :: earlier => start.written earlier ++ ((start.through earlier).outcome e).effect.written

/-- Calls change nothing in a process. -/
lemma through_calls (q : Process) (calls : List Call) :
    q.through (calls.map Call.event) = q := by
  induction calls with
  | nil => rfl
  | cons c calls ih =>
    rw [List.map_cons, through, ih]
    rfl

variable {q : Process} {f : Filter} {timestamps : Bool}

def writes (q : Process) (f : Filter) (r : Record) : Bool :=
  q.session.ceiling.admits r.level && f.admits r

lemma toList_written_call (hlogger : q.session.logger = some (.writing f timestamps)) (c : Call) :
    (q.outcome c.event).effect.written.toList =
      if q.writes f c.record then (c.stamped timestamps).text else [] := by
  change (q.session.emit c.now c.record).written.toList = _
  unfold Session.emit writes
  rw [hlogger]
  dsimp only
  by_cases hceiling : q.session.ceiling.admits c.record.level = true
  · by_cases hfilter : f.admits c.record = true
    · simp only [Logger.take, hceiling, hfilter, if_true, Bool.and_self]
      rfl
    · simp [Logger.take, hceiling, hfilter]
  · simp [hceiling]

/-- Calls write the records that the logger lets through. -/
lemma toList_written_calls (hlogger : q.session.logger = some (.writing f timestamps))
    (calls : List Call) :
    (q.written (calls.reverse.map Call.event)).toList =
      ((calls.filter fun c => q.writes f c.record).map (Call.stamped timestamps)).flatMap
        Stamped.text := by
  induction calls using List.reverseRecOn with
  | nil => rfl
  | append_singleton calls c ih =>
    rw [List.reverse_append, List.reverse_singleton, List.singleton_append, List.map_cons, written,
      String.toList_append, ih, through_calls, toList_written_call hlogger, List.filter_append,
      List.map_append, List.flatMap_append]
    by_cases h : q.writes f c.record = true <;> simp [h]

end Process

namespace Log

lemma readable_stamped {timestamps : Bool} {c : Call} (htime : timestamps = true → IsTime c.now)
    (htarget : ']' ∉ c.target.toList ∧ '\n' ∉ c.target.toList) :
    (c.stamped timestamps).Readable where
  time t ht := by
    cases timestamps with
    | false => cases ht
    | true =>
      obtain rfl := Option.some.inj ht
      exact htime rfl
  bracket := c.target_record ▸ htarget.1
  newline := c.target_record ▸ htarget.2

/-- What calls have written is read as the records that the logger let through. -/
theorem readRecords?_written {q : Process} {f : Filter} {timestamps : Bool}
    (hlogger : q.session.logger = some (.writing f timestamps)) {calls : List Call}
    (htimes : timestamps = true → ∀ c ∈ calls, IsTime c.now)
    (htargets : ∀ c ∈ calls, ']' ∉ c.target.toList ∧ '\n' ∉ c.target.toList) :
    (Utf8.decode? (Utf8.ofString (q.written (calls.reverse.map Call.event)))).bind readRecords? =
      some ((calls.map Call.record).filter (q.writes f)) := by
  have hreadable : ∀ s ∈ (calls.filter fun c => q.writes f c.record).map (Call.stamped timestamps),
      s.Readable := by
    intro s hs
    obtain ⟨c, hc, rfl⟩ := List.mem_map.1 hs
    have hmem := List.mem_of_mem_filter hc
    exact readable_stamped (fun h => htimes h c hmem) (htargets c hmem)
  have hdecode (text : String) : Utf8.decode? (Utf8.ofString text) = some text.toList :=
    (Utf8.decode?_eq_some_iff_encode _ _).2 rfl
  rw [hdecode, Option.bind_some, Process.toList_written_calls hlogger]
  rw [readRecords?_flatMap hreadable, List.map_map, List.filter_map]
  rfl

/-- Calls of the macros, by a process with a logger that writes lines: the bytes that come of them are
read back as the records that the logger let through, in order, each with its level, its target and its
whole message, that of a critical record with its mark. So equal bytes come of equal records only,
whatever the processes, their filters and their times. -/
theorem lines_determine_the_records {q : Process} {f : Filter} {timestamps : Bool}
    (hlogger : q.session.logger = some (.writing f timestamps)) (calls : List Call)
    (htimes : timestamps = true → ∀ c ∈ calls, IsTime c.now)
    (htargets : ∀ c ∈ calls, ']' ∉ c.target.toList ∧ '\n' ∉ c.target.toList) :
    let bytes := Utf8.ofString (q.written (calls.reverse.map Call.event))
    let records := (calls.map Call.record).filter (q.writes f)
    (Utf8.decode? bytes).bind readRecords? = some records ∧
      ∀ (q' : Process) (f' : Filter) (timestamps' : Bool) (calls' : List Call),
        q'.session.logger = some (.writing f' timestamps') →
        (timestamps' = true → ∀ c ∈ calls', IsTime c.now) →
        (∀ c ∈ calls', ']' ∉ c.target.toList ∧ '\n' ∉ c.target.toList) →
        Utf8.ofString (q'.written (calls'.reverse.map Call.event)) = bytes →
        (calls'.map Call.record).filter (q'.writes f') = records := by
  intro bytes records
  have hread := readRecords?_written hlogger htimes htargets
  refine ⟨hread, ?_⟩
  intro q' f' timestamps' calls' hlogger' htimes' htargets' hbytes
  have hread' := readRecords?_written hlogger' htimes' htargets'
  rw [hbytes] at hread'
  exact Option.some.inj (hread'.symm.trans hread)

/-- A message whose second line looks like a record, a record that is not let through, and a critical
one without a target. -/
theorem lines_of_a_feigned_record :
    let q : Process :=
      ⟨{ logger := some (.writing ⟨[⟨none, .upTo .info⟩], none⟩ true), ceiling := .upTo .info }, {}⟩
    let now := "2024-01-31T23:59:59Z"
    let calls : List Call :=
      [⟨now, .level .info, "a b", "one\n[" ++ now ++ " ERROR a b] two\n"⟩,
        ⟨now, .level .debug, "a b", "left out"⟩, ⟨now, .critical, "", "] three"⟩]
    q.session.logger = some (.writing ⟨[⟨none, .upTo .info⟩], none⟩ true) ∧
      (∀ c ∈ calls, IsTime c.now) ∧
      (∀ c ∈ calls, ']' ∉ c.target.toList ∧ '\n' ∉ c.target.toList) ∧
      (Utf8.decode? (Utf8.ofString (q.written (calls.reverse.map Call.event)))).bind readRecords? =
        some [⟨.info, "a b", "one\n[2024-01-31T23:59:59Z ERROR a b] two\n"⟩,
          ⟨.error, "", "CRITICAL: ] three"⟩] := by
  intro q now calls
  have htimes : ∀ c ∈ calls, IsTime c.now := by decide
  have htargets : ∀ c ∈ calls, ']' ∉ c.target.toList ∧ '\n' ∉ c.target.toList := by decide
  obtain ⟨hread, -⟩ := lines_determine_the_records (q := q) rfl calls (fun _ => htimes) htargets
  exact ⟨rfl, htimes, htargets, hread.trans (by decide +kernel)⟩

end Log

end Interop
