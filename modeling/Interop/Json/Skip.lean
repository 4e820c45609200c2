import Interop.Json.Number

/-!
# Skipping a value

A value that is not kept may be nested to any depth, so the open lists and objects around the place
reached are held in a list, innermost first, and not in nested calls.
-/

namespace Interop.Json

/-- What an opening bracket starts. -/
inductive Frame
  | list
  | object
  deriving Repr, DecidableEq

def Frame.close : Frame → UInt8
  | .list => closeBracket
  | .object => closeBrace

/-- Where skipping goes on: behind the whole value, or at a further value inside frames. -/
inductive Next
  | done (rest : List UInt8)
  | value (frames : List Frame) (rest : List UInt8)

def Next.rest : Next → List UInt8
  | .done rest => rest
  | .value _ rest => rest

/-- Reads a key and its colon up to the value; in a list there is neither. -/
def Frame.enterItem (frame : Frame) (s : List UInt8) : Except Fault (List UInt8) :=
  match frame with
  | .list => .ok s
  | .object =>
    match skipBlanks s with
    | [] => stop .endInObject []
    | b :: rest =>
      if b = quoteMark then do
        let rest ← skipText rest
        readColon rest
      else stop .keyExpected rest

/-- Goes on behind a value: over the ends of frames, and over a comma to the next value. -/
def leaveValue : List Frame → List UInt8 → Except Fault Next
  | [], s => .ok (.done s)
  | frame :: frames, s =>
    match skipBlanks s with
    | [] => stop (match frame with | .list => .endInList | .object => .endInObject) []
    | b :: rest =>
      if b = comma then do
        let rest ← frame.enterItem rest
        return .value (frame :: frames) rest
      else if b = frame.close then leaveValue frames rest
      else stop (match frame with | .list => .listEndExpected | .object => .objectEndExpected) rest

/-- Goes on behind an opening bracket, at which the frame may end at once. -/
def enterFrame (frame : Frame) (frames : List Frame) (s : List UInt8) : Except Fault Next :=
  match skipBlanks s with
  | [] => stop (match frame with | .list => .endInList | .object => .endInObject) []
  | b :: rest =>
    if b = frame.close then leaveValue frames rest
    else do
      let rest ← frame.enterItem (b :: rest)
      return .value (frame :: frames) rest

/-- Reads over a value that is neither a list nor an object, given its first byte. -/
def skipScalar (b : UInt8) (rest : List UInt8) : Except Fault (List UInt8) :=
  if b = 0x6E then readWord restOfNull rest
  else if b = 0x74 then readWord restOfTrue rest
  else if b = 0x66 then readWord restOfFalse rest
  else if b = minus then skipNumber rest
  else if isDigit b then skipNumber (b :: rest)
  else if b = quoteMark then skipText rest
  else stop .valueExpected rest

theorem Frame.enterItem_length_le {frame : Frame} {s rest : List UInt8}
    (h : frame.enterItem s = .ok rest) : rest.length ≤ s.length := by
  unfold Frame.enterItem at h
  split at h
  · cases h
    simp
  · split at h
    · simp [stop] at h
    · next b r hs =>
      have hr := length_lt_of_skipBlanks_eq_cons hs
      split at h
      · obtain ⟨r', ht, h⟩ := bind_eq_ok_iff.1 h
        have := skipText_length_lt ht
        have := readColon_length_lt h
        omega
      · simp [stop] at h

theorem leaveValue_length_le {frames : List Frame} {s : List UInt8} {next : Next}
    (h : leaveValue frames s = .ok next) : next.rest.length ≤ s.length := by
  induction frames generalizing s with
  | nil =>
    cases h
    simp [Next.rest]
  | cons frame frames ih =>
    unfold leaveValue at h
    split at h
    · simp [stop] at h
    · next b r hs =>
      have hr := length_lt_of_skipBlanks_eq_cons hs
      split at h
      · obtain ⟨r', ht, h⟩ := bind_eq_ok_iff.1 h
        have := Frame.enterItem_length_le ht
        cases h
        simp only [Next.rest]
        omega
      · split at h
        · have := ih h
          omega
        · simp [stop] at h

theorem enterFrame_length_le {frame : Frame} {frames : List Frame} {s : List UInt8} {next : Next}
    (h : enterFrame frame frames s = .ok next) : next.rest.length ≤ s.length := by
  unfold enterFrame at h
  split at h
  · simp [stop] at h
  · next b r hs =>
    have hr := length_lt_of_skipBlanks_eq_cons hs
    split at h
    · have := leaveValue_length_le h
      omega
    · obtain ⟨r', ht, h⟩ := bind_eq_ok_iff.1 h
      have := Frame.enterItem_length_le ht
      cases h
      simp only [Next.rest, List.length_cons] at *
      omega

theorem skipScalar_length_le {b : UInt8} {s rest : List UInt8} (h : skipScalar b s = .ok rest) :
    rest.length ≤ s.length := by
  unfold skipScalar at h
  split at h
  · exact readWord_length_le h
  · split at h
    · exact readWord_length_le h
    · split at h
      · exact readWord_length_le h
      · split at h
        · exact Nat.le_of_lt (skipNumber_length_lt h)
        · split at h
          · have := skipNumber_length_lt h
            simp only [List.length_cons] at this
            omega
          · split at h
            · exact Nat.le_of_lt (skipText_length_lt h)
            · simp [stop] at h

/-- Reads the first piece of a value, up to the next value inside it or behind it. -/
def stepValue (frames : List Frame) (b : UInt8) (rest : List UInt8) : Except Fault Next :=
  if b = openBracket then enterFrame .list frames rest
  else if b = openBrace then enterFrame .object frames rest
  else do
    let rest ← skipScalar b rest
    leaveValue frames rest

theorem stepValue_length_le {frames : List Frame} {b : UInt8} {s : List UInt8} {next : Next}
    (h : stepValue frames b s = .ok next) : next.rest.length ≤ s.length := by
  unfold stepValue at h
  split at h
  · exact enterFrame_length_le h
  · split at h
    · exact enterFrame_length_le h
    · obtain ⟨r', ht, h⟩ := bind_eq_ok_iff.1 h
      have := skipScalar_length_le ht
      have := leaveValue_length_le h
      omega

/-- Reads over a value inside the given frames, and then to the end of the outermost frame. -/
def skipFrom (frames : List Frame) (s : List UInt8) : Except Fault (List UInt8) :=
  match hs : skipBlanks s with
  | [] => stop .endInValue []
  | b :: rest =>
    match h : stepValue frames b rest with
    | .error fault => .error fault
    | .ok (.done rest') => .ok rest'
    | .ok (.value frames' rest') =>
      have : rest'.length < s.length :=
        Nat.lt_of_le_of_lt (stepValue_length_le h) (length_lt_of_skipBlanks_eq_cons hs)
      skipFrom frames' rest'
termination_by s.length

def skipValue (s : List UInt8) : Except Fault (List UInt8) := skipFrom [] s

theorem skipFrom_length_lt {frames : List Frame} {s rest : List UInt8}
    (h : skipFrom frames s = .ok rest) : rest.length < s.length := by
  fun_induction skipFrom frames s with
  | case1 => simp [stop] at h
  | case2 => simp at h
  | case3 frames s b r hs rest' hstep =>
    cases h
    have := length_lt_of_skipBlanks_eq_cons hs
    have := stepValue_length_le hstep
    simp only [Next.rest] at this
    omega
  | case4 frames s b r hs frames' rest' hstep hlt ih =>
    have := ih h
    omega

theorem skipValue_length_lt {s rest : List UInt8} (h : skipValue s = .ok rest) :
    rest.length < s.length := skipFrom_length_lt h

end Interop.Json
