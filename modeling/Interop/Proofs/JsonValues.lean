import Interop.Proofs.JsonStrings

/-!
# Skipped values against the grammar

A value is skipped iff it is one. While it is skipped, the open lists and objects are held in a list of
frames, so what is read behind a value has to end all of them: `Closes` says so of a list of frames,
and one step of the machine leaves less to be closed. In the other direction a derivation is followed
down to its leaves, and behind each value the machine stands where it would stand had it started there.
-/

namespace Interop.Json

/-! ### Words -/

lemma readWord_eq_ok_iff {word s rest : List UInt8} :
    readWord word s = .ok rest ↔ s = word ++ rest := by
  induction word generalizing s with
  | nil => simp [readWord]
  | cons letter word ih =>
    cases s with
    | nil => simp [readWord, stop]
    | cons b s =>
      by_cases hb : b = letter
      · simp [readWord, hb, ih]
      · simp [readWord, hb, stop]

lemma word_null_iff {s rest : List UInt8} :
    Word "null" s rest ↔ s = 0x6E :: (restOfNull ++ rest) := Iff.rfl

lemma word_true_iff {s rest : List UInt8} :
    Word "true" s rest ↔ s = 0x74 :: (restOfTrue ++ rest) := Iff.rfl

lemma word_false_iff {s rest : List UInt8} :
    Word "false" s rest ↔ s = 0x66 :: (restOfFalse ++ rest) := Iff.rfl

/-! ### Numbers -/

/-- Nothing at the front can go on with a number. -/
def Delimits (s : List UInt8) : Prop :=
  ∀ b ∈ s.head?, isDigit b = false ∧ b ≠ point ∧ isExponentMark b = false

lemma digits_dropWhile {b : UInt8} (hb : isDigit b = true) (s : List UInt8) :
    Digits (b :: s) (s.dropWhile isDigit) := by
  induction s generalizing b with
  | nil => exact .one [] hb
  | cons d s ih =>
    by_cases hd : isDigit d = true
    · rw [List.dropWhile_cons_of_pos hd]
      exact .more hb (ih hd)
    · rw [List.dropWhile_cons_of_neg hd]
      exact .one (d :: s) hb

/-- Digits in front of another byte are read to their end. -/
theorem Digits.exists_dropWhile {s rest : List UInt8} (h : Digits s rest)
    (hrest : startsWithDigit rest = false) :
    ∃ b t, s = b :: t ∧ isDigit b = true ∧ t.dropWhile isDigit = rest := by
  induction h with
  | one rest hb =>
    refine ⟨_, rest, rfl, hb, ?_⟩
    cases rest with
    | nil => rfl
    | cons d rest => exact List.dropWhile_cons_of_neg (by simpa [startsWithDigit] using hrest)
  | more hb hs ih =>
    obtain ⟨d, t, rfl, hd, ht⟩ := ih hrest
    exact ⟨_, _, rfl, hb, by rw [List.dropWhile_cons_of_pos hd, ht]⟩

lemma Digits.startsWithDigit {s rest : List UInt8} (h : Digits s rest) :
    startsWithDigit s = true := by
  cases h with
  | one _ hb => exact hb
  | more hb _ => exact hb

lemma isExponentMark_iff {b : UInt8} : isExponentMark b = true ↔ b ∈ [0x65, 0x45] := by
  simp [isExponentMark]

lemma isSign_iff {b : UInt8} : isSign b = true ↔ b ∈ [plus, minus] := by
  simp [isSign]

lemma Delimits.startsWithDigit {s : List UInt8} (h : Delimits s) : startsWithDigit s = false := by
  cases s with
  | nil => rfl
  | cons b s => exact (h b rfl).1

lemma skipExponent_eq_ok_iff {s rest : List UInt8} :
    skipExponent s = .ok rest ↔ ∃ b t, (if s.head?.any isSign then s.tail else s) = b :: t ∧
      isDigit b = true ∧ t.dropWhile isDigit = rest := by
  unfold skipExponent
  generalize (if s.head?.any isSign then s.tail else s) = s'
  cases s' with
  | nil => simp [stop]
  | cons b t => by_cases hb : isDigit b = true <;> simp [hb, stop]

lemma not_isSign_of_isDigit {b : UInt8} (h : isDigit b = true) : isSign b = false := by
  simp only [isDigit, Bool.and_eq_true, decide_eq_true_eq] at h
  simp only [isSign, Bool.or_eq_false_iff, decide_eq_false_iff_not]
  grind

lemma exponent_of_skipExponent? {s rest : List UInt8} (h : skipExponent? s = .ok rest) :
    Exponent s rest := by
  unfold skipExponent? at h
  split at h
  · cases h
    exact .none []
  · next b s =>
    split at h
    · next hmark =>
      have hb := isExponentMark_iff.1 hmark
      obtain ⟨d, t, hs, hd, rfl⟩ := skipExponent_eq_ok_iff.1 h
      cases s with
      | nil => cases hs
      | cons sign s =>
        by_cases hsign : isSign sign = true
        · obtain rfl : s = d :: t := by simpa [hsign] using hs
          exact .signed hb (isSign_iff.1 hsign) (digits_dropWhile hd t)
        · obtain ⟨rfl, rfl⟩ : sign = d ∧ s = t := by simpa [hsign] using hs
          exact .plain hb (digits_dropWhile hd s)
    · cases h
      exact .none (b :: s)

lemma Exponent.skipExponent?_eq {s rest : List UInt8} (h : Exponent s rest)
    (hrest : Delimits rest) : skipExponent? s = .ok rest := by
  cases h with
  | none =>
    cases s with
    | nil => rfl
    | cons b s => simp [skipExponent?, (hrest b rfl).2.2]
  | plain hb hs =>
    obtain ⟨d, t, rfl, hd, ht⟩ := hs.exists_dropWhile hrest.startsWithDigit
    rw [skipExponent?, if_pos (isExponentMark_iff.2 hb)]
    exact skipExponent_eq_ok_iff.2 ⟨d, t, by simp [not_isSign_of_isDigit hd], hd, ht⟩
  | signed hb hsign hs =>
    obtain ⟨d, t, rfl, hd, ht⟩ := hs.exists_dropWhile hrest.startsWithDigit
    rw [skipExponent?, if_pos (isExponentMark_iff.2 hb)]
    exact skipExponent_eq_ok_iff.2 ⟨d, t, by simp [isSign_iff.2 hsign], hd, ht⟩

/-- An exponent does not begin with a digit or a point. -/
theorem Exponent.head {s rest : List UInt8} (h : Exponent s rest) (hrest : Delimits rest) :
    ∀ b ∈ s.head?, isDigit b = false ∧ b ≠ point := by
  intro b hb
  cases h with
  | none => exact ⟨(hrest b hb).1, (hrest b hb).2.1⟩
  | plain hmark _ | signed hmark _ _ =>
    obtain rfl := Option.some.inj hb
    simp only [List.mem_cons, List.not_mem_nil, or_false] at hmark
    rcases hmark with rfl | rfl <;> decide

/-- What may follow the digits in front of the point. -/
theorem behind_of_skipBehindInteger {s rest : List UInt8} (h : skipBehindInteger s = .ok rest) :
    ∃ s', Fraction s s' ∧ Exponent s' rest := by
  unfold skipBehindInteger at h
  split at h
  · cases h
    exact ⟨[], .none [], .none []⟩
  · next b s =>
    split at h
    · next hb =>
      split at h
      · next hd =>
        subst hb
        cases s with
        | nil => cases hd
        | cons d s =>
          have hdigit : isDigit d = true := hd
          rw [List.dropWhile_cons_of_pos hdigit] at h
          exact ⟨_, .some (digits_dropWhile hdigit s), exponent_of_skipExponent? h⟩
      · simp [stopPast, stop] at h
    · exact ⟨b :: s, .none _, exponent_of_skipExponent? h⟩

lemma startsWithDigit_eq_false_iff {s : List UInt8} :
    startsWithDigit s = false ↔ ∀ b ∈ s.head?, isDigit b = false := by
  cases s <;> simp [startsWithDigit]

lemma Fraction.skipBehindInteger_eq {s s' rest : List UInt8} (hf : Fraction s s')
    (he : Exponent s' rest) (hrest : Delimits rest) : skipBehindInteger s = .ok rest := by
  have hhead := he.head hrest
  cases hf with
  | none =>
    cases s with
    | nil => exact he.skipExponent?_eq hrest
    | cons b s =>
      rw [skipBehindInteger, if_neg (hhead b rfl).2]
      exact he.skipExponent?_eq hrest
  | some hs =>
    obtain ⟨d, t, rfl, hd, ht⟩ := hs.exists_dropWhile
      (startsWithDigit_eq_false_iff.2 fun b hb => (hhead b hb).1)
    rw [skipBehindInteger, if_pos rfl, if_pos hs.startsWithDigit, List.dropWhile_cons_of_pos hd, ht]
    exact he.skipExponent?_eq hrest

lemma Fraction.startsWithDigit {s s' rest : List UInt8} (hf : Fraction s s')
    (he : Exponent s' rest) (hrest : Delimits rest) : startsWithDigit s = false := by
  cases hf with
  | none => exact startsWithDigit_eq_false_iff.2 fun b hb => (he.head hrest b hb).1
  | some hs => rfl

/-- A number is skipped only if it is one. -/
theorem magnitude_of_skipNumber {s rest : List UInt8} (h : skipNumber s = .ok rest) :
    Magnitude s rest := by
  unfold skipNumber at h
  split at h
  · simp [stop] at h
  · next b s =>
    split at h
    · next hb =>
      split at h
      · simp [stopPast, stop] at h
      · subst hb
        obtain ⟨s', hf, he⟩ := behind_of_skipBehindInteger h
        exact .parts (.zero s) hf he
    · next hb =>
      split at h
      · next hd =>
        obtain ⟨s', hf, he⟩ := behind_of_skipBehindInteger h
        exact .parts (.digits hb (digits_dropWhile hd s)) hf he
      · simp [stop] at h

/-- A number is skipped as a whole if what is behind it cannot belong to it. -/
theorem Magnitude.skipNumber_eq {s rest : List UInt8} (h : Magnitude s rest)
    (hrest : Delimits rest) : skipNumber s = .ok rest := by
  obtain ⟨hw, hf, he⟩ := h
  have hdigit := hf.startsWithDigit he hrest
  cases hw with
  | zero => rw [skipNumber, if_pos rfl, hdigit, if_neg (by decide), hf.skipBehindInteger_eq he hrest]
  | digits hb hs =>
    obtain ⟨d, t, heq, hd, ht⟩ := hs.exists_dropWhile hdigit
    obtain ⟨rfl, rfl⟩ := List.cons_eq_cons.1 heq
    rw [skipNumber, if_neg hb, if_pos hd, ht, hf.skipBehindInteger_eq he hrest]

/-! ### Scalars -/

lemma value_of_skipScalar {b : UInt8} {s rest : List UInt8} (h : skipScalar b s = .ok rest) :
    Value (b :: s) rest := by
  unfold skipScalar at h
  split at h
  · next hb => exact .word (by simp) (word_null_iff.2 (by rw [hb, readWord_eq_ok_iff.1 h]))
  · split at h
    · next hb => exact .word (by simp) (word_true_iff.2 (by rw [hb, readWord_eq_ok_iff.1 h]))
    · split at h
      · next hb => exact .word (by simp) (word_false_iff.2 (by rw [hb, readWord_eq_ok_iff.1 h]))
      · split at h
        · next hb =>
          rw [hb]
          exact .negative (magnitude_of_skipNumber h)
        · split at h
          · exact .number (magnitude_of_skipNumber h)
          · split at h
            · next hb =>
              rw [hb]
              exact .text (skipText_eq_ok_iff.1 h)
            · simp [stop] at h

lemma skipScalar_null (s : List UInt8) : skipScalar 0x6E s = readWord restOfNull s := rfl

lemma skipScalar_true (s : List UInt8) : skipScalar 0x74 s = readWord restOfTrue s := rfl

lemma skipScalar_false (s : List UInt8) : skipScalar 0x66 s = readWord restOfFalse s := rfl

lemma skipScalar_minus (s : List UInt8) : skipScalar minus s = skipNumber s := rfl

lemma skipScalar_quote (s : List UInt8) : skipScalar quoteMark s = skipText s := rfl

lemma ne_of_isDigit {b : UInt8} (hb : isDigit b = true) {x : UInt8} (hx : isDigit x = false) :
    b ≠ x := by
  rintro rfl
  cases hb.symm.trans hx

lemma isBlank_of_isDigit {b : UInt8} (hb : isDigit b = true) : isBlank b = false := by
  simp [isBlank, ne_of_isDigit hb (x := 0x20) (by decide), ne_of_isDigit hb (x := 0x09) (by decide),
    ne_of_isDigit hb (x := 0x0A) (by decide), ne_of_isDigit hb (x := 0x0D) (by decide)]

/-- The first byte of a number is a digit. -/
theorem Magnitude.exists_digit {s rest : List UInt8} (h : Magnitude s rest) :
    ∃ b t, s = b :: t ∧ isDigit b = true := by
  obtain ⟨hw, -, -⟩ := h
  cases hw with
  | zero => exact ⟨zero, _, rfl, by decide⟩
  | digits hb hs => exact ⟨_, _, rfl, hs.startsWithDigit⟩

lemma skipScalar_of_isDigit {b : UInt8} (hb : isDigit b = true) (s : List UInt8) :
    skipScalar b s = skipNumber (b :: s) := by
  have hne {x : UInt8} (hx : isDigit x = false) : b ≠ x := ne_of_isDigit hb hx
  rw [skipScalar, if_neg (hne (by decide)), if_neg (hne (by decide)), if_neg (hne (by decide)),
    if_neg (hne (by decide)), if_pos hb]

/-! ### The machine -/

/-- Goes on where a piece of a value ended. -/
def Next.resume : Next → Except Fault (List UInt8)
  | .done rest => .ok rest
  | .value frames s => skipFrom frames s

lemma skipFrom_eq {frames : List Frame} {s rest : List UInt8} {b : UInt8}
    (hs : skipBlanks s = b :: rest) : skipFrom frames s = stepValue frames b rest >>= Next.resume := by
  rw [skipFrom]
  split
  · next h => cases hs.symm.trans h
  · next h =>
    obtain ⟨rfl, rfl⟩ := List.cons_eq_cons.1 (hs.symm.trans h)
    split
    · next h => rw [h]; rfl
    · next h => rw [h]; rfl
    · next h => simp only [h]; rfl

lemma skipFrom_skipBlanks (frames : List Frame) {s s' : List UInt8} (h : Blanks s s') :
    skipFrom frames s = skipFrom frames s' := by
  cases hs : skipBlanks s with
  | nil =>
    have hs' := h.skipBlanks_eq ▸ hs
    rw [skipFrom, skipFrom]
    split
    · split
      · rfl
      · next h' => cases hs'.symm.trans h'
    · next h' => cases hs.symm.trans h'
  | cons b rest => rw [skipFrom_eq hs, skipFrom_eq (h.skipBlanks_eq ▸ hs)]

/-! ### What is skipped is a value -/

/-- The ends of the frames, innermost first, each with the items that are left in it. -/
inductive Closes : List Frame → List UInt8 → List UInt8 → Prop
  | nil (rest : List UInt8) : Closes [] rest rest
  | last {frame : Frame} {frames : List Frame} {s s' rest : List UInt8}
      (hc : Blanks s (frame.close :: s')) (h : Closes frames s' rest) : Closes (frame :: frames) s rest
  | more {frame : Frame} {frames : List Frame} {s s₁ s₂ rest : List UInt8}
      (hc : Blanks s (comma :: s₁)) (hi : Items frame s₁ s₂) (h : Closes frames s₂ rest) :
      Closes (frame :: frames) s rest

/-- A value, and behind it the ends of the frames around it. -/
def ValueWithin (frames : List Frame) (s rest : List UInt8) : Prop :=
  ∃ s₁ s₂, Blanks s s₁ ∧ Value s₁ s₂ ∧ Closes frames s₂ rest

/-- What is still required where a piece of a value ended. -/
def Next.Requires : Next → List UInt8 → Prop
  | .done rest, rest' => rest' = rest
  | .value frames s, rest => ValueWithin frames s rest

lemma entry_of_enterItem {frame : Frame} {s rest : List UInt8} (h : frame.enterItem s = .ok rest) :
    Entry frame s rest := by
  unfold Frame.enterItem at h
  split at h
  · cases h
    exact .item s
  · split at h
    · simp [stop] at h
    · next b r hs =>
      split at h
      · next hb =>
        obtain ⟨s₁, hk, h⟩ := bind_eq_ok_iff.1 h
        unfold readColon at h
        split at h
        · simp [stop] at h
        · next c r' hs' =>
          split at h
          · next hc =>
            cases h
            subst hb hc
            exact .key ((blanks_cons_iff (by decide)).2 hs) (skipText_eq_ok_iff.1 hk)
              ((blanks_cons_iff (by decide)).2 hs')
          · simp [stop] at h
      · simp [stop] at h

/-- A value behind an entry, and the ends of the frames around it, are items and the ends of the
frames further out. -/
theorem exists_items {frame : Frame} {frames : List Frame} {s s' rest : List UInt8}
    (he : Entry frame s s') (h : ValueWithin (frame :: frames) s' rest) :
    ∃ s'', Items frame s s'' ∧ Closes frames s'' rest := by
  obtain ⟨s₁, s₂, hb, hv, hclose⟩ := h
  cases hclose with
  | last hc h => exact ⟨_, .last he hb hv hc, h⟩
  | more hc hi h => exact ⟨_, .more he hb hv hc hi, h⟩

/-- Blanks may stand in front of items. -/
theorem Items.of_blanks {frame : Frame} {s s' rest : List UInt8} (hs : Blanks s s')
    (h : Items frame s' rest) : Items frame s rest := by
  have key : ∀ {s₁}, Entry frame s' s₁ → ∃ s₂, Entry frame s s₂ ∧ Blanks s₂ s₁ := by
    intro s₁ he
    cases he with
    | item => exact ⟨s, .item s, hs⟩
    | key hb hk hc => exact ⟨s₁, .key (hs.trans hb) hk hc, .none s₁⟩
  cases h with
  | last he hb hv hc =>
    obtain ⟨s₂, he, hs₂⟩ := key he
    exact .last he (hs₂.trans hb) hv hc
  | more he hb hv hc hi =>
    obtain ⟨s₂, he, hs₂⟩ := key he
    exact .more he (hs₂.trans hb) hv hc hi

lemma isBlank_close (frame : Frame) : isBlank frame.close = false := by
  cases frame <;> decide

lemma closes_of_leaveValue {frames : List Frame} {s rest : List UInt8} {next : Next}
    (h : leaveValue frames s = .ok next) (hnext : next.Requires rest) : Closes frames s rest := by
  induction frames generalizing s with
  | nil =>
    cases h
    obtain rfl : rest = s := hnext
    exact .nil rest
  | cons frame frames ih =>
    unfold leaveValue at h
    split at h
    · simp [stop] at h
    · next b r hs =>
      split at h
      · next hb =>
        obtain ⟨s', he, h⟩ := bind_eq_ok_iff.1 h
        cases h
        subst hb
        obtain ⟨s'', hi, hclose⟩ := exists_items (entry_of_enterItem he) hnext
        exact .more ((blanks_cons_iff (by decide)).2 hs) hi hclose
      · split at h
        · next hb =>
          subst hb
          exact .last ((blanks_cons_iff (isBlank_close frame)).2 hs) (ih h)
        · simp [stop] at h

lemma value_of_enterFrame {frame : Frame} {frames : List Frame} {s rest : List UInt8} {next : Next}
    (h : enterFrame frame frames s = .ok next) (hnext : next.Requires rest) :
    ∃ s', Value (frame.opening :: s) s' ∧ Closes frames s' rest := by
  unfold enterFrame at h
  split at h
  · simp [stop] at h
  · next b r hs =>
    split at h
    · next hb =>
      subst hb
      exact ⟨r, .empty frame ((blanks_cons_iff (isBlank_close frame)).2 hs),
        closes_of_leaveValue h hnext⟩
    · obtain ⟨s', he, h⟩ := bind_eq_ok_iff.1 h
      cases h
      obtain ⟨s'', hi, hclose⟩ := exists_items (entry_of_enterItem he) hnext
      exact ⟨s'', .filled frame (hi.of_blanks (hs ▸ blanks_skipBlanks s)), hclose⟩

lemma value_of_stepValue {frames : List Frame} {b : UInt8} {s rest : List UInt8} {next : Next}
    (h : stepValue frames b s = .ok next) (hnext : next.Requires rest) :
    ∃ s', Value (b :: s) s' ∧ Closes frames s' rest := by
  unfold stepValue at h
  split at h
  · next hb =>
    subst hb
    exact value_of_enterFrame h hnext
  · split at h
    · next hb =>
      subst hb
      exact value_of_enterFrame h hnext
    · obtain ⟨s', hs, h⟩ := bind_eq_ok_iff.1 h
      exact ⟨s', value_of_skipScalar hs, closes_of_leaveValue h hnext⟩

/-- What is skipped is a value and the ends of the frames around it. -/
theorem valueWithin_of_skipFrom {frames : List Frame} {s rest : List UInt8}
    (h : skipFrom frames s = .ok rest) : ValueWithin frames s rest := by
  fun_induction skipFrom frames s with
  | case1 => simp [stop] at h
  | case2 => cases h
  | case3 frames s b r hs rest' hstep =>
    obtain ⟨s', hv, hclose⟩ := value_of_stepValue hstep (Except.ok.inj h).symm
    exact ⟨b :: r, s', hs ▸ blanks_skipBlanks s, hv, hclose⟩
  | case4 frames s b r hs frames' rest' hstep _ ih =>
    obtain ⟨s', hv, hclose⟩ := value_of_stepValue hstep (ih h)
    exact ⟨b :: r, s', hs ▸ blanks_skipBlanks s, hv, hclose⟩

/-! ### What is a value is skipped -/

lemma Entry.enterItem_eq {frame : Frame} {s rest : List UInt8} (h : Entry frame s rest) :
    frame.enterItem s = .ok rest := by
  cases h with
  | item => rfl
  | key hb hk hc =>
    rw [Frame.enterItem, (blanks_cons_iff (by decide)).1 hb]
    refine bind_eq_ok_iff.2 ⟨_, skipText_eq_ok_iff.2 hk, ?_⟩
    rw [readColon, (blanks_cons_iff (by decide)).1 hc]
    rfl

lemma comma_ne_close (frame : Frame) : frame.close ≠ comma := by
  cases frame <;> decide

lemma leaveValue_close {frame : Frame} (frames : List Frame) {s rest : List UInt8}
    (h : Blanks s (frame.close :: rest)) : leaveValue (frame :: frames) s = leaveValue frames rest := by
  rw [leaveValue.eq_def]
  dsimp only
  rw [(blanks_cons_iff (isBlank_close frame)).1 h]
  exact (if_neg (comma_ne_close frame)).trans (if_pos rfl)

lemma leaveValue_comma {frame : Frame} (frames : List Frame) {s rest : List UInt8}
    (h : Blanks s (comma :: rest)) :
    leaveValue (frame :: frames) s >>= Next.resume =
      frame.enterItem rest >>= skipFrom (frame :: frames) := by
  rw [leaveValue.eq_def]
  dsimp only
  rw [(blanks_cons_iff (by decide)).1 h]
  cases hr : frame.enterItem rest <;> simp [hr, bind, Except.bind, pure, Except.pure, Next.resume]

/-- Where a blank or a given separator comes next, a number is at its end. -/
theorem Blanks.delimits {s rest : List UInt8} {b : UInt8} (h : Blanks s (b :: rest))
    (hb : isDigit b = false ∧ b ≠ point ∧ isExponentMark b = false) : Delimits s := by
  cases h with
  | none =>
    intro d hd
    obtain rfl := Option.some.inj hd
    exact hb
  | more hblank _ =>
    intro d hd
    obtain rfl := Option.some.inj hd
    simp only [List.mem_cons, List.not_mem_nil, or_false] at hblank
    rcases hblank with rfl | rfl | rfl | rfl <;> decide

lemma Blanks.delimits_comma {s rest : List UInt8} (h : Blanks s (comma :: rest)) : Delimits s :=
  h.delimits (by decide)

lemma Blanks.delimits_close {frame : Frame} {s rest : List UInt8}
    (h : Blanks s (frame.close :: rest)) : Delimits s :=
  h.delimits (by cases frame <;> decide)

/-- A value begins neither with a blank nor as a list ends. -/
theorem Value.head {s rest : List UInt8} (h : Value s rest) :
    ∃ b t, s = b :: t ∧ isBlank b = false ∧ b ≠ closeBracket := by
  cases h with
  | word hw h =>
    simp only [List.mem_cons, List.not_mem_nil, or_false] at hw
    rcases hw with rfl | rfl | rfl
    · exact ⟨_, _, word_null_iff.1 h, by decide, by decide⟩
    · exact ⟨_, _, word_true_iff.1 h, by decide, by decide⟩
    · exact ⟨_, _, word_false_iff.1 h, by decide, by decide⟩
  | number h =>
    obtain ⟨b, t, rfl, hb⟩ := h.exists_digit
    exact ⟨b, t, rfl, isBlank_of_isDigit hb, ne_of_isDigit hb (by decide)⟩
  | negative _ => exact ⟨_, _, rfl, by decide, by decide⟩
  | text _ => exact ⟨_, _, rfl, by decide, by decide⟩
  | empty frame _ | filled frame _ =>
    exact ⟨_, _, rfl, by cases frame <;> decide, by cases frame <;> decide⟩

/-- Items do not begin as their frame ends. -/
theorem Items.head {frame : Frame} {s rest : List UInt8} (h : Items frame s rest) :
    ∃ b t, skipBlanks s = b :: t ∧ b ≠ frame.close := by
  have key : ∀ {s₁ s₂ s₃}, Entry frame s s₁ → Blanks s₁ s₂ → Value s₂ s₃ →
      ∃ b t, skipBlanks s = b :: t ∧ b ≠ frame.close := by
    intro s₁ s₂ s₃ he hb hv
    cases he with
    | item =>
      obtain ⟨b, t, rfl, hblank, hclose⟩ := hv.head
      exact ⟨b, t, (blanks_cons_iff hblank).1 hb, hclose⟩
    | key hq _ _ => exact ⟨_, _, (blanks_cons_iff (by decide)).1 hq, by decide⟩
  cases h with
  | last he hb hv _ => exact key he hb hv
  | more he hb hv _ _ => exact key he hb hv

lemma skipFrom_cons {b : UInt8} (hb : isBlank b = false) (frames : List Frame) (s : List UInt8) :
    skipFrom frames (b :: s) = stepValue frames b s >>= Next.resume :=
  skipFrom_eq ((blanks_cons_iff hb).1 (.none _))

lemma skipFrom_scalar {b : UInt8} (hb : isBlank b = false) (hlist : b ≠ openBracket)
    (hobject : b ≠ openBrace) {s rest : List UInt8} (h : skipScalar b s = .ok rest)
    (frames : List Frame) : skipFrom frames (b :: s) = leaveValue frames rest >>= Next.resume := by
  rw [skipFrom_cons hb, stepValue, if_neg hlist, if_neg hobject, h]
  rfl

lemma skipFrom_opening (frame : Frame) (frames : List Frame) (s : List UInt8) :
    skipFrom frames (frame.opening :: s) = enterFrame frame frames s >>= Next.resume := by
  rw [skipFrom_cons (by cases frame <;> decide)]
  cases frame <;> rfl

/-- Blanks in front of an entry are read over, in a list with the value. -/
theorem enterItem_skipBlanks (frame : Frame) (frames : List Frame) {s s' : List UInt8}
    (h : Blanks s s') :
    (frame.enterItem s >>= skipFrom frames) = (frame.enterItem s' >>= skipFrom frames) := by
  cases frame with
  | list => exact skipFrom_skipBlanks frames h
  | object => rw [Frame.enterItem, Frame.enterItem, h.skipBlanks_eq]

lemma enterFrame_items {frame : Frame} {s rest : List UInt8} (h : Items frame s rest)
    (frames : List Frame) :
    enterFrame frame frames s >>= Next.resume =
      frame.enterItem s >>= skipFrom (frame :: frames) := by
  obtain ⟨b, t, hs, hb⟩ := h.head
  rw [enterItem_skipBlanks frame _ (hs ▸ blanks_skipBlanks s), enterFrame.eq_def, hs]
  dsimp only
  rw [if_neg hb]
  cases hr : frame.enterItem (b :: t) <;> simp [bind, Except.bind, pure, Except.pure, Next.resume]

lemma Word.skipFrom_eq {word : String} (hw : word ∈ ["null", "true", "false"])
    {s rest : List UInt8} (h : Word word s rest) (frames : List Frame) :
    skipFrom frames s = leaveValue frames rest >>= Next.resume := by
  simp only [List.mem_cons, List.not_mem_nil, or_false] at hw
  rcases hw with rfl | rfl | rfl
  · rw [word_null_iff.1 h]
    exact skipFrom_scalar (by decide) (by decide) (by decide)
      ((skipScalar_null _).trans (readWord_eq_ok_iff.2 rfl)) frames
  · rw [word_true_iff.1 h]
    exact skipFrom_scalar (by decide) (by decide) (by decide)
      ((skipScalar_true _).trans (readWord_eq_ok_iff.2 rfl)) frames
  · rw [word_false_iff.1 h]
    exact skipFrom_scalar (by decide) (by decide) (by decide)
      ((skipScalar_false _).trans (readWord_eq_ok_iff.2 rfl)) frames

mutual

/-- Behind a value skipping goes on as if it had started there. -/
theorem Value.skipFrom_eq {s rest : List UInt8} (hrest : Delimits rest) (frames : List Frame) :
    Value s rest → skipFrom frames s = leaveValue frames rest >>= Next.resume
  | .word hw h => h.skipFrom_eq hw frames
  | .number h => by
    obtain ⟨b, t, rfl, hb⟩ := h.exists_digit
    exact skipFrom_scalar (isBlank_of_isDigit hb) (ne_of_isDigit hb (by decide))
      (ne_of_isDigit hb (by decide)) ((skipScalar_of_isDigit hb t).trans (h.skipNumber_eq hrest)) frames
  | .negative h =>
    skipFrom_scalar (by decide) (by decide) (by decide)
      ((skipScalar_minus _).trans (h.skipNumber_eq hrest)) frames
  | .text h =>
    skipFrom_scalar (by decide) (by decide) (by decide)
      ((skipScalar_quote _).trans (skipText_eq_ok_iff.2 h)) frames
  | .empty frame h => by
    rw [skipFrom_opening, enterFrame.eq_def, (blanks_cons_iff (isBlank_close frame)).1 h]
    dsimp only
    rw [if_pos rfl]
  | .filled frame h =>
    calc skipFrom frames (frame.opening :: _)
      _ = enterFrame frame frames _ >>= Next.resume := skipFrom_opening frame frames _
      _ = frame.enterItem _ >>= skipFrom (frame :: frames) := enterFrame_items h frames
      _ = leaveValue frames rest >>= Next.resume := h.enterItem_eq frames

/-- Behind the last of the items of a frame skipping goes on as if it had started there. -/
theorem Items.enterItem_eq {frame : Frame} {s rest : List UInt8} (frames : List Frame) :
    Items frame s rest →
      (frame.enterItem s >>= skipFrom (frame :: frames)) = leaveValue frames rest >>= Next.resume
  | @Items.last _ _ s₁ s₂ s₃ _ he hb hv hc =>
    calc (frame.enterItem s >>= skipFrom (frame :: frames))
      _ = skipFrom (frame :: frames) s₁ := by rw [he.enterItem_eq]; rfl
      _ = skipFrom (frame :: frames) s₂ := skipFrom_skipBlanks _ hb
      _ = leaveValue (frame :: frames) s₃ >>= Next.resume := hv.skipFrom_eq hc.delimits_close _
      _ = leaveValue frames rest >>= Next.resume := by rw [leaveValue_close frames hc]
  | @Items.more _ _ s₁ s₂ s₃ s₄ _ he hb hv hc hi =>
    calc (frame.enterItem s >>= skipFrom (frame :: frames))
      _ = skipFrom (frame :: frames) s₁ := by rw [he.enterItem_eq]; rfl
      _ = skipFrom (frame :: frames) s₂ := skipFrom_skipBlanks _ hb
      _ = leaveValue (frame :: frames) s₃ >>= Next.resume := hv.skipFrom_eq hc.delimits_comma _
      _ = frame.enterItem s₄ >>= skipFrom (frame :: frames) := leaveValue_comma frames hc
      _ = leaveValue frames rest >>= Next.resume := hi.enterItem_eq frames

end

/-- What is skipped is a value, and a value is skipped where it is known to end. -/
theorem skipValue_eq_ok_iff {s rest : List UInt8} (hrest : Delimits rest) :
    skipValue s = .ok rest ↔ ∃ s', Blanks s s' ∧ Value s' rest := by
  constructor
  · intro h
    obtain ⟨s₁, s₂, hb, hv, hclose⟩ := valueWithin_of_skipFrom h
    cases hclose
    exact ⟨s₁, hb, hv⟩
  · rintro ⟨s', hb, hv⟩
    rw [skipValue, skipFrom_skipBlanks [] hb, hv.skipFrom_eq hrest]
    rfl

end Interop.Json
