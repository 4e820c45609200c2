import Interop.Proofs.WideUse
import Interop.Proofs.WideZeros

/-!
# Capitals in place

A callee may turn the small ASCII letters before the first zero into capitals, in the units that it was
given. The same comes of turning the small letters into capitals in the bytes and converting these:
a letter is a byte, a character and a unit of its own, it ends what is ill-formed in front of it as any
other letter does, and all other bytes are segments that hold no letter.
-/

namespace Interop

/-! ### Lists changed up to their first zero -/

section ToFirst

variable {α : Type} [DecidableEq α]

/-- The list with the elements in front of the first occurrence of another changed. -/
def mapToFirst (a : α) (g : α → α) (l : List α) : List α :=
  (l.takeWhile (· ≠ a)).map g ++ l.dropWhile (· ≠ a)

lemma mapToFirst_append {a : α} {p : List α} (h : a ∉ p) (g : α → α) (q : List α) :
    mapToFirst a g (p ++ q) = p.map g ++ mapToFirst a g q := by
  have hp : ∀ x ∈ p, decide (x ≠ a) = true := fun x hx => decide_eq_true fun heq => h (heq ▸ hx)
  rw [mapToFirst, mapToFirst, List.takeWhile_append_of_pos hp, List.dropWhile_append_of_pos hp,
    List.map_append, List.append_assoc]

lemma mapToFirst_of_notMem {a : α} {l : List α} (h : a ∉ l) (g : α → α) :
    mapToFirst a g l = l.map g := by
  have happend := mapToFirst_append h g []
  rwa [List.append_nil, show mapToFirst a g [] = [] from rfl, List.append_nil] at happend

lemma mapToFirst_append_cons {a : α} {p : List α} (h : a ∉ p) (g : α → α) (q : List α) :
    mapToFirst a g (p ++ a :: q) = p.map g ++ a :: q := by
  have hcons : mapToFirst a g (a :: q) = a :: q := by simp [mapToFirst]
  rw [mapToFirst_append h, hcons]

lemma length_mapToFirst (a : α) (g : α → α) (l : List α) : (mapToFirst a g l).length = l.length := by
  rw [mapToFirst, List.length_append, List.length_map, ← List.length_append,
    List.takeWhile_append_dropWhile]

/-- A function on lists that splits where an element stands, turns each of its occurrences into one of
another, and takes one change of elements to another, does so up to the first occurrence. -/
lemma mapToFirst_of_append {β : Type} [DecidableEq β] {f : List α → List β} {a : α} {b : β}
    {g : α → α} {h : β → β} (hsplit : ∀ p q, f (p ++ a :: q) = f p ++ b :: f q)
    (hcount : ∀ l, (f l).count b = l.count a) (hmap : ∀ l, f (l.map g) = (f l).map h) (l : List α) :
    f (mapToFirst a g l) = mapToFirst b h (f l) := by
  have hnone : ∀ p, a ∉ p → b ∉ f p := by
    intro p hp
    rwa [← List.count_eq_zero, hcount, List.count_eq_zero]
  by_cases hl : a ∈ l
  · obtain ⟨p, q, rfl, hp⟩ := List.eq_append_cons_of_mem hl
    rw [mapToFirst_append_cons hp, hsplit, hsplit, hmap, mapToFirst_append_cons (hnone p hp)]
  · rw [mapToFirst_of_notMem hl, hmap, mapToFirst_of_notMem (hnone l hl)]

end ToFirst

/-! ### Capitals of code points, bytes, characters and units -/

/-- The code point of the capital of a small ASCII letter; any other code point is kept. -/
def capitalPoint (n : Nat) : Nat := if 0x61 ≤ n ∧ n ≤ 0x7A then n - 0x20 else n

lemma capitalPoint_of_le {n : Nat} (h : 0x80 ≤ n) : capitalPoint n = n := if_neg (by omega)

lemma capitalPoint_lt_iff (n : Nat) : capitalPoint n < 0x80 ↔ n < 0x80 := by
  unfold capitalPoint
  split <;> omega

lemma capitalPoint_capitalPoint (n : Nat) : capitalPoint (capitalPoint n) = capitalPoint n := by
  unfold capitalPoint
  split_ifs <;> omega

/-- Nothing but a letter becomes a letter. -/
lemma capitalPoint_eq_iff {m : Nat} (hm : m < 0x41 ∨ 0x7A < m) (n : Nat) :
    capitalPoint n = m ↔ n = m := by
  unfold capitalPoint
  split <;> omega

lemma toNat_toUpper (c : Char) : c.toUpper.toNat = capitalPoint c.toNat := by
  have hletter : ('a'.val ≤ c.val ∧ c.val ≤ 'z'.val) ↔ 0x61 ≤ c.toNat ∧ c.toNat ≤ 0x7A := by
    rw [UInt32.le_iff_toNat_le, UInt32.le_iff_toNat_le]
    rfl
  unfold Char.toUpper capitalPoint
  by_cases h : 0x61 ≤ c.toNat ∧ c.toNat ≤ 0x7A
  · rw [dif_pos (hletter.2 h), if_pos h]
    have hval : 0x61 ≤ c.val.toNat ∧ c.val.toNat ≤ 0x7A := h
    change (c.val + _).toNat = c.val.toNat - 0x20
    rw [UInt32.toNat_add]
    change (c.val.toNat + 0xFFFFFFE0) % 2 ^ 32 = c.val.toNat - 0x20
    omega
  · rw [dif_neg (mt hletter.1 h), if_neg h]

lemma toUpper_of_le {c : Char} (h : 0x80 ≤ c.toNat) : c.toUpper = c := by
  rw [← Char.toNat_inj, toNat_toUpper, capitalPoint_of_le h]

namespace Utf8

/-- The capital of a small ASCII letter; any other byte is kept. -/
def capital (b : UInt8) : UInt8 := if 0x61 ≤ b && b ≤ 0x7A then b - 32 else b

/-- Bytes with capitals in the place of the small ASCII letters before the first zero. -/
def capitalsToZero (bytes : List UInt8) : List UInt8 := mapToFirst 0 capital bytes

lemma toNat_capital (b : UInt8) : (capital b).toNat = capitalPoint b.toNat := by
  unfold capital capitalPoint
  simp only [Bool.and_eq_true, decide_eq_true_eq, UInt8.le_iff_toNat_le, UInt8.reduceToNat]
  split
  · rw [UInt8.toNat_sub_of_le]
    · rfl
    · rw [UInt8.le_iff_toNat_le]
      simp
      omega
  · rfl

lemma capital_of_le {b : UInt8} (h : 0x80 ≤ b) : capital b = b := by
  rw [← UInt8.toNat_inj, toNat_capital, capitalPoint_of_le (UInt8.le_iff_toNat_le.1 h)]

lemma capital_lt_iff (b : UInt8) : capital b < 0x80 ↔ b < 0x80 := by
  rw [UInt8.lt_iff_toNat_lt, UInt8.lt_iff_toNat_lt, toNat_capital]
  exact capitalPoint_lt_iff b.toNat

lemma map_capital_of_le {bytes : List UInt8} (h : ∀ b ∈ bytes, 0x80 ≤ b) :
    bytes.map capital = bytes :=
  (List.map_congr_left fun b hb => capital_of_le (h b hb)).trans (List.map_id bytes)

/-! ### Segments -/

/-- A segment with capitals in the place of the small ASCII letters. -/
def Segment.capital (s : Segment) : Segment := ⟨s.bytes.map Utf8.capital, s.scalar.map Char.toUpper⟩

lemma continuation_map_capital {n : Nat} {low high : UInt8} (hlow : 0x80 ≤ low)
    (rest : List UInt8) :
    continuation n low high (rest.map capital) = continuation n low high rest := by
  induction n generalizing low high rest with
  | zero => rfl
  | succ n ih =>
    cases rest with
    | nil => rfl
    | cons x rest =>
      rw [List.map_cons, continuation, continuation, ih (by decide)]
      -- an ASCII byte breaks the run off, be it a letter or its capital
      by_cases hx : x < 0x80
      · have hbelow : ∀ y : UInt8, y < 0x80 → ¬(low ≤ y ∧ y ≤ high) :=
          fun y hy h => absurd (UInt8.le_trans hlow h.1) (UInt8.not_le.2 hy)
        rw [if_neg (hbelow x hx), if_neg (hbelow _ ((capital_lt_iff x).2 hx))]
      · rw [capital_of_le (UInt8.not_lt.1 hx)]

/-- What a segment of other than ASCII bytes is does not depend on the letters behind it. -/
lemma atFront_map_capital {b : UInt8} (hb : ¬b < 0x80) (rest : List UInt8) :
    Segment.atFront b (rest.map capital) = Segment.atFront b rest := by
  unfold Segment.atFront
  rw [if_neg hb, if_neg hb]
  cases h : Lead.ofByte? b with
  | none => rfl
  | some lead => simp only [continuation_map_capital (Lead.bounds_of_ofByte? h).1]

/-- An ASCII letter is a segment whose capital is that of the letter; no other segment has letters. -/
lemma atFront_capital (b : UInt8) (rest : List UInt8) :
    Segment.atFront (capital b) (rest.map capital) = (Segment.atFront b rest).capital := by
  by_cases hb : b < 0x80
  · have hchar : Char.ofNat (capital b).toNat = (Char.ofNat b.toNat).toUpper := by
      rw [← Char.toNat_inj, toNat_toUpper, toNat_ofNat_ascii hb,
        toNat_ofNat_ascii ((capital_lt_iff b).2 hb), toNat_capital]
    rw [atFront_of_lt hb, atFront_of_lt ((capital_lt_iff b).2 hb), hchar]
    rfl
  · have hscalar : (Segment.atFront b rest).scalar.map Char.toUpper =
        (Segment.atFront b rest).scalar := by
      cases h : (Segment.atFront b rest).scalar with
      | none => rfl
      | some c => rw [Option.map_some, toUpper_of_le (le_toNat_of_scalar_atFront hb h)]
    rw [capital_of_le (UInt8.not_lt.1 hb), atFront_map_capital hb, Segment.capital,
      map_capital_of_le fun x => le_of_mem_atFront hb, hscalar]

/-- The bytes with capitals are cut where the bytes are cut. -/
theorem cut_map_capital (bytes : List UInt8) :
    cut (bytes.map capital) = (cut bytes).map Segment.capital := by
  induction bytes using cut.induct with
  | case1 => simp [cut]
  | case2 b rest segment ih =>
    have hlength : (Segment.atFront b rest).capital.bytes.length = segment.bytes.length :=
      List.length_map _
    rw [List.map_cons, cut, cut, List.map_cons, atFront_capital, hlength, ← List.map_drop, ih]

lemma char_capital (s : Segment) : s.capital.char = s.char.toUpper := by
  unfold Segment.char Segment.capital
  cases s.scalar with
  | none => exact (toUpper_of_le (c := '\ufffd') (by decide)).symm
  | some c => rfl

lemma decodeLossy_map_capital (bytes : List UInt8) :
    decodeLossy (bytes.map capital) = (decodeLossy bytes).map Char.toUpper := by
  rw [decodeLossy, decodeLossy, cut_map_capital, List.map_map, List.map_map]
  exact List.map_congr_left fun s _ => char_capital s

lemma isWellFormed_map_capital (bytes : List UInt8) :
    isWellFormed (bytes.map capital) = isWellFormed bytes := by
  rw [isWellFormed, isWellFormed, cut_map_capital, List.all_map]
  congr 1
  funext s
  exact Option.isSome_map

/-- Reading commutes with capitals up to the first zero. -/
theorem decodeLossy_capitalsToZero (bytes : List UInt8) :
    decodeLossy (capitalsToZero bytes) = mapToFirst '\x00' Char.toUpper (decodeLossy bytes) :=
  mapToFirst_of_append (decodeLossy_append_cons (a := 0) (by decide))
    (count_decodeLossy (a := 0) (by decide)) decodeLossy_map_capital bytes

/-- Capitals make nothing well-formed, and nothing ill-formed. -/
lemma isWellFormed_capitalsToZero (bytes : List UInt8) :
    isWellFormed (capitalsToZero bytes) = isWellFormed bytes := by
  by_cases h : 0 ∈ bytes
  · obtain ⟨p, q, rfl, hp⟩ := List.eq_append_cons_of_mem h
    have hq : StartsAnew (0 :: q) := startsAnew_cons (by decide) q
    have hfront : (cut (p.map capital)).all _ = (cut p).all _ := isWellFormed_map_capital p
    rw [capitalsToZero, mapToFirst_append_cons hp, isWellFormed, isWellFormed, cut_append _ hq,
      cut_append _ hq, List.all_append, List.all_append, hfront]
  · rw [capitalsToZero, mapToFirst_of_notMem h, isWellFormed_map_capital]

end Utf8

namespace Utf16

open Wide.Argument (capital)

lemma toNat_capital (unit : UInt16) : (capital unit).toNat = capitalPoint unit.toNat := by
  unfold capital capitalPoint
  simp only [Bool.and_eq_true, decide_eq_true_eq, UInt16.le_iff_toNat_le, UInt16.reduceToNat]
  split
  · rw [UInt16.toNat_sub_of_le]
    · rfl
    · rw [UInt16.le_iff_toNat_le]
      simp
      omega
  · rfl

lemma capital_eq_iff {u : UInt16} (hu : u < 0x41 ∨ 0x7A < u) (v : UInt16) :
    capital v = u ↔ v = u := by
  rw [← UInt16.toNat_inj, ← UInt16.toNat_inj, toNat_capital]
  refine capitalPoint_eq_iff ?_ v.toNat
  simpa only [UInt16.lt_iff_toNat_lt, UInt16.reduceToNat] using hu

lemma capital_capital (u : UInt16) : capital (capital u) = capital u := by
  rw [← UInt16.toNat_inj, toNat_capital, toNat_capital, capitalPoint_capitalPoint]

/-- A letter is one unit, and no other character has a letter among its units. -/
lemma encodeChar_toUpper (c : Char) : encodeChar c.toUpper = (encodeChar c).map capital := by
  have hs := Wide.spells_encodeChar c
  generalize hunits : encodeChar c = units at hs ⊢
  cases hs with
  | single value =>
    refine encodeChar_of_single (single_of_toNat_eq ?_)
    rw [toNat_toUpper, toNat_capital, value]
  | pair hhigh hlow value =>
    rename_i high low
    have hkept : ∀ u : UInt16, 0xD800 ≤ u → capital u = u := fun u hu =>
      (capital_eq_iff (.inr (UInt16.lt_of_lt_of_le (by decide) hu)) u).2 rfl
    rw [toUpper_of_le (by omega), hunits, List.map_cons, List.map_cons, hkept high hhigh.1,
      hkept low (UInt16.le_trans (by decide) hlow.1)]
    rfl

lemma encode_map_toUpper (s : List Char) : encode (s.map Char.toUpper) = (encode s).map capital := by
  induction s with
  | nil => rfl
  | cons c s ih => rw [List.map_cons, encode_cons, encode_cons, encodeChar_toUpper, ih, List.map_append]

/-- Encoding commutes with capitals up to the first zero. -/
theorem encode_mapToFirst_toUpper (s : List Char) :
    encode (mapToFirst '\x00' Char.toUpper s) = mapToFirst 0 capital (encode s) :=
  mapToFirst_of_append (encode_append_cons (c := '\x00') rfl) (count_encode (c := '\x00') rfl)
    encode_map_toUpper s

end Utf16

namespace Wide

/-! ### What a callee leaves behind -/

lemma value_convert_capitalsToZero (bytes : List UInt8) :
    (convert (Utf8.capitalsToZero bytes)).value =
      mapToFirst 0 Argument.capital (convert bytes).value.dropLast ++ [0] := by
  rw [dropLast_convert, convert, Utf8.decodeLossy_capitalsToZero, Utf16.encode_mapToFirst_toUpper]

lemma records_convert_capitalsToZero (bytes : List UInt8) :
    (convert (Utf8.capitalsToZero bytes)).records = (convert bytes).records := by
  rw [convert, convert, Utf8.isWellFormed_capitalsToZero, Utf8.capitalsToZero, length_mapToFirst]

namespace Argument

lemma capitalsToZero_eq (units : List UInt16) :
    capitalsToZero units = mapToFirst 0 capital units := by
  induction units with
  | nil => rfl
  | cons unit rest ih =>
    rw [capitalsToZero]
    split
    · rename_i h
      rw [h]
      exact (mapToFirst_append_cons List.not_mem_nil capital rest).symm
    · rename_i h
      rw [ih]
      exact (mapToFirst_append (p := [unit]) (by simpa [eq_comm] using h) capital rest).symm

lemma capitalsToZero_capitalsToZero (units : List UInt16) :
    capitalsToZero (capitalsToZero units) = capitalsToZero units := by
  induction units with
  | nil => rfl
  | cons unit rest ih =>
    by_cases h : unit = 0
    · rw [capitalsToZero, if_pos h, capitalsToZero, if_pos h]
    · have hcapital : capital unit ≠ 0 := mt (Utf16.capital_eq_iff (.inl (by decide)) unit).1 h
      rw [capitalsToZero, if_neg h, capitalsToZero, if_neg hcapital, ih, Utf16.capital_capital]

/-- A unit that is no letter stands at an index afterwards iff it stood there before. -/
lemma getElem?_capitalsToZero_eq_some_iff {u : UInt16} (hu : u < 0x41 ∨ 0x7A < u)
    (units : List UInt16) (i : Nat) :
    (capitalsToZero units)[i]? = some u ↔ units[i]? = some u := by
  induction units generalizing i with
  | nil => rfl
  | cons unit rest ih =>
    rw [capitalsToZero]
    split
    · rfl
    · cases i with
      | zero => simp [Utf16.capital_eq_iff hu]
      | succ i => exact ih i

variable {a : Argument}

lemma length_upcase (a : Argument) : a.upcase.length = a.length := a.length_after .upcase

lemma upcase_of_isNull (h : a.isNull = true) : a.upcase = a := if_pos h

lemma upcase_of_not_isNull (h : a.isNull = false) :
    a.upcase = ⟨capitalsToZero a.content ++ a.units.drop a.length, false⟩ := by
  rw [upcase, if_neg (by simp [h]), h]

lemma content_upcase (h : a.isNull = false) : a.upcase.content = capitalsToZero a.content := by
  rw [content, length_upcase, upcase_of_not_isNull h]
  exact List.take_left' (by rw [length_capitalsToZero, length_content])

/-- The terminator is not touched. -/
lemma drop_upcase (a : Argument) : a.upcase.units.drop a.length = a.units.drop a.length := by
  cases h : a.isNull with
  | true => rw [upcase_of_isNull h]
  | false =>
    rw [upcase_of_not_isNull h]
    exact List.drop_left' (by rw [length_capitalsToZero, length_content])

theorem upcase_upcase (a : Argument) : a.upcase.upcase = a.upcase := by
  cases h : a.isNull with
  | true => rw [upcase_of_isNull h, upcase_of_isNull h]
  | false =>
    have hnull : a.upcase.isNull = false := (a.after_keeps .upcase).2.trans h
    rw [upcase_of_not_isNull hnull, content_upcase h, length_upcase, drop_upcase,
      capitalsToZero_capitalsToZero, ← upcase_of_not_isNull h]

/-- A unit that is no letter stands at an index afterwards iff it stood there before. -/
theorem getElem?_upcase_eq_some_iff {u : UInt16} (hu : u < 0x41 ∨ 0x7A < u) (a : Argument)
    (i : Nat) : a.upcase.units[i]? = some u ↔ a.units[i]? = some u := by
  cases h : a.isNull with
  | true => rw [upcase_of_isNull h]
  | false =>
    have hsplit : a.content ++ a.units.drop a.length = a.units := List.take_append_drop _ _
    rw [upcase_of_not_isNull h]
    nth_rewrite 2 [← hsplit]
    rw [List.getElem?_append, List.getElem?_append, length_capitalsToZero]
    split
    · exact getElem?_capitalsToZero_eq_some_iff hu a.content i
    · rfl

end Argument

lemma upcase_ofBytes (bytes : List UInt8) :
    (Argument.ofBytes bytes).value.upcase = (Argument.ofBytes (Utf8.capitalsToZero bytes)).value := by
  have hcontent : (Argument.ofBytes bytes).value.content = (convert bytes).value.dropLast :=
    Argument.content_eq_dropLast _
  have hbehind : (convert bytes).value.drop ((convert bytes).value.length - 1) = [0] := by
    simp [convert]
  rw [Argument.upcase_of_not_isNull rfl, hcontent, Argument.capitalsToZero_eq]
  change Argument.mk (_ ++ (convert bytes).value.drop _) false =
    ⟨(convert (Utf8.capitalsToZero bytes)).value, false⟩
  rw [value_convert_capitalsToZero]
  exact congrArg (fun units => Argument.mk (_ ++ units) false) hbehind

/-- Bytes with capitals in the place of the small letters before their first zero are converted to what
a callee leaves behind that puts capitals in the place of the small letters before the first zero, and
the same is reported. In whatever argument it does so, to do so again changes nothing; the length stays,
and zeros, surrogates and U+FFFD stay where they are. -/
theorem capitals_commute_with_conversion (bytes : List UInt8) :
    Argument.ofBytes (Utf8.capitalsToZero bytes) =
        ⟨(Argument.ofBytes bytes).value.upcase, (Argument.ofBytes bytes).records⟩ ∧
      ∀ a : Argument, a.upcase.upcase = a.upcase ∧ a.upcase.length = a.length ∧
        ∀ (i : Nat) (unit : UInt16),
          unit = 0 ∨ Utf16.isHigh unit = true ∨ Utf16.isLow unit = true ∨ unit = 0xFFFD →
            (a.upcase.units[i]? = some unit ↔ a.units[i]? = some unit) := by
  constructor
  · have hrecords : (Argument.ofBytes (Utf8.capitalsToZero bytes)).records =
        (Argument.ofBytes bytes).records := records_convert_capitalsToZero bytes
    rw [upcase_ofBytes, ← hrecords]
  · intro a
    refine ⟨a.upcase_upcase, a.length_upcase, fun i unit hunit => ?_⟩
    have hletter : unit < 0x41 ∨ 0x7A < unit := by
      rcases hunit with rfl | hhigh | hlow | rfl
      · exact .inl (by decide)
      · have hle : 0xD800 ≤ unit := of_decide_eq_true (Bool.and_eq_true_iff.1 hhigh).1
        exact .inr (UInt16.lt_of_lt_of_le (by decide) hle)
      · have hle : 0xDC00 ≤ unit := of_decide_eq_true (Bool.and_eq_true_iff.1 hlow).1
        exact .inr (UInt16.lt_of_lt_of_le (by decide) hle)
      · exact .inr (by decide)
    exact Argument.getElem?_upcase_eq_some_iff hletter a i

/-- A letter ends a sequence that breaks off, a pair of surrogates stands between letters, and a letter
behind the first zero stays small. -/
theorem capitals_behind_a_sequence_broken_off :
    let bytes := [0xE2, 0x82, 0x61, 0xF0, 0x9F, 0xA6, 0x80, 0x62, 0x00, 0x63]
    let a := (Argument.ofBytes bytes).value
    Utf8.capitalsToZero bytes = [0xE2, 0x82, 0x41, 0xF0, 0x9F, 0xA6, 0x80, 0x42, 0x00, 0x63] ∧
      a.upcase.units = [0xFFFD, 0x41, 0xD83E, 0xDD80, 0x42, 0, 0x63, 0] ∧
      Utf16.isHigh 0xD83E = true ∧
      (a.upcase.units[2]? = some 0xD83E ↔ a.units[2]? = some 0xD83E) := by
  intro bytes a
  have hhigh : Utf16.isHigh 0xD83E = true := by decide
  obtain ⟨hcapitals, hkept⟩ := capitals_commute_with_conversion bytes
  have hunits : (Argument.ofBytes (Utf8.capitalsToZero bytes)).value.units =
      [0xFFFD, 0x41, 0xD83E, 0xDD80, 0x42, 0, 0x63, 0] := by decide +kernel
  rw [hcapitals] at hunits
  exact ⟨by decide, hunits, hhigh, (hkept a).2.2 2 0xD83E (.inr (.inl hhigh))⟩

end Wide

end Interop
