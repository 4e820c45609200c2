import Interop.Unicode.Utf8
import Mathlib.Data.List.Forall2
import Mathlib.Tactic.Common

/-!
# The table of well-formed UTF-8

The well-formed sequences are given by a table that bounds each of their bytes. A sequence matches a
row of the table iff it is the encoding of a scalar value, and then its lead byte, the bounds of the
bytes that follow and the scalar value are those that the decoder works with. No overlong form, no
surrogate and nothing above U+10FFFF matches.
-/

namespace Interop.Utf8

abbrev Bounds := UInt8 × UInt8

/-- The bounds of the bytes of well-formed sequences, a row for each kind of sequence. -/
def table : List (List Bounds) :=
  [[(0x00, 0x7F)],
    [(0xC2, 0xDF), (0x80, 0xBF)],
    [(0xE0, 0xE0), (0xA0, 0xBF), (0x80, 0xBF)],
    [(0xE1, 0xEC), (0x80, 0xBF), (0x80, 0xBF)],
    [(0xED, 0xED), (0x80, 0x9F), (0x80, 0xBF)],
    [(0xEE, 0xEF), (0x80, 0xBF), (0x80, 0xBF)],
    [(0xF0, 0xF0), (0x90, 0xBF), (0x80, 0xBF), (0x80, 0xBF)],
    [(0xF1, 0xF3), (0x80, 0xBF), (0x80, 0xBF), (0x80, 0xBF)],
    [(0xF4, 0xF4), (0x80, 0x8F), (0x80, 0xBF), (0x80, 0xBF)]]

/-- Whether the bytes lie within the bounds, one by one. -/
def Matches : List Bounds → List UInt8 → Prop :=
  List.Forall₂ fun bounds b => bounds.1 ≤ b ∧ b ≤ bounds.2

/-- A well-formed sequence matches a row of the table. -/
def WellFormed (bytes : List UInt8) : Prop := ∃ row ∈ table, Matches row bytes

lemma matches_nil_iff (bytes : List UInt8) : Matches [] bytes ↔ bytes = [] := by
  simp [Matches]

lemma matches_cons_iff (bounds : Bounds) (row : List Bounds) (bytes : List UInt8) :
    Matches (bounds :: row) bytes ↔
      ∃ b tail, bytes = b :: tail ∧ (bounds.1 ≤ b ∧ b ≤ bounds.2) ∧ Matches row tail := by
  unfold Matches
  rw [List.forall₂_cons_left_iff]
  constructor
  · rintro ⟨b, tail, hb, htail, rfl⟩
    exact ⟨b, tail, rfl, hb, htail⟩
  · rintro ⟨b, tail, rfl, hb, htail⟩
    exact ⟨b, tail, hb, htail, rfl⟩

/-! ### Lead bytes -/

/-- The bounds of `n` bytes, the first with bounds of its own. -/
def followers : Nat → UInt8 → UInt8 → List Bounds
  | 0, _, _ => []
  | n + 1, low, high => (low, high) :: followers n 0x80 0xBF

/-- The bounds of the bytes that follow a lead byte. -/
def Lead.followers (lead : Lead) : List Bounds := Utf8.followers lead.following lead.low lead.high

/-- Every row of the table for more than one byte is announced by its lead bytes. -/
lemma Lead.ofByte?_of_row {bounds : Bounds} {row : List Bounds} (hrow : bounds :: row ∈ table)
    {b : UInt8} (hb : bounds.1 ≤ b ∧ b ≤ bounds.2) :
    (b < 0x80 ∧ row = []) ∨ ∃ lead, Lead.ofByte? b = some lead ∧ lead.followers = row := by
  obtain ⟨hlow, hhigh⟩ := hb
  have hsingle : ∀ x : UInt8, x ≤ b → b ≤ x → b = x := fun x h h' => UInt8.le_antisymm h' h
  simp only [table, List.mem_cons, List.cons.injEq, List.not_mem_nil, or_false] at hrow
  rcases hrow with ⟨rfl, rfl⟩ | ⟨rfl, rfl⟩ | ⟨rfl, rfl⟩ | ⟨rfl, rfl⟩ | ⟨rfl, rfl⟩ | ⟨rfl, rfl⟩ |
    ⟨rfl, rfl⟩ | ⟨rfl, rfl⟩ | ⟨rfl, rfl⟩
  · exact .inl ⟨by grind, rfl⟩
  · exact .inr ⟨⟨1, 0x80, 0xBF, b.toNat - 0xC0⟩, by grind [Lead.ofByte?], rfl⟩
  · obtain rfl := hsingle _ hlow hhigh
    exact .inr ⟨_, rfl, rfl⟩
  · exact .inr ⟨⟨2, 0x80, 0xBF, b.toNat - 0xE0⟩, by grind [Lead.ofByte?], rfl⟩
  · obtain rfl := hsingle _ hlow hhigh
    exact .inr ⟨_, rfl, rfl⟩
  · exact .inr ⟨⟨2, 0x80, 0xBF, b.toNat - 0xE0⟩, by grind [Lead.ofByte?], rfl⟩
  · obtain rfl := hsingle _ hlow hhigh
    exact .inr ⟨_, rfl, rfl⟩
  · exact .inr ⟨⟨3, 0x80, 0xBF, b.toNat - 0xF0⟩, by grind [Lead.ofByte?], rfl⟩
  · obtain rfl := hsingle _ hlow hhigh
    exact .inr ⟨_, rfl, rfl⟩

lemma Lead.row_of_ofByte? {b : UInt8} {lead : Lead} (h : Lead.ofByte? b = some lead) :
    ∃ bounds : Bounds, bounds :: lead.followers ∈ table ∧ bounds.1 ≤ b ∧ b ≤ bounds.2 := by
  unfold Lead.ofByte? at h
  repeat' split at h
  all_goals cases h
  · exact ⟨(0xC2, 0xDF), by simp [table, Lead.followers, Utf8.followers], by grind, by grind⟩
  · exact ⟨(0xE0, 0xE0), by simp [table, Lead.followers, Utf8.followers], by grind, by grind⟩
  · exact ⟨(0xED, 0xED), by simp [table, Lead.followers, Utf8.followers], by grind, by grind⟩
  · by_cases hb : b < 0xED
    · exact ⟨(0xE1, 0xEC), by simp [table, Lead.followers, Utf8.followers], by grind, by grind⟩
    · exact ⟨(0xEE, 0xEF), by simp [table, Lead.followers, Utf8.followers], by grind, by grind⟩
  · exact ⟨(0xF0, 0xF0), by simp [table, Lead.followers, Utf8.followers], by grind, by grind⟩
  · exact ⟨(0xF1, 0xF3), by simp [table, Lead.followers, Utf8.followers], by grind, by grind⟩
  · exact ⟨(0xF4, 0xF4), by simp [table, Lead.followers, Utf8.followers], by grind, by grind⟩

lemma Lead.ofByte?_of_lt {b : UInt8} (h : b < 0x80) : Lead.ofByte? b = none := by
  grind [Lead.ofByte?]

/-- A sequence is well-formed iff it is a single byte below 80, or its lead byte is followed by bytes
within the bounds that it announces. -/
lemma wellFormed_cons_iff (b : UInt8) (tail : List UInt8) :
    WellFormed (b :: tail) ↔
      (b < 0x80 ∧ tail = []) ∨ ∃ lead, Lead.ofByte? b = some lead ∧ Matches lead.followers tail := by
  constructor
  · rintro ⟨row, hrow, hm⟩
    cases row with
    | nil => cases (matches_nil_iff _).1 hm
    | cons bounds row =>
      obtain ⟨c, tail, heq, hb, htail⟩ := (matches_cons_iff _ _ _).1 hm
      cases heq
      rcases Lead.ofByte?_of_row hrow hb with ⟨hlt, rfl⟩ | ⟨lead, hlead, rfl⟩
      · exact .inl ⟨hlt, (matches_nil_iff _).1 htail⟩
      · exact .inr ⟨lead, hlead, htail⟩
  · rintro (⟨hlt, rfl⟩ | ⟨lead, hlead, htail⟩)
    · refine ⟨[(0x00, 0x7F)], by simp [table], ?_⟩
      exact (matches_cons_iff _ _ _).2 ⟨b, [], rfl, ⟨by grind, by grind⟩, (matches_nil_iff _).2 rfl⟩
    · obtain ⟨bounds, hrow, hb⟩ := Lead.row_of_ofByte? hlead
      exact ⟨_, hrow, (matches_cons_iff _ _ _).2 ⟨b, tail, rfl, hb, htail⟩⟩

/-! ### Encodings -/

lemma toNat_ofNat {n : Nat} (h : n.isValidChar) : (Char.ofNat n).toNat = n := by
  rw [Char.ofNat, dif_pos h]
  rfl

lemma utf8EncodeChar_ofNat {n : Nat} (h : n.isValidChar) :
    String.utf8EncodeChar (Char.ofNat n) =
      if n ≤ 0x7F then [UInt8.ofNat n]
      else if n ≤ 0x7FF then [UInt8.ofNat (n / 64 % 0x20 + 0xC0), UInt8.ofNat (n % 0x40 + 0x80)]
      else if n ≤ 0xFFFF then
        [UInt8.ofNat (n / 4096 % 0x10 + 0xE0), UInt8.ofNat (n / 64 % 0x40 + 0x80),
          UInt8.ofNat (n % 0x40 + 0x80)]
      else
        [UInt8.ofNat (n / 262144 % 0x08 + 0xF0), UInt8.ofNat (n / 4096 % 0x40 + 0x80),
          UInt8.ofNat (n / 64 % 0x40 + 0x80), UInt8.ofNat (n % 0x40 + 0x80)] := by
  have hn : (Char.ofNat n).val.toNat = n := toNat_ofNat h
  unfold String.utf8EncodeChar
  simp only [hn]

lemma matches_ofNat_iff (low high : UInt8) (row : List Bounds) {n : Nat} (hn : n < 256)
    (tail : List UInt8) :
    Matches ((low, high) :: row) (UInt8.ofNat n :: tail) ↔
      (low.toNat ≤ n ∧ n ≤ high.toNat) ∧ Matches row tail := by
  unfold Matches
  rw [List.forall₂_cons, UInt8.le_iff_toNat_le, UInt8.le_iff_toNat_le, UInt8.toNat_ofNat',
    Nat.mod_eq_of_lt hn]

lemma wellFormed_utf8EncodeChar (c : Char) : WellFormed (String.utf8EncodeChar c) := by
  have hv : c.toNat.isValidChar := c.valid
  rw [← Char.ofNat_toNat c, utf8EncodeChar_ofNat hv]
  generalize c.toNat = n at hv
  unfold Nat.isValidChar at hv
  -- the rows of the table follow the ranges of scalar values
  have row : ∀ bytes row, row ∈ table → Matches row bytes → WellFormed bytes :=
    fun _ row hrow hm => ⟨row, hrow, hm⟩
  have hnil : Matches [] [] := .nil
  split
  · refine row _ [(0x00, 0x7F)] (by simp [table]) ?_
    simp (disch := omega) only [matches_ofNat_iff, UInt8.reduceToNat, hnil, and_true]
    omega
  · split
    · refine row _ [(0xC2, 0xDF), (0x80, 0xBF)] (by simp [table]) ?_
      simp (disch := omega) only [matches_ofNat_iff, UInt8.reduceToNat, hnil, and_true]
      omega
    · split
      · rcases (by omega : n < 0x1000 ∨ 0x1000 ≤ n ∧ n < 0xD000 ∨ 0xD000 ≤ n ∧ n < 0xD800 ∨
          0xE000 ≤ n) with h | h | h | h
        · refine row _ [(0xE0, 0xE0), (0xA0, 0xBF), (0x80, 0xBF)] (by simp [table]) ?_
          simp (disch := omega) only [matches_ofNat_iff, UInt8.reduceToNat, hnil, and_true]
          omega
        · refine row _ [(0xE1, 0xEC), (0x80, 0xBF), (0x80, 0xBF)] (by simp [table]) ?_
          simp (disch := omega) only [matches_ofNat_iff, UInt8.reduceToNat, hnil, and_true]
          omega
        · refine row _ [(0xED, 0xED), (0x80, 0x9F), (0x80, 0xBF)] (by simp [table]) ?_
          simp (disch := omega) only [matches_ofNat_iff, UInt8.reduceToNat, hnil, and_true]
          omega
        · refine row _ [(0xEE, 0xEF), (0x80, 0xBF), (0x80, 0xBF)] (by simp [table]) ?_
          simp (disch := omega) only [matches_ofNat_iff, UInt8.reduceToNat, hnil, and_true]
          omega
      · rcases (by omega : n < 0x40000 ∨ 0x40000 ≤ n ∧ n < 0x100000 ∨ 0x100000 ≤ n)
          with h | h | h
        · refine row _ [(0xF0, 0xF0), (0x90, 0xBF), (0x80, 0xBF), (0x80, 0xBF)] (by simp [table]) ?_
          simp (disch := omega) only [matches_ofNat_iff, UInt8.reduceToNat, hnil, and_true]
          omega
        · refine row _ [(0xF1, 0xF3), (0x80, 0xBF), (0x80, 0xBF), (0x80, 0xBF)] (by simp [table]) ?_
          simp (disch := omega) only [matches_ofNat_iff, UInt8.reduceToNat, hnil, and_true]
          omega
        · refine row _ [(0xF4, 0xF4), (0x80, 0x8F), (0x80, 0xBF), (0x80, 0xBF)] (by simp [table]) ?_
          simp (disch := omega) only [matches_ofNat_iff, UInt8.reduceToNat, hnil, and_true]
          omega

/-- How many bytes follow a lead byte, its bits, and what the bounds of the byte behind it leave out:
overlong forms, surrogates and values above U+10FFFF. -/
lemma Lead.ofByte?_cases {b : UInt8} {lead : Lead} (h : Lead.ofByte? b = some lead) :
    (lead.following = 1 ∧ 0xC2 ≤ b.toNat ∧ b.toNat ≤ 0xDF ∧ lead.bits = b.toNat - 0xC0 ∧
      lead.low.toNat = 0x80 ∧ lead.high.toNat = 0xBF) ∨
    (lead.following = 2 ∧ 0xE0 ≤ b.toNat ∧ b.toNat ≤ 0xEF ∧ lead.bits = b.toNat - 0xE0 ∧
      0x80 ≤ lead.low.toNat ∧ lead.high.toNat ≤ 0xBF ∧ (b.toNat = 0xE0 → 0xA0 ≤ lead.low.toNat) ∧
      (b.toNat = 0xED → lead.high.toNat ≤ 0x9F)) ∨
    (lead.following = 3 ∧ 0xF0 ≤ b.toNat ∧ b.toNat ≤ 0xF4 ∧ lead.bits = b.toNat - 0xF0 ∧
      0x80 ≤ lead.low.toNat ∧ lead.high.toNat ≤ 0xBF ∧ (b.toNat = 0xF0 → 0x90 ≤ lead.low.toNat) ∧
      (b.toNat = 0xF4 → lead.high.toNat ≤ 0x8F)) := by
  unfold Lead.ofByte? at h
  simp only [UInt8.lt_iff_toNat_lt, UInt8.le_iff_toNat_le, ← UInt8.toNat_inj, UInt8.reduceToNat] at h
  repeat' split at h
  all_goals cases h
  all_goals simp
  all_goals omega

/-- The scalar value that a lead byte and the bytes behind it amount to. -/
def Lead.scalar (lead : Lead) (run : List UInt8) : Nat :=
  run.foldl (fun v x => v * 64 + (x.toNat - 0x80)) lead.bits

lemma ofNat_of_eq {b : UInt8} {n : Nat} (h : n = b.toNat) : UInt8.ofNat n = b := by
  rw [h, UInt8.ofNat_toNat]

lemma encode_one {b : UInt8} (hb : b < 0x80) :
    String.utf8EncodeChar (Char.ofNat b.toNat) = [b] := by
  simp only [UInt8.lt_iff_toNat_lt, UInt8.reduceToNat] at hb
  rw [utf8EncodeChar_ofNat (.inl (by omega)), if_pos (by omega), UInt8.ofNat_toNat]

lemma encode_two {b x : UInt8} {n : Nat} (hn : n = (b.toNat - 0xC0) * 64 + (x.toNat - 0x80))
    (hb : 0xC2 ≤ b.toNat ∧ b.toNat ≤ 0xDF) (hx : 0x80 ≤ x.toNat ∧ x.toNat ≤ 0xBF) :
    n.isValidChar ∧ String.utf8EncodeChar (Char.ofNat n) = [b, x] := by
  have hv : n.isValidChar := .inl (by omega)
  refine ⟨hv, ?_⟩
  rw [utf8EncodeChar_ofNat hv, if_neg (by omega), if_pos (by omega), ofNat_of_eq (b := b) (by omega),
    ofNat_of_eq (b := x) (by omega)]

lemma encode_three {b x y : UInt8} {n : Nat}
    (hn : n = ((b.toNat - 0xE0) * 64 + (x.toNat - 0x80)) * 64 + (y.toNat - 0x80))
    (hb : 0xE0 ≤ b.toNat ∧ b.toNat ≤ 0xEF) (hx : 0x80 ≤ x.toNat ∧ x.toNat ≤ 0xBF)
    (hy : 0x80 ≤ y.toNat ∧ y.toNat ≤ 0xBF) (hoverlong : b.toNat = 0xE0 → 0xA0 ≤ x.toNat)
    (hsurrogate : b.toNat = 0xED → x.toNat ≤ 0x9F) :
    n.isValidChar ∧ String.utf8EncodeChar (Char.ofNat n) = [b, x, y] := by
  have hv : n.isValidChar := by
    unfold Nat.isValidChar
    omega
  refine ⟨hv, ?_⟩
  rw [utf8EncodeChar_ofNat hv, if_neg (by omega), if_neg (by omega), if_pos (by omega),
    ofNat_of_eq (b := b) (by omega), ofNat_of_eq (b := x) (by omega), ofNat_of_eq (b := y) (by omega)]

lemma encode_four {b x y z : UInt8} {n : Nat}
    (hn : n = (((b.toNat - 0xF0) * 64 + (x.toNat - 0x80)) * 64 + (y.toNat - 0x80)) * 64 +
      (z.toNat - 0x80))
    (hb : 0xF0 ≤ b.toNat ∧ b.toNat ≤ 0xF4) (hx : 0x80 ≤ x.toNat ∧ x.toNat ≤ 0xBF)
    (hy : 0x80 ≤ y.toNat ∧ y.toNat ≤ 0xBF) (hz : 0x80 ≤ z.toNat ∧ z.toNat ≤ 0xBF)
    (hoverlong : b.toNat = 0xF0 → 0x90 ≤ x.toNat) (habove : b.toNat = 0xF4 → x.toNat ≤ 0x8F) :
    n.isValidChar ∧ String.utf8EncodeChar (Char.ofNat n) = [b, x, y, z] := by
  have hv : n.isValidChar := .inr (by omega)
  refine ⟨hv, ?_⟩
  rw [utf8EncodeChar_ofNat hv, if_neg (by omega), if_neg (by omega), if_neg (by omega),
    ofNat_of_eq (b := b) (by omega), ofNat_of_eq (b := x) (by omega), ofNat_of_eq (b := y) (by omega),
    ofNat_of_eq (b := z) (by omega)]

/-- What a lead byte and bytes within its bounds amount to is encoded by these bytes. -/
lemma Lead.encode_scalar {b : UInt8} {lead : Lead} (h : Lead.ofByte? b = some lead)
    {run : List UInt8} (hrun : Matches lead.followers run) :
    (lead.scalar run).isValidChar ∧
      String.utf8EncodeChar (Char.ofNat (lead.scalar run)) = b :: run := by
  unfold Lead.followers at hrun
  rcases ofByte?_cases h with ⟨hn, hrest⟩ | ⟨hn, hrest⟩ | ⟨hn, hrest⟩
  · rw [hn, Utf8.followers, Utf8.followers, matches_cons_iff] at hrun
    obtain ⟨x, _, rfl, hx, hnil⟩ := hrun
    obtain rfl := (matches_nil_iff _).1 hnil
    simp only [UInt8.le_iff_toNat_le] at hx
    have hscalar : lead.scalar [x] = lead.bits * 64 + (x.toNat - 0x80) := rfl
    exact encode_two (by rw [hscalar]; omega) (by omega) (by omega)
  · rw [hn, Utf8.followers, Utf8.followers, Utf8.followers, matches_cons_iff] at hrun
    obtain ⟨x, _, rfl, hx, hrun⟩ := hrun
    obtain ⟨y, _, rfl, hy, hnil⟩ := (matches_cons_iff _ _ _).1 hrun
    obtain rfl := (matches_nil_iff _).1 hnil
    simp only [UInt8.le_iff_toNat_le, UInt8.reduceToNat] at hx hy
    have hscalar : lead.scalar [x, y] =
      (lead.bits * 64 + (x.toNat - 0x80)) * 64 + (y.toNat - 0x80) := rfl
    exact encode_three (by rw [hscalar]; omega) (by omega) (by omega) hy (by omega) (by omega)
  · rw [hn, Utf8.followers, Utf8.followers, Utf8.followers, Utf8.followers, matches_cons_iff] at hrun
    obtain ⟨x, _, rfl, hx, hrun⟩ := hrun
    obtain ⟨y, _, rfl, hy, hrun⟩ := (matches_cons_iff _ _ _).1 hrun
    obtain ⟨z, _, rfl, hz, hnil⟩ := (matches_cons_iff _ _ _).1 hrun
    obtain rfl := (matches_nil_iff _).1 hnil
    simp only [UInt8.le_iff_toNat_le, UInt8.reduceToNat] at hx hy hz
    have hscalar : lead.scalar [x, y, z] = ((lead.bits * 64 + (x.toNat - 0x80)) * 64 +
      (y.toNat - 0x80)) * 64 + (z.toNat - 0x80) := rfl
    exact encode_four (by rw [hscalar]; omega) (by omega) (by omega) hy hz (by omega) (by omega)

lemma not_wellFormed_nil : ¬WellFormed [] := by
  rintro ⟨row, hrow, hm⟩
  obtain rfl : row = [] := by
    cases hm
    rfl
  simp [table] at hrow

/-- The table holds the encodings of the scalar values, and nothing else. -/
theorem wellFormed_iff (bytes : List UInt8) :
    WellFormed bytes ↔ ∃ c, String.utf8EncodeChar c = bytes := by
  constructor
  · intro h
    cases bytes with
    | nil => exact absurd h not_wellFormed_nil
    | cons b tail =>
      rcases (wellFormed_cons_iff b tail).1 h with ⟨hlt, rfl⟩ | ⟨lead, hlead, htail⟩
      · exact ⟨_, encode_one hlt⟩
      · exact ⟨_, (Lead.encode_scalar hlead htail).2⟩
  · rintro ⟨c, rfl⟩
    exact wellFormed_utf8EncodeChar c

lemma utf8EncodeChar_injective : Function.Injective String.utf8EncodeChar := by
  intro c d h
  have hc := ByteArray.utf8DecodeChar?_utf8EncodeChar_append (b := .empty) (c := c)
  have hd := ByteArray.utf8DecodeChar?_utf8EncodeChar_append (b := .empty) (c := d)
  rw [h, hd] at hc
  exact (Option.some.inj hc).symm

end Interop.Utf8
