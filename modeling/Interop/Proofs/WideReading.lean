import Interop.Proofs.Utf8Segments
import Interop.Wide.Conversion

/-!
# The reference conversion

Each segment of a byte sequence has units of its own: a well-formed one has the unit or the pair of
surrogates of its scalar value, an ill-formed one has a single U+FFFD. The units of the segments one
after the other are the reference that the conversion is held to.
-/

namespace Interop.Wide

/-- The units of a segment, by its scalar value if it is well-formed. -/
inductive Spells : Option Char → List UInt16 → Prop
  | replacement : Spells none [0xFFFD]
  | single {c : Char} {u : UInt16} (value : c.toNat = u.toNat) : Spells (some c) [u]
  | pair {c : Char} {high low : UInt16} (hhigh : 0xD800 ≤ high ∧ high ≤ 0xDBFF)
      (hlow : 0xDC00 ≤ low ∧ low ≤ 0xDFFF)
      (value : c.toNat = 0x10000 + (high.toNat - 0xD800) * 0x400 + (low.toNat - 0xDC00)) :
      Spells (some c) [high, low]

/-- The reference: the first segment of the bytes is spelled, and then the bytes behind it are
read. -/
inductive Reads : List UInt8 → List UInt16 → Prop
  | nil : Reads [] []
  | cons {segment rest : List UInt8} {c : Option Char} {units tail : List UInt16}
      (cut : Utf8.Cuts (segment ++ rest) segment c) (spelled : Spells c units)
      (read : Reads rest tail) : Reads (segment ++ rest) (units ++ tail)

lemma Spells.unique {c : Option Char} {units others : List UInt16} (h : Spells c units)
    (h' : Spells c others) : units = others := by
  cases h with
  | replacement =>
    cases h'
    rfl
  | single value =>
    rename_i u
    cases h' with
    | single value' =>
      rw [value] at value'
      rw [UInt16.toNat_inj.1 value']
    | pair _ _ value' =>
      have hu := u.toNat_lt
      omega
  | pair hhigh hlow value =>
    rename_i high low
    cases h' with
    | single value' =>
      rename_i u
      have hu := u.toNat_lt
      omega
    | pair hhigh' hlow' value' =>
      rename_i high' low'
      simp only [UInt16.le_iff_toNat_le, UInt16.reduceToNat] at hhigh hlow hhigh' hlow'
      have hh : high = high' := UInt16.toNat_inj.1 (by omega)
      have hl : low = low' := UInt16.toNat_inj.1 (by omega)
      rw [hh, hl]

/-- A byte sequence is read in one way. -/
theorem Reads.unique {bytes : List UInt8} {units others : List UInt16} (h : Reads bytes units)
    (h' : Reads bytes others) : units = others := by
  -- the first segment, its spelling and the reading of the rest are each unique
  induction h generalizing others with
  | nil =>
    generalize hbytes : ([] : List UInt8) = bytes at h'
    cases h' with
    | nil => rfl
    | cons cut _ _ => exact absurd (List.append_eq_nil_iff.1 hbytes.symm).1 cut.ne_nil
  | cons cut spelled read ih =>
    rename_i segment rest c units tail
    generalize hbytes : segment ++ rest = bytes at h'
    cases h' with
    | nil => exact absurd (List.append_eq_nil_iff.1 hbytes).1 cut.ne_nil
    | cons cut' spelled' read' =>
      obtain ⟨rfl, rfl, rfl⟩ := cut.append_inj cut' hbytes
      rw [spelled.unique spelled', ih read']

lemma spells_encodeChar (c : Char) : Spells (some c) (Utf16.encodeChar c) := by
  have hc : c.toNat < 0x110000 := by
    have hv : c.toNat.isValidChar := c.valid
    unfold Nat.isValidChar at hv
    omega
  unfold Utf16.encodeChar
  split
  · refine .single ?_
    rw [UInt16.toNat_ofNat']
    omega
  · refine .pair ?_ ?_ ?_
    all_goals simp only [UInt16.le_iff_toNat_le, UInt16.toNat_ofNat', UInt16.reduceToNat]
    all_goals omega

lemma spells_segment (s : Utf8.Segment) : Spells s.scalar (Utf16.encodeChar s.char) := by
  unfold Utf8.Segment.char
  cases s.scalar with
  | none => exact .replacement
  | some c => exact spells_encodeChar c

/-- Reading with replacement and encoding the result is the reference. -/
theorem reads_decodeLossy (bytes : List UInt8) :
    Reads bytes (Utf16.encode (Utf8.decodeLossy bytes)) := by
  induction bytes using Utf8.cut.induct with
  | case1 =>
    rw [Utf8.decodeLossy, Utf8.cut]
    exact .nil
  | case2 b rest segment ih =>
    have hcut : Utf8.Cuts (b :: rest) segment.bytes segment.scalar := Utf8.cuts_atFront b rest
    have hsplit : b :: rest = segment.bytes ++ rest.drop (segment.bytes.length - 1) :=
      (Utf8.atFront_append_drop b rest).symm
    rw [hsplit] at hcut
    have hread := Reads.cons hcut (spells_segment segment) ih
    rw [← hsplit] at hread
    rw [Utf8.decodeLossy, Utf8.cut]
    exact hread

/-- The conversion of any byte sequence is its reference conversion, of which there is exactly one,
followed by one zero. -/
theorem convert_is_the_reference (bytes : List UInt8) :
    ∃ units, Reads bytes units ∧ (∀ others, Reads bytes others → others = units) ∧
      (convert bytes).value = units ++ [0] :=
  ⟨_, reads_decodeLossy bytes, fun _ h => h.unique (reads_decodeLossy bytes), rfl⟩

end Interop.Wide
