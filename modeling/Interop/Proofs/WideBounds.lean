import Interop.Proofs.Utf16Texts
import Interop.Proofs.WideReading

/-!
# How long a conversion is

Each segment has one or two units, and between one and three bytes for each unit. Only a single byte has
as many units as bytes. So the units of a byte sequence are no more than its bytes and no less than a
third of them, and whatever the bytes are the units are a text.
-/

namespace Interop

namespace Utf8

/-- The segments of a byte sequence, one after the other. -/
inductive CutInto : List UInt8 → List (List UInt8) → Prop
  | nil : CutInto [] []
  | cons {segment rest : List UInt8} {c : Option Char} {segments : List (List UInt8)}
      (first : Cuts (segment ++ rest) segment c) (behind : CutInto rest segments) :
      CutInto (segment ++ rest) (segment :: segments)

/-- A byte sequence has its segments in one way. -/
theorem CutInto.unique {bytes : List UInt8} {segments others : List (List UInt8)}
    (h : CutInto bytes segments) (h' : CutInto bytes others) : segments = others := by
  induction h generalizing others with
  | nil =>
    generalize hbytes : ([] : List UInt8) = bytes at h'
    cases h' with
    | nil => rfl
    | cons first _ => exact absurd (List.append_eq_nil_iff.1 hbytes.symm).1 first.ne_nil
  | cons first behind ih =>
    rename_i segment rest c segments
    generalize hbytes : segment ++ rest = bytes at h'
    cases h' with
    | nil => exact absurd (List.append_eq_nil_iff.1 hbytes).1 first.ne_nil
    | cons first' behind' =>
      obtain ⟨rfl, -, rfl⟩ := first.append_inj first' hbytes
      rw [ih behind']

lemma WellFormed.length_le {bytes : List UInt8} (h : WellFormed bytes) : bytes.length ≤ 4 := by
  obtain ⟨row, hrow, hmatches⟩ := h
  have hrows : ∀ row ∈ table, row.length ≤ 4 := by decide
  exact hmatches.length_eq ▸ hrows row hrow

lemma Incomplete.length_le {bytes : List UInt8} (h : Incomplete bytes) : bytes.length ≤ 3 := by
  obtain ⟨w, hw, hfront, hne⟩ := h
  have hlt : bytes.length < w.length :=
    Nat.lt_of_le_of_ne hfront.length_le fun heq => hne (hfront.eq_of_length heq)
  have hle := hw.length_le
  omega

lemma utf8Size_le_three_iff (c : Char) : c.utf8Size ≤ 3 ↔ c.toNat < 0x10000 := by
  have hfour : c.utf8Size = 4 ↔ 0xFFFF < c.toNat := Char.utf8Size_eq_four_iff
  have hmax := c.utf8Size_le_four
  omega

end Utf8

namespace Wide

/-- The units of a segment are no more than its bytes, and there are at most three bytes for a unit. -/
lemma Spells.length {bytes segment : List UInt8} {c : Option Char} {units : List UInt16}
    (h : Spells c units) (hcut : Utf8.Cuts bytes segment c) :
    units.length ≤ segment.length ∧ segment.length ≤ 3 * units.length ∧
      (units.length = segment.length ↔ segment.length = 1) := by
  have hpos := List.length_pos_of_ne_nil hcut.ne_nil
  cases h with
  | replacement =>
    have hle : segment.length ≤ 3 := by
      cases hcut with
      | truncated _ _ _ incomplete _ => exact incomplete.length_le
      | stray _ _ => exact Nat.le_of_ble_eq_true rfl
    rw [List.length_singleton]
    omega
  | single value =>
    rename_i c u
    rw [← hcut.encode_eq, String.length_utf8EncodeChar] at hpos ⊢
    have hle := (Utf8.utf8Size_le_three_iff c).2 (value ▸ u.toNat_lt)
    rw [List.length_singleton]
    omega
  | pair hhigh hlow value =>
    rename_i c high low
    have hle : ¬c.utf8Size ≤ 3 := by
      rw [Utf8.utf8Size_le_three_iff]
      omega
    have hmax := c.utf8Size_le_four
    rw [← hcut.encode_eq, String.length_utf8EncodeChar, List.length_cons, List.length_singleton]
    omega

/-- The segments of what is read, and how many units it has. -/
theorem Reads.length {bytes : List UInt8} {units : List UInt16} (h : Reads bytes units) :
    ∃ segments, Utf8.CutInto bytes segments ∧ units.length ≤ bytes.length ∧
      bytes.length ≤ 3 * units.length ∧
      (units.length = bytes.length ↔ ∀ segment ∈ segments, segment.length = 1) := by
  induction h with
  | nil => exact ⟨[], .nil, Nat.le_refl _, Nat.le_refl _, by simp⟩
  | cons cut spelled read ih =>
    obtain ⟨segments, hcut, hle, hge, heq⟩ := ih
    obtain ⟨hle', hge', heq'⟩ := spelled.length cut
    refine ⟨_, .cons cut hcut, ?_⟩
    rw [List.forall_mem_cons, ← heq, ← heq', List.length_append, List.length_append]
    omega

/-- Whatever the bytes are, the units in front of the terminator are a text: every surrogate among them
belongs to a pair, they are read strictly without failing, and what they read as has the same units
again. They are no more than the bytes and no less than a third of them, and as many as the bytes iff
every segment of the bytes, which are cut in one way only, is a single byte. -/
theorem units_are_a_bounded_text (bytes : List UInt8) :
    ∃ units segments, (convert bytes).value = units ++ [0] ∧ Utf16.WellFormed units ∧
      (∃ s, Utf16.decode? units = some s ∧ Utf16.encode s = units) ∧
      Utf8.CutInto bytes segments ∧ (∀ others, Utf8.CutInto bytes others → others = segments) ∧
      units.length ≤ bytes.length ∧ bytes.length ≤ 3 * units.length ∧
      (units.length = bytes.length ↔ ∀ segment ∈ segments, segment.length = 1) := by
  have hread := reads_decodeLossy bytes
  obtain ⟨segments, hcut, hle, hge, heq⟩ := hread.length
  exact ⟨_, segments, rfl, (Utf16.wellFormed_iff _).2 ⟨_, rfl⟩,
    ⟨_, (Utf16.decode?_eq_some_iff_encode _ _).2 rfl, rfl⟩, hcut, fun _ hother => hother.unique hcut,
    hle, hge, heq⟩

/-- Of an encoded surrogate no byte belongs to the next, and none becomes a surrogate. -/
example : (convert [0xED, 0xA0, 0x80]).value = [0xFFFD, 0xFFFD, 0xFFFD, 0] := by
  decide +kernel

end Wide

end Interop
