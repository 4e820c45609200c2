import Interop.Proofs.JsonGrammar
import Interop.Proofs.Utf16Texts
import Interop.Proofs.Utf8Texts

/-!
# Strings against the grammar

A string that is kept is read iff it spells characters, and what is read is their encoding. A string
that is skipped is read over iff it has the shape of a string. The difficulty is that a kept string is
read byte by byte: an encoding of several bytes must then have stood in the document as it is, because
no escape yields the bytes behind a lead byte without the lead byte.
-/

namespace Interop.Json

/-! ### Escapes -/

lemma hexValue?_eq_some_iff {b : UInt8} {v : Nat} : hexValue? b = some v ↔ HexDigit b v := by
  constructor
  · intro h
    simp only [hexValue?, isDigit, Bool.and_eq_true, decide_eq_true_eq] at h
    split at h
    · next hb =>
      obtain rfl := Option.some.inj h
      exact .decimal hb.1 hb.2
    · split at h
      · next hb =>
        obtain rfl := Option.some.inj h
        exact .capital hb.1 hb.2
      · split at h
        · next hb =>
          obtain rfl := Option.some.inj h
          exact .small hb.1 hb.2
        · cases h
  · intro h
    simp only [hexValue?, isDigit, Bool.and_eq_true, decide_eq_true_eq]
    cases h with
    | decimal low high => rw [if_pos ⟨low, high⟩]
    | capital low high => rw [if_neg (by grind), if_pos ⟨low, high⟩]
    | small low high => rw [if_neg (by grind), if_neg (by grind), if_pos ⟨low, high⟩]

lemma HexDigit.lt {b : UInt8} {v : Nat} (h : HexDigit b v) : v < 16 := by
  cases h with
  | decimal low high | capital low high | small low high =>
    simp only [UInt8.le_iff_toNat_le, UInt8.reduceToNat] at low high
    omega

lemma hexUnit?_eq_some_iff {a b c d : UInt8} {unit : UInt16} :
    hexUnit? a b c d = some unit ↔ ∃ w x y z, HexDigit a w ∧ HexDigit b x ∧ HexDigit c y ∧
      HexDigit d z ∧ unit.toNat = ((w * 16 + x) * 16 + y) * 16 + z := by
  simp only [hexUnit?, Option.bind_eq_bind, Option.bind_eq_some_iff, Option.pure_def,
    hexValue?_eq_some_iff, Option.some.injEq]
  have hunit : ∀ {w x y z : Nat}, HexDigit a w → HexDigit b x → HexDigit c y → HexDigit d z →
      ((((w * 16 + x) * 16 + y) * 16 + z).toUInt16 = unit ↔
        unit.toNat = ((w * 16 + x) * 16 + y) * 16 + z) := by
    intro w x y z ha hb hc hd
    have := ha.lt
    have := hb.lt
    have := hc.lt
    have := hd.lt
    rw [← UInt16.toNat_inj, Nat.toUInt16_eq, UInt16.toNat_ofNat', Nat.mod_eq_of_lt (by omega), eq_comm]
  constructor
  · rintro ⟨w, ha, x, hb, y, hc, z, hd, h⟩
    exact ⟨w, x, y, z, ha, hb, hc, hd, (hunit ha hb hc hd).1 h⟩
  · rintro ⟨w, x, y, z, ha, hb, hc, hd, h⟩
    exact ⟨w, ha, x, hb, y, hc, z, hd, (hunit ha hb hc hd).2 h⟩

lemma readHex_eq_ok_iff {s rest : List UInt8} {unit : UInt16} :
    readHex s = .ok (unit, rest) ↔ HexUnit s unit rest := by
  constructor
  · intro h
    unfold readHex at h
    split at h
    · split at h
      · next hu =>
        obtain ⟨rfl, rfl⟩ := Prod.mk.inj (Except.ok.inj h)
        obtain ⟨w, x, y, z, ha, hb, hc, hd, hu⟩ := hexUnit?_eq_some_iff.1 hu
        exact .four _ ha hb hc hd hu
      · simp [stop] at h
    · simp [stop] at h
  · rintro ⟨_, ha, hb, hc, hd, hu⟩
    rw [readHex, hexUnit?_eq_some_iff.2 ⟨_, _, _, _, ha, hb, hc, hd, hu⟩]

/-- The two tables of escapes agree. -/
theorem letterEscape?_eq_some_iff {b byte : UInt8} :
    letterEscape? b = some byte ↔ ∃ c, (b, c) ∈ escapeLetters ∧ String.utf8EncodeChar c = [byte] := by
  constructor
  · intro h
    simp only [letterEscape?, Bool.or_eq_true, decide_eq_true_eq, or_assoc] at h
    split at h
    · next hb =>
      obtain rfl := Option.some.inj h
      rcases hb with rfl | rfl | rfl
      · exact ⟨'"', by decide, by decide⟩
      · exact ⟨'\\', by decide, by decide⟩
      · exact ⟨'/', by decide, by decide⟩
    · repeat' split at h
      all_goals cases h
      all_goals subst_vars
      · exact ⟨'\x08', by decide, by decide⟩
      · exact ⟨'\x0c', by decide, by decide⟩
      · exact ⟨'\n', by decide, by decide⟩
      · exact ⟨'\r', by decide, by decide⟩
      · exact ⟨'\t', by decide, by decide⟩
  · rintro ⟨c, hc, henc⟩
    simp only [escapeLetters, List.mem_cons, Prod.mk.injEq, List.not_mem_nil, or_false] at hc
    rcases hc with ⟨rfl, rfl⟩ | ⟨rfl, rfl⟩ | ⟨rfl, rfl⟩ | ⟨rfl, rfl⟩ | ⟨rfl, rfl⟩ | ⟨rfl, rfl⟩ |
      ⟨rfl, rfl⟩ | ⟨rfl, rfl⟩
    all_goals
      rw [← List.head_eq_of_cons_eq henc]
      decide

/-- A character of the table of escapes is a single byte. -/
theorem utf8EncodeChar_of_mem {b : UInt8} {c : Char} (h : (b, c) ∈ escapeLetters) :
    ∃ byte, String.utf8EncodeChar c = [byte] := by
  have hall : ∀ p ∈ escapeLetters, String.utf8EncodeChar p.2 = [p.2.toNat.toUInt8] := by decide
  exact ⟨_, hall _ h⟩

lemma letterEscape?_of_mem {b : UInt8} {c : Char} (h : (b, c) ∈ escapeLetters) :
    ∃ byte, letterEscape? b = some byte ∧ String.utf8EncodeChar c = [byte] := by
  obtain ⟨byte, henc⟩ := utf8EncodeChar_of_mem h
  exact ⟨byte, letterEscape?_eq_some_iff.2 ⟨c, h, henc⟩, henc⟩

lemma readPairByte_eq_ok_iff {byte : UInt8} {s rest : List UInt8} :
    readPairByte byte s = .ok rest ↔ s = byte :: rest := by
  cases s with
  | nil => simp [readPairByte, stop]
  | cons b s => by_cases hb : b = byte <;> simp [readPairByte, hb, stop]

/-- An escape of one unit or two is read iff these are the encoding of a character. -/
theorem readCodePoint_eq_ok_iff {s rest : List UInt8} {c : Char} :
    readCodePoint s = .ok (c, rest) ↔
      (∃ unit, HexUnit s unit rest ∧ Utf16.encodeChar c = [unit]) ∨
      ∃ high low s', HexUnit s high (backslash :: 0x75 :: s') ∧ HexUnit s' low rest ∧
        Utf16.encodeChar c = [high, low] := by
  simp only [Utf16.encodeChar_eq_single_iff, Utf16.encodeChar_eq_pair_iff]
  constructor
  · intro h
    unfold readCodePoint at h
    obtain ⟨⟨unit, s₁⟩, h₁, h⟩ := bind_eq_ok_iff.1 h
    have hunit := readHex_eq_ok_iff.1 h₁
    dsimp only at h
    split at h
    · simp [stop] at h
    · next hlow =>
      split at h
      · next hhigh =>
        obtain ⟨s₂, h₂, h⟩ := bind_eq_ok_iff.1 h
        obtain ⟨s₃, h₃, h⟩ := bind_eq_ok_iff.1 h
        obtain ⟨⟨second, s₄⟩, h₄, h⟩ := bind_eq_ok_iff.1 h
        rw [readPairByte_eq_ok_iff.1 h₂, readPairByte_eq_ok_iff.1 h₃] at hunit
        dsimp only at h
        split at h
        · next hsecond =>
          obtain ⟨hc, rfl⟩ := Prod.mk.inj (Except.ok.inj h)
          exact .inr ⟨unit, second, s₃, hunit, readHex_eq_ok_iff.1 h₄, hhigh, hsecond, hc⟩
        · simp [stop] at h
      · next hhigh =>
        obtain ⟨rfl, rfl⟩ := Prod.mk.inj (Except.ok.inj h)
        exact .inl ⟨unit, hunit, by simp [Utf16.single, hlow, hhigh]⟩
  · rintro (⟨unit, hunit, hc⟩ | ⟨high, low, s', hhigh, hlow, hh, hl, rfl⟩)
    · unfold Utf16.single at hc
      split at hc
      · cases hc
      · next hn =>
        obtain ⟨hnh, hnl⟩ : Utf16.isHigh unit = false ∧ Utf16.isLow unit = false := by
          simpa using hn
        obtain rfl := Option.some.inj hc
        refine bind_eq_ok_iff.2 ⟨(unit, rest), readHex_eq_ok_iff.2 hunit, ?_⟩
        simp [hnh, hnl, pure, Except.pure]
    · refine bind_eq_ok_iff.2 ⟨(high, _), readHex_eq_ok_iff.2 hhigh, ?_⟩
      dsimp only
      rw [Utf16.isLow_eq_false_of_isHigh hh, if_neg (by simp), if_pos hh]
      refine bind_eq_ok_iff.2 ⟨_, readPairByte_eq_ok_iff.2 rfl, ?_⟩
      refine bind_eq_ok_iff.2 ⟨_, readPairByte_eq_ok_iff.2 rfl, ?_⟩
      refine bind_eq_ok_iff.2 ⟨(low, rest), readHex_eq_ok_iff.2 hlow, ?_⟩
      simp [hl, pure, Except.pure]

/-- An escape is read iff it stands for a character, and gives the encoding of that. -/
theorem readEscape_eq_ok_iff {s bytes rest : List UInt8} :
    readEscape s = .ok (bytes, rest) ↔ ∃ c, bytes = String.utf8EncodeChar c ∧ Escape s c rest := by
  constructor
  · intro h
    unfold readEscape at h
    split at h
    · simp [stop] at h
    · next b s =>
      split at h
      · next byte hb =>
        obtain ⟨rfl, rfl⟩ := Prod.mk.inj (Except.ok.inj h)
        obtain ⟨c, hc, henc⟩ := letterEscape?_eq_some_iff.1 hb
        exact ⟨c, henc.symm, .letter _ hc⟩
      · split at h
        · next hu =>
          obtain ⟨⟨c, s₁⟩, h₁, h⟩ := bind_eq_ok_iff.1 h
          obtain ⟨rfl, rfl⟩ := Prod.mk.inj (Except.ok.inj h)
          subst hu
          rcases readCodePoint_eq_ok_iff.1 h₁ with ⟨unit, hs, hc⟩ | ⟨high, low, s', hs, hs', hc⟩
          · exact ⟨c, rfl, .unit hs hc⟩
          · exact ⟨c, rfl, .pair hs hs' hc⟩
        · simp [stop] at h
  · have hu : ∀ {s : List UInt8} {c : Char}, readCodePoint s = .ok (c, rest) →
        readEscape (0x75 :: s) = .ok (String.utf8EncodeChar c, rest) := fun h => by
      rw [readEscape, show letterEscape? 0x75 = none from rfl]
      exact bind_eq_ok_iff.2 ⟨_, h, rfl⟩
    rintro ⟨c, rfl, hc⟩
    cases hc with
    | letter rest h =>
      obtain ⟨byte, hb, henc⟩ := letterEscape?_of_mem h
      rw [readEscape, hb, henc]
    | unit hs hc => exact hu (readCodePoint_eq_ok_iff.2 (.inl ⟨_, hs, hc⟩))
    | pair hs hs' hc => exact hu (readCodePoint_eq_ok_iff.2 (.inr ⟨_, _, _, hs, hs', hc⟩))

/-! ### Kept strings -/

/-- The characters that may stand in a string as they are, by the bytes of their encodings. -/
theorem plain_utf8EncodeChar_iff (c : Char) :
    (∀ b ∈ String.utf8EncodeChar c, Plain b) ↔ ' ' ≤ c ∧ c ≠ '"' ∧ c ≠ '\\' := by
  have hle : ' ' ≤ c ↔ 0x20 ≤ c.toNat := by rw [Char.le_def, UInt32.le_iff_toNat_le]; rfl
  have hquote : c = '"' ↔ c.toNat = 0x22 := Char.toNat_inj.symm
  have hbackslash : c = '\\' ↔ c.toNat = 0x5C := Char.toNat_inj.symm
  rw [hle, Ne, Ne, hquote, hbackslash]
  simp only [Plain, quoteMark, backslash, UInt8.le_iff_toNat_le, ne_eq, ← UInt8.toNat_inj,
    UInt8.reduceToNat]
  rcases Utf8.utf8EncodeChar_cases c with ⟨hlt, henc⟩ | ⟨hle, b, tail, henc, hb, htail⟩
  · rw [henc, List.forall_mem_singleton, Nat.toUInt8_eq, UInt8.toNat_ofNat',
      Nat.mod_eq_of_lt (by omega)]
  · simp only [UInt8.lt_iff_toNat_lt, UInt8.le_iff_toNat_le, UInt8.reduceToNat] at hb htail
    rw [henc, List.forall_mem_cons]
    refine iff_of_true ⟨by omega, fun x hx => ?_⟩ (by omega)
    have := htail x hx
    omega

/-- A character of which the first byte is plain has plain bytes only. -/
theorem plain_of_head {b : UInt8} (hb : Plain b) {c : Char} {tail rest : List UInt8}
    (h : String.utf8EncodeChar c ++ tail = b :: rest) : ∀ x ∈ String.utf8EncodeChar c, Plain x := by
  obtain ⟨d, more, henc, -, hmore⟩ := Utf8.exists_utf8EncodeChar_eq_cons c
  rw [henc] at h ⊢
  obtain rfl : d = b := List.head_eq_of_cons_eq h
  refine List.forall_mem_cons.2 ⟨hb, fun x hx => ?_⟩
  have hx := (hmore x hx).1
  grind [Plain]

lemma readText_plain {b : UInt8} (hb : Plain b) (s : List UInt8) :
    readText (b :: s) = (readText s).map fun (text, rest) => (b :: text, rest) := by
  obtain ⟨hlow, hquote, hbackslash⟩ := hb
  rw [readText, if_neg hquote, if_neg (UInt8.not_lt.2 hlow), if_neg hbackslash]

lemma readText_escape {s bytes s' : List UInt8} (h : readEscape s = .ok (bytes, s')) :
    readText (backslash :: s) = (readText s').map fun (text, rest) => (bytes ++ text, rest) := by
  rw [readText, if_neg (by decide), if_neg (by decide), if_pos rfl]
  split
  · next he => cases h.symm.trans he
  · next he =>
    obtain ⟨rfl, rfl⟩ := Prod.mk.inj (Except.ok.inj (h.symm.trans he))
    rfl

lemma readText_append {bytes : List UInt8} (h : ∀ b ∈ bytes, Plain b) (s : List UInt8) :
    readText (bytes ++ s) = (readText s).map fun (text, rest) => (bytes ++ text, rest) := by
  induction bytes with
  | nil => cases hs : readText s <;> simp [hs, Except.map]
  | cons b bytes ih =>
    obtain ⟨hb, hbytes⟩ := List.forall_mem_cons.1 h
    rw [List.cons_append, readText_plain hb, ih hbytes]
    cases readText s <;> simp [Except.map]

/-- The three ways in which a string can begin. -/
theorem readText_cases {s text rest : List UInt8} (h : readText s = .ok (text, rest)) :
    (s = quoteMark :: rest ∧ text = []) ∨
    (∃ s' bytes s'' tail, s = backslash :: s' ∧ readEscape s' = .ok (bytes, s'') ∧
      readText s'' = .ok (tail, rest) ∧ text = bytes ++ tail) ∨
    ∃ b s' tail, s = b :: s' ∧ Plain b ∧ readText s' = .ok (tail, rest) ∧ text = b :: tail := by
  cases s with
  | nil => simp [readText, stop] at h
  | cons b s =>
    rw [readText] at h
    split at h
    · next hb =>
      cases h
      exact .inl ⟨by rw [hb], rfl⟩
    · next hquote =>
      split at h
      · simp [stop] at h
      · next hlow =>
        split at h
        · next hb =>
          split at h
          · cases h
          · next bytes s' he =>
            obtain ⟨⟨tail, s''⟩, ht, h⟩ := map_eq_ok_iff.1 h
            obtain ⟨rfl, rfl⟩ := Prod.mk.inj h
            exact .inr (.inl ⟨s, bytes, s', tail, by rw [hb], he, ht, rfl⟩)
        · next hbackslash =>
          obtain ⟨⟨tail, s'⟩, ht, h⟩ := map_eq_ok_iff.1 h
          obtain ⟨rfl, rfl⟩ := Prod.mk.inj h
          exact .inr (.inr ⟨b, s, tail, rfl, ⟨UInt8.not_lt.1 hlow, hquote, hbackslash⟩, ht, rfl⟩)

/-- Bytes that only continue an encoding stood in the document as they are. -/
theorem eq_append_of_readText {bytes : List UInt8} (hbytes : ∀ b ∈ bytes, 0x80 ≤ b ∧ b ≤ 0xBF)
    {s tail rest : List UInt8} (h : readText s = .ok (bytes ++ tail, rest)) :
    ∃ s', s = bytes ++ s' ∧ readText s' = .ok (tail, rest) := by
  induction bytes generalizing s with
  | nil => exact ⟨s, rfl, h⟩
  | cons b bytes ih =>
    obtain ⟨⟨hlow, hhigh⟩, hbytes⟩ := List.forall_mem_cons.1 hbytes
    rcases readText_cases h with ⟨-, htext⟩ | ⟨s', escaped, s'', tail', -, he, -, htext⟩ |
      ⟨d, s', tail', rfl, -, ht, htext⟩
    · cases htext
    · -- the first byte of a whole encoding cannot be such a byte
      obtain ⟨c, rfl, -⟩ := readEscape_eq_ok_iff.1 he
      obtain ⟨d, more, henc, hd, -⟩ := Utf8.exists_utf8EncodeChar_eq_cons c
      rw [henc] at htext
      obtain rfl : b = d := List.head_eq_of_cons_eq htext
      rcases hd with hd | hd
      · exact absurd hlow (UInt8.not_le.2 hd)
      · exact absurd hhigh (UInt8.not_le.2 hd)
    · obtain ⟨rfl, rfl⟩ := List.cons_eq_cons.1 htext
      obtain ⟨s'', rfl, hs⟩ := ih hbytes ht
      exact ⟨s'', rfl, hs⟩

/-- A string is read iff it spells something, and gives the encoding of that. -/
theorem readText_eq_ok_iff {s rest : List UInt8} {cs : List Char} :
    readText s = .ok (Utf8.encode cs, rest) ↔ Spells s cs rest := by
  constructor
  · intro h
    induction cs generalizing s with
    | nil =>
      rcases readText_cases h with ⟨rfl, -⟩ | ⟨s', bytes, s'', tail, -, he, -, htext⟩ |
        ⟨b, s', tail, -, -, -, htext⟩
      · exact .close rest
      · obtain ⟨c, rfl, -⟩ := readEscape_eq_ok_iff.1 he
        obtain ⟨b, more, henc, -⟩ := Utf8.exists_utf8EncodeChar_eq_cons c
        rw [henc] at htext
        cases htext
      · cases htext
    | cons c cs ih =>
      obtain ⟨d, more, henc, -, hmore⟩ := Utf8.exists_utf8EncodeChar_eq_cons c
      rw [Utf8.encode_cons] at h
      rcases readText_cases h with ⟨-, htext⟩ | ⟨s', bytes, s'', tail, rfl, he, ht, htext⟩ |
        ⟨b, s', tail, rfl, hb, ht, htext⟩
      · rw [henc] at htext
        cases htext
      · obtain ⟨c', rfl, hc'⟩ := readEscape_eq_ok_iff.1 he
        obtain ⟨rfl, rfl⟩ := Utf8.utf8EncodeChar_append_inj htext
        exact .escape hc' (ih ht)
      · rw [henc] at htext
        obtain ⟨rfl, rfl⟩ := List.cons_eq_cons.1 htext
        obtain ⟨s'', rfl, hs⟩ := eq_append_of_readText hmore ht
        have hplain := plain_of_head hb (c := c) (congrArg (· ++ s'') henc)
        obtain ⟨hc, hq, hbs⟩ := (plain_utf8EncodeChar_iff c).1 hplain
        have := Spells.plain hc hq hbs (ih hs)
        rwa [henc] at this
  · intro h
    induction h with
    | close rest => rw [readText, if_pos rfl]; rfl
    | plain hc hq hb hs ih =>
      rw [readText_append ((plain_utf8EncodeChar_iff _).2 ⟨hc, hq, hb⟩), ih, Utf8.encode_cons]
      rfl
    | escape hc hs ih =>
      rw [readText_escape (readEscape_eq_ok_iff.2 ⟨_, rfl, hc⟩), ih, Utf8.encode_cons]
      rfl

/-! ### Skipped strings -/

lemma skipEscape_eq_ok_iff {s rest : List UInt8} :
    skipEscape s = .ok rest ↔ (∃ b c, s = b :: rest ∧ (b, c) ∈ escapeLetters) ∨
      ∃ s' unit, s = 0x75 :: s' ∧ HexUnit s' unit rest := by
  constructor
  · intro h
    unfold skipEscape at h
    split at h
    · simp [stop] at h
    · next b s =>
      split at h
      · next byte hb =>
        cases h
        obtain ⟨c, hc, -⟩ := letterEscape?_eq_some_iff.1 hb
        exact .inl ⟨b, c, rfl, hc⟩
      · split at h
        · next hu =>
          obtain ⟨⟨unit, s₁⟩, h₁, h⟩ := bind_eq_ok_iff.1 h
          cases h
          exact .inr ⟨s, unit, by rw [hu], readHex_eq_ok_iff.1 h₁⟩
        · simp [stop] at h
  · rintro (⟨b, c, rfl, hc⟩ | ⟨s', unit, rfl, hu⟩)
    · obtain ⟨byte, hb, -⟩ := letterEscape?_of_mem hc
      rw [skipEscape, hb]
    · rw [skipEscape, show letterEscape? 0x75 = none from rfl]
      exact bind_eq_ok_iff.2 ⟨_, readHex_eq_ok_iff.2 hu, rfl⟩

lemma skipText_escape {s s' : List UInt8} (h : skipEscape s = .ok s') :
    skipText (backslash :: s) = skipText s' := by
  rw [skipText, if_neg (by decide), if_pos rfl]
  split
  · next he => cases h.symm.trans he
  · next he =>
    obtain rfl := Except.ok.inj (h.symm.trans he)
    rfl

/-- A string is skipped iff it has the shape of one. -/
theorem skipText_eq_ok_iff {s rest : List UInt8} : skipText s = .ok rest ↔ Passes s rest := by
  constructor
  · intro h
    fun_induction skipText s with
    | case1 => simp [stop] at h
    | case2 s =>
      cases h
      exact .close rest
    | case3 => cases h
    | case4 s s' he hlt _ ih =>
      rcases skipEscape_eq_ok_iff.1 he with ⟨b, c, rfl, hc⟩ | ⟨s₁, unit, rfl, hu⟩
      · exact .letter hc (ih h)
      · exact .unit hu (ih h)
    | case5 => simp [stop] at h
    | case6 b s hquote hbackslash hlow ih =>
      exact .plain ⟨UInt8.not_lt.1 hlow, hquote, hbackslash⟩ (ih h)
  · intro h
    induction h with
    | close rest => rw [skipText, if_pos rfl]
    | plain hb h ih =>
      rw [skipText, if_neg hb.2.1, if_neg hb.2.2, if_neg (UInt8.not_lt.2 hb.1), ih]
    | letter hb h ih => rw [skipText_escape (skipEscape_eq_ok_iff.2 (.inl ⟨_, _, rfl, hb⟩)), ih]
    | unit hu h ih => rw [skipText_escape (skipEscape_eq_ok_iff.2 (.inr ⟨_, _, rfl, hu⟩)), ih]

lemma Passes.append {bytes s rest : List UInt8} (hbytes : ∀ b ∈ bytes, Plain b)
    (h : Passes s rest) : Passes (bytes ++ s) rest := by
  induction bytes with
  | nil => exact h
  | cons b bytes ih =>
    obtain ⟨hb, hbytes⟩ := List.forall_mem_cons.1 hbytes
    exact .plain hb (ih hbytes)

/-- A string that spells something has the shape of a string. -/
theorem Spells.passes {s rest : List UInt8} {cs : List Char} (h : Spells s cs rest) :
    Passes s rest := by
  induction h with
  | close rest => exact .close rest
  | plain hc hq hb hs ih => exact .append ((plain_utf8EncodeChar_iff _).2 ⟨hc, hq, hb⟩) ih
  | escape hc hs ih =>
    cases hc with
    | letter _ h => exact .letter h ih
    | unit hu _ => exact .unit hu ih
    | pair hhigh hlow _ => exact .unit hhigh (.unit hlow ih)

end Interop.Json
