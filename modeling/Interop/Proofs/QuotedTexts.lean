import Interop.Text.Quoted
import Mathlib.Tactic.Common

/-!
# Quoted texts are read back

The written forms of characters can be told apart from the front: what stands behind a backslash
says which form it is, and a code point ends at its closing brace. So the first character of a text
and the rest of what is written can be read off its quoted form, and different texts have different
quoted forms.
-/

namespace Interop.Text

/-! ### Hexadecimal digits -/

def hexDigitValue (c : Char) : Nat := if c.toNat ≤ 0x39 then c.toNat - 0x30 else c.toNat - 0x57

/-- The number that hexadecimal digits amount to, the first of them being the most significant. -/
def hexNumber (digits : List Char) : Nat := digits.foldl (fun n c => n * 16 + hexDigitValue c) 0

lemma hexNumber_append_singleton (digits : List Char) (c : Char) :
    hexNumber (digits ++ [c]) = hexNumber digits * 16 + hexDigitValue c := by
  simp [hexNumber]

lemma hexDigitValue_digitChar : ∀ d < 16, hexDigitValue d.digitChar = d := by decide

lemma digitChar_ne_brace : ∀ d < 16, d.digitChar ≠ '\x7d' := by decide

lemma hexDigits_of_lt {n : Nat} (h : n < 16) : hexDigits n = [n.digitChar] :=
  Nat.toDigits_of_lt_base h

lemma hexDigits_of_le {n : Nat} (h : 16 ≤ n) :
    hexDigits n = hexDigits (n / 16) ++ [(n % 16).digitChar] :=
  Nat.toDigits_of_base_le (by decide) h

/-- The digits of a number amount to it. -/
theorem hexNumber_hexDigits (n : Nat) : hexNumber (hexDigits n) = n := by
  induction n using Nat.strongRecOn with
  | ind n ih =>
    rcases Nat.lt_or_ge n 16 with h | h
    · rw [hexDigits_of_lt h, ← List.nil_append [_], hexNumber_append_singleton,
        hexDigitValue_digitChar n h]
      exact Nat.zero_add n
    · have hlast : n % 16 < 16 := Nat.mod_lt n (by decide)
      rw [hexDigits_of_le h, hexNumber_append_singleton, ih (n / 16) (by omega),
        hexDigitValue_digitChar _ hlast]
      omega

lemma exists_of_mem_hexDigits {n : Nat} {c : Char} (h : c ∈ hexDigits n) :
    ∃ d < 16, c = d.digitChar := by
  induction n using Nat.strongRecOn with
  | ind n ih =>
    rcases Nat.lt_or_ge n 16 with hn | hn
    · rw [hexDigits_of_lt hn, List.mem_singleton] at h
      exact ⟨n, hn, h⟩
    · rw [hexDigits_of_le hn, List.mem_append, List.mem_singleton] at h
      rcases h with h | h
      · exact ih (n / 16) (by omega) h
      · exact ⟨n % 16, Nat.mod_lt n (by decide), h⟩

lemma brace_notMem_hexDigits (n : Nat) : '\x7d' ∉ hexDigits n := by
  intro h
  obtain ⟨d, hd, hbrace⟩ := exists_of_mem_hexDigits h
  exact digitChar_ne_brace d hd hbrace.symm

/-! ### Reading the front -/

/-- The character whose written form stands at the front, with what stands behind it. -/
def readWritten : List Char → Option (Char × List Char)
  | [] => none
  | '\\' :: '0' :: rest => some ('\x00', rest)
  | '\\' :: 't' :: rest => some ('\t', rest)
  | '\\' :: 'r' :: rest => some ('\r', rest)
  | '\\' :: 'n' :: rest => some ('\n', rest)
  | '\\' :: '"' :: rest => some ('"', rest)
  | '\\' :: '\\' :: rest => some ('\\', rest)
  | '\\' :: 'u' :: '\x7b' :: rest =>
    some (Char.ofNat (hexNumber (rest.takeWhile (· ≠ '\x7d'))),
      (rest.dropWhile (· ≠ '\x7d')).drop 1)
  | c :: rest => some (c, rest)

lemma readWritten_cons_of_ne {c : Char} (h : c ≠ '\\') (rest : List Char) :
    readWritten (c :: rest) = some (c, rest) := by
  unfold readWritten
  split <;> simp_all

lemma readWritten_codePoint {digits : List Char} (h : '\x7d' ∉ digits) (rest : List Char) :
    readWritten ('\\' :: 'u' :: '\x7b' :: (digits ++ '\x7d' :: rest)) =
      some (Char.ofNat (hexNumber digits), rest) := by
  have hdigits : ∀ c ∈ digits, (decide (c ≠ '\x7d')) = true := by
    intro c hc
    exact decide_eq_true fun heq => h (heq ▸ hc)
  change some (Char.ofNat (hexNumber ((digits ++ '\x7d' :: rest).takeWhile _)), _) = _
  rw [List.takeWhile_append_of_pos hdigits, List.dropWhile_append_of_pos hdigits]
  simp

/-- A character is read back from its written form, whatever stands behind. -/
theorem readWritten_escape_append (c : Char) (rest : List Char) :
    readWritten (escape c ++ rest) = some (c, rest) := by
  unfold escape
  split_ifs with h0 ht hr hn hquote hslash hvisible
  · rw [h0]; rfl
  · rw [ht]; rfl
  · rw [hr]; rfl
  · rw [hn]; rfl
  · rw [hquote]; rfl
  · rw [hslash]; rfl
  · exact readWritten_cons_of_ne hslash rest
  · have hread := readWritten_codePoint (brace_notMem_hexDigits c.toNat) rest
    rw [hexNumber_hexDigits, Char.ofNat_toNat] at hread
    simpa using hread

lemma escape_append_inj {c d : Char} {p q : List Char} (h : escape c ++ p = escape d ++ q) :
    c = d ∧ p = q := by
  have hread := congrArg readWritten h
  rw [readWritten_escape_append, readWritten_escape_append] at hread
  simpa using hread

lemma escape_ne_nil (c : Char) : escape c ≠ [] := by
  intro h
  have hread := readWritten_escape_append c []
  rw [h] at hread
  cases hread

/-! ### Whole texts -/

lemma flatMap_escape_injective : Function.Injective (List.flatMap escape) := by
  intro s t h
  induction s generalizing t with
  | nil =>
    cases t with
    | nil => rfl
    | cons d t => exact absurd (List.append_eq_nil_iff.1 h.symm).1 (escape_ne_nil d)
  | cons c s ih =>
    cases t with
    | nil => exact absurd (List.append_eq_nil_iff.1 h).1 (escape_ne_nil c)
    | cons d t =>
      obtain ⟨rfl, hrest⟩ := escape_append_inj h
      rw [ih hrest]

/-- Different texts have different quoted forms. -/
theorem quotedChars_injective : Function.Injective quotedChars := fun _ _ h =>
  flatMap_escape_injective (List.append_cancel_right (List.tail_eq_of_cons_eq h))

end Interop.Text
