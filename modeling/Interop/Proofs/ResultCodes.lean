import Interop.Failure
import Interop.Proofs.QuotedTexts

/-!
# Result codes in failures

An error value holds a word in the place of its result code. Zero and the sentinel are held by the
same word, and every other code is held by itself, so a failure that is made of an error has the
code of the error, with zero in the place of the sentinel. The code of a system error number is zero
or has its top bit set, so it is never the sentinel. The text of a failure ends in its code, in
eight digits whatever the code, and so the text tells the code and the function that failed.
-/

namespace Interop

namespace Os.HResult

/-! ### The passage through an error value -/

lemma code_throughError (h : HResult) :
    h.throughError.code = if h.code = sentinel then 0 else h.code := by
  unfold throughError ofStored stored
  by_cases hzero : h.code = 0
  · rw [if_pos hzero, if_pos rfl, hzero]
    rfl
  · rw [if_neg hzero]

/-- Of all codes only zero and the sentinel come out alike. -/
theorem code_throughError_eq_iff (h g : HResult) :
    h.throughError.code = g.throughError.code ↔
      h.code = g.code ∨ h.code = 0 ∧ g.code = sentinel ∨ h.code = sentinel ∧ g.code = 0 := by
  have hsentinel : sentinel ≠ 0 := by decide
  rw [code_throughError, code_throughError]
  by_cases hh : h.code = sentinel <;> by_cases hg : g.code = sentinel
  · simp [hh, hg]
  · rw [if_pos hh, if_neg hg, hh]
    simp [Ne.symm hg, hsentinel, eq_comm]
  · rw [if_neg hh, if_pos hg, hg]
    simp [hh]
  · rw [if_neg hh, if_neg hg]
    simp [hh, hg]

/-! ### System error numbers -/

variable {x : UInt32}

/-- The numbers that are codes already: zero, and those with the top bit set. -/
lemma toInt32_le_zero_iff : x.toInt32 ≤ 0 ↔ x = 0 ∨ x.toBitVec.msb = true := by
  have hsigned : x.toInt32 ≤ 0 ↔ x.toBitVec.toInt ≤ 0 := Int32.le_iff_toInt_le
  have hlt := x.toNat_lt
  rw [hsigned, BitVec.msb_eq_decide, BitVec.toInt_eq_toNat_cond, UInt32.toNat_toBitVec,
    decide_eq_true_iff, ← UInt32.toNat_inj, UInt32.toNat_zero]
  split <;> omega

lemma ofWin32_of_le (h : x.toInt32 ≤ 0) : ofWin32 x = ⟨x⟩ :=
  congrArg HResult.mk (if_pos h)

lemma code_ofWin32_of_not_le (h : ¬x.toInt32 ≤ 0) :
    (ofWin32 x).code = 0x80070000 ||| (x &&& 0xFFFF) :=
  if_neg h

/-- The low half of the number is kept. -/
lemma toUInt16_code_ofWin32 (x : UInt32) : (ofWin32 x).code.toUInt16 = x.toUInt16 := by
  by_cases h : x.toInt32 ≤ 0
  · rw [ofWin32_of_le h]
  · rw [code_ofWin32_of_not_le h, UInt32.toUInt16_or, UInt32.toUInt16_and]
    exact UInt16.zero_or.trans UInt16.and_neg_one

/-- A number other than zero becomes a failure code. -/
lemma msb_code_ofWin32_iff (x : UInt32) : (ofWin32 x).code.toBitVec.msb = true ↔ x ≠ 0 := by
  by_cases h : x.toInt32 ≤ 0
  · rw [ofWin32_of_le h]
    rcases toInt32_le_zero_iff.1 h with rfl | hmsb
    · decide
    · refine iff_of_true hmsb ?_
      rintro rfl
      cases hmsb
  · have hne : x ≠ 0 := fun hzero => h (toInt32_le_zero_iff.2 (.inl hzero))
    rw [code_ofWin32_of_not_le h, UInt32.toBitVec_or, BitVec.msb_or]
    exact iff_of_true rfl hne

lemma eq_zero_of_msb_code_ofWin32 (h : (ofWin32 x).code.toBitVec.msb = false) : x = 0 := by
  by_contra hne
  have hmsb := (msb_code_ofWin32_iff x).2 hne
  rw [h] at hmsb
  cases hmsb

lemma code_ofWin32_eq_zero_iff (x : UInt32) : (ofWin32 x).code = 0 ↔ x = 0 := by
  constructor
  · intro h
    apply eq_zero_of_msb_code_ofWin32
    rw [h]
    rfl
  · rintro rfl
    rfl

/-- The code of a number is its own code. -/
lemma ofWin32_code_ofWin32 (x : UInt32) : ofWin32 (ofWin32 x).code = ofWin32 x := by
  apply ofWin32_of_le
  rw [toInt32_le_zero_iff, code_ofWin32_eq_zero_iff, msb_code_ofWin32_iff]
  exact em (x = 0)

/-- The sentinel is positive, so it is no number's code. -/
lemma code_ofWin32_ne_sentinel (x : UInt32) : (ofWin32 x).code ≠ sentinel := by
  intro h
  have hzero : x = 0 := by
    apply eq_zero_of_msb_code_ofWin32
    rw [h]
    rfl
  rw [(code_ofWin32_eq_zero_iff x).2 hzero] at h
  cases h

lemma code_throughError_ofWin32 (x : UInt32) : (ofWin32 x).throughError.code = (ofWin32 x).code := by
  rw [code_throughError, if_neg (code_ofWin32_ne_sentinel x)]

end Os.HResult

/-! ### Words in hexadecimal -/

namespace Text

lemma hexNumber_cons_zero (digits : List Char) : hexNumber ('0' :: digits) = hexNumber digits := rfl

lemma hexNumber_replicate_append (k : Nat) (digits : List Char) :
    hexNumber (List.replicate k '0' ++ digits) = hexNumber digits := by
  induction k with
  | zero => rfl
  | succ k ih => rw [List.replicate_succ, List.cons_append, hexNumber_cons_zero, ih]

lemma digitChar_mem : ∀ d < 16, d.digitChar ∈ "0123456789abcdef".toList := by decide

end Text

namespace Failure

lemma length_hexDigits_le (code : UInt32) : (Text.hexDigits code.toNat).length ≤ 8 :=
  (Nat.length_toDigits_le_iff (by decide) (by decide)).2 code.toNat_lt

@[simp] lemma length_hexWord (code : UInt32) : (hexWord code).length = 8 := by
  have hle := length_hexDigits_le code
  rw [hexWord, List.length_append, List.length_replicate]
  omega

lemma hexWord_subset (code : UInt32) : hexWord code ⊆ "0123456789abcdef".toList := by
  intro c hc
  rcases List.mem_append.1 hc with hzero | hdigit
  · rw [List.eq_of_mem_replicate hzero]
    exact Text.digitChar_mem 0 (by decide)
  · obtain ⟨d, hd, rfl⟩ := Text.exists_of_mem_hexDigits hdigit
    exact Text.digitChar_mem d hd

@[simp] lemma hexNumber_hexWord (code : UInt32) : Text.hexNumber (hexWord code) = code.toNat := by
  rw [hexWord, Text.hexNumber_replicate_append, Text.hexNumber_hexDigits]

lemma hexWord_injective : Function.Injective hexWord := by
  intro c d h
  apply UInt32.toNat_inj.1
  calc
    c.toNat = Text.hexNumber (hexWord c) := (hexNumber_hexWord c).symm
    _ = Text.hexNumber (hexWord d) := by rw [h]
    _ = d.toNat := hexNumber_hexWord d

/-! ### Texts -/

lemma message_win32 (function : String) (code : UInt32) :
    (win32 function code).message =
      function ++ " failed (error 0x" ++ String.ofList (hexWord code) ++ ")" :=
  rfl

/-- The text of a Windows failure tells the function and the code. -/
theorem message_win32_inj {f g : String} {c d : UInt32} :
    (win32 f c).message = (win32 g d).message ↔ f = g ∧ c = d := by
  constructor
  · intro h
    have hchars := congrArg String.toList h
    simp only [message_win32, String.toList_append, String.toList_ofList, List.append_assoc] at hchars
    -- what stands behind the function takes the same room in all texts
    have hlength : (" failed (error 0x".toList ++ (hexWord c ++ ")".toList)).length =
        (" failed (error 0x".toList ++ (hexWord d ++ ")".toList)).length := by
      simp only [List.length_append, length_hexWord]
    obtain ⟨hfunction, hbehind⟩ := List.append_inj' hchars hlength
    have hword := List.append_cancel_right (List.append_cancel_left hbehind)
    exact ⟨String.toList_injective hfunction, hexWord_injective hword⟩
  · rintro ⟨rfl, rfl⟩
    rfl

end Failure

open Os (HResult)

/-- A failure that is made of an error has the code of the error, but for the sentinel, which is
read back as zero; so zero and the sentinel are the only two codes that are taken for each other.
The code of a system error number has the low half of the number, is zero iff the number is, has its
top bit set if it is not, and is a code already. The text of a Windows failure ends in its code, in
eight digits, so two texts are alike iff the functions and the codes are. -/
theorem result_codes_survive (c d x : UInt32) (f g : String) :
    Failure.ofHResult ⟨c⟩ = .win32 "windows" (if c = 0x535F4F4B then 0 else c) ∧
      (Failure.ofHResult ⟨c⟩ = Failure.ofHResult ⟨d⟩ ↔
        c = d ∨ c = 0 ∧ d = 0x535F4F4B ∨ c = 0x535F4F4B ∧ d = 0) ∧
      (∃ code, Failure.ofHResult (HResult.ofWin32 x) = .win32 "windows" code ∧
        code.toUInt16 = x.toUInt16 ∧ (code = 0 ↔ x = 0) ∧ (code.toBitVec.msb = true ↔ x ≠ 0) ∧
        HResult.ofWin32 code = ⟨code⟩) ∧
      (∃ digits, (Failure.win32 f c).message =
          f ++ " failed (error 0x" ++ String.ofList digits ++ ")" ∧
        digits.length = 8 ∧ digits ⊆ "0123456789abcdef".toList ∧ Text.hexNumber digits = c.toNat) ∧
      ((Failure.win32 f c).message = (Failure.win32 g d).message ↔ f = g ∧ c = d) := by
  refine ⟨?_, ?_, ?_, ?_, Failure.message_win32_inj⟩
  · rw [Failure.ofHResult, HResult.code_throughError]
    rfl
  · rw [Failure.ofHResult, Failure.ofHResult, Failure.win32.injEq, HResult.code_throughError_eq_iff]
    exact and_iff_right rfl
  · refine ⟨(HResult.ofWin32 x).code, ?_, HResult.toUInt16_code_ofWin32 x,
      HResult.code_ofWin32_eq_zero_iff x, HResult.msb_code_ofWin32_iff x,
      HResult.ofWin32_code_ofWin32 x⟩
    rw [Failure.ofHResult, HResult.code_throughError_ofWin32]
  · exact ⟨Failure.hexWord c, Failure.message_win32 f c, Failure.length_hexWord c,
      Failure.hexWord_subset c, Failure.hexNumber_hexWord c⟩

end Interop
