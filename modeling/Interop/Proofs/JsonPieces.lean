import Interop.Proofs.JsonValues
import Interop.Proofs.Utf8Replacement

/-!
# Pieces of documents side by side

Most pieces of a document are made of ASCII bytes, and a skipped string takes any byte that is not
ASCII. So if two byte sequences have the same ASCII bytes in the same places, then whatever is
skipped in one can be skipped in the other, and what lies behind is related in the same way. A
string that is kept spells the same on both sides only where its bytes are a text.
-/

namespace Interop.Json

open Utf8 (KeepsAscii WellFormedText)

/-! ### Pieces of ASCII bytes -/

/-- A kind of piece that has ASCII bytes only, and does not depend on what lies behind it. -/
def Ascii (R : List UInt8 → List UInt8 → Prop) : Prop :=
  ∀ s rest, R s rest → ∃ piece, (∀ b ∈ piece, b < 0x80) ∧ s = piece ++ rest ∧
    ∀ rest', R (piece ++ rest') rest'

lemma Ascii.comp {R S : List UInt8 → List UInt8 → Prop} (hR : Ascii R) (hS : Ascii S) :
    Ascii fun s rest => ∃ m, R s m ∧ S m rest := by
  rintro s rest ⟨m, hr, hs⟩
  obtain ⟨piece, hpiece, rfl, hmore⟩ := hR s m hr
  obtain ⟨piece', hpiece', rfl, hmore'⟩ := hS m rest hs
  refine ⟨piece ++ piece', List.forall_mem_append.2 ⟨hpiece, hpiece'⟩,
    (List.append_assoc _ _ _).symm, fun rest' => ?_⟩
  rw [List.append_assoc]
  exact ⟨_, hmore _, hmore' rest'⟩

lemma lt_0x80_of_all {bytes : List UInt8} (h : bytes.all (· < 0x80) = true) :
    ∀ b ∈ bytes, b < 0x80 :=
  fun b hb => of_decide_eq_true (List.all_eq_true.1 h b hb)

lemma lt_0x80_of_isDigit {b : UInt8} (h : isDigit b = true) : b < 0x80 := by
  simp only [isDigit, Bool.and_eq_true, decide_eq_true_eq] at h
  grind

lemma HexDigit.lt_0x80 {b : UInt8} {v : Nat} (h : HexDigit b v) : b < 0x80 := by
  cases h <;> grind

lemma close_lt_0x80 (frame : Frame) : frame.close < 0x80 := by
  cases frame <;> decide

lemma opening_lt_0x80 (frame : Frame) : frame.opening < 0x80 := by
  cases frame <;> decide

lemma ascii_blanks : Ascii Blanks := by
  intro s rest h
  induction h with
  | none rest => exact ⟨[], by simp, rfl, .none⟩
  | more hb _ ih =>
    obtain ⟨piece, hpiece, rfl, hmore⟩ := ih
    exact ⟨_ :: piece, List.forall_mem_cons.2 ⟨lt_0x80_of_all (by decide) _ hb, hpiece⟩, rfl,
      fun rest' => .more hb (hmore rest')⟩

lemma ascii_word {word : String} (h : ∀ b ∈ Utf8.ofString word, b < 0x80) : Ascii (Word word) :=
  fun _ _ hs => ⟨Utf8.ofString word, h, hs, fun _ => rfl⟩

lemma word_lt_0x80 {word : String} (h : word ∈ ["null", "true", "false"]) :
    ∀ b ∈ Utf8.ofString word, b < 0x80 := by
  simp only [List.mem_cons, List.not_mem_nil, or_false] at h
  rcases h with rfl | rfl | rfl <;> exact lt_0x80_of_all (by decide)

lemma ascii_hexUnit (unit : UInt16) : Ascii fun s rest => HexUnit s unit rest := by
  rintro s rest ⟨_, ha, hb, hc, hd, hu⟩
  rename_i a b c d _ _ _ _
  refine ⟨[a, b, c, d], ?_, rfl, fun rest' => .four rest' ha hb hc hd hu⟩
  simp [ha.lt_0x80, hb.lt_0x80, hc.lt_0x80, hd.lt_0x80]

lemma ascii_escape (c : Char) : Ascii fun s rest => Escape s c rest := by
  intro s rest h
  cases h with
  | letter _ hb =>
    have hall : ∀ p ∈ escapeLetters, p.1 < 0x80 := by decide
    exact ⟨[_], List.forall_mem_singleton.2 (hall _ hb), rfl, fun rest' => .letter rest' hb⟩
  | unit hu hc =>
    obtain ⟨piece, hpiece, rfl, hmore⟩ := ascii_hexUnit _ _ _ hu
    exact ⟨0x75 :: piece, List.forall_mem_cons.2 ⟨by decide, hpiece⟩, rfl,
      fun rest' => .unit (hmore rest') hc⟩
  | pair hhigh hlow hc =>
    obtain ⟨piece, hpiece, rfl, hmore⟩ := ascii_hexUnit _ _ _ hhigh
    obtain ⟨piece', hpiece', rfl, hmore'⟩ := ascii_hexUnit _ _ _ hlow
    refine ⟨0x75 :: (piece ++ backslash :: 0x75 :: piece'), ?_, by simp, fun rest' => ?_⟩
    · simp only [List.forall_mem_cons, List.forall_mem_append]
      exact ⟨by decide, hpiece, by decide, by decide, hpiece'⟩
    · have hpair := Escape.pair (hmore (backslash :: 0x75 :: (piece' ++ rest'))) (hmore' rest') hc
      simpa using hpair

lemma ascii_digits : Ascii Digits := by
  intro s rest h
  induction h with
  | one _ hb =>
    exact ⟨[_], List.forall_mem_singleton.2 (lt_0x80_of_isDigit hb), rfl, fun rest' => .one rest' hb⟩
  | more hb _ ih =>
    obtain ⟨piece, hpiece, rfl, hmore⟩ := ih
    exact ⟨_ :: piece, List.forall_mem_cons.2 ⟨lt_0x80_of_isDigit hb, hpiece⟩, rfl,
      fun rest' => .more hb (hmore rest')⟩

lemma ascii_whole : Ascii Whole := by
  intro s rest h
  cases h with
  | zero _ => exact ⟨[zero], List.forall_mem_singleton.2 (by decide), rfl, .zero⟩
  | digits h hs =>
    cases hs with
    | one _ hb =>
      exact ⟨[_], List.forall_mem_singleton.2 (lt_0x80_of_isDigit hb), rfl,
        fun rest' => .digits h (.one rest' hb)⟩
    | more hb hs =>
      obtain ⟨piece, hpiece, rfl, hmore⟩ := ascii_digits _ _ hs
      exact ⟨_ :: piece, List.forall_mem_cons.2 ⟨lt_0x80_of_isDigit hb, hpiece⟩, rfl,
        fun rest' => .digits h (.more hb (hmore rest'))⟩

lemma ascii_fraction : Ascii Fraction := by
  intro s rest h
  cases h with
  | none _ => exact ⟨[], by simp, rfl, .none⟩
  | some hs =>
    obtain ⟨piece, hpiece, rfl, hmore⟩ := ascii_digits _ _ hs
    exact ⟨point :: piece, List.forall_mem_cons.2 ⟨by decide, hpiece⟩, rfl,
      fun rest' => .some (hmore rest')⟩

lemma ascii_exponent : Ascii Exponent := by
  have hmark : ∀ b ∈ [0x65, 0x45], b < (0x80 : UInt8) := lt_0x80_of_all (by decide)
  have hsigns : ∀ b ∈ [plus, minus], b < 0x80 := lt_0x80_of_all (by decide)
  intro s rest h
  cases h with
  | none _ => exact ⟨[], by simp, rfl, .none⟩
  | plain hb hs =>
    obtain ⟨piece, hpiece, rfl, hmore⟩ := ascii_digits _ _ hs
    exact ⟨_ :: piece, List.forall_mem_cons.2 ⟨hmark _ hb, hpiece⟩, rfl,
      fun rest' => .plain hb (hmore rest')⟩
  | signed hb hsign hs =>
    obtain ⟨piece, hpiece, rfl, hmore⟩ := ascii_digits _ _ hs
    refine ⟨_ :: _ :: piece, ?_, rfl, fun rest' => .signed hb hsign (hmore rest')⟩
    exact List.forall_mem_cons.2 ⟨hmark _ hb, List.forall_mem_cons.2 ⟨hsigns _ hsign, hpiece⟩⟩

lemma ascii_magnitude : Ascii Magnitude := by
  rintro s rest ⟨hw, hf, he⟩
  obtain ⟨piece, hpiece, hs, hmore⟩ :=
    (ascii_whole.comp (ascii_fraction.comp ascii_exponent)) _ _ ⟨_, hw, _, hf, he⟩
  refine ⟨piece, hpiece, hs, fun rest' => ?_⟩
  obtain ⟨_, hw, _, hf, he⟩ := hmore rest'
  exact .parts hw hf he

/-! ### Side by side -/

lemma plain_of_le {b : UInt8} (h : 0x80 ≤ b) : Plain b := by
  unfold Plain
  grind

lemma cons_eq_of_eq_append {x s rest : List UInt8} {b : UInt8} (hx : ∀ d ∈ x, 0x80 ≤ d) (hb : b < 0x80)
    (h : b :: rest = x ++ s) : b :: rest = s := by
  obtain rfl : x = [] := by
    by_contra hne
    exact UInt8.not_lt.2 (Utf8.le_of_append_eq_cons hx hne h.symm) hb
  exact h

section

variable {T : List UInt8 → List UInt8 → Prop} (hT : KeepsAscii T) {s t rest : List UInt8}

include hT

/-- A piece of ASCII bytes on one side stands on the other side as well. -/
theorem Ascii.follow {R : List UInt8 → List UInt8 → Prop} (hR : Ascii R) (h : R s rest)
    (ht : T s t) : ∃ rest', R t rest' ∧ T rest rest' := by
  obtain ⟨piece, hpiece, rfl, hmore⟩ := hR s rest h
  suffices ∃ rest', t = piece ++ rest' ∧ T rest rest' by
    obtain ⟨rest', rfl, hrest⟩ := this
    exact ⟨rest', hmore rest', hrest⟩
  clear h hmore
  induction piece generalizing t with
  | nil => exact ⟨t, rfl, ht⟩
  | cons b piece ih =>
    obtain ⟨hb, hpiece⟩ := List.forall_mem_cons.1 hpiece
    obtain ⟨t', rfl, ht'⟩ := hT.ascii hb ht
    obtain ⟨rest', rfl, hrest⟩ := ih hpiece ht'
    exact ⟨rest', rfl, hrest⟩

lemma Blanks.follow_cons {b : UInt8} (hb : b < 0x80) (h : Blanks s (b :: rest)) (ht : T s t) :
    ∃ rest', Blanks t (b :: rest') ∧ T rest rest' := by
  obtain ⟨behind, hblanks, hbehind⟩ := ascii_blanks.follow hT h ht
  obtain ⟨rest', rfl, hrest⟩ := hT.ascii hb hbehind
  exact ⟨rest', hblanks, hrest⟩

/-- The other side may be ahead, since bytes stand for others only several at a time. Those that are
left here, `x`, are plain. -/
lemma Passes.follow_append (h : Passes s rest) {x s₁ : List UInt8} (hx : ∀ d ∈ x, 0x80 ≤ d)
    (hs : s = x ++ s₁) (ht : T s₁ t) : ∃ rest', Passes t rest' ∧ T rest rest' := by
  induction h generalizing x s₁ t with
  | close rest =>
    obtain rfl := cons_eq_of_eq_append hx (by decide) hs
    obtain ⟨t', rfl, ht'⟩ := hT.ascii (by decide) ht
    exact ⟨t', .close t', ht'⟩
  | @plain b s rest hb h ih =>
    cases x with
    | cons d x =>
      obtain ⟨-, rfl⟩ := List.cons_eq_cons.1 hs
      exact ih (List.forall_mem_cons.1 hx).2 rfl ht
    | nil =>
      obtain rfl : b :: s = s₁ := hs
      by_cases hlt : b < 0x80
      · obtain ⟨t', rfl, ht'⟩ := hT.ascii hlt ht
        obtain ⟨rest', hpasses, hrest⟩ := ih (x := []) (by simp) rfl ht'
        exact ⟨rest', .plain hb hpasses, hrest⟩
      · obtain ⟨x, y, s₂, t', hs, rfl, hne, hx, hy, ht'⟩ := hT.other (UInt8.not_lt.1 hlt) ht
        obtain ⟨d, x, rfl⟩ := List.exists_cons_of_ne_nil hne
        obtain ⟨-, rfl⟩ := List.cons_eq_cons.1 hs
        obtain ⟨rest', hpasses, hrest⟩ := ih (List.forall_mem_cons.1 hx).2 rfl ht'
        exact ⟨rest', .append (fun b hb => plain_of_le (hy b hb)) hpasses, hrest⟩
  | letter hb h ih =>
    have hall : ∀ p ∈ escapeLetters, p.1 < 0x80 := by decide
    obtain rfl := cons_eq_of_eq_append hx (by decide) hs
    obtain ⟨t₁, rfl, ht₁⟩ := hT.ascii (by decide) ht
    obtain ⟨t₂, rfl, ht₂⟩ := hT.ascii (hall _ hb) ht₁
    obtain ⟨rest', hpasses, hrest⟩ := ih (x := []) (by simp) rfl ht₂
    exact ⟨rest', .letter hb hpasses, hrest⟩
  | unit hu h ih =>
    obtain rfl := cons_eq_of_eq_append hx (by decide) hs
    obtain ⟨t₁, rfl, ht₁⟩ := hT.ascii (by decide) ht
    obtain ⟨t₂, rfl, ht₂⟩ := hT.ascii (by decide) ht₁
    obtain ⟨t₃, hu', ht₃⟩ := (ascii_hexUnit _).follow hT hu ht₂
    obtain ⟨rest', hpasses, hrest⟩ := ih (x := []) (by simp) rfl ht₃
    exact ⟨rest', .unit hu' hpasses, hrest⟩

/-- What is skipped as a string on one side is so on the other. -/
theorem Passes.follow (h : Passes s rest) (ht : T s t) : ∃ rest', Passes t rest' ∧ T rest rest' :=
  h.follow_append hT (x := []) (by simp) rfl ht

lemma Entry.follow {frame : Frame} (h : Entry frame s rest) (ht : T s t) :
    ∃ rest', Entry frame t rest' ∧ T rest rest' := by
  cases h with
  | item _ => exact ⟨t, .item t, ht⟩
  | key hb hk hc =>
    obtain ⟨t₁, hb', ht₁⟩ := hb.follow_cons hT (by decide) ht
    obtain ⟨t₂, hk', ht₂⟩ := hk.follow hT ht₁
    obtain ⟨rest', hc', hrest⟩ := hc.follow_cons hT (by decide) ht₂
    exact ⟨rest', .key hb' hk' hc', hrest⟩

mutual

/-- What is skipped as a value on one side is so on the other. -/
theorem Value.follow {s t rest : List UInt8} (ht : T s t) :
    Value s rest → ∃ rest', Value t rest' ∧ T rest rest'
  | .word hw h => by
    obtain ⟨rest', h', hrest⟩ := (ascii_word (word_lt_0x80 hw)).follow hT h ht
    exact ⟨rest', .word hw h', hrest⟩
  | .number h => by
    obtain ⟨rest', h', hrest⟩ := ascii_magnitude.follow hT h ht
    exact ⟨rest', .number h', hrest⟩
  | .negative h => by
    obtain ⟨t₁, rfl, ht₁⟩ := hT.ascii (by decide) ht
    obtain ⟨rest', h', hrest⟩ := ascii_magnitude.follow hT h ht₁
    exact ⟨rest', .negative h', hrest⟩
  | .text h => by
    obtain ⟨t₁, rfl, ht₁⟩ := hT.ascii (by decide) ht
    obtain ⟨rest', h', hrest⟩ := h.follow hT ht₁
    exact ⟨rest', .text h', hrest⟩
  | .empty frame h => by
    obtain ⟨t₁, rfl, ht₁⟩ := hT.ascii (opening_lt_0x80 frame) ht
    obtain ⟨rest', h', hrest⟩ := h.follow_cons hT (close_lt_0x80 frame) ht₁
    exact ⟨rest', .empty frame h', hrest⟩
  | .filled frame h => by
    obtain ⟨t₁, rfl, ht₁⟩ := hT.ascii (opening_lt_0x80 frame) ht
    obtain ⟨rest', h', hrest⟩ := Items.follow ht₁ h
    exact ⟨rest', .filled frame h', hrest⟩

theorem Items.follow {frame : Frame} {s t rest : List UInt8} (ht : T s t) :
    Items frame s rest → ∃ rest', Items frame t rest' ∧ T rest rest'
  | .last he hb hv hc => by
    obtain ⟨t₁, he', ht₁⟩ := he.follow hT ht
    obtain ⟨t₂, hb', ht₂⟩ := ascii_blanks.follow hT hb ht₁
    obtain ⟨t₃, hv', ht₃⟩ := Value.follow ht₂ hv
    obtain ⟨rest', hc', hrest⟩ := hc.follow_cons hT (close_lt_0x80 frame) ht₃
    exact ⟨rest', .last he' hb' hv' hc', hrest⟩
  | .more he hb hv hc hi => by
    obtain ⟨t₁, he', ht₁⟩ := he.follow hT ht
    obtain ⟨t₂, hb', ht₂⟩ := ascii_blanks.follow hT hb ht₁
    obtain ⟨t₃, hv', ht₃⟩ := Value.follow ht₂ hv
    obtain ⟨t₄, hc', ht₄⟩ := hc.follow_cons hT (by decide) ht₃
    obtain ⟨rest', hi', hrest⟩ := Items.follow ht₄ hi
    exact ⟨rest', .more he' hb' hv' hc' hi', hrest⟩

end

end

/-! ### Behind a piece of a text -/

variable {s rest : List UInt8}

/-- Behind a piece of ASCII bytes a text goes on. -/
theorem Ascii.wellFormed {R : List UInt8 → List UInt8 → Prop} (hR : Ascii R) (h : R s rest)
    (hs : WellFormedText s) : WellFormedText rest := by
  obtain ⟨_, -, rfl, hrest⟩ := hR.follow Utf8.keepsAscii_wellFormedText h ⟨rfl, hs⟩
  exact hrest

/-- Ill-formed bytes inside a string do not reach behind its quote. -/
theorem Passes.wellFormed (h : Passes s rest) (hs : WellFormedText s) : WellFormedText rest := by
  obtain ⟨_, -, rfl, hrest⟩ := h.follow Utf8.keepsAscii_wellFormedText ⟨rfl, hs⟩
  exact hrest

theorem Value.wellFormed (h : Value s rest) (hs : WellFormedText s) : WellFormedText rest := by
  obtain ⟨_, -, rfl, hrest⟩ := h.follow Utf8.keepsAscii_wellFormedText ⟨rfl, hs⟩
  exact hrest

/-! ### The bytes of a string -/

/-- A string behind its opening quote, and its bytes up to the closing one. -/
def Quoted (s content rest : List UInt8) : Prop := s = content ++ quoteMark :: rest ∧ Passes s rest

lemma Passes.exists_quoted (h : Passes s rest) : ∃ content, Quoted s content rest := by
  suffices ∃ content, s = content ++ quoteMark :: rest from this.imp fun content hs => ⟨hs, h⟩
  induction h with
  | close rest => exact ⟨[], rfl⟩
  | @plain b s rest hb h ih =>
    obtain ⟨content, rfl⟩ := ih
    exact ⟨b :: content, rfl⟩
  | @letter b c s rest hb h ih =>
    obtain ⟨content, rfl⟩ := ih
    exact ⟨backslash :: b :: content, rfl⟩
  | unit hu h ih =>
    obtain ⟨content, rfl⟩ := ih
    obtain ⟨digits, -, rfl, -⟩ := ascii_hexUnit _ _ _ hu
    exact ⟨backslash :: 0x75 :: (digits ++ content), by simp⟩

lemma Quoted.wellFormed {content : List UInt8} (h : Quoted s content rest) (hs : WellFormedText s) :
    WellFormedText content := by
  obtain ⟨rfl, -⟩ := h
  exact ((Utf8.wellFormedText_append_iff (Utf8.startsAnew_cons (by decide) rest)).1 hs).1

/-- A string that spells something is made of a text, and spells the same in front of anything. -/
theorem Spells.exists_text {cs : List Char} (h : Spells s cs rest) :
    ∃ content, s = content ++ quoteMark :: rest ∧ WellFormedText content ∧
      ∀ rest', Spells (content ++ quoteMark :: rest') cs rest' := by
  induction h with
  | close rest => exact ⟨[], rfl, Utf8.wellFormedText_encode [], .close⟩
  | @plain c cs s rest hc hq hb hs ih =>
    obtain ⟨content, rfl, hcontent, hmore⟩ := ih
    have hchar : WellFormedText (String.utf8EncodeChar c) :=
      (Utf8.wellFormedText_iff _).2 ⟨[c], List.flatMap_singleton _ _⟩
    refine ⟨String.utf8EncodeChar c ++ content, (List.append_assoc _ _ _).symm,
      hchar.append hcontent, fun rest' => ?_⟩
    rw [List.append_assoc]
    exact .plain hc hq hb (hmore rest')
  | escape hc hs ih =>
    obtain ⟨content, rfl, hcontent, hmore⟩ := ih
    obtain ⟨piece, hpiece, rfl, hescape⟩ := ascii_escape _ _ _ hc
    have htext : WellFormedText (backslash :: piece) :=
      Utf8.wellFormedText_of_lt (List.forall_mem_cons.2 ⟨by decide, hpiece⟩)
    refine ⟨backslash :: piece ++ content, by simp, htext.append hcontent, fun rest' => ?_⟩
    rw [List.append_assoc]
    exact .escape (hescape _) (hmore rest')

/-- A string that spells ASCII characters has ASCII bytes only. -/
theorem ascii_spells {cs : List Char} (hcs : ∀ c ∈ cs, c.toNat < 0x80) :
    Ascii fun s rest => Spells s cs rest := by
  intro s rest h
  induction h with
  | close rest => exact ⟨[quoteMark], List.forall_mem_singleton.2 (by decide), rfl, .close⟩
  | @plain c cs s rest hc hq hb hs ih =>
    obtain ⟨hlt, hcs⟩ := List.forall_mem_cons.1 hcs
    obtain ⟨piece, hpiece, rfl, hmore⟩ := ih hcs
    have hchar : ∀ b ∈ String.utf8EncodeChar c, b < 0x80 := by
      rcases Utf8.utf8EncodeChar_cases c with ⟨-, henc⟩ | ⟨hle, -⟩
      · rw [henc, List.forall_mem_singleton, UInt8.lt_iff_toNat_lt, Nat.toUInt8_eq,
          UInt8.toNat_ofNat', Nat.mod_eq_of_lt (by omega)]
        exact hlt
      · omega
    refine ⟨String.utf8EncodeChar c ++ piece, List.forall_mem_append.2 ⟨hchar, hpiece⟩,
      (List.append_assoc _ _ _).symm, fun rest' => ?_⟩
    rw [List.append_assoc]
    exact .plain hc hq hb (hmore rest')
  | escape hc hs ih =>
    obtain ⟨piece, hpiece, rfl, hescape⟩ := ascii_escape _ _ _ hc
    obtain ⟨piece', hpiece', rfl, hmore⟩ := ih (List.forall_mem_cons.1 hcs).2
    refine ⟨backslash :: piece ++ piece', ?_, by simp, fun rest' => ?_⟩
    · exact List.forall_mem_append.2 ⟨List.forall_mem_cons.2 ⟨by decide, hpiece⟩, hpiece'⟩
    · rw [List.append_assoc]
      exact .escape (hescape _) (hmore rest')

/-! ### Pieces end in one place -/

section

variable {rest' : List UInt8}

lemma Blanks.unique {b b' : UInt8} (h : Blanks s (b :: rest)) (h' : Blanks s (b' :: rest'))
    (hb : isBlank b = false) (hb' : isBlank b' = false) : b = b' ∧ rest = rest' :=
  List.cons_eq_cons.1 (((blanks_cons_iff hb).1 h).symm.trans ((blanks_cons_iff hb').1 h'))

lemma Passes.unique (h : Passes s rest) (h' : Passes s rest') : rest = rest' :=
  Except.ok.inj ((skipText_eq_ok_iff.2 h).symm.trans (skipText_eq_ok_iff.2 h'))

lemma Spells.unique {cs cs' : List Char} (h : Spells s cs rest) (h' : Spells s cs' rest') :
    cs = cs' ∧ rest = rest' := by
  have hread := (readText_eq_ok_iff.2 h).symm.trans (readText_eq_ok_iff.2 h')
  obtain ⟨hcs, rfl⟩ := Prod.mk.inj (Except.ok.inj hread)
  exact ⟨Utf8.encode_injective hcs, rfl⟩

lemma Entry.unique {frame : Frame} (h : Entry frame s rest) (h' : Entry frame s rest') :
    rest = rest' :=
  Except.ok.inj (h.enterItem_eq.symm.trans h'.enterItem_eq)

lemma Value.unique {s₁ s₂ : List UInt8} (hb : Blanks s s₁) (h : Value s₁ rest)
    (hrest : Delimits rest) (hb' : Blanks s s₂) (h' : Value s₂ rest') (hrest' : Delimits rest') :
    rest = rest' :=
  Except.ok.inj (((skipValue_eq_ok_iff hrest).2 ⟨s₁, hb, h⟩).symm.trans
    ((skipValue_eq_ok_iff hrest').2 ⟨s₂, hb', h'⟩))

lemma Spells.wellFormed_of_quoted {cs : List Char} {content : List UInt8} (h : Spells s cs rest)
    (hq : Quoted s content rest') : WellFormedText content := by
  obtain ⟨hs, hpasses⟩ := hq
  obtain rfl := h.passes.unique hpasses
  obtain ⟨text, rfl, htext, -⟩ := h.exists_text
  exact List.append_cancel_right hs ▸ htext

end

/-! ### Strings side by side -/

/-- A way to relate two byte sequences for a reader that keeps strings: a string spells the same on
both sides if its bytes on the other side are a text. -/
structure KeepsTexts (T : List UInt8 → List UInt8 → Prop) : Prop extends KeepsAscii T where
  spells : ∀ {s t rest cs}, Spells s cs rest → T s t →
    (∀ content r, Quoted t content r → WellFormedText content) →
    ∃ rest', Spells t cs rest' ∧ T rest rest'

theorem keepsTexts_replaced : KeepsTexts fun s t => t = Utf8.replaced s where
  toKeepsAscii := Utf8.keepsAscii_replaced
  spells := by
    intro s t rest cs h ht _
    obtain ⟨content, rfl, hcontent, hmore⟩ := h.exists_text
    obtain ⟨ds, rfl⟩ := (Utf8.wellFormedText_iff _).1 hcontent
    rw [Utf8.replaced_encode_append, Utf8.replaced_cons (by decide)] at ht
    exact ⟨_, ht ▸ hmore _, rfl⟩

theorem keepsTexts_replaces : KeepsTexts fun s t => s = Utf8.replaced t where
  toKeepsAscii := Utf8.keepsAscii_replaces
  spells := by
    intro s t rest cs h ht hquoted
    obtain ⟨rest', hpasses, rfl⟩ := h.passes.follow Utf8.keepsAscii_replaces ht
    obtain ⟨content, hq⟩ := hpasses.exists_quoted
    obtain ⟨ds, rfl⟩ := (Utf8.wellFormedText_iff _).1 (hquoted content rest' hq)
    obtain ⟨rfl, -⟩ := hq
    obtain ⟨content, hs, -, hmore⟩ := h.exists_text
    rw [ht, Utf8.replaced_encode_append, Utf8.replaced_cons (by decide)] at hs
    obtain rfl := List.append_cancel_right hs
    exact ⟨rest', hmore rest', rfl⟩

end Interop.Json
