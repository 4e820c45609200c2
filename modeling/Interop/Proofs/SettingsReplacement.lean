import Interop.Proofs.SettingsSources

/-!
# Files that are not texts

A file is read like the text that has U+FFFD for its ill-formed segments, as long as the strings that
are kept are texts themselves: the keys of the settings and the filters. Ill-formed bytes in a string
that is skipped, at whatever depth, are not noticed.
-/

namespace Interop.Log.Settings

open Json
open Utf8 (WellFormedText replaced)

/-! ### Strings that are kept -/

/-- The bytes of a key, or of the string that is given for `filters`, in the members of an object. Only
the key and the shape of its value count for a member that is passed over. -/
inductive KeptIn : List UInt8 → List UInt8 → Prop
  | key {s s₁ content rest : List UInt8} (hb : Blanks s (quoteMark :: s₁))
      (hk : Quoted s₁ content rest) : KeptIn s content
  | filters {s s₁ s₂ s₃ s₄ content rest : List UInt8} (hb : Blanks s (quoteMark :: s₁))
      (hk : Spells s₁ "filters".toList s₂) (hc : Blanks s₂ (colon :: s₃))
      (hv : Blanks s₃ (quoteMark :: s₄)) (hf : Quoted s₄ content rest) : KeptIn s content
  | later {s s₁ s₂ s₃ s₄ content : List UInt8} (he : Entry .object s s₁) (hb : Blanks s₁ s₂)
      (hv : Value s₂ s₃) (hc : Blanks s₃ (comma :: s₄)) (h : KeptIn s₄ content) : KeptIn s content

/-- The bytes of a string that is kept. In a list only the second value may be one. -/
inductive Kept : List UInt8 → List UInt8 → Prop
  | object {bytes s content : List UInt8} (hb : Blanks bytes (openBrace :: s)) (h : KeptIn s content) :
      Kept bytes content
  | list {bytes s s₁ s₂ s₃ s₄ content rest : List UInt8} (hb : Blanks bytes (openBracket :: s))
      (hb' : Blanks s s₁) (hv : Value s₁ s₂) (hc : Blanks s₂ (comma :: s₃))
      (hq : Blanks s₃ (quoteMark :: s₄)) (hf : Quoted s₄ content rest) : Kept bytes content

lemma entry_of_blanks {s s' rest : List UInt8} (hs : Blanks s s') (h : Entry .object s' rest) :
    Entry .object s rest := by
  cases h with
  | key hb hk hc => exact .key (hs.trans hb) hk hc

lemma KeptIn.of_blanks {s s' content : List UInt8} (hs : Blanks s s') (h : KeptIn s' content) :
    KeptIn s content := by
  cases h with
  | key hb hk => exact .key (hs.trans hb) hk
  | filters hb hk hc hv hf => exact .filters (hs.trans hb) hk hc hv hf
  | later he hb hv hc h => exact .later (entry_of_blanks hs he) hb hv hc h

lemma Kept.of_blanks {bytes s content : List UInt8} (hs : Blanks bytes s) (h : Kept s content) :
    Kept bytes content := by
  cases h with
  | object hb h => exact .object (hs.trans hb) h
  | list hb hb' hv hc hq hf => exact .list (hs.trans hb) hb' hv hc hq hf

lemma Says.value {key : String} {s rest : List UInt8} {x : Setting} (h : Says key s x rest) :
    Value s rest := by
  cases h with
  | level _ h => exact h.value
  | filters _ h => exact h.value
  | timestamps _ h => exact h.value
  | other _ h => exact h

lemma Member.exists_value {s rest : List UInt8} {x : Setting} (h : Member s x rest) :
    ∃ s₁ s₂, Entry .object s s₁ ∧ Blanks s₁ s₂ ∧ Value s₂ rest := by
  obtain ⟨hk, hc, hb, hv⟩ := h
  exact ⟨_, _, .key (.none _) hk.passes hc, hb, hv.value⟩

/-! ### Documents side by side -/

section

variable {T : List UInt8 → List UInt8 → Prop} (hT : KeepsTexts T) {s t rest : List UInt8}

lemma toNat_lt_of_toUpper {c : Char} (h : c.toUpper.toNat < 0x80) : c.toNat < 0x80 := by
  unfold Char.toUpper at h
  split at h
  · next hc =>
    have hle : c.toNat ≤ 122 := UInt32.le_iff_toNat_le.1 hc.2
    omega
  · exact h

lemma ascii_levelName (threshold : Threshold) : Ascii fun s rest => LevelName s threshold rest := by
  rintro s rest ⟨hs, hn⟩
  rename_i cs
  have hname : threshold.name.toList.all (·.toNat < 0x80) = true := by
    rcases threshold with _ | level
    · decide
    · cases level <;> decide
  have hcs (c : Char) (hc : c ∈ cs) : c.toNat < 0x80 := by
    have hupper : c.toUpper ∈ threshold.name.toList := hn ▸ List.mem_map_of_mem hc
    exact toNat_lt_of_toUpper (of_decide_eq_true (List.all_eq_true.1 hname _ hupper))
  obtain ⟨piece, hpiece, hs, hmore⟩ := ascii_spells hcs s rest hs
  exact ⟨piece, hpiece, hs, fun rest' => .spelled (hmore rest') hn⟩

include hT

lemma LevelText.follow {threshold : Threshold} (h : LevelText s threshold rest) (ht : T s t) :
    ∃ rest', LevelText t threshold rest' ∧ T rest rest' := by
  have hA := hT.toKeepsAscii
  cases h with
  | name hn =>
    obtain ⟨t₁, rfl, ht₁⟩ := hA.ascii (by decide) ht
    obtain ⟨rest', hn', hrest⟩ := (ascii_levelName threshold).follow hA hn ht₁
    exact ⟨rest', .name hn', hrest⟩
  | object hb hn hc hv hnull he =>
    obtain ⟨t₁, rfl, ht₁⟩ := hA.ascii (by decide) ht
    obtain ⟨t₂, hb', ht₂⟩ := hb.follow_cons hA (by decide) ht₁
    obtain ⟨t₃, hn', ht₃⟩ := (ascii_levelName threshold).follow hA hn ht₂
    obtain ⟨t₄, hc', ht₄⟩ := hc.follow_cons hA (by decide) ht₃
    obtain ⟨t₅, hv', ht₅⟩ := ascii_blanks.follow hA hv ht₄
    obtain ⟨t₆, hnull', ht₆⟩ := (ascii_word (word_lt_0x80 (by simp))).follow hA hnull ht₅
    obtain ⟨rest', he', hrest⟩ := he.follow_cons hA (by decide) ht₆
    exact ⟨rest', .object hb' hn' hc' hv' hnull' he', hrest⟩

lemma FiltersText.follow {f : Option String} (h : FiltersText s f rest) (ht : T s t)
    (hkept : ∀ t₁ content r, t = quoteMark :: t₁ → Quoted t₁ content r → WellFormedText content) :
    ∃ rest', FiltersText t f rest' ∧ T rest rest' := by
  cases h with
  | null h =>
    obtain ⟨rest', h', hrest⟩ := (ascii_word (word_lt_0x80 (by simp))).follow hT.toKeepsAscii h ht
    exact ⟨rest', .null h', hrest⟩
  | text hs =>
    obtain ⟨t₁, rfl, ht₁⟩ := hT.ascii (by decide) ht
    obtain ⟨rest', hs', hrest⟩ := hT.spells hs ht₁ fun content r => hkept t₁ content r rfl
    exact ⟨rest', .text hs', hrest⟩

lemma TimestampsText.follow {b : Bool} (h : TimestampsText s b rest) (ht : T s t) :
    ∃ rest', TimestampsText t b rest' ∧ T rest rest' := by
  refine (ascii_word (word_lt_0x80 ?_)).follow hT.toKeepsAscii h ht
  cases b <;> simp

lemma Says.follow {key : String} {x : Setting} (h : Says key s x rest) (ht : T s t)
    (hkept : key = "filters" → ∀ t₁ content r, t = quoteMark :: t₁ → Quoted t₁ content r →
      WellFormedText content) : ∃ rest', Says key t x rest' ∧ T rest rest' := by
  cases h with
  | level hk h =>
    obtain ⟨rest', h', hrest⟩ := h.follow hT ht
    exact ⟨rest', .level hk h', hrest⟩
  | filters hk h =>
    obtain ⟨rest', h', hrest⟩ := h.follow hT ht (hkept hk)
    exact ⟨rest', .filters hk h', hrest⟩
  | timestamps hk h =>
    obtain ⟨rest', h', hrest⟩ := h.follow hT ht
    exact ⟨rest', .timestamps hk h', hrest⟩
  | other hk h =>
    obtain ⟨rest', h', hrest⟩ := h.follow hT.toKeepsAscii ht
    exact ⟨rest', .other hk h', hrest⟩

lemma Member.follow {x : Setting} (h : Member s x rest) (ht : T s t)
    (hkept : ∀ content, KeptIn t content → WellFormedText content) :
    ∃ rest', Member t x rest' ∧ T rest rest' := by
  have hA := hT.toKeepsAscii
  obtain ⟨hk, hc, hb, hv⟩ := h
  obtain ⟨t₁, rfl, ht₁⟩ := hA.ascii (by decide) ht
  obtain ⟨t₂, hk', ht₂⟩ := hT.spells hk ht₁ fun content r hq => hkept content (.key (.none _) hq)
  obtain ⟨t₃, hc', ht₃⟩ := hc.follow_cons hA (by decide) ht₂
  obtain ⟨t₄, hb', ht₄⟩ := ascii_blanks.follow hA hb ht₃
  obtain ⟨rest', hv', hrest⟩ := hv.follow hT ht₄ <| by
    rintro rfl t₅ content r rfl hq
    exact hkept content (.filters (.none _) hk' hc' hb' hq)
  exact ⟨rest', .pair hk' hc' hb' hv', hrest⟩

lemma Members.follow {xs : List Setting} (h : Members s xs rest) (ht : T s t)
    (hkept : ∀ content, KeptIn t content → WellFormedText content) :
    ∃ rest', Members t xs rest' ∧ T rest rest' := by
  have hA := hT.toKeepsAscii
  induction h generalizing t with
  | last hm he =>
    obtain ⟨t₁, hm', ht₁⟩ := hm.follow hT ht hkept
    obtain ⟨rest', he', hrest⟩ := he.follow_cons hA (by decide) ht₁
    exact ⟨rest', .last hm' he', hrest⟩
  | more hm hc hb _ ih =>
    obtain ⟨t₁, hm', ht₁⟩ := hm.follow hT ht hkept
    obtain ⟨t₂, hc', ht₂⟩ := hc.follow_cons hA (by decide) ht₁
    obtain ⟨t₃, hb', ht₃⟩ := ascii_blanks.follow hA hb ht₂
    obtain ⟨_, _, hentry, hblanks, hvalue⟩ := hm'.exists_value
    obtain ⟨rest', h', hrest⟩ := ih ht₃ fun content h =>
      hkept content (.later hentry hblanks hvalue hc' (h.of_blanks hb'))
    exact ⟨rest', .more hm' hc' hb' h', hrest⟩

/-- The front of a list of two values or three. -/
lemma follow_filters {s₁ s₂ s₃ s₄ : List UInt8} {threshold : Threshold} {f : Option String}
    (hb : Blanks s s₁) (hl : LevelText s₁ threshold s₂) (hc : Blanks s₂ (comma :: s₃))
    (hb' : Blanks s₃ s₄) (hf : FiltersText s₄ f rest) (ht : T s t)
    (hkept : ∀ content, Kept (openBracket :: t) content → WellFormedText content) :
    ∃ t₁ t₂ t₃ t₄ rest', Blanks t t₁ ∧ LevelText t₁ threshold t₂ ∧ Blanks t₂ (comma :: t₃) ∧
      Blanks t₃ t₄ ∧ FiltersText t₄ f rest' ∧ T rest rest' := by
  have hA := hT.toKeepsAscii
  obtain ⟨t₁, hb, ht₁⟩ := ascii_blanks.follow hA hb ht
  obtain ⟨t₂, hl, ht₂⟩ := hl.follow hT ht₁
  obtain ⟨t₃, hc, ht₃⟩ := hc.follow_cons hA (by decide) ht₂
  obtain ⟨t₄, hb', ht₄⟩ := ascii_blanks.follow hA hb' ht₃
  obtain ⟨rest', hf, hrest⟩ := hf.follow hT ht₄ <| by
    rintro t₅ content r rfl hq
    exact hkept content (.list (.none _) hb hl.value hc hb' hq)
  exact ⟨t₁, t₂, t₃, t₄, rest', hb, hl, hc, hb', hf, hrest⟩

lemma Root.follow {d : Draft} (h : Root s d rest) (ht : T s t)
    (hkept : ∀ content, Kept t content → WellFormedText content) :
    ∃ rest', Root t d rest' ∧ T rest rest' := by
  have hA := hT.toKeepsAscii
  cases h with
  | emptyObject he =>
    obtain ⟨t₁, rfl, ht₁⟩ := hA.ascii (by decide) ht
    obtain ⟨rest', he', hrest⟩ := he.follow_cons hA (by decide) ht₁
    exact ⟨rest', .emptyObject he', hrest⟩
  | object hb hm hg =>
    obtain ⟨t₁, rfl, ht₁⟩ := hA.ascii (by decide) ht
    obtain ⟨t₂, hb', ht₂⟩ := ascii_blanks.follow hA hb ht₁
    obtain ⟨rest', hm', hrest⟩ := hm.follow hT ht₂ fun content h =>
      hkept content (.object (.none _) (h.of_blanks hb'))
    exact ⟨rest', .object hb' hm' hg, hrest⟩
  | emptyList he =>
    obtain ⟨t₁, rfl, ht₁⟩ := hA.ascii (by decide) ht
    obtain ⟨rest', he', hrest⟩ := he.follow_cons hA (by decide) ht₁
    exact ⟨rest', .emptyList he', hrest⟩
  | one hb hl he =>
    obtain ⟨t₁, rfl, ht₁⟩ := hA.ascii (by decide) ht
    obtain ⟨t₂, hb', ht₂⟩ := ascii_blanks.follow hA hb ht₁
    obtain ⟨t₃, hl', ht₃⟩ := hl.follow hT ht₂
    obtain ⟨rest', he', hrest⟩ := he.follow_cons hA (by decide) ht₃
    exact ⟨rest', .one hb' hl' he', hrest⟩
  | two hb hl hc hb' hf he =>
    obtain ⟨t₁, rfl, ht₁⟩ := hA.ascii (by decide) ht
    obtain ⟨t₂, t₃, t₄, t₅, t₆, hb, hl, hc, hb', hf, ht₆⟩ :=
      follow_filters hT hb hl hc hb' hf ht₁ hkept
    obtain ⟨rest', he, hrest⟩ := he.follow_cons hA (by decide) ht₆
    exact ⟨rest', .two hb hl hc hb' hf he, hrest⟩
  | three hb hl hc hb' hf hc' hb'' htime he =>
    obtain ⟨t₁, rfl, ht₁⟩ := hA.ascii (by decide) ht
    obtain ⟨t₂, t₃, t₄, t₅, t₆, hb, hl, hc, hb', hf, ht₆⟩ :=
      follow_filters hT hb hl hc hb' hf ht₁ hkept
    obtain ⟨t₇, hc', ht₇⟩ := hc'.follow_cons hA (by decide) ht₆
    obtain ⟨t₈, hb'', ht₈⟩ := ascii_blanks.follow hA hb'' ht₇
    obtain ⟨t₉, htime, ht₉⟩ := htime.follow hT ht₈
    obtain ⟨rest', he, hrest⟩ := he.follow_cons hA (by decide) ht₉
    exact ⟨rest', .three hb hl hc hb' hf hc' hb'' htime he, hrest⟩

/-- A document on one side is one on the other, and says the same, if the strings that are kept there
are texts. -/
theorem Document.follow {settings : Settings} (h : Document s settings) (ht : T s t)
    (hkept : ∀ content, Kept t content → WellFormedText content) : Document t settings := by
  have hA := hT.toKeepsAscii
  obtain ⟨hb, hr, he⟩ := h
  obtain ⟨t₁, hb, ht₁⟩ := ascii_blanks.follow hA hb ht
  obtain ⟨t₂, hr, ht₂⟩ := hr.follow hT ht₁ fun content h => hkept content (h.of_blanks hb)
  obtain ⟨t₃, he, ht₃⟩ := ascii_blanks.follow hA he ht₂
  obtain rfl := hA.nil ht₃
  exact .whole hb hr he

end

/-! ### What a document keeps -/

variable {s s' rest content : List UInt8}

/-- Behind a member there is a comma with further members, or the end. -/
lemma Members.exists_member {xs : List Setting} (h : Members s xs rest) :
    ∃ x s₁, Member s x s₁ ∧ Delimits s₁ ∧
      ∀ s₂, Blanks s₁ (comma :: s₂) → ∃ s₃ ys, Blanks s₂ s₃ ∧ Members s₃ ys rest := by
  cases h with
  | last hm he =>
    refine ⟨_, _, hm, he.delimits (by decide), fun s₂ hc => ?_⟩
    exact absurd (he.unique hc (by decide) (by decide)).1 (by decide)
  | more hm hc hb h =>
    refine ⟨_, _, hm, hc.delimits_comma, fun s₂ hc' => ?_⟩
    obtain ⟨-, rfl⟩ := hc.unique hc' (by decide) (by decide)
    exact ⟨_, _, hb, h⟩

lemma FiltersText.wellFormed_of_quoted {f : Option String} {s₁ r : List UInt8}
    (h : FiltersText s' f rest) (hb : Blanks s s') (hq : Blanks s (quoteMark :: s₁))
    (hcontent : Quoted s₁ content r) : WellFormedText content := by
  cases h with
  | null h =>
    rw [word_null_iff.1 h] at hb
    exact absurd (hb.unique hq (by decide) (by decide)).1 (by decide)
  | text hs =>
    obtain ⟨-, rfl⟩ := hb.unique hq (by decide) (by decide)
    exact hs.wellFormed_of_quoted hcontent

lemma Members.wellFormed_of_keptIn (hk : KeptIn s content) {xs : List Setting} (hb : Blanks s s')
    (h : Members s' xs rest) : WellFormedText content := by
  induction hk generalizing s' xs with
  | key hq hcontent =>
    obtain ⟨x, s₁, ⟨hkey, -, -, -⟩, -⟩ := h.exists_member
    obtain ⟨-, rfl⟩ := hb.unique hq (by decide) (by decide)
    exact hkey.wellFormed_of_quoted hcontent
  | filters hq hname hcolon hv hcontent =>
    obtain ⟨x, s₁, ⟨hkey, hc, hblanks, hsays⟩, -⟩ := h.exists_member
    obtain ⟨-, rfl⟩ := hb.unique hq (by decide) (by decide)
    obtain ⟨hfilters, rfl⟩ := hkey.unique hname
    obtain rfl := String.toList_injective hfilters
    obtain ⟨-, rfl⟩ := hc.unique hcolon (by decide) (by decide)
    cases hsays with
    | level hk _ | timestamps hk _ => exact absurd hk (by decide)
    | filters _ h => exact h.wellFormed_of_quoted hblanks hv hcontent
    | other hk _ => exact absurd (by simp) hk
  | later he hblanks hv hc _ ih =>
    obtain ⟨x, s₁, hm, hdelimits, hmore⟩ := h.exists_member
    obtain ⟨s₂, s₃, hentry, hblanks', hvalue⟩ := hm.exists_value
    -- the member that is passed over is the first one, as its value ends where that one's does
    obtain rfl := he.unique (entry_of_blanks hb hentry)
    obtain rfl := Value.unique hblanks hv hc.delimits_comma hblanks' hvalue hdelimits
    obtain ⟨s₄, ys, hb₄, hm₄⟩ := hmore _ hc
    exact ih hb₄ hm₄

lemma KeptIn.exists_quote (h : KeptIn s content) : ∃ s₁, Blanks s (quoteMark :: s₁) := by
  cases h with
  | key hb _ => exact ⟨_, hb⟩
  | filters hb _ _ _ _ => exact ⟨_, hb⟩
  | later he _ _ _ _ =>
    cases he with
    | key hb _ _ => exact ⟨_, hb⟩

lemma Root.wellFormed_of_kept {d : Draft} (hk : Kept s content) (hb : Blanks s s')
    (h : Root s' d rest) : WellFormedText content := by
  cases hk with
  | object hopen hk =>
    cases h with
    | emptyObject he =>
      obtain ⟨-, rfl⟩ := hb.unique hopen (by decide) (by decide)
      obtain ⟨s₁, hq⟩ := hk.exists_quote
      exact absurd (he.unique hq (by decide) (by decide)).1 (by decide)
    | object hblanks hm _ =>
      obtain ⟨-, rfl⟩ := hb.unique hopen (by decide) (by decide)
      exact hm.wellFormed_of_keptIn hk hblanks
    | emptyList | one | two | three =>
      exact absurd (hb.unique hopen (by decide) (by decide)).1 (by decide)
  | list hopen hblanks hv hc hq hcontent =>
    cases h with
    | emptyObject | object => exact absurd (hb.unique hopen (by decide) (by decide)).1 (by decide)
    | emptyList he =>
      obtain ⟨-, rfl⟩ := hb.unique hopen (by decide) (by decide)
      obtain ⟨b, t, rfl, hblank, hne⟩ := hv.head
      exact absurd (hblanks.unique he hblank (by decide)).1 hne
    | one hb₁ hl he =>
      obtain ⟨-, rfl⟩ := hb.unique hopen (by decide) (by decide)
      obtain rfl := Value.unique hblanks hv hc.delimits_comma hb₁ hl.value (he.delimits (by decide))
      exact absurd (he.unique hc (by decide) (by decide)).1 (by decide)
    | two hb₁ hl hc₁ hb₂ hf _ | three hb₁ hl hc₁ hb₂ hf _ _ _ _ =>
      obtain ⟨-, rfl⟩ := hb.unique hopen (by decide) (by decide)
      obtain rfl := Value.unique hblanks hv hc.delimits_comma hb₁ hl.value hc₁.delimits_comma
      obtain ⟨-, rfl⟩ := hc.unique hc₁ (by decide) (by decide)
      exact hf.wellFormed_of_quoted hb₂ hq hcontent

/-- The strings that a document keeps are texts. -/
theorem Document.wellFormed_of_kept {settings : Settings} (h : Document s settings)
    (hk : Kept s content) : WellFormedText content := by
  obtain ⟨hb, hr, -⟩ := h
  exact hr.wellFormed_of_kept hk hb

/-! ### Files and texts -/

lemma KeptIn.wellFormed (h : KeptIn s content) (hs : WellFormedText s) : WellFormedText content := by
  induction h with
  | key hb hk => exact hk.wellFormed ((hb.wellFormed hs).tail (by decide))
  | filters hb hk hc hv hf =>
    have hname := hk.passes.wellFormed ((hb.wellFormed hs).tail (by decide))
    have hvalue := hv.wellFormed ((hc.wellFormed hname).tail (by decide))
    exact hf.wellFormed (hvalue.tail (by decide))
  | later he hb hv hc _ ih =>
    cases he with
    | key hq hk hcolon =>
      have hkey := hk.wellFormed ((hq.wellFormed hs).tail (by decide))
      have hvalue := hv.wellFormed (hb.wellFormed ((hcolon.wellFormed hkey).tail (by decide)))
      exact ih ((hc.wellFormed hvalue).tail (by decide))

lemma Kept.wellFormed (h : Kept s content) (hs : WellFormedText s) : WellFormedText content := by
  cases h with
  | object hb h => exact h.wellFormed ((hb.wellFormed hs).tail (by decide))
  | list hb hb' hv hc hq hf =>
    have hvalue := hv.wellFormed (hb'.wellFormed ((hb.wellFormed hs).tail (by decide)))
    have hstring := hq.wellFormed ((hc.wellFormed hvalue).tail (by decide))
    exact hf.wellFormed (hstring.tail (by decide))

lemma ofJson_decodeLossy (bytes : List UInt8) :
    ofJson (String.ofList (Utf8.decodeLossy bytes)) = ofDocument .file (replaced bytes) := by
  have hbytes : Utf8.ofString (String.ofList (Utf8.decodeLossy bytes)) = replaced bytes :=
    congrArg Utf8.encode String.toList_ofList
  rw [ofJson, hbytes, ofDocument_text (Utf8.wellFormedText_replaced bytes)]

/-- A file is read like the text that has U+FFFD for its ill-formed segments. If there are none, these
are the same bytes, and faults are found in the same places. In any case a file gives some settings
iff the text does and every key and the filters are texts in the file as well. Otherwise it is refused
as a faulty configuration, even though the text is accepted. -/
theorem files_agree_with_texts (bytes : List UInt8) :
    (WellFormedText bytes →
      Utf8.ofString (String.ofList (Utf8.decodeLossy bytes)) = bytes ∧
        load (.contents bytes) = ofJson (String.ofList (Utf8.decodeLossy bytes))) ∧
    (∀ s, load (.contents bytes) = .ok s ↔
      ofJson (String.ofList (Utf8.decodeLossy bytes)) = .ok s ∧
        ∀ content, Kept bytes content → WellFormedText content) ∧
    ∀ s content, ofJson (String.ofList (Utf8.decodeLossy bytes)) = .ok s → Kept bytes content →
      ¬WellFormedText content →
      ∃ cause position, load (.contents bytes) = .error (.config cause position) := by
  simp only [ofJson_decodeLossy, load]
  have hiff (s : Settings) : ofDocument .file bytes = .ok s ↔
      ofDocument .file (replaced bytes) = .ok s ∧
        ∀ content, Kept bytes content → WellFormedText content := by
    rw [ofDocument_file_eq_ok_iff, ofDocument_file_eq_ok_iff]
    constructor
    · intro h
      have hreplaced := h.follow keepsTexts_replaced rfl fun content hk =>
        hk.wellFormed (Utf8.wellFormedText_replaced bytes)
      exact ⟨hreplaced, fun content => h.wellFormed_of_kept⟩
    · rintro ⟨h, hkept⟩
      exact h.follow keepsTexts_replaces rfl hkept
  refine ⟨fun h => ?_, hiff, fun s content _ hk hcontent => ?_⟩
  · refine ⟨(congrArg Utf8.encode String.toList_ofList).trans (Utf8.replaced_of_wellFormedText h), ?_⟩
    rw [Utf8.replaced_of_wellFormedText h]
  · cases hload : ofDocument .file bytes with
    | ok s' => exact absurd (((hiff s').1 hload).2 content hk) hcontent
    | error failure =>
      obtain ⟨cause, position, rfl⟩ := ofDocument_eq_error hload
      exact ⟨cause, position, rfl⟩

-- a byte that no text has does not matter in a key further in, but does in a key of the settings
example :
    load (.contents (Utf8.ofString "\x7b\"a\":\x7b\"" ++ 0xFF :: Utf8.ofString "\":0\x7d\x7d")) =
        .ok {} ∧
      load (.contents (Utf8.ofString "\x7b\"" ++ 0xFF :: Utf8.ofString "\":0\x7d")) ≠ .ok {} := by
  decide +kernel

end Interop.Log.Settings
