import Interop.Proofs.JsonPieces
import Interop.Proofs.SettingsGrammar

/-!
# Texts and files

A file whose bytes are a text is read as the text is, faults included. What lies behind a piece of a
well-formed document is well-formed again, since every piece ends with a byte that stands for itself,
and so are the strings that are kept, so that the check of their bytes changes nothing.
-/

namespace Interop.Json

open Utf8 (WellFormedText)

/-! ### What lies behind a piece -/

lemma Blanks.wellFormed {s rest : List UInt8} (h : Blanks s rest) (hs : WellFormedText s) :
    WellFormedText rest :=
  ascii_blanks.wellFormed h hs

lemma wellFormed_of_skipBlanks {b : UInt8} {s rest : List UInt8} (h : skipBlanks s = b :: rest)
    (hs : WellFormedText s) : WellFormedText (b :: rest) :=
  h ▸ (blanks_skipBlanks s).wellFormed hs

lemma Escape.wellFormed {s rest : List UInt8} {c : Char} (h : Escape s c rest)
    (hs : WellFormedText s) : WellFormedText rest :=
  (ascii_escape c).wellFormed h hs

lemma wellFormed_of_skipValue {s rest : List UInt8} (h : skipValue s = .ok rest)
    (hs : WellFormedText s) : WellFormedText rest := by
  obtain ⟨s₁, s₂, hb, hv, hclose⟩ := valueWithin_of_skipFrom h
  cases hclose
  exact hv.wellFormed (hb.wellFormed hs)

/-! ### Kept strings -/

/-- In a well-formed document a kept string spells something. -/
theorem exists_spells_of_readText {s content rest : List UInt8} (hs : WellFormedText s)
    (h : readText s = .ok (content, rest)) : ∃ cs, content = Utf8.encode cs ∧ Spells s cs rest := by
  suffices ∃ cs, content = Utf8.encode cs by
    obtain ⟨cs, rfl⟩ := this
    exact ⟨cs, rfl, readText_eq_ok_iff.1 h⟩
  induction hn : s.length using Nat.strongRecOn generalizing s content with
  | _ n ih =>
    subst hn
    rcases readText_cases h with ⟨-, rfl⟩ | ⟨s₁, bytes, s₂, tail, rfl, he, ht, rfl⟩ |
      ⟨b, s₁, tail, rfl, hb, -, -⟩
    · exact ⟨[], rfl⟩
    · have hlt := readEscape_length_lt he
      obtain ⟨c, rfl, hc⟩ := readEscape_eq_ok_iff.1 he
      have hs₂ := hc.wellFormed (hs.tail (by decide))
      obtain ⟨cs, rfl⟩ := ih s₂.length (by rw [List.length_cons]; omega) hs₂ ht rfl
      exact ⟨c :: cs, (Utf8.encode_cons c cs).symm⟩
    · obtain ⟨ds, hds⟩ := (Utf8.wellFormedText_iff _).1 hs
      cases ds with
      | nil => cases hds
      | cons c ds =>
        rw [Utf8.encode_cons] at hds
        have hplain := plain_of_head hb hds
        rw [← hds, readText_append hplain] at h
        obtain ⟨⟨tail, r⟩, ht, h⟩ := map_eq_ok_iff.1 h
        obtain ⟨rfl, rfl⟩ := Prod.mk.inj h
        have hlt : (Utf8.encode ds).length < (b :: s₁).length := by
          rw [← hds, List.length_append, String.length_utf8EncodeChar]
          have := c.utf8Size_pos
          omega
        obtain ⟨cs, rfl⟩ := ih _ hlt ((Utf8.wellFormedText_iff _).2 ⟨ds, rfl⟩) ht rfl
        exact ⟨c :: cs, (Utf8.encode_cons c cs).symm⟩

end Interop.Json

namespace Interop.Log.Settings

open Json
open Utf8 (WellFormedText)

variable {s rest : List UInt8}

/-- Two readers in a row agree if the first do, and the second do on what the first give. -/
theorem bind_congr_of_ok {α β : Type} {x y : Except Fault α} {f g : α → Except Fault β} (hxy : x = y)
    (h : ∀ a, y = .ok a → f a = g a) : x >>= f = y >>= g := by
  subst hxy
  cases x with
  | error fault => rfl
  | ok a => exact h a rfl

/-! ### Strings, levels, filters and truth values -/

lemma settle_encode (source : Source) (cs : List Char) (rest : List UInt8) :
    source.settle (Utf8.encode cs) rest = .ok (String.ofList cs) := by
  cases source with
  | text => rw [Source.settle, Utf8.decodeLossy_encode]
  | file => rw [Source.settle, (Utf8.decode?_eq_some_iff_encode _ _).2 rfl]

lemma readString_text (hs : WellFormedText s) : readString .text s = readString .file s := by
  unfold readString
  refine bind_congr_of_ok rfl ?_
  rintro ⟨content, rest⟩ h
  obtain ⟨cs, rfl, -⟩ := exists_spells_of_readText hs h
  dsimp only
  rw [settle_encode, settle_encode]

lemma wellFormed_of_readString {text : String} (hs : WellFormedText s)
    (h : readString .file s = .ok (text, rest)) : WellFormedText rest :=
  (readString_file_eq_ok_iff.1 h).passes.wellFormed hs

lemma mistyped_text {α : Type} {expected : String} {b : UInt8} (h : WellFormedText (b :: rest)) :
    mistyped (α := α) .text expected b rest = mistyped .file expected b rest := by
  by_cases hb : b = quoteMark
  · have hrest := h.tail (hb ▸ by decide)
    unfold mistyped
    rw [readString_text hrest]
  · unfold mistyped
    dsimp only
    rw [if_neg hb, if_neg hb]

lemma readLevelName_text (hs : WellFormedText s) :
    readLevelName .text s = readLevelName .file s := by
  unfold readLevelName
  rw [readString_text hs]

lemma wellFormed_of_readLevelName {t : Threshold} (hs : WellFormedText s)
    (h : readLevelName .file s = .ok (t, rest)) : WellFormedText rest := by
  obtain ⟨hname, -⟩ := readLevelName_eq_ok_iff.1 h
  exact hname.passes.wellFormed hs

lemma readNull_text (hs : WellFormedText s) : readNull .text s = readNull .file s := by
  rw [readNull, readNull]
  cases h : skipBlanks s with
  | nil => rfl
  | cons b rest =>
    dsimp only
    rw [mistyped_text (wellFormed_of_skipBlanks h hs)]

lemma wellFormed_of_readColon (hs : WellFormedText s) (h : readColon s = .ok rest) :
    WellFormedText rest :=
  ((readColon_eq_ok_iff.1 h).wellFormed hs).tail (by decide)

lemma readLevelObject_text (hs : WellFormedText s) :
    readLevelObject .text s = readLevelObject .file s := by
  rw [readLevelObject, readLevelObject]
  cases h : skipBlanks s with
  | nil => rfl
  | cons b rest =>
    dsimp only
    split
    · next hb =>
      have hrest := (wellFormed_of_skipBlanks h hs).tail (hb ▸ by decide)
      refine bind_congr_of_ok (readLevelName_text hrest) ?_
      rintro ⟨t, s₁⟩ h₁
      have hs₁ := wellFormed_of_readLevelName hrest h₁
      refine bind_congr_of_ok rfl ?_
      intro s₂ h₂
      rw [readNull_text (wellFormed_of_readColon hs₁ h₂)]
    · rfl

lemma readLevel_text (hs : WellFormedText s) : readLevel .text s = readLevel .file s := by
  rw [readLevel, readLevel]
  cases h : skipBlanks s with
  | nil => rfl
  | cons b rest =>
    have hrest := wellFormed_of_skipBlanks h hs
    dsimp only
    split
    · next hb => exact readLevelName_text (hrest.tail (hb ▸ by decide))
    · split
      · next hb => exact readLevelObject_text (hrest.tail (hb ▸ by decide))
      · rfl

lemma readFilters_text (hs : WellFormedText s) : readFilters .text s = readFilters .file s := by
  rw [readFilters, readFilters]
  cases h : skipBlanks s with
  | nil => rfl
  | cons b rest =>
    have hrest := wellFormed_of_skipBlanks h hs
    dsimp only
    rw [mistyped_text hrest]
    split
    · rfl
    · split
      · next hb => rw [readString_text (hrest.tail (hb ▸ by decide))]
      · rfl

lemma readTimestamps_text (hs : WellFormedText s) :
    readTimestamps .text s = readTimestamps .file s := by
  rw [readTimestamps, readTimestamps]
  cases h : skipBlanks s with
  | nil => rfl
  | cons b rest =>
    dsimp only
    rw [mistyped_text (wellFormed_of_skipBlanks h hs)]

/-! ### Members -/

section

variable {α : Type} {name : String} {given : Option α} {put : α → Draft}

lemma readField_text {read read' : List UInt8 → Except Fault (α × List UInt8)}
    (hs : WellFormedText s) (hread : ∀ {s}, WellFormedText s → read s = read' s) :
    readField name given read put s = readField name given read' put s := by
  unfold readField
  split
  · rfl
  · refine bind_congr_of_ok rfl ?_
    intro s₁ h₁
    rw [hread (wellFormed_of_readColon hs h₁)]

variable {read : List UInt8 → Except Fault (α × List UInt8)} {Text : List UInt8 → α → List UInt8 → Prop}
  (hread : ∀ {s rest : List UInt8} {v : α},
    read s = .ok (v, rest) ↔ ∃ s', Blanks s s' ∧ Text s' v rest)
  (hvalue : ∀ {s rest : List UInt8} {v : α}, Text s v rest → Value s rest)

include hread hvalue

lemma wellFormed_of_read {v : α} (hs : WellFormedText s) (h : read s = .ok (v, rest)) :
    WellFormedText rest := by
  obtain ⟨s', hb, ht⟩ := hread.1 h
  exact (hvalue ht).wellFormed (hb.wellFormed hs)

lemma wellFormed_of_readField {d : Draft} (hs : WellFormedText s)
    (h : readField name given read put s = .ok (d, rest)) : WellFormedText rest := by
  obtain ⟨-, s₁, s₂, v, hc, hb, ht, -⟩ := (readField_eq_ok_iff hread).1 h
  exact (hvalue ht).wellFormed (hb.wellFormed ((hc.wellFormed hs).tail (by decide)))

end

lemma readMember_text {d : Draft} {key : String} (hs : WellFormedText s) :
    readMember .text d key s = readMember .file d key s := by
  unfold readMember
  rw [readField_text hs readLevel_text, readField_text hs readFilters_text,
    readField_text hs readTimestamps_text]

lemma wellFormed_of_readMember {d d' : Draft} {key : String} (hs : WellFormedText s)
    (h : readMember .file d key s = .ok (d', rest)) : WellFormedText rest := by
  unfold readMember at h
  split at h
  · exact wellFormed_of_readField readLevel_eq_ok_iff LevelText.value hs h
  · split at h
    · exact wellFormed_of_readField readFilters_eq_ok_iff FiltersText.value hs h
    · split at h
      · exact wellFormed_of_readField readTimestamps_eq_ok_iff TimestampsText.value hs h
      · obtain ⟨s₁, h₁, h⟩ := bind_eq_ok_iff.1 h
        obtain ⟨s₂, h₂, h⟩ := bind_eq_ok_iff.1 h
        obtain ⟨-, rfl⟩ := Prod.mk.inj (Except.ok.inj h)
        exact wellFormed_of_skipValue h₂ (wellFormed_of_readColon hs h₁)

lemma readKeyed_text {d : Draft} (hs : WellFormedText s) :
    readKeyed .text d s = readKeyed .file d s := by
  unfold readKeyed
  refine bind_congr_of_ok (readString_text hs) ?_
  rintro ⟨key, s₁⟩ h₁
  exact readMember_text (wellFormed_of_readString hs h₁)

lemma wellFormed_of_readKeyed {d d' : Draft} (hs : WellFormedText s)
    (h : readKeyed .file d s = .ok (d', rest)) : WellFormedText rest := by
  unfold readKeyed at h
  obtain ⟨⟨key, s₁⟩, h₁, h⟩ := bind_eq_ok_iff.1 h
  exact wellFormed_of_readMember (wellFormed_of_readString hs h₁) h

lemma readMembers_text {d : Draft} (hs : WellFormedText s) :
    readMembers .text d s = readMembers .file d s := by
  induction hn : s.length using Nat.strongRecOn generalizing s d with
  | _ n ih =>
    subst hn
    rw [readMembers_eq, readMembers_eq]
    refine bind_congr_of_ok (readKeyed_text hs) ?_
    rintro ⟨d₁, s₁⟩ h₁
    have hs₁ := wellFormed_of_readKeyed hs h₁
    have hlt₁ := readKeyed_length_lt h₁
    dsimp only
    cases h : skipBlanks s₁ with
    | nil => rfl
    | cons b s₂ =>
      dsimp only
      split
      · rfl
      · split
        · next hb =>
          refine bind_congr_of_ok rfl ?_
          intro s₃ h₃
          have hs₂ := (wellFormed_of_skipBlanks h hs₁).tail (hb ▸ by decide)
          have hs₃ := ((nextKey_eq_ok_iff.1 h₃).wellFormed hs₂).tail (by decide)
          have hlt₂ := length_lt_of_skipBlanks_eq_cons h
          have hlt₃ := nextKey_length_lt h₃
          exact ih s₃.length (by omega) hs₃ rfl
        · rfl

/-! ### Documents -/

lemma readObject_text (hs : WellFormedText s) : readObject .text s = readObject .file s := by
  rw [readObject, readObject]
  cases h : skipBlanks s with
  | nil => rfl
  | cons b rest =>
    dsimp only
    split
    · rfl
    · split
      · next hb => exact readMembers_text ((wellFormed_of_skipBlanks h hs).tail (hb ▸ by decide))
      · rfl

lemma readItems_text (hs : WellFormedText s) : readItems .text s = readItems .file s := by
  unfold readItems
  refine bind_congr_of_ok rfl ?_
  intro first h₁
  cases first with
  | last => rfl
  | more s₁ =>
    have hs₁ := (blanks_of_firstItem h₁).wellFormed hs
    refine bind_congr_of_ok (readLevel_text hs₁) ?_
    rintro ⟨t, s₂⟩ h₂
    have hs₂ := wellFormed_of_read readLevel_eq_ok_iff LevelText.value hs₁ h₂
    refine bind_congr_of_ok rfl ?_
    intro second h₃
    cases second with
    | last => rfl
    | more s₃ =>
      obtain ⟨s₃', hc, hb⟩ := blanks_of_nextItem h₃
      have hs₃ := hb.wellFormed ((hc.wellFormed hs₂).tail (by decide))
      refine bind_congr_of_ok (readFilters_text hs₃) ?_
      rintro ⟨f, s₄⟩ h₄
      have hs₄ := wellFormed_of_read readFilters_eq_ok_iff FiltersText.value hs₃ h₄
      refine bind_congr_of_ok rfl ?_
      intro third h₅
      cases third with
      | last => rfl
      | more s₅ =>
        obtain ⟨s₅', hc', hb'⟩ := blanks_of_nextItem h₅
        have hs₅ := hb'.wellFormed ((hc'.wellFormed hs₄).tail (by decide))
        dsimp only
        rw [readTimestamps_text hs₅]

lemma readRoot_text (hs : WellFormedText s) : readRoot .text s = readRoot .file s := by
  rw [readRoot, readRoot]
  cases h : skipBlanks s with
  | nil => rfl
  | cons b rest =>
    have hrest := wellFormed_of_skipBlanks h hs
    dsimp only
    rw [mistyped_text hrest]
    split
    · next hb =>
      unfold readList
      rw [readItems_text (hrest.tail (hb ▸ by decide))]
    · split
      · next hb => exact readObject_text (hrest.tail (hb ▸ by decide))
      · rfl

/-- Where a document is well-formed it does not matter where it comes from. -/
theorem ofDocument_text {bytes : List UInt8} (h : WellFormedText bytes) :
    ofDocument .text bytes = ofDocument .file bytes := by
  unfold ofDocument readDocument
  rw [readRoot_text h]

lemma ofDocument_file_eq_ok_iff {bytes : List UInt8} {settings : Settings} :
    ofDocument .file bytes = .ok settings ↔ Document bytes settings := by
  rw [← readDocument_file_eq_ok_iff, ofDocument]
  cases readDocument .file bytes <;> simp [Except.mapError]

lemma ofDocument_eq_error {source : Source} {bytes : List UInt8} {failure : Failure}
    (h : ofDocument source bytes = .error failure) :
    ∃ cause position, failure = .config cause position := by
  unfold ofDocument at h
  cases hd : readDocument source bytes with
  | ok settings => simp [hd, Except.mapError] at h
  | error fault => exact ⟨_, _, by simpa [hd, Except.mapError] using h.symm⟩

end Interop.Log.Settings
