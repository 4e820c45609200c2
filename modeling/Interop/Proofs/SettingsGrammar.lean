import Interop.Log.Settings.Reader
import Interop.Proofs.JsonValues

/-!
# The grammar of settings documents

What a settings document is, and that a file is read iff it is one. The strings that are kept have to
spell something, so a key, a level or filters with ill-formed bytes are no part of a document, while
strings inside the values of other keys may have any bytes.
-/

namespace Interop.Log.Settings

open Json

/-! ### Documents -/

/-- A level name behind its opening quote, in capital or small ASCII letters. -/
inductive LevelName : List UInt8 → Threshold → List UInt8 → Prop
  | spelled {s rest : List UInt8} {cs : List Char} {t : Threshold} (hs : Spells s cs rest)
      (hn : cs.map Char.toUpper = t.name.toList) : LevelName s t rest

/-- A level: a name, or an object of one member from a name to null. -/
inductive LevelText : List UInt8 → Threshold → List UInt8 → Prop
  | name {s rest : List UInt8} {t : Threshold} (hn : LevelName s t rest) :
      LevelText (quoteMark :: s) t rest
  | object {s s₁ s₂ s₃ s₄ s₅ rest : List UInt8} {t : Threshold} (hb : Blanks s (quoteMark :: s₁))
      (hn : LevelName s₁ t s₂) (hc : Blanks s₂ (colon :: s₃)) (hv : Blanks s₃ s₄)
      (hnull : Word "null" s₄ s₅) (he : Blanks s₅ (closeBrace :: rest)) :
      LevelText (openBrace :: s) t rest

/-- Filters: null or a string. -/
inductive FiltersText : List UInt8 → Option String → List UInt8 → Prop
  | null {s rest : List UInt8} (h : Word "null" s rest) : FiltersText s none rest
  | text {s rest : List UInt8} {cs : List Char} (hs : Spells s cs rest) :
      FiltersText (quoteMark :: s) (some (String.ofList cs)) rest

def TimestampsText (s : List UInt8) (b : Bool) (rest : List UInt8) : Prop :=
  Word (if b then "true" else "false") s rest

/-- What one member of a settings object gives. -/
inductive Setting
  | level (t : Threshold)
  | filters (f : Option String)
  | timestamps (b : Bool)
  | other
  deriving Repr, DecidableEq

def Setting.level? : Setting → Option Threshold
  | .level t => some t
  | _ => none

def Setting.filters? : Setting → Option (Option String)
  | .filters f => some f
  | _ => none

def Setting.timestamps? : Setting → Option Bool
  | .timestamps b => some b
  | _ => none

/-- The value of a key, and what it gives. Other keys have any value. -/
inductive Says : String → List UInt8 → Setting → List UInt8 → Prop
  | level {key : String} {s rest : List UInt8} {t : Threshold} (hk : key = "level")
      (h : LevelText s t rest) : Says key s (.level t) rest
  | filters {key : String} {s rest : List UInt8} {f : Option String} (hk : key = "filters")
      (h : FiltersText s f rest) : Says key s (.filters f) rest
  | timestamps {key : String} {s rest : List UInt8} {b : Bool} (hk : key = "timestamps")
      (h : TimestampsText s b rest) : Says key s (.timestamps b) rest
  | other {key : String} {s rest : List UInt8} (hk : key ∉ ["level", "filters", "timestamps"])
      (h : Value s rest) : Says key s .other rest

/-- A key with its value. The key counts by what it spells. -/
inductive Member : List UInt8 → Setting → List UInt8 → Prop
  | pair {s s₁ s₂ s₃ rest : List UInt8} {key : String} {x : Setting}
      (hk : Spells s key.toList s₁) (hc : Blanks s₁ (colon :: s₂)) (hb : Blanks s₂ s₃)
      (hv : Says key s₃ x rest) : Member (quoteMark :: s) x rest

/-- Members, one or more, up to and with the closing brace. -/
inductive Members : List UInt8 → List Setting → List UInt8 → Prop
  | last {s s₁ rest : List UInt8} {x : Setting} (hm : Member s x s₁)
      (he : Blanks s₁ (closeBrace :: rest)) : Members s [x] rest
  | more {s s₁ s₂ s₃ rest : List UInt8} {x : Setting} {xs : List Setting} (hm : Member s x s₁)
      (hc : Blanks s₁ (comma :: s₂)) (hb : Blanks s₂ s₃) (h : Members s₃ xs rest) :
      Members s (x :: xs) rest

/-- Every field is given at most once, and the draft holds what is given. -/
structure Gives (xs : List Setting) (d : Draft) : Prop where
  level : xs.filterMap Setting.level? = d.level.toList
  filters : xs.filterMap Setting.filters? = d.filters.toList
  timestamps : xs.filterMap Setting.timestamps? = d.timestamps.toList

/-- The object or list that a document consists of. A list has at most three values, in the order of
the fields. -/
inductive Root : List UInt8 → Draft → List UInt8 → Prop
  | emptyObject {s rest : List UInt8} (he : Blanks s (closeBrace :: rest)) :
      Root (openBrace :: s) {} rest
  | object {s s₁ rest : List UInt8} {xs : List Setting} {d : Draft} (hb : Blanks s s₁)
      (hm : Members s₁ xs rest) (hg : Gives xs d) : Root (openBrace :: s) d rest
  | emptyList {s rest : List UInt8} (he : Blanks s (closeBracket :: rest)) :
      Root (openBracket :: s) {} rest
  | one {s s₁ s₂ rest : List UInt8} {t : Threshold} (hb : Blanks s s₁) (hl : LevelText s₁ t s₂)
      (he : Blanks s₂ (closeBracket :: rest)) : Root (openBracket :: s) { level := some t } rest
  | two {s s₁ s₂ s₃ s₄ s₅ rest : List UInt8} {t : Threshold} {f : Option String} (hb : Blanks s s₁)
      (hl : LevelText s₁ t s₂) (hc : Blanks s₂ (comma :: s₃)) (hb' : Blanks s₃ s₄)
      (hf : FiltersText s₄ f s₅) (he : Blanks s₅ (closeBracket :: rest)) :
      Root (openBracket :: s) { level := some t, filters := some f } rest
  | three {s s₁ s₂ s₃ s₄ s₅ s₆ s₇ s₈ rest : List UInt8} {t : Threshold} {f : Option String} {b : Bool}
      (hb : Blanks s s₁) (hl : LevelText s₁ t s₂) (hc : Blanks s₂ (comma :: s₃)) (hb' : Blanks s₃ s₄)
      (hf : FiltersText s₄ f s₅) (hc' : Blanks s₅ (comma :: s₆)) (hb'' : Blanks s₆ s₇)
      (ht : TimestampsText s₇ b s₈) (he : Blanks s₈ (closeBracket :: rest)) :
      Root (openBracket :: s) ⟨some t, some f, some b⟩ rest

/-- A document with only blanks around its root. A field that is not given is `Info`, no filters, or
true. -/
inductive Document : List UInt8 → Settings → Prop
  | whole {bytes s rest : List UInt8} {d : Draft} (hb : Blanks bytes s) (hr : Root s d rest)
      (he : Blanks rest []) :
      Document bytes ⟨d.level.getD (.upTo .info), d.filters.getD none, d.timestamps.getD true⟩

/-! ### Kept values are values -/

lemma LevelText.value {s rest : List UInt8} {t : Threshold} (h : LevelText s t rest) :
    Value s rest := by
  cases h with
  | name hn =>
    obtain ⟨hs, -⟩ := hn
    exact .text hs.passes
  | object hb hn hc hv hnull he =>
    obtain ⟨hs, -⟩ := hn
    exact .filled .object (.last (.key hb hs.passes hc) hv (.word (by simp) hnull) he)

lemma FiltersText.value {s rest : List UInt8} {f : Option String} (h : FiltersText s f rest) :
    Value s rest := by
  cases h with
  | null h => exact .word (by simp) h
  | text hs => exact .text hs.passes

lemma TimestampsText.value {s rest : List UInt8} {b : Bool} (h : TimestampsText s b rest) :
    Value s rest := by
  refine .word ?_ h
  cases b <;> simp

/-! ### Levels, filters and truth values -/

lemma ofName?_eq_some_iff {cs : List Char} {t : Threshold} :
    Threshold.ofName? cs = some t ↔ cs.map Char.toUpper = t.name.toList := by
  constructor
  · intro h
    unfold Threshold.ofName? at h
    have hname := List.find?_some h
    exact (of_decide_eq_true hname).symm
  · intro h
    rw [Threshold.ofName?, h]
    rcases t with _ | level
    · decide
    · cases level <;> decide

lemma readString_file_eq_ok_iff {s rest : List UInt8} {text : String} :
    readString .file s = .ok (text, rest) ↔ Spells s text.toList rest := by
  unfold readString
  constructor
  · intro h
    obtain ⟨⟨content, r⟩, ht, h⟩ := bind_eq_ok_iff.1 h
    obtain ⟨text', hs, h⟩ := bind_eq_ok_iff.1 h
    obtain ⟨rfl, rfl⟩ := Prod.mk.inj (Except.ok.inj h)
    unfold Source.settle at hs
    dsimp only at hs
    split at hs
    · next cs hcs =>
      obtain rfl := Except.ok.inj hs
      rw [← (Utf8.decode?_eq_some_iff_encode _ _).1 hcs] at ht
      rw [String.toList_ofList]
      exact readText_eq_ok_iff.1 ht
    · cases hs
  · intro h
    refine bind_eq_ok_iff.2 ⟨_, readText_eq_ok_iff.2 h, ?_⟩
    refine bind_eq_ok_iff.2 ⟨text, ?_, rfl⟩
    rw [Source.settle, (Utf8.decode?_eq_some_iff_encode _ _).2 rfl]
    exact congrArg Except.ok String.ofList_toList

lemma readColon_eq_ok_iff {s rest : List UInt8} :
    readColon s = .ok rest ↔ Blanks s (colon :: rest) := by
  rw [blanks_cons_iff (by decide)]
  unfold readColon
  split
  · next h => simp [h, stop]
  · next b r h => by_cases hb : b = colon <;> simp [h, hb, stop]

lemma readLevelName_eq_ok_iff {s rest : List UInt8} {t : Threshold} :
    readLevelName .file s = .ok (t, rest) ↔ LevelName s t rest := by
  unfold readLevelName
  constructor
  · intro h
    obtain ⟨⟨name, r⟩, hs, h⟩ := bind_eq_ok_iff.1 h
    dsimp only at h
    split at h
    · next level hlevel =>
      obtain ⟨rfl, rfl⟩ := Prod.mk.inj (Except.ok.inj h)
      exact .spelled (readString_file_eq_ok_iff.1 hs) (ofName?_eq_some_iff.1 hlevel)
    · simp [stop] at h
  · rintro ⟨hs, hn⟩
    rename_i cs
    refine bind_eq_ok_iff.2 ⟨(String.ofList cs, rest), readString_file_eq_ok_iff.2 ?_, ?_⟩
    · rwa [String.toList_ofList]
    · dsimp only
      rw [String.toList_ofList, ofName?_eq_some_iff.2 hn]
      rfl

lemma readNull_eq_ok_iff {source : Source} {s rest : List UInt8} :
    readNull source s = .ok rest ↔ ∃ s', Blanks s s' ∧ Word "null" s' rest := by
  constructor
  · intro h
    refine ⟨_, blanks_skipBlanks s, ?_⟩
    unfold readNull at h
    split at h
    · simp [stop] at h
    · next b r hs =>
      split at h
      · next hb => rw [hs, word_null_iff, hb, readWord_eq_ok_iff.1 h]
      · exact absurd h mistyped_ne_ok
  · rintro ⟨s', hb, h⟩
    obtain rfl := word_null_iff.1 h
    rw [readNull, (blanks_cons_iff (by decide)).1 hb]
    exact (if_pos rfl).trans (readWord_eq_ok_iff.2 rfl)

lemma closeLevel_eq_ok_iff {s rest : List UInt8} {t t' : Threshold} :
    closeLevel t s = .ok (t', rest) ↔ t = t' ∧ Blanks s (closeBrace :: rest) := by
  rw [blanks_cons_iff (by decide)]
  unfold closeLevel
  split
  · next h => simp [h, stop]
  · next b r h => by_cases hb : b = closeBrace <;> simp [h, hb, stop]

lemma readLevelObject_eq_ok_iff {s rest : List UInt8} {t : Threshold} :
    readLevelObject .file s = .ok (t, rest) ↔ LevelText (openBrace :: s) t rest := by
  constructor
  · intro h
    unfold readLevelObject at h
    split at h
    · simp [stop] at h
    · next b r hs =>
      split at h
      · next hb =>
        obtain ⟨⟨level, r₁⟩, h₁, h⟩ := bind_eq_ok_iff.1 h
        obtain ⟨r₂, h₂, h⟩ := bind_eq_ok_iff.1 h
        obtain ⟨r₃, h₃, h⟩ := bind_eq_ok_iff.1 h
        obtain ⟨r₄, hv, hnull⟩ := readNull_eq_ok_iff.1 h₃
        obtain ⟨rfl, he⟩ := closeLevel_eq_ok_iff.1 h
        exact .object ((blanks_cons_iff (by decide)).2 (hb ▸ hs)) (readLevelName_eq_ok_iff.1 h₁)
          (readColon_eq_ok_iff.1 h₂) hv hnull he
      · split at h <;> simp [stop] at h
  · intro h
    cases h with
    | object hb hn hc hv hnull he =>
      rw [readLevelObject, (blanks_cons_iff (by decide)).1 hb]
      refine (if_pos rfl).trans (bind_eq_ok_iff.2 ⟨(t, _), readLevelName_eq_ok_iff.2 hn, ?_⟩)
      refine bind_eq_ok_iff.2 ⟨_, readColon_eq_ok_iff.2 hc, ?_⟩
      refine bind_eq_ok_iff.2 ⟨_, readNull_eq_ok_iff.2 ⟨_, hv, hnull⟩, ?_⟩
      exact closeLevel_eq_ok_iff.2 ⟨rfl, he⟩

lemma readLevel_eq_ok_iff {s rest : List UInt8} {t : Threshold} :
    readLevel .file s = .ok (t, rest) ↔ ∃ s', Blanks s s' ∧ LevelText s' t rest := by
  constructor
  · intro h
    refine ⟨_, blanks_skipBlanks s, ?_⟩
    unfold readLevel at h
    split at h
    · simp [stop] at h
    · next b r hs =>
      rw [hs]
      split at h
      · next hb => exact hb ▸ .name (readLevelName_eq_ok_iff.1 h)
      · split at h
        · next hb => exact hb ▸ readLevelObject_eq_ok_iff.1 h
        · simp [stop] at h
  · rintro ⟨s', hb, h⟩
    cases h with
    | name hn =>
      rw [readLevel, (blanks_cons_iff (by decide)).1 hb]
      exact (if_pos rfl).trans (readLevelName_eq_ok_iff.2 hn)
    | object hq hn hc hv hnull he =>
      rw [readLevel, (blanks_cons_iff (by decide)).1 hb]
      exact (if_neg (by decide)).trans
        ((if_pos rfl).trans (readLevelObject_eq_ok_iff.2 (.object hq hn hc hv hnull he)))

lemma readFilters_eq_ok_iff {s rest : List UInt8} {f : Option String} :
    readFilters .file s = .ok (f, rest) ↔ ∃ s', Blanks s s' ∧ FiltersText s' f rest := by
  constructor
  · intro h
    refine ⟨_, blanks_skipBlanks s, ?_⟩
    unfold readFilters at h
    split at h
    · simp [stop] at h
    · next b r hs =>
      rw [hs]
      split at h
      · next hb =>
        obtain ⟨r₁, h₁, h⟩ := bind_eq_ok_iff.1 h
        obtain ⟨rfl, rfl⟩ := Prod.mk.inj (Except.ok.inj h)
        exact .null (word_null_iff.2 (by rw [hb, readWord_eq_ok_iff.1 h₁]))
      · split at h
        · next hb =>
          obtain ⟨⟨text, r₁⟩, h₁, h⟩ := bind_eq_ok_iff.1 h
          obtain ⟨rfl, rfl⟩ := Prod.mk.inj (Except.ok.inj h)
          have hs := FiltersText.text (readString_file_eq_ok_iff.1 h₁)
          rw [String.ofList_toList] at hs
          exact hb ▸ hs
        · exact absurd h mistyped_ne_ok
  · rintro ⟨s', hb, h⟩
    cases h with
    | null h =>
      obtain rfl := word_null_iff.1 h
      rw [readFilters, (blanks_cons_iff (by decide)).1 hb]
      exact (if_pos rfl).trans (bind_eq_ok_iff.2 ⟨rest, readWord_eq_ok_iff.2 rfl, rfl⟩)
    | text hs =>
      rename_i cs
      rw [readFilters, (blanks_cons_iff (by decide)).1 hb]
      refine (if_neg (by decide)).trans ((if_pos rfl).trans
        (bind_eq_ok_iff.2 ⟨(String.ofList cs, rest), readString_file_eq_ok_iff.2 ?_, rfl⟩))
      rwa [String.toList_ofList]

lemma readTimestamps_eq_ok_iff {source : Source} {s rest : List UInt8} {b : Bool} :
    readTimestamps source s = .ok (b, rest) ↔ ∃ s', Blanks s s' ∧ TimestampsText s' b rest := by
  constructor
  · intro h
    refine ⟨_, blanks_skipBlanks s, ?_⟩
    unfold readTimestamps at h
    split at h
    · simp [stop] at h
    · next d r hs =>
      rw [hs]
      split at h
      · next hd =>
        obtain ⟨r₁, h₁, h⟩ := bind_eq_ok_iff.1 h
        obtain ⟨rfl, rfl⟩ := Prod.mk.inj (Except.ok.inj h)
        exact word_true_iff.2 (by rw [hd, readWord_eq_ok_iff.1 h₁])
      · split at h
        · next hd =>
          obtain ⟨r₁, h₁, h⟩ := bind_eq_ok_iff.1 h
          obtain ⟨rfl, rfl⟩ := Prod.mk.inj (Except.ok.inj h)
          exact word_false_iff.2 (by rw [hd, readWord_eq_ok_iff.1 h₁])
        · exact absurd h mistyped_ne_ok
  · rintro ⟨s', hb, h⟩
    cases b with
    | true =>
      obtain rfl := word_true_iff.1 h
      rw [readTimestamps, (blanks_cons_iff (by decide)).1 hb]
      exact (if_pos rfl).trans (bind_eq_ok_iff.2 ⟨rest, readWord_eq_ok_iff.2 rfl, rfl⟩)
    | false =>
      obtain rfl := word_false_iff.1 h
      rw [readTimestamps, (blanks_cons_iff (by decide)).1 hb]
      exact (if_neg (by decide)).trans
        ((if_pos rfl).trans (bind_eq_ok_iff.2 ⟨rest, readWord_eq_ok_iff.2 rfl, rfl⟩))

/-! ### Members -/

lemma gives_nil : Gives [] {} := ⟨rfl, rfl, rfl⟩

/-- A member more adds what it gives. -/
theorem Gives.append_iff {xs : List Setting} {d d' : Draft} (h : Gives xs d) (x : Setting) :
    Gives (xs ++ [x]) d' ↔ d.level.toList ++ x.level?.toList = d'.level.toList ∧
      d.filters.toList ++ x.filters?.toList = d'.filters.toList ∧
      d.timestamps.toList ++ x.timestamps?.toList = d'.timestamps.toList := by
  have one : ∀ {α : Type} (f : Setting → Option α), [x].filterMap f = (f x).toList := fun f => by
    cases hx : f x <;> simp [hx]
  constructor
  · rintro ⟨hl, hf, ht⟩
    rw [List.filterMap_append, one] at hl hf ht
    rw [h.level] at hl
    rw [h.filters] at hf
    rw [h.timestamps] at ht
    exact ⟨hl, hf, ht⟩
  · rintro ⟨hl, hf, ht⟩
    constructor
    · rw [List.filterMap_append, one, h.level, hl]
    · rw [List.filterMap_append, one, h.filters, hf]
    · rw [List.filterMap_append, one, h.timestamps, ht]

lemma toList_append_none_iff {α : Type} {a b : Option α} :
    a.toList ++ (none : Option α).toList = b.toList ↔ b = a := by
  cases a <;> cases b <;> simp [eq_comm]

lemma toList_append_some_iff {α : Type} {a b : Option α} {x : α} :
    a.toList ++ (some x).toList = b.toList ↔ a = none ∧ b = some x := by
  cases a <;> cases b <;> simp
  exact eq_comm

def Setting.isNewIn (d : Draft) : Setting → Bool
  | .level _ => d.level.isNone
  | .filters _ => d.filters.isNone
  | .timestamps _ => d.timestamps.isNone
  | .other => true

def Draft.put (d : Draft) : Setting → Draft
  | .level t => { d with level := some t }
  | .filters f => { d with filters := some f }
  | .timestamps b => { d with timestamps := some b }
  | .other => d

lemma Gives.concat_iff {xs : List Setting} {d d' : Draft} (h : Gives xs d) (x : Setting) :
    Gives (xs ++ [x]) d' ↔ x.isNewIn d = true ∧ d' = d.put x := by
  rw [h.append_iff]
  cases d
  cases d'
  cases x <;>
    simp only [Setting.level?, Setting.filters?, Setting.timestamps?, Setting.isNewIn, Draft.put,
      toList_append_none_iff, toList_append_some_iff, Draft.mk.injEq, Option.isNone_iff_eq_none] <;>
    tauto

lemma exists_toList_of_append {α : Type} {l l' : List α} {a : Option α} (h : l ++ l' = a.toList) :
    ∃ b : Option α, l = b.toList := by
  cases l with
  | nil => exact ⟨none, rfl⟩
  | cons x l =>
    cases a with
    | none => cases h
    | some y =>
      obtain ⟨-, hnil⟩ := List.cons_eq_cons.1 h
      exact ⟨some x, by rw [(List.append_eq_nil_iff.1 hnil).1]; rfl⟩

/-- What is given at most once in all members is given at most once in the first of them. -/
theorem Gives.of_append {xs ys : List Setting} {d : Draft} (h : Gives (xs ++ ys) d) :
    ∃ d', Gives xs d' := by
  obtain ⟨hl, hf, ht⟩ := h
  rw [List.filterMap_append] at hl hf ht
  obtain ⟨level, hl⟩ := exists_toList_of_append hl
  obtain ⟨filters, hf⟩ := exists_toList_of_append hf
  obtain ⟨timestamps, ht⟩ := exists_toList_of_append ht
  exact ⟨⟨level, filters, timestamps⟩, hl, hf, ht⟩

section

variable {α : Type} {read : List UInt8 → Except Fault (α × List UInt8)}
  {Text : List UInt8 → α → List UInt8 → Prop}
  (hread : ∀ {s rest : List UInt8} {v : α},
    read s = .ok (v, rest) ↔ ∃ s', Blanks s s' ∧ Text s' v rest)
  {name : String} {given : Option α} {put : α → Draft} {s rest : List UInt8}

include hread

/-- A field is read iff it was not given before and a text of its kind is behind the colon. -/
theorem readField_eq_ok_iff {d : Draft} :
    readField name given read put s = .ok (d, rest) ↔ given = none ∧
      ∃ s₁ s₂ v, Blanks s (colon :: s₁) ∧ Blanks s₁ s₂ ∧ Text s₂ v rest ∧ d = put v := by
  unfold readField
  constructor
  · intro h
    split at h
    · exact absurd h repeated_ne_ok
    · next hnew =>
      obtain ⟨s₁, h₁, h⟩ := bind_eq_ok_iff.1 h
      obtain ⟨⟨v, r⟩, h₂, h⟩ := bind_eq_ok_iff.1 h
      obtain ⟨rfl, rfl⟩ := Prod.mk.inj (Except.ok.inj h)
      obtain ⟨s₂, hb, ht⟩ := hread.1 h₂
      exact ⟨by simpa using hnew, s₁, s₂, v, readColon_eq_ok_iff.1 h₁, hb, ht, rfl⟩
  · rintro ⟨rfl, s₁, s₂, v, hc, hb, ht, rfl⟩
    rw [Option.isSome_none, if_neg Bool.false_ne_true]
    exact bind_eq_ok_iff.2 ⟨s₁, readColon_eq_ok_iff.2 hc,
      bind_eq_ok_iff.2 ⟨_, hread.2 ⟨s₂, hb, ht⟩, rfl⟩⟩

/-- The draft behind a field that is read holds what the field gives, and what was given before. -/
theorem Gives.readField_eq_ok_iff {xs : List Setting} {d d' : Draft} (hd : Gives xs d)
    (field : α → Setting) (hnew : ∀ v, (field v).isNewIn d = given.isNone)
    (hput : ∀ v, put v = d.put (field v)) :
    readField name given read put s = .ok (d', rest) ↔
      ∃ s₁ s₂ v, Blanks s (colon :: s₁) ∧ Blanks s₁ s₂ ∧ Text s₂ v rest ∧
        Gives (xs ++ [field v]) d' := by
  simp only [Settings.readField_eq_ok_iff hread, hd.concat_iff, hnew, hput, Option.isNone_iff_eq_none]
  constructor
  · rintro ⟨hnone, s₁, s₂, v, hc, hb, ht, hd'⟩
    exact ⟨s₁, s₂, v, hc, hb, ht, hnone, hd'⟩
  · rintro ⟨s₁, s₂, v, hc, hb, ht, hnone, hd'⟩
    exact ⟨hnone, s₁, s₂, v, hc, hb, ht, hd'⟩

end

section

variable {xs : List Setting} {d d' : Draft} (hd : Gives xs d) {key : String} {s rest : List UInt8}
  (hrest : Delimits rest)

include hd hrest

lemma Gives.says_of_readMember (h : readMember .file d key s = .ok (d', rest)) :
    ∃ s₁ s₂ x, Blanks s (colon :: s₁) ∧ Blanks s₁ s₂ ∧ Says key s₂ x rest ∧ Gives (xs ++ [x]) d' := by
  unfold readMember at h
  split at h
  · next hk =>
    obtain ⟨s₁, s₂, t, hc, hb, ht, hg⟩ :=
      (hd.readField_eq_ok_iff readLevel_eq_ok_iff .level (fun _ => rfl) (fun _ => rfl)).1 h
    exact ⟨s₁, s₂, _, hc, hb, .level hk ht, hg⟩
  · next hlevel =>
    split at h
    · next hk =>
      obtain ⟨s₁, s₂, f, hc, hb, hf, hg⟩ :=
        (hd.readField_eq_ok_iff readFilters_eq_ok_iff .filters (fun _ => rfl) (fun _ => rfl)).1 h
      exact ⟨s₁, s₂, _, hc, hb, .filters hk hf, hg⟩
    · next hfilters =>
      split at h
      · next hk =>
        obtain ⟨s₁, s₂, b, hc, hb, ht, hg⟩ :=
          (hd.readField_eq_ok_iff readTimestamps_eq_ok_iff .timestamps (fun _ => rfl)
            (fun _ => rfl)).1 h
        exact ⟨s₁, s₂, _, hc, hb, .timestamps hk ht, hg⟩
      · next htimestamps =>
        obtain ⟨s₁, h₁, h⟩ := bind_eq_ok_iff.1 h
        obtain ⟨r, h₂, h⟩ := bind_eq_ok_iff.1 h
        obtain ⟨rfl, rfl⟩ := Prod.mk.inj (Except.ok.inj h)
        obtain ⟨s₂, hb, hv⟩ := (skipValue_eq_ok_iff hrest).1 h₂
        have hk : key ∉ ["level", "filters", "timestamps"] := by simp [hlevel, hfilters, htimestamps]
        exact ⟨s₁, s₂, _, readColon_eq_ok_iff.1 h₁, hb, .other hk hv,
          (hd.concat_iff .other).2 ⟨rfl, rfl⟩⟩

lemma Gives.readMember_of_says {s₁ s₂ : List UInt8} {x : Setting} (hc : Blanks s (colon :: s₁))
    (hb : Blanks s₁ s₂) (hx : Says key s₂ x rest) (hg : Gives (xs ++ [x]) d') :
    readMember .file d key s = .ok (d', rest) := by
  unfold readMember
  cases hx with
  | level hk h =>
    rw [if_pos hk]
    exact (hd.readField_eq_ok_iff readLevel_eq_ok_iff .level (fun _ => rfl) (fun _ => rfl)).2
      ⟨s₁, s₂, _, hc, hb, h, hg⟩
  | filters hk h =>
    rw [hk, if_neg (by decide), if_pos rfl]
    exact (hd.readField_eq_ok_iff readFilters_eq_ok_iff .filters (fun _ => rfl) (fun _ => rfl)).2
      ⟨s₁, s₂, _, hc, hb, h, hg⟩
  | timestamps hk h =>
    rw [hk, if_neg (by decide), if_neg (by decide), if_pos rfl]
    exact (hd.readField_eq_ok_iff readTimestamps_eq_ok_iff .timestamps (fun _ => rfl)
      (fun _ => rfl)).2 ⟨s₁, s₂, _, hc, hb, h, hg⟩
  | other hk h =>
    obtain ⟨-, rfl⟩ := (hd.concat_iff .other).1 hg
    simp only [List.mem_cons, List.not_mem_nil, or_false, not_or] at hk
    rw [if_neg hk.1, if_neg hk.2.1, if_neg hk.2.2]
    exact bind_eq_ok_iff.2 ⟨s₁, readColon_eq_ok_iff.2 hc,
      bind_eq_ok_iff.2 ⟨rest, (skipValue_eq_ok_iff hrest).2 ⟨s₂, hb, h⟩, rfl⟩⟩

lemma readMember_eq_ok_iff :
    readMember .file d key s = .ok (d', rest) ↔ ∃ s₁ s₂ x, Blanks s (colon :: s₁) ∧ Blanks s₁ s₂ ∧
      Says key s₂ x rest ∧ Gives (xs ++ [x]) d' :=
  ⟨hd.says_of_readMember hrest,
    fun ⟨_, _, _, hc, hb, hx, hg⟩ => hd.readMember_of_says hrest hc hb hx hg⟩

end

lemma readKeyed_eq_ok_iff {xs : List Setting} {d d' : Draft} (hd : Gives xs d)
    {s rest : List UInt8} (hrest : Delimits rest) :
    readKeyed .file d s = .ok (d', rest) ↔
      ∃ x, Member (quoteMark :: s) x rest ∧ Gives (xs ++ [x]) d' := by
  unfold readKeyed
  constructor
  · intro h
    obtain ⟨⟨key, s₁⟩, hk, h⟩ := bind_eq_ok_iff.1 h
    obtain ⟨s₂, s₃, x, hc, hb, hv, hg⟩ := (readMember_eq_ok_iff hd hrest).1 h
    exact ⟨x, .pair (readString_file_eq_ok_iff.1 hk) hc hb hv, hg⟩
  · rintro ⟨x, ⟨hk, hc, hb, hv⟩, hg⟩
    exact bind_eq_ok_iff.2 ⟨_, readString_file_eq_ok_iff.2 hk,
      (readMember_eq_ok_iff hd hrest).2 ⟨_, _, x, hc, hb, hv, hg⟩⟩

lemma nextKey_eq_ok_iff {s rest : List UInt8} :
    nextKey s = .ok rest ↔ Blanks s (quoteMark :: rest) := by
  rw [blanks_cons_iff (by decide)]
  unfold nextKey
  split
  · next h => simp [h, stop]
  · next b r h =>
    by_cases hb : b = quoteMark
    · simp [h, hb]
    · rw [if_neg hb]
      split <;> simp [h, hb, stop]

/-! ### Objects and lists -/

/-- Reading members without the proof that it ends. -/
theorem readMembers_eq (source : Source) (d : Draft) (s : List UInt8) :
    readMembers source d s = (do
      let (d, rest) ← readKeyed source d s
      match skipBlanks rest with
      | [] => stop .endInObject []
      | b :: rest =>
        if b = closeBrace then .ok (d, rest)
        else if b = comma then nextKey rest >>= readMembers source d
        else stop .objectEndExpected rest) := by
  rw [readMembers]
  split
  · next h => rw [h]; rfl
  · next d' rest h =>
    simp only [h, bind, Except.bind]
    split
    · next hs => simp only [hs]
    · next b rest' hs =>
      simp only [hs]
      split
      · rfl
      · split
        · split
          · next hk => simp only [hk]
          · next hk => simp only [hk]
        · rfl

lemma readMembers_eq_ok_of_close {source : Source} {d d' : Draft} {s s' rest : List UInt8}
    (h : readKeyed source d s = .ok (d', s')) (he : Blanks s' (closeBrace :: rest)) :
    readMembers source d s = .ok (d', rest) := by
  rw [readMembers_eq]
  refine bind_eq_ok_iff.2 ⟨_, h, ?_⟩
  dsimp only
  rw [(blanks_cons_iff (by decide)).1 he]
  exact if_pos rfl

lemma readMembers_eq_of_comma {source : Source} {d d' : Draft} {s s' s'' rest : List UInt8}
    (h : readKeyed source d s = .ok (d', s')) (hc : Blanks s' (comma :: s''))
    (hk : nextKey s'' = .ok rest) : readMembers source d s = readMembers source d' rest := by
  rw [readMembers_eq source d s, h]
  simp only [bind, Except.bind]
  rw [(blanks_cons_iff (by decide)).1 hc]
  dsimp only
  rw [if_neg (by decide), if_pos rfl, hk]

lemma members_of_readMembers {xs : List Setting} {d d' : Draft} (hd : Gives xs d)
    {s rest : List UInt8} (h : readMembers .file d s = .ok (d', rest)) :
    ∃ ys, Members (quoteMark :: s) ys rest ∧ Gives (xs ++ ys) d' := by
  -- `d` holds what the members read so far give
  fun_induction readMembers Source.file d s generalizing xs with
  | case1 => cases h
  | case2 => simp [stop] at h
  | case3 d s d₁ s₁ hkeyed s₂ hs =>
    cases h
    have he := (blanks_cons_iff (by decide)).2 hs
    obtain ⟨x, hm, hg⟩ := (readKeyed_eq_ok_iff hd (he.delimits (by decide))).1 hkeyed
    exact ⟨[x], .last hm he, hg⟩
  | case4 => cases h
  | case5 d s d₁ s₁ hkeyed s₂ s₃ hk hs _ _ ih =>
    have hc := (blanks_cons_iff (by decide)).2 hs
    obtain ⟨x, hm, hg⟩ := (readKeyed_eq_ok_iff hd hc.delimits_comma).1 hkeyed
    obtain ⟨ys, hms, hg'⟩ := ih hg h
    exact ⟨x :: ys, .more hm hc (nextKey_eq_ok_iff.1 hk) hms, by simpa using hg'⟩
  | case6 => simp [stop] at h

lemma Members.readMembers_eq {s rest : List UInt8} {ys : List Setting} (h : Members s ys rest) :
    ∃ s', s = quoteMark :: s' ∧ ∀ {xs : List Setting} {d d' : Draft}, Gives xs d →
      Gives (xs ++ ys) d' → readMembers .file d s' = .ok (d', rest) := by
  induction h with
  | last hm he =>
    cases hm with
    | pair hk hc hb hv =>
      refine ⟨_, rfl, fun hd hg => readMembers_eq_ok_of_close ?_ he⟩
      exact (readKeyed_eq_ok_iff hd (he.delimits (by decide))).2 ⟨_, .pair hk hc hb hv, hg⟩
  | more hm hcomma hb _ ih =>
    rename_i x ys _
    obtain ⟨s', rfl, ih⟩ := ih
    cases hm with
    | pair hk hc hb' hv =>
      refine ⟨_, rfl, fun {xs _ d'} hd hg => ?_⟩
      rw [List.append_cons] at hg
      obtain ⟨d₁, hg₁⟩ := hg.of_append
      have hkeyed := (readKeyed_eq_ok_iff hd hcomma.delimits_comma).2 ⟨x, .pair hk hc hb' hv, hg₁⟩
      rw [readMembers_eq_of_comma hkeyed hcomma (nextKey_eq_ok_iff.2 hb)]
      exact ih hg₁ hg

lemma readObject_eq_ok_iff {s rest : List UInt8} {d : Draft} :
    readObject .file s = .ok (d, rest) ↔ Root (openBrace :: s) d rest := by
  constructor
  · intro h
    unfold readObject at h
    split at h
    · simp [stop] at h
    · next b r hs =>
      split at h
      · next hb =>
        cases h
        exact .emptyObject ((blanks_cons_iff (by decide)).2 (hb ▸ hs))
      · split at h
        · next hb =>
          obtain ⟨xs, hm, hg⟩ := members_of_readMembers gives_nil h
          exact .object ((blanks_cons_iff (by decide)).2 (hb ▸ hs)) hm hg
        · simp [stop] at h
  · intro h
    cases h with
    | emptyObject he =>
      rw [readObject, (blanks_cons_iff (by decide)).1 he]
      exact if_pos rfl
    | object hb hm hg =>
      obtain ⟨s', rfl, hread⟩ := hm.readMembers_eq
      rw [readObject, (blanks_cons_iff (by decide)).1 hb]
      exact (if_neg (by decide)).trans ((if_pos rfl).trans (hread gives_nil hg))

lemma closeList_eq_ok_iff {s rest : List UInt8} {d d' : Draft} :
    closeList d s = .ok (d', rest) ↔ d = d' ∧ Blanks s (closeBracket :: rest) := by
  rw [blanks_cons_iff (by decide)]
  unfold closeList
  split
  · next h => simp [h, stop]
  · next b r h =>
    by_cases hb : b = closeBracket
    · simp [h, hb]
    · rw [if_neg hb]
      split
      · split
        · simp [h, hb, stop]
        · split <;> simp [h, hb, stop]
      · simp [h, hb, stop]

lemma blanks_of_firstItem {s s' : List UInt8} (h : firstItem s = .ok (.more s')) : Blanks s s' := by
  unfold firstItem at h
  split at h
  · simp [stop] at h
  · next b r hs =>
    split at h
    · cases h
    · cases h
      exact hs ▸ blanks_skipBlanks s

lemma blanks_of_nextItem {s s' : List UInt8} (h : nextItem s = .ok (.more s')) :
    ∃ s₁, Blanks s (comma :: s₁) ∧ Blanks s₁ s' := by
  unfold nextItem at h
  split at h
  · simp [stop] at h
  · next b r hs =>
    split at h
    · cases h
    · split at h
      · next hb =>
        split at h
        · simp [stop] at h
        · next c r' hr =>
          split at h
          · simp [stop] at h
          · cases h
            exact ⟨r, (blanks_cons_iff (by decide)).2 (hb ▸ hs), hr ▸ blanks_skipBlanks r⟩
      · simp [stop] at h

lemma firstItem_of_value {s s' rest : List UInt8} (hb : Blanks s s') (hv : Value s' rest) :
    firstItem s = .ok (.more s') := by
  obtain ⟨b, t, rfl, hblank, hclose⟩ := hv.head
  rw [firstItem, (blanks_cons_iff hblank).1 hb]
  exact if_neg hclose

lemma nextItem_of_value {s s₁ s' rest : List UInt8} (hc : Blanks s (comma :: s₁))
    (hb : Blanks s₁ s') (hv : Value s' rest) : nextItem s = .ok (.more s') := by
  obtain ⟨b, t, rfl, hblank, hclose⟩ := hv.head
  rw [nextItem, (blanks_cons_iff (by decide)).1 hc]
  dsimp only
  rw [if_neg (by decide), if_pos rfl, (blanks_cons_iff hblank).1 hb]
  exact if_neg hclose

lemma firstItem_of_close {s rest : List UInt8} (he : Blanks s (closeBracket :: rest)) :
    firstItem s = .ok .last := by
  rw [firstItem, (blanks_cons_iff (by decide)).1 he]
  exact if_pos rfl

lemma nextItem_of_close {s rest : List UInt8} (he : Blanks s (closeBracket :: rest)) :
    nextItem s = .ok .last := by
  rw [nextItem, (blanks_cons_iff (by decide)).1 he]
  exact if_pos rfl

section

variable {α : Type} {read : List UInt8 → Except Fault (α × List UInt8)}
  {Text : List UInt8 → α → List UInt8 → Prop}
  (hread : ∀ {s rest : List UInt8} {v : α},
    read s = .ok (v, rest) ↔ ∃ s', Blanks s s' ∧ Text s' v rest)
  {s s₁ s₂ : List UInt8} {v : α}

include hread

lemma text_of_firstItem (hitem : firstItem s = .ok (.more s₁)) (h : read s₁ = .ok (v, s₂)) :
    ∃ s', Blanks s s' ∧ Text s' v s₂ := by
  obtain ⟨s', hb, ht⟩ := hread.1 h
  exact ⟨s', (blanks_of_firstItem hitem).trans hb, ht⟩

lemma text_of_nextItem (hitem : nextItem s = .ok (.more s₁)) (h : read s₁ = .ok (v, s₂)) :
    ∃ r s', Blanks s (comma :: r) ∧ Blanks r s' ∧ Text s' v s₂ := by
  obtain ⟨r, hc, hr⟩ := blanks_of_nextItem hitem
  obtain ⟨s', hb, ht⟩ := hread.1 h
  exact ⟨r, s', hc, hr.trans hb, ht⟩

end

lemma root_of_readItems {s s' rest : List UInt8} {d : Draft} (h : readItems .file s = .ok (d, s'))
    (he : Blanks s' (closeBracket :: rest)) : Root (openBracket :: s) d rest := by
  unfold readItems at h
  obtain ⟨first, h₁, h⟩ := bind_eq_ok_iff.1 h
  cases first with
  | last =>
    cases h
    exact .emptyList he
  | more s₁ =>
    obtain ⟨⟨t, s₂⟩, hlevel, h⟩ := bind_eq_ok_iff.1 h
    obtain ⟨s₁', hb, hl⟩ := text_of_firstItem readLevel_eq_ok_iff h₁ hlevel
    obtain ⟨second, h₂, h⟩ := bind_eq_ok_iff.1 h
    cases second with
    | last =>
      cases h
      exact .one hb hl he
    | more s₃ =>
      obtain ⟨⟨f, s₄⟩, hfilters, h⟩ := bind_eq_ok_iff.1 h
      obtain ⟨s₃', s₃'', hc, hb', hf⟩ := text_of_nextItem readFilters_eq_ok_iff h₂ hfilters
      obtain ⟨third, h₃, h⟩ := bind_eq_ok_iff.1 h
      cases third with
      | last =>
        cases h
        exact .two hb hl hc hb' hf he
      | more s₅ =>
        obtain ⟨⟨b, s₆⟩, htimestamps, h⟩ := bind_eq_ok_iff.1 h
        cases h
        obtain ⟨s₅', s₅'', hc', hb'', ht⟩ := text_of_nextItem readTimestamps_eq_ok_iff h₃ htimestamps
        exact .three hb hl hc hb' hf hc' hb'' ht he

lemma Root.exists_readItems {s rest : List UInt8} {d : Draft} (h : Root (openBracket :: s) d rest) :
    ∃ s', readItems .file s = .ok (d, s') ∧ Blanks s' (closeBracket :: rest) := by
  cases h with
  | emptyList he => exact ⟨_, bind_eq_ok_iff.2 ⟨_, firstItem_of_close he, rfl⟩, he⟩
  | one hb hl he =>
    refine ⟨_, bind_eq_ok_iff.2 ⟨_, firstItem_of_value hb hl.value, ?_⟩, he⟩
    refine bind_eq_ok_iff.2 ⟨_, readLevel_eq_ok_iff.2 ⟨_, .none _, hl⟩, ?_⟩
    exact bind_eq_ok_iff.2 ⟨_, nextItem_of_close he, rfl⟩
  | two hb hl hc hb' hf he =>
    refine ⟨_, bind_eq_ok_iff.2 ⟨_, firstItem_of_value hb hl.value, ?_⟩, he⟩
    refine bind_eq_ok_iff.2 ⟨_, readLevel_eq_ok_iff.2 ⟨_, .none _, hl⟩, ?_⟩
    refine bind_eq_ok_iff.2 ⟨_, nextItem_of_value hc hb' hf.value, ?_⟩
    refine bind_eq_ok_iff.2 ⟨_, readFilters_eq_ok_iff.2 ⟨_, .none _, hf⟩, ?_⟩
    exact bind_eq_ok_iff.2 ⟨_, nextItem_of_close he, rfl⟩
  | three hb hl hc hb' hf hc' hb'' ht he =>
    refine ⟨_, bind_eq_ok_iff.2 ⟨_, firstItem_of_value hb hl.value, ?_⟩, he⟩
    refine bind_eq_ok_iff.2 ⟨_, readLevel_eq_ok_iff.2 ⟨_, .none _, hl⟩, ?_⟩
    refine bind_eq_ok_iff.2 ⟨_, nextItem_of_value hc hb' hf.value, ?_⟩
    refine bind_eq_ok_iff.2 ⟨_, readFilters_eq_ok_iff.2 ⟨_, .none _, hf⟩, ?_⟩
    refine bind_eq_ok_iff.2 ⟨_, nextItem_of_value hc' hb'' ht.value, ?_⟩
    exact bind_eq_ok_iff.2 ⟨_, readTimestamps_eq_ok_iff.2 ⟨_, .none _, ht⟩, rfl⟩

lemma readList_eq_ok_iff {s rest : List UInt8} {d : Draft} :
    readList .file s = .ok (d, rest) ↔ Root (openBracket :: s) d rest := by
  unfold readList
  constructor
  · intro h
    obtain ⟨⟨d', s'⟩, hitems, h⟩ := bind_eq_ok_iff.1 h
    obtain ⟨rfl, he⟩ := closeList_eq_ok_iff.1 h
    exact root_of_readItems hitems he
  · intro h
    obtain ⟨s', hitems, he⟩ := h.exists_readItems
    exact bind_eq_ok_iff.2 ⟨_, hitems, closeList_eq_ok_iff.2 ⟨rfl, he⟩⟩

/-! ### Documents -/

lemma readRoot_eq_ok_iff {s rest : List UInt8} {d : Draft} :
    readRoot .file s = .ok (d, rest) ↔ ∃ s', Blanks s s' ∧ Root s' d rest := by
  constructor
  · intro h
    refine ⟨_, blanks_skipBlanks s, ?_⟩
    unfold readRoot at h
    split at h
    · simp [stop] at h
    · next b r hs =>
      rw [hs]
      split at h
      · next hb => exact hb ▸ readList_eq_ok_iff.1 h
      · split at h
        · next hb => exact hb ▸ readObject_eq_ok_iff.1 h
        · exact absurd h mistyped_ne_ok
  · rintro ⟨s', hb, hr⟩
    have list : ∀ {t : List UInt8}, Blanks s (openBracket :: t) → Root (openBracket :: t) d rest →
        readRoot .file s = .ok (d, rest) := fun hb hr => by
      rw [readRoot, (blanks_cons_iff (by decide)).1 hb]
      exact (if_pos rfl).trans (readList_eq_ok_iff.2 hr)
    have object : ∀ {t : List UInt8}, Blanks s (openBrace :: t) → Root (openBrace :: t) d rest →
        readRoot .file s = .ok (d, rest) := fun hb hr => by
      rw [readRoot, (blanks_cons_iff (by decide)).1 hb]
      exact (if_neg (by decide)).trans ((if_pos rfl).trans (readObject_eq_ok_iff.2 hr))
    have hr' := hr
    cases hr with
    | emptyObject | object => exact object hb hr'
    | emptyList | one | two | three => exact list hb hr'

/-- A file is read iff it is a document, and gives what that says. -/
theorem readDocument_file_eq_ok_iff {bytes : List UInt8} {settings : Settings} :
    readDocument .file bytes = .ok settings ↔ Document bytes settings := by
  unfold readDocument
  constructor
  · intro h
    obtain ⟨⟨d, rest⟩, hr, h⟩ := bind_eq_ok_iff.1 h
    obtain ⟨s, hb, hr⟩ := readRoot_eq_ok_iff.1 hr
    dsimp only at h
    split at h
    · next hs =>
      obtain rfl := Except.ok.inj h
      exact .whole hb hr (blanks_nil_iff.2 hs)
    · simp [stop] at h
  · rintro ⟨hb, hr, he⟩
    refine bind_eq_ok_iff.2 ⟨_, readRoot_eq_ok_iff.2 ⟨_, hb, hr⟩, ?_⟩
    dsimp only
    rw [blanks_nil_iff.1 he]
    rfl

end Interop.Log.Settings
