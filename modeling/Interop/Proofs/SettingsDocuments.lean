import Interop.Proofs.SettingsSources

/-!
# Settings documents

A text is read as settings iff it is a document of the grammar, and any other text is refused with the
place of a fault. Settings as they are written are such a document, and it says what they were, so that
settings survive being written and read, from a text as from a file.
-/

namespace Interop.Json

open Log.Settings (jsonChar jsonText)

/-! ### Written strings -/

lemma HexUnit.append {s : List UInt8} {unit : UInt16} (h : HexUnit s unit []) (rest : List UInt8) :
    HexUnit (s ++ rest) unit rest := by
  obtain ⟨_, ha, hb, hc, hd, hu⟩ := h
  exact .four rest ha hb hc hd hu

/-- The four digits that a control character is written with. -/
def controlDigits (n : Nat) : List Char :=
  if n < 0x10 then '0' :: '0' :: '0' :: Text.hexDigits n else '0' :: '0' :: Text.hexDigits n

lemma hexUnit_controlDigits {n : Nat} (hn : n < 0x20) :
    HexUnit (Utf8.encode (controlDigits n)) n.toUInt16 [] := by
  have hall : ∀ n < 0x20, readHex (Utf8.encode (controlDigits n)) = .ok (n.toUInt16, []) := by decide
  exact readHex_eq_ok_iff.1 (hall n hn)

/-- A character is written with a letter behind a backslash, with the digits of its code if it is
another control character, or as it is. -/
theorem jsonChar_cases (c : Char) :
    (∃ b, (b, c) ∈ escapeLetters ∧ Utf8.encode (jsonChar c) = [backslash, b]) ∨
    (c.toNat < 0x20 ∧ jsonChar c = '\\' :: 'u' :: controlDigits c.toNat) ∨
    (' ' ≤ c ∧ c ≠ '"' ∧ c ≠ '\\' ∧ jsonChar c = [c]) := by
  by_cases hletter : c ∈ ['"', '\\', '\x08', '\x0c', '\n', '\r', '\t']
  · simp only [List.mem_cons, List.not_mem_nil, or_false] at hletter
    rcases hletter with rfl | rfl | rfl | rfl | rfl | rfl | rfl
    · exact .inl ⟨0x22, by decide, by decide⟩
    · exact .inl ⟨0x5C, by decide, by decide⟩
    · exact .inl ⟨0x62, by decide, by decide⟩
    · exact .inl ⟨0x66, by decide, by decide⟩
    · exact .inl ⟨0x6E, by decide, by decide⟩
    · exact .inl ⟨0x72, by decide, by decide⟩
    · exact .inl ⟨0x74, by decide, by decide⟩
  · simp only [List.mem_cons, List.not_mem_nil, or_false, not_or] at hletter
    obtain ⟨hquote, hbackslash, h₁, h₂, h₃, h₄, h₅⟩ := hletter
    rw [jsonChar, if_neg hquote, if_neg hbackslash, if_neg h₁, if_neg h₂, if_neg h₃, if_neg h₄,
      if_neg h₅]
    by_cases hc : c.toNat < 0x20
    · refine .inr (.inl ⟨hc, ?_⟩)
      by_cases hlow : c.toNat < 0x10
      · rw [controlDigits, if_pos hlow, if_pos hlow]
        rfl
      · rw [controlDigits, if_neg hlow, if_neg hlow, if_pos hc]
        rfl
    · refine .inr (.inr ⟨?_, hquote, hbackslash, ?_⟩)
      · rw [Char.le_def, UInt32.le_iff_toNat_le]
        exact Nat.not_lt.1 hc
      · rw [if_neg (by omega), if_neg hc]

/-- A written character spells the character. -/
theorem spells_jsonChar (c : Char) {s rest : List UInt8} {cs : List Char} (h : Spells s cs rest) :
    Spells (Utf8.encode (jsonChar c) ++ s) (c :: cs) rest := by
  rcases jsonChar_cases c with ⟨b, hb, henc⟩ | ⟨hc, henc⟩ | ⟨hc, hquote, hbackslash, henc⟩
  · rw [henc]
    exact .escape (.letter s hb) h
  · have hunit := (hexUnit_controlDigits hc).append s
    have hchar : Utf16.encodeChar c = [c.toNat.toUInt16] := by
      refine Utf16.encodeChar_eq_single_iff.2 (Utf16.single_of_toNat_eq ?_)
      rw [Nat.toUInt16_eq, UInt16.toNat_ofNat', Nat.mod_eq_of_lt (by omega)]
    rw [henc]
    exact .escape (.unit hunit hchar) h
  · rw [henc, Utf8.encode, List.flatMap_singleton]
    exact .plain hc hquote hbackslash h

lemma spells_flatMap_jsonChar (cs : List Char) (rest : List UInt8) :
    Spells (Utf8.encode (cs.flatMap jsonChar) ++ quoteMark :: rest) cs rest := by
  induction cs with
  | nil => exact .close rest
  | cons c cs ih =>
    rw [List.flatMap_cons, Utf8.encode, List.flatMap_append, List.append_assoc]
    exact spells_jsonChar c ih

/-- A written string stands between quotes. -/
theorem encode_jsonText_append (text : String) (rest : List UInt8) :
    Utf8.encode (jsonText text) ++ rest =
      quoteMark :: (Utf8.encode (text.toList.flatMap jsonChar) ++ quoteMark :: rest) := by
  rw [jsonText, Utf8.encode_cons, Utf8.encode, List.flatMap_append]
  simp only [List.append_assoc]
  rfl

end Interop.Json

namespace Interop.Log.Settings

open Json

/-! ### Texts -/

/-- A text is read as settings iff it is a document of the grammar that says so, and it is refused as
a faulty configuration iff it is no document. -/
theorem ofJson_accepts_exactly_documents (json : String) :
    (∀ settings, ofJson json = .ok settings ↔ Document (Utf8.ofString json) settings) ∧
      ((∃ cause position, ofJson json = .error (.config cause position)) ↔
        ¬∃ settings, Document (Utf8.ofString json) settings) := by
  have hfile : ofJson json = ofDocument .file (Utf8.ofString json) :=
    ofDocument_text (Utf8.wellFormedText_encode json.toList)
  rw [hfile]
  refine ⟨fun settings => ofDocument_file_eq_ok_iff, ?_⟩
  simp only [← ofDocument_file_eq_ok_iff]
  unfold ofDocument
  cases readDocument .file (Utf8.ofString json) <;> simp [Except.mapError]

example : ofJson "\x7b\"a\":\"\\ud800\",\"\\u006cevel\":\"wArN\"\x7d" =
    .ok { level := .upTo .warn } := by
  decide +kernel

/-! ### Written settings -/

def filtersJson : Option String → List Char
  | none => "null".toList
  | some text => jsonText text

lemma levelText_jsonText (t : Threshold) (rest : List UInt8) :
    LevelText (Utf8.encode (jsonText t.name) ++ rest) t rest := by
  rw [encode_jsonText_append]
  refine .name (.spelled (spells_flatMap_jsonChar _ rest) ?_)
  rcases t with _ | level
  · decide
  · cases level <;> decide

lemma filtersText_filtersJson (f : Option String) (rest : List UInt8) :
    FiltersText (Utf8.encode (filtersJson f) ++ rest) f rest := by
  cases f with
  | none => exact .null rfl
  | some text =>
    rw [filtersJson, encode_jsonText_append]
    have h := FiltersText.text (spells_flatMap_jsonChar text.toList rest)
    rwa [String.ofList_toList] at h

lemma timestampsText_toString (b : Bool) (rest : List UInt8) :
    TimestampsText (Utf8.encode (toString b).toList ++ rest) b rest := by
  cases b <;> rfl

lemma member_jsonText {key : String} {s rest : List UInt8} {x : Setting} (h : Says key s x rest) :
    Member (Utf8.encode (jsonText key) ++ colon :: s) x rest := by
  rw [encode_jsonText_append]
  exact .pair (spells_flatMap_jsonChar _ _) (.none _) (.none _) h

/-- The separators of written settings are keys with a brace or a comma before them and a colon
behind. -/
theorem encode_pieces {front sep sep' close name filters timestamps : List Char}
    (hfront : front = '\x7b' :: (jsonText "level" ++ [':']))
    (hsep : sep = ',' :: (jsonText "filters" ++ [':']))
    (hsep' : sep' = ',' :: (jsonText "timestamps" ++ [':'])) (hclose : close = ['\x7d']) :
    Utf8.encode (front ++ name ++ sep ++ filters ++ sep' ++ timestamps ++ close) =
      openBrace :: (Utf8.encode (jsonText "level") ++ colon :: (Utf8.encode name ++ comma ::
        (Utf8.encode (jsonText "filters") ++ colon :: (Utf8.encode filters ++ comma ::
        (Utf8.encode (jsonText "timestamps") ++ colon ::
        (Utf8.encode timestamps ++ [closeBrace])))))) := by
  subst hfront hsep hsep' hclose
  obtain ⟨hbrace, hend, hcolon, hcomma⟩ : String.utf8EncodeChar '\x7b' = [openBrace] ∧
      String.utf8EncodeChar '\x7d' = [closeBrace] ∧ String.utf8EncodeChar ':' = [colon] ∧
      String.utf8EncodeChar ',' = [comma] := by decide
  simp only [Utf8.encode, List.flatMap_append, List.flatMap_cons, List.flatMap_nil, hbrace, hend,
    hcolon, hcomma, List.append_assoc, List.cons_append, List.nil_append]

lemma ofString_toJson (s : Settings) :
    Utf8.ofString s.toJson =
      openBrace :: (Utf8.encode (jsonText "level") ++ colon ::
        (Utf8.encode (jsonText s.level.name) ++ comma ::
        (Utf8.encode (jsonText "filters") ++ colon :: (Utf8.encode (filtersJson s.filters) ++ comma ::
        (Utf8.encode (jsonText "timestamps") ++ colon ::
        (Utf8.encode (toString s.timestamps).toList ++ [closeBrace])))))) := by
  have hfront : "\x7b\"level\":".toList = '\x7b' :: (jsonText "level" ++ [':']) := by
    decide +kernel
  have hsep : ",\"filters\":".toList = ',' :: (jsonText "filters" ++ [':']) := by decide +kernel
  have hsep' : ",\"timestamps\":".toList = ',' :: (jsonText "timestamps" ++ [':']) := by
    decide +kernel
  obtain ⟨level, filters, timestamps⟩ := s
  refine (congrArg Utf8.encode String.toList_ofList).trans ?_
  cases filters with
  | none => exact encode_pieces hfront hsep hsep' rfl
  | some text => exact encode_pieces hfront hsep hsep' rfl

/-- Settings are written as a document that says what they are. -/
theorem document_toJson (s : Settings) : Document (Utf8.ofString s.toJson) s := by
  rw [ofString_toJson]
  have hlevel {rest} := member_jsonText (.level rfl (levelText_jsonText s.level rest))
  have hfilters {rest} := member_jsonText (.filters rfl (filtersText_filtersJson s.filters rest))
  have htimestamps {rest} :=
    member_jsonText (.timestamps rfl (timestampsText_toString s.timestamps rest))
  have hmembers := Members.more hlevel (.none _) (.none _)
    (.more hfilters (.none _) (.none _) (.last htimestamps (.none [closeBrace])))
  exact .whole (d := ⟨some s.level, some s.filters, some s.timestamps⟩) (.none _)
    (.object (.none _) hmembers ⟨rfl, rfl, rfl⟩) (.none [])

/-- Settings survive being written and read, from a text as from a file, so no two of them are written
alike. -/
theorem settings_survive_writing :
    (∀ s : Settings, ofJson s.toJson = .ok s ∧ load (.contents (Utf8.ofString s.toJson)) = .ok s) ∧
      Function.Injective toJson := by
  have hfile (s : Settings) : ofDocument .file (Utf8.ofString s.toJson) = .ok s :=
    ofDocument_file_eq_ok_iff.2 (document_toJson s)
  have htext (s : Settings) : ofJson s.toJson = .ok s := by
    rw [← hfile s]
    exact ofDocument_text (Utf8.wellFormedText_encode _)
  refine ⟨fun s => ⟨htext s, hfile s⟩, ?_⟩
  intro s t h
  rw [← Except.ok.injEq (ε := Failure), ← htext s, h, htext t]

end Interop.Log.Settings
