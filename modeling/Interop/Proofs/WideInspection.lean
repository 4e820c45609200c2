import Interop.Proofs.QuotedTexts
import Interop.Proofs.Utf16Replacement
import Interop.Proofs.WideTexts
import Interop.Proofs.WideUse

/-!
# What the inspection of an argument shows

The inspection shows the text of an argument in quotes, or `null`. From what it shows an argument can be
told that no callee has written to; of one that was written to it shows all units but the lone
surrogates, with U+FFFD in the place of each. Nothing else is lost, and nothing changes its place.
-/

namespace Interop.Wide

/-! ### What is shown -/

namespace Argument

variable {a b : Argument}

lemma inspect_of_isNull (h : a.isNull = true) : a.inspect = "WideArg(null)" := if_pos h

lemma inspect_of_not_isNull (h : a.isNull = false) :
    a.inspect = "WideArg(" ++ Text.quoted (String.ofList a.text) ++ ")" := by
  rw [inspect, if_neg (by simp [h]), Text.quoted, String.toList_ofList]

lemma inspect_eq_null_iff (a : Argument) : a.inspect = "WideArg(null)" ↔ a.isNull = true := by
  refine ⟨fun h => ?_, inspect_of_isNull⟩
  by_contra hnull
  rw [inspect_of_not_isNull (by simpa using hnull)] at h
  have hchars := congrArg String.toList h
  simp [Text.quoted, Text.quotedChars] at hchars

lemma inspect_eq_iff_text (ha : a.isNull = false) (hb : b.isNull = false) :
    a.inspect = b.inspect ↔ a.text = b.text := by
  rw [inspect_of_not_isNull ha, inspect_of_not_isNull hb]
  refine ⟨fun h => ?_, fun h => by rw [h]⟩
  have hchars := congrArg String.toList h
  simp only [Text.quoted, String.toList_append, String.toList_ofList, List.append_cancel_left_eq,
    List.append_cancel_right_eq] at hchars
  exact Text.quotedChars_injective hchars

theorem inspect_eq_iff (a b : Argument) :
    a.inspect = b.inspect ↔
      a.isNull = true ∧ b.isNull = true ∨
        a.isNull = false ∧ b.isNull = false ∧ a.text = b.text := by
  cases ha : a.isNull <;> cases hb : b.isNull
  · rw [inspect_eq_iff_text ha hb]
    simp
  · rw [inspect_of_isNull hb, inspect_eq_null_iff, ha]
    simp
  · rw [inspect_of_isNull ha, eq_comm, inspect_eq_null_iff, hb]
    simp
  · rw [inspect_of_isNull ha, inspect_of_isNull hb]
    simp

end Argument

lemma Source.text_build_eq_iff (source other : Source) :
    source.build.value.text = other.build.value.text ↔
      source.build.value.units = other.build.value.units := by
  obtain ⟨s, hs⟩ := source.exists_units_build
  obtain ⟨t, ht⟩ := other.exists_units_build
  simp only [Argument.text, Argument.content_eq_dropLast, hs, ht, List.dropLast_concat,
    Utf16.decodeLossy_encode, List.append_cancel_right_eq]
  exact Utf16.encode_injective.eq_iff.symm

/-- Two arguments as they were built are shown alike iff both are null, or neither is and their units
are the same. Whatever was written to an argument, it is shown as the null one iff it is null, and two
arguments are shown alike iff both are null, or neither is and their contents read as the same text. -/
theorem inspection_is_faithful (source other : Source) (acts others : List Act) :
    let a := source.build.value
    let b := other.build.value
    (a.inspect = b.inspect ↔
        a.isNull = true ∧ b.isNull = true ∨
          a.isNull = false ∧ b.isNull = false ∧ a.units = b.units) ∧
      ((a.through acts).inspect = "WideArg(null)" ↔ a.isNull = true) ∧
      ((a.through acts).inspect = (b.through others).inspect ↔
        a.isNull = true ∧ b.isNull = true ∨
          a.isNull = false ∧ b.isNull = false ∧
            Utf16.decodeLossy (a.through acts).content =
              Utf16.decodeLossy (b.through others).content) := by
  intro a b
  have ha : (a.through acts).isNull = a.isNull := (a.through_keeps acts).2
  have hb : (b.through others).isNull = b.isNull := (b.through_keeps others).2
  refine ⟨?_, ?_, ?_⟩
  · rw [Argument.inspect_eq_iff, source.text_build_eq_iff other]
  · rw [Argument.inspect_eq_null_iff, ha]
  · rw [Argument.inspect_eq_iff, ha, hb]
    rfl

/-- The text that is shown of an argument, whatever was written to it, has been read off its
content. Its conversion has a unit for each unit of the argument and ends in a zero: U+FFFD at each
index where a surrogate is lone, and at every other the unit itself. So it gives the content back
iff no surrogate is lone. -/
theorem inspection_loses_lone_surrogates (source : Source) (acts : List Act)
    (h : ¬source.IsAbsent) :
    let a := source.build.value.through acts
    ∃ s : String, a.inspect = "WideArg(" ++ Text.quoted s ++ ")" ∧
      s.toList = Utf16.decodeLossy a.content ∧
      let units := (convert (Utf8.ofString s)).value
      units.length = a.length + 1 ∧
        (∀ i < a.length,
          units[i]? = if Utf16.isLoneAt a.content i then some 0xFFFD else a.content[i]?) ∧
        units.getLast? = some 0 ∧
        (units = a.content ++ [0] ↔ Utf16.WellFormed a.content) := by
  intro a
  refine ⟨String.ofList a.text, Argument.inspect_of_not_isNull (Source.isNull_through h acts),
    String.toList_ofList, ?_⟩
  intro units
  have hunits : units = Utf16.replaced a.content ++ [0] := by
    change (convert (Utf8.encode (String.ofList a.text).toList)).value = _
    rw [value_convert_encode, String.toList_ofList]
    rfl
  have hlength : (Utf16.replaced a.content).length = a.length :=
    (Utf16.length_replaced a.content).trans a.length_content
  rw [hunits]
  refine ⟨?_, ?_, List.getLast?_concat, ?_⟩
  · rw [List.length_append, hlength]
    rfl
  · intro i hi
    rw [List.getElem?_append_left (hlength ▸ hi), Utf16.getElem?_replaced]
  · rw [List.append_cancel_right_eq, Utf16.replaced_eq_self_iff]

/-- Of five surrogates only the second and the third make a pair. -/
theorem inspection_loses_three_of_five :
    let source := Source.bytes [0x61, 0x62, 0x63, 0x64, 0x65]
    let acts := [Act.write 0 0xD83E, .write 1 0xD83E, .write 2 0xDD80, .write 3 0xDD80,
      .write 4 0xD83E]
    ¬source.IsAbsent ∧
      ∃ s : String,
        (source.build.value.through acts).inspect = "WideArg(" ++ Text.quoted s ++ ")" ∧
        let units := (convert (Utf8.ofString s)).value
        units.length = 6 ∧ units[0]? = some 0xFFFD ∧ units[1]? = some 0xD83E ∧
          units[2]? = some 0xDD80 ∧ units[3]? = some 0xFFFD ∧ units[4]? = some 0xFFFD ∧
          units.getLast? = some 0 := by
  intro source acts
  have hsource : ¬source.IsAbsent := by
    rw [← source.isNull_build_iff]
    decide
  obtain ⟨s, hshown, -, hlength, hunits, hlast, -⟩ :=
    inspection_loses_lone_surrogates source acts hsource
  have hfive : (source.build.value.through acts).length = 5 := by decide +kernel
  rw [hfive] at hlength hunits
  refine ⟨hsource, s, hshown, hlength, ?_, ?_, ?_, ?_, ?_, hlast⟩
  · exact (hunits 0 (by decide)).trans (by decide +kernel)
  · exact (hunits 1 (by decide)).trans (by decide +kernel)
  · exact (hunits 2 (by decide)).trans (by decide +kernel)
  · exact (hunits 3 (by decide)).trans (by decide +kernel)
  · exact (hunits 4 (by decide)).trans (by decide +kernel)

end Interop.Wide
