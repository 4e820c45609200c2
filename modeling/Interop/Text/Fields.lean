/-!
# Fields

A text is split at every occurrence of a separator character; the separators are dropped, and
there is always one field more than there are separators.
-/

namespace Interop.Text

/-- Puts a character in front of the first field. -/
def consField (c : Char) : List (List Char) → List (List Char)
  | [] => [[c]]
  | field :: rest => (c :: field) :: rest

def fields (separator : Char) : List Char → List (List Char)
  | [] => [[]]
  | c :: cs =>
    if c = separator then [] :: fields separator cs else consField c (fields separator cs)

/-- The first field of a text has a character put in front; there is always a first field. -/
theorem consField_eq_modifyHead (c : Char) {fields : List (List Char)} (h : fields ≠ []) :
    consField c fields = fields.modifyHead (List.cons c) := by
  cases fields with
  | nil => exact absurd rfl h
  | cons field rest => rfl

theorem fields_eq_splitOn (separator : Char) (cs : List Char) :
    fields separator cs = cs.splitOn separator := by
  induction cs with
  | nil => rfl
  | cons c cs ih =>
    have hne : cs.splitOn separator ≠ [] := List.splitOn_ne_nil _ _
    rw [fields, ih, consField_eq_modifyHead c hne, List.splitOn_cons_eq_if_modifyHead]
    simp only [beq_iff_eq]

theorem fields_ne_nil (separator : Char) (cs : List Char) : fields separator cs ≠ [] := by
  rw [fields_eq_splitOn]
  exact List.splitOn_ne_nil _ _

/-- A text without the separator is one field. -/
theorem fields_of_notMem {separator : Char} {cs : List Char} (h : separator ∉ cs) :
    fields separator cs = [cs] := by
  rw [fields_eq_splitOn, List.splitOn_eq_singleton h]

/-- The first field ends at the first separator. -/
theorem fields_append_cons {separator : Char} {front : List Char} (h : separator ∉ front)
    (back : List Char) :
    fields separator (front ++ separator :: back) = front :: fields separator back := by
  rw [fields_eq_splitOn, fields_eq_splitOn, List.splitOn_append_cons_self_of_not_mem h]

/-- A separator ends the fields in front of it, whatever comes behind. -/
theorem fields_append (separator : Char) (front back : List Char) :
    fields separator (front ++ separator :: back) =
      fields separator front ++ fields separator back := by
  simp only [fields_eq_splitOn, List.splitOn_append_cons_self]

/-- Fields hold characters of the text, but no separator. -/
theorem mem_and_ne_of_mem_fields {separator : Char} {cs field : List Char} {c : Char}
    (h : field ∈ fields separator cs) (hc : c ∈ field) : c ∈ cs ∧ c ≠ separator := by
  induction cs generalizing field with
  | nil =>
    obtain rfl := List.mem_singleton.1 h
    cases hc
  | cons d cs ih =>
    have behind {field : List Char} (h : field ∈ fields separator cs) (hc : c ∈ field) :
        c ∈ d :: cs ∧ c ≠ separator :=
      ⟨List.mem_cons_of_mem d (ih h hc).1, (ih h hc).2⟩
    rw [fields] at h
    split at h
    · rcases List.mem_cons.1 h with rfl | h
      · cases hc
      · exact behind h hc
    · rename_i hd
      cases hfields : fields separator cs with
      | nil => exact absurd hfields (fields_ne_nil separator cs)
      | cons first rest =>
        rw [hfields, consField] at h
        rw [hfields] at behind
        rcases List.mem_cons.1 h with rfl | h
        · rcases List.mem_cons.1 hc with rfl | hc
          · exact ⟨List.mem_cons_self, hd⟩
          · exact behind List.mem_cons_self hc
        · exact behind (List.mem_cons_of_mem first h) hc

theorem length_consField (c : Char) {fields : List (List Char)} (h : fields ≠ []) :
    (consField c fields).length = fields.length := by
  cases fields with
  | nil => exact absurd rfl h
  | cons field rest => rfl

/-- There is one field more than there are separators. -/
theorem length_fields (separator : Char) (cs : List Char) :
    (fields separator cs).length = cs.count separator + 1 := by
  induction cs with
  | nil => rfl
  | cons c cs ih =>
    by_cases hc : c = separator
    · subst hc
      rw [fields, if_pos rfl, List.length_cons, ih, List.count_cons_self]
    · have hne : fields separator cs ≠ [] := List.ne_nil_of_length_eq_add_one ih
      rw [fields, if_neg hc, length_consField c hne, ih, List.count_cons_of_ne hc]

/-- A text with one separator is two fields. -/
theorem fields_eq_pair {separator : Char} {front back : List Char} (hfront : separator ∉ front)
    (hback : separator ∉ back) : fields separator (front ++ separator :: back) = [front, back] := by
  rw [fields_append_cons hfront, fields_of_notMem hback]

/-- A text with more separators has more fields. -/
theorem exists_fields_of_many {separator : Char} {cs : List Char} (many : 1 < cs.count separator) :
    ∃ first second third rest, fields separator cs = first :: second :: third :: rest := by
  have hlength := length_fields separator cs
  match hfields : fields separator cs with
  | [] | [_] | [_, _] =>
    simp only [hfields, List.length_nil, List.length_cons] at hlength
    omega
  | first :: second :: third :: rest => exact ⟨first, second, third, rest, rfl⟩

/-- A text has no separator, or one, or more. -/
theorem separator_cases (separator : Char) (cs : List Char) :
    separator ∉ cs ∨
      (∃ front back, cs = front ++ separator :: back ∧ separator ∉ front ∧ separator ∉ back) ∨
      1 < cs.count separator := by
  by_cases hmem : separator ∈ cs
  · obtain ⟨front, back, heq, hfront⟩ := List.eq_append_cons_of_mem hmem
    by_cases hback : separator ∈ back
    · have hcount := List.count_pos_iff.2 hback
      refine .inr (.inr ?_)
      rw [heq, List.count_append, List.count_cons_self]
      omega
    · exact .inr (.inl ⟨front, back, heq, hfront, hback⟩)
  · exact .inl hmem

end Interop.Text
