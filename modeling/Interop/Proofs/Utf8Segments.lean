import Interop.Proofs.Utf8Table

/-!
# The segments of a byte sequence

What a byte sequence is cut into is said here without a decoder: a well-formed sequence of the table
or, where none starts, the longest run of bytes that a well-formed sequence could begin with, and
failing that a single byte. This leaves no choice, and the segments of the decoder are of this kind.
-/

namespace Interop.Utf8

/-- Bytes that are the beginning of some well-formed sequence, but not the whole of it. -/
def Incomplete (bytes : List UInt8) : Prop := ∃ w, WellFormed w ∧ bytes <+: w ∧ bytes ≠ w

/-- The first segment of a byte sequence, with its scalar value if it is well-formed. -/
inductive Cuts : List UInt8 → List UInt8 → Option Char → Prop
  | wellFormed {bytes segment : List UInt8} {c : Char} (table : WellFormed segment)
      (front : segment <+: bytes) (scalar : String.utf8EncodeChar c = segment) :
      Cuts bytes segment (some c)
  | truncated {bytes segment : List UInt8} (ill : ∀ p, p <+: bytes → ¬WellFormed p)
      (front : segment <+: bytes) (nonempty : segment ≠ []) (incomplete : Incomplete segment)
      (longest : ∀ p, p <+: bytes → Incomplete p → p.length ≤ segment.length) :
      Cuts bytes segment none
  | stray {b : UInt8} {rest : List UInt8} (ill : ∀ p, p <+: b :: rest → ¬WellFormed p)
      (nothing : ∀ p, p <+: b :: rest → p ≠ [] → ¬Incomplete p) : Cuts (b :: rest) [b] none

/-! ### There is only one way -/

lemma eq_of_prefix_of_length {p q bytes : List UInt8} (hp : p <+: bytes) (hq : q <+: bytes)
    (h : p.length = q.length) : p = q :=
  (List.prefix_of_prefix_length_le hp hq (Nat.le_of_eq h)).eq_of_length h

/-- The front of a byte sequence is well-formed in one length at most. -/
lemma WellFormed.eq_of_prefix {p q bytes : List UInt8} (hp : WellFormed p) (hq : WellFormed q)
    (hpb : p <+: bytes) (hqb : q <+: bytes) : p = q := by
  cases p with
  | nil => exact absurd hp not_wellFormed_nil
  | cons b p =>
    cases q with
    | nil => exact absurd hq not_wellFormed_nil
    | cons d q =>
      obtain ⟨rest, rfl⟩ := hpb
      obtain ⟨rfl, -⟩ := List.cons_prefix_cons.1 hqb
      refine eq_of_prefix_of_length (List.prefix_append _ _) hqb ?_
      rcases (wellFormed_cons_iff _ _).1 hp with ⟨hlt, rfl⟩ | ⟨lead, hlead, hm⟩
      · rcases (wellFormed_cons_iff _ _).1 hq with ⟨-, rfl⟩ | ⟨lead, hlead, -⟩
        · rfl
        · rw [Lead.ofByte?_of_lt hlt] at hlead
          cases hlead
      · rcases (wellFormed_cons_iff _ _).1 hq with ⟨hlt, -⟩ | ⟨lead', hlead', hm'⟩
        · rw [Lead.ofByte?_of_lt hlt] at hlead
          cases hlead
        · obtain rfl := Option.some.inj (hlead.symm.trans hlead')
          exact congrArg Nat.succ (hm.length_eq.symm.trans hm'.length_eq)

lemma Cuts.ne_nil {bytes segment : List UInt8} {c : Option Char} (h : Cuts bytes segment c) :
    segment ≠ [] := by
  cases h with
  | wellFormed table _ _ =>
    rintro rfl
    exact not_wellFormed_nil table
  | truncated _ _ nonempty _ _ => exact nonempty
  | stray _ _ => exact List.cons_ne_nil _ _

lemma Cuts.front {bytes segment : List UInt8} {c : Option Char} (h : Cuts bytes segment c) :
    segment <+: bytes := by
  cases h with
  | wellFormed _ front _ => exact front
  | truncated _ front _ _ _ => exact front
  | stray _ _ => exact ⟨_, rfl⟩

lemma Cuts.encode_eq {bytes segment : List UInt8} {c : Char} (h : Cuts bytes segment (some c)) :
    String.utf8EncodeChar c = segment := by
  cases h with
  | wellFormed _ _ scalar => exact scalar

/-- A byte sequence has one first segment. -/
theorem Cuts.unique {bytes p q : List UInt8} {c d : Option Char} (hp : Cuts bytes p c)
    (hq : Cuts bytes q d) : p = q ∧ c = d := by
  cases hp with
  | wellFormed table front scalar =>
    cases hq with
    | wellFormed table' front' scalar' =>
      have hpq := table.eq_of_prefix table' front front'
      exact ⟨hpq, congrArg some (utf8EncodeChar_injective (scalar.trans (hpq.trans scalar'.symm)))⟩
    | truncated ill _ _ _ _ => exact absurd table (ill _ front)
    | stray ill _ => exact absurd table (ill _ front)
  | truncated ill front nonempty incomplete longest =>
    cases hq with
    | wellFormed table' front' _ => exact absurd table' (ill _ front')
    | truncated _ front' _ incomplete' longest' =>
      have hle := longest' _ front incomplete
      have hge := longest _ front' incomplete'
      exact ⟨eq_of_prefix_of_length front front' (Nat.le_antisymm hle hge), rfl⟩
    | stray _ nothing => exact absurd incomplete (nothing _ front nonempty)
  | stray ill nothing =>
    cases hq with
    | wellFormed table' front' _ => exact absurd table' (ill _ front')
    | truncated _ front' nonempty' incomplete' _ =>
      exact absurd incomplete' (nothing _ front' nonempty')
    | stray _ _ => exact ⟨rfl, rfl⟩

/-- What begins with its first segment in two ways does so in one. -/
lemma Cuts.append_inj {p q rest rest' : List UInt8} {c d : Option Char} (hp : Cuts (p ++ rest) p c)
    (hq : Cuts (q ++ rest') q d) (h : p ++ rest = q ++ rest') : p = q ∧ c = d ∧ rest = rest' := by
  rw [← h] at hq
  obtain ⟨rfl, rfl⟩ := hp.unique hq
  exact ⟨rfl, rfl, List.append_cancel_left h⟩

/-! ### The run behind a lead byte -/

lemma length_followers (n : Nat) (low high : UInt8) : (followers n low high).length = n := by
  induction n generalizing low high with
  | zero => rfl
  | succ n ih => exact congrArg Nat.succ (ih 0x80 0xBF)

lemma continuation_prefix (n : Nat) (low high : UInt8) (rest : List UInt8) :
    continuation n low high rest <+: rest := by
  induction n generalizing low high rest with
  | zero => exact List.nil_prefix
  | succ n ih =>
    cases rest with
    | nil => exact List.nil_prefix
    | cons x rest =>
      unfold continuation
      split
      · exact List.cons_prefix_cons.2 ⟨rfl, ih 0x80 0xBF rest⟩
      · exact List.nil_prefix

lemma exists_completion (n : Nat) {low high : UInt8} (h : low ≤ high) (rest : List UInt8) :
    ∃ w, Matches (followers n low high) w ∧ continuation n low high rest <+: w := by
  induction n generalizing low high rest with
  | zero => exact ⟨[], .nil, List.nil_prefix⟩
  | succ n ih =>
    have htail : (0x80 : UInt8) ≤ 0xBF := by decide
    cases rest with
    | nil =>
      obtain ⟨w, hw, -⟩ := ih htail []
      exact ⟨low :: w, .cons ⟨UInt8.le_refl _, h⟩ hw, List.nil_prefix⟩
    | cons x rest =>
      unfold continuation
      split
      · rename_i hx
        obtain ⟨w, hw, hp⟩ := ih htail rest
        exact ⟨x :: w, .cons hx hw, List.cons_prefix_cons.2 ⟨rfl, hp⟩⟩
      · obtain ⟨w, hw, -⟩ := ih htail []
        exact ⟨low :: w, .cons ⟨UInt8.le_refl _, h⟩ hw, List.nil_prefix⟩

/-- The run is the longest at the front of the rest that begins bytes within the bounds. -/
lemma prefix_continuation {n : Nat} {low high : UInt8} {w p rest : List UInt8}
    (hw : Matches (followers n low high) w) (hp : p <+: w) (hr : p <+: rest) :
    p <+: continuation n low high rest := by
  induction n generalizing low high w p rest with
  | zero =>
    obtain rfl := (matches_nil_iff _).1 hw
    obtain rfl := List.prefix_nil.1 hp
    exact List.nil_prefix
  | succ n ih =>
    cases p with
    | nil => exact List.nil_prefix
    | cons x p =>
      obtain ⟨y, tail, rfl, hy, htail⟩ := (matches_cons_iff _ _ _).1 hw
      obtain ⟨rfl, hptail⟩ := List.cons_prefix_cons.1 hp
      obtain ⟨rest, rfl⟩ := hr
      rw [List.cons_append, continuation, if_pos hy]
      exact List.cons_prefix_cons.2 ⟨rfl, ih htail hptail (List.prefix_append _ _)⟩

/-! ### The segments of the decoder -/

lemma Lead.low_le_high {b : UInt8} {lead : Lead} (h : Lead.ofByte? b = some lead) :
    lead.low ≤ lead.high := by
  unfold Lead.ofByte? at h
  repeat' split at h
  all_goals cases h
  all_goals simp

/-- What can begin a well-formed sequence with a lead byte is that byte and the beginning of bytes
within the bounds. -/
lemma incomplete_cons {b : UInt8} {q : List UInt8} (h : Incomplete (b :: q)) :
    ∃ lead w, Lead.ofByte? b = some lead ∧ Matches lead.followers w ∧ q <+: w := by
  obtain ⟨w, hw, hp, hne⟩ := h
  obtain ⟨tail, rfl⟩ := hp
  rcases (wellFormed_cons_iff _ _).1 hw with ⟨-, hnil⟩ | ⟨lead, hlead, hm⟩
  · obtain ⟨rfl, rfl⟩ := List.append_eq_nil_iff.1 hnil
    exact absurd rfl hne
  · exact ⟨lead, _, hlead, hm, List.prefix_append _ _⟩

lemma Cuts.of_no_lead {b : UInt8} (hb : ¬b < 0x80) (h : Lead.ofByte? b = none) (rest : List UInt8) :
    Cuts (b :: rest) [b] none := by
  refine .stray ?_ ?_
  · intro p hp hw
    cases p with
    | nil => exact not_wellFormed_nil hw
    | cons d q =>
      obtain ⟨rfl, -⟩ := List.cons_prefix_cons.1 hp
      rcases (wellFormed_cons_iff _ _).1 hw with ⟨hlt, -⟩ | ⟨lead, hlead, -⟩
      · exact hb hlt
      · rw [h] at hlead
        cases hlead
  · intro p hp hne hi
    cases p with
    | nil => exact hne rfl
    | cons d q =>
      obtain ⟨rfl, -⟩ := List.cons_prefix_cons.1 hp
      obtain ⟨lead, -, hlead, -⟩ := incomplete_cons hi
      rw [h] at hlead
      cases hlead

/-- Behind a lead byte the run decides: if it is long enough there is a well-formed sequence, and
otherwise the run is the longest that could have become one. -/
lemma Cuts.of_lead {b : UInt8} {lead : Lead} (hb : ¬b < 0x80) (h : Lead.ofByte? b = some lead)
    (rest : List UInt8) :
    let run := continuation lead.following lead.low lead.high rest
    Cuts (b :: rest) (b :: run)
      (if run.length = lead.following then some (Char.ofNat (lead.scalar run)) else none) := by
  intro run
  have hfront : b :: run <+: b :: rest := List.cons_prefix_cons.2 ⟨rfl, continuation_prefix _ _ _ _⟩
  obtain ⟨w, hw, hrun⟩ := exists_completion lead.following (Lead.low_le_high h) rest
  have hlen : w.length = lead.following := by
    rw [← hw.length_eq, length_followers]
  have hlongest : ∀ {q v : List UInt8}, Matches lead.followers v → q <+: v → q <+: rest →
      q <+: run := fun hv hq hr => prefix_continuation hv hq hr
  -- the run can be completed to `w`, and is all of it iff it is long enough
  by_cases hfull : run.length = lead.following
  · rw [if_pos hfull]
    have heq : run = w := hrun.eq_of_length (hfull.trans hlen.symm)
    have hm : Matches lead.followers run := heq ▸ hw
    exact .wellFormed ((wellFormed_cons_iff _ _).2 (.inr ⟨lead, h, hm⟩)) hfront
      (Lead.encode_scalar h hm).2
  · rw [if_neg hfull]
    refine .truncated ?_ hfront (List.cons_ne_nil _ _) ?_ ?_
    · intro p hp hwf
      cases p with
      | nil => exact not_wellFormed_nil hwf
      | cons d q =>
        obtain ⟨rfl, hq⟩ := List.cons_prefix_cons.1 hp
        rcases (wellFormed_cons_iff _ _).1 hwf with ⟨hlt, -⟩ | ⟨lead', hlead', hm⟩
        · exact hb hlt
        · obtain rfl := Option.some.inj (h.symm.trans hlead')
          have hle := (hlongest hm List.prefix_rfl hq).length_le
          have hrle : run.length ≤ w.length := hrun.length_le
          rw [← hm.length_eq, Lead.followers, length_followers] at hle
          omega
    · refine ⟨b :: w, (wellFormed_cons_iff _ _).2 (.inr ⟨lead, h, hw⟩),
        List.cons_prefix_cons.2 ⟨rfl, hrun⟩, ?_⟩
      intro heq
      obtain rfl := (List.cons.inj heq).2
      exact hfull hlen
    · intro p hp hi
      cases p with
      | nil => exact Nat.zero_le _
      | cons d q =>
        obtain ⟨rfl, hq⟩ := List.cons_prefix_cons.1 hp
        obtain ⟨lead', v, hlead', hm, hqv⟩ := incomplete_cons hi
        obtain rfl := Option.some.inj (h.symm.trans hlead')
        exact Nat.succ_le_succ (hlongest hm hqv hq).length_le

/-- The segment that the decoder takes from the front of a byte sequence is its first segment. -/
theorem cuts_atFront (b : UInt8) (rest : List UInt8) :
    Cuts (b :: rest) (Segment.atFront b rest).bytes (Segment.atFront b rest).scalar := by
  unfold Segment.atFront
  by_cases hb : b < 0x80
  · rw [if_pos hb]
    exact .wellFormed ((wellFormed_cons_iff _ _).2 (.inl ⟨hb, rfl⟩)) ⟨rest, rfl⟩ (encode_one hb)
  · rw [if_neg hb]
    cases h : Lead.ofByte? b with
    | none => exact .of_no_lead hb h rest
    | some lead =>
      have hcut := Cuts.of_lead hb h rest
      dsimp only at hcut ⊢
      split
      · rename_i hfull
        rwa [if_pos hfull] at hcut
      · rename_i hfull
        rwa [if_neg hfull] at hcut

/-- A byte sequence is its first segment and the bytes that the decoder goes on with. -/
lemma atFront_append_drop (b : UInt8) (rest : List UInt8) :
    (Segment.atFront b rest).bytes ++ rest.drop ((Segment.atFront b rest).bytes.length - 1) =
      b :: rest := by
  have hcut := cuts_atFront b rest
  obtain ⟨tail, htail⟩ := hcut.front
  obtain ⟨d, q, hq⟩ := List.exists_cons_of_ne_nil hcut.ne_nil
  rw [hq, List.cons_append, List.cons.injEq] at htail
  obtain ⟨rfl, rfl⟩ := htail
  rw [hq, List.length_cons, Nat.add_sub_cancel, List.drop_left, List.cons_append]

end Interop.Utf8
