import Interop.Proofs.Utf8Segments

/-!
# Texts in UTF-8

A byte that cannot stand behind another one starts a segment whatever comes before it, so the
conversion of a byte sequence can be cut there, and also behind any well-formed sequence. It follows
that reading undoes the encoding, and that a byte sequence has no ill-formed segment iff it is made of
sequences of the table, which is to say iff it is the encoding of a text.
-/

namespace Interop.Utf8

/-! ### Where a byte sequence may be cut -/

/-- The front of the bytes does not continue a sequence that began before. -/
def StartsAnew (bytes : List UInt8) : Prop := ∀ b ∈ bytes.head?, b < 0x80 ∨ 0xBF < b

lemma startsAnew_cons {b : UInt8} (h : b < 0x80) (rest : List UInt8) : StartsAnew (b :: rest) := by
  intro d hd
  obtain rfl : b = d := by simpa using hd
  exact .inl h

lemma Lead.bounds_of_ofByte? {b : UInt8} {lead : Lead} (h : Lead.ofByte? b = some lead) :
    0x80 ≤ lead.low ∧ lead.high ≤ 0xBF := by
  simp only [UInt8.le_iff_toNat_le, UInt8.reduceToNat]
  rcases ofByte?_cases h with ⟨-, h⟩ | ⟨-, h⟩ | ⟨-, h⟩ <;> omega

lemma continuation_append {n : Nat} {low high : UInt8} (hlow : 0x80 ≤ low) (hhigh : high ≤ 0xBF)
    (p : List UInt8) {q : List UInt8} (hq : StartsAnew q) :
    continuation n low high (p ++ q) = continuation n low high p := by
  induction n generalizing low high p with
  | zero => rfl
  | succ n ih =>
    cases p with
    | cons x p =>
      simp only [List.cons_append, continuation]
      rw [ih (by decide) (by decide) p]
    | nil =>
      cases q with
      | nil => rfl
      | cons x q =>
        have hx : ¬(low ≤ x ∧ x ≤ high) := by
          rintro ⟨h1, h2⟩
          rcases hq x rfl with h | h
          · exact absurd (UInt8.le_trans hlow h1) (UInt8.not_le.2 h)
          · exact absurd (UInt8.le_trans h2 hhigh) (UInt8.not_le.2 h)
        simp only [List.nil_append, continuation, if_neg hx]

lemma atFront_append (b : UInt8) (p : List UInt8) {q : List UInt8} (hq : StartsAnew q) :
    Segment.atFront b (p ++ q) = Segment.atFront b p := by
  unfold Segment.atFront
  cases h : Lead.ofByte? b with
  | none => rfl
  | some lead =>
    obtain ⟨hlow, hhigh⟩ := Lead.bounds_of_ofByte? h
    simp only [continuation_append hlow hhigh p hq]

/-- Where the bytes start anew they may be cut: the segments before and behind are not affected. -/
theorem cut_append (p : List UInt8) {q : List UInt8} (hq : StartsAnew q) :
    cut (p ++ q) = cut p ++ cut q := by
  induction p using cut.induct with
  | case1 => simp [cut]
  | case2 b rest segment ih =>
    have hle : segment.bytes.length - 1 ≤ rest.length := by
      have h := (cuts_atFront b rest).front.length_le
      rw [List.length_cons] at h
      exact Nat.sub_le_of_le_add h
    rw [List.cons_append, cut, cut, atFront_append b rest hq, List.drop_append_of_le_length hle, ih]
    rfl

lemma decodeLossy_append (p : List UInt8) {q : List UInt8} (hq : StartsAnew q) :
    decodeLossy (p ++ q) = decodeLossy p ++ decodeLossy q := by
  simp only [decodeLossy, cut_append p hq, List.map_append]

/-! ### ASCII bytes -/

lemma atFront_of_lt {b : UInt8} (h : b < 0x80) (rest : List UInt8) :
    Segment.atFront b rest = ⟨[b], some (Char.ofNat b.toNat)⟩ := if_pos h

lemma le_of_mem_continuation {n : Nat} {low high : UInt8} (hlow : 0x80 ≤ low) {rest : List UInt8}
    {x : UInt8} (h : x ∈ continuation n low high rest) : 0x80 ≤ x := by
  induction n generalizing low high rest with
  | zero => cases h
  | succ n ih =>
    cases rest with
    | nil => cases h
    | cons b rest =>
      unfold continuation at h
      split at h
      · rename_i hb
        rcases List.mem_cons.1 h with rfl | h
        · exact UInt8.le_trans hlow hb.1
        · exact ih (by decide) h
      · cases h

/-- A segment that does not start with an ASCII byte holds none. -/
lemma le_of_mem_atFront {b : UInt8} (hb : ¬b < 0x80) {rest : List UInt8} {x : UInt8}
    (h : x ∈ (Segment.atFront b rest).bytes) : 0x80 ≤ x := by
  have hfirst : 0x80 ≤ b := UInt8.not_lt.1 hb
  unfold Segment.atFront at h
  rw [if_neg hb] at h
  cases hlead : Lead.ofByte? b with
  | none =>
    simp only [hlead, List.mem_singleton] at h
    exact h ▸ hfirst
  | some lead =>
    have hx : x = b ∨ x ∈ continuation lead.following lead.low lead.high rest := by
      simp only [hlead] at h
      split at h <;> exact List.mem_cons.1 h
    rcases hx with rfl | hx
    · exact hfirst
    · exact le_of_mem_continuation (Lead.bounds_of_ofByte? hlead).1 hx

lemma decodeLossy_cons_of_lt {b : UInt8} (h : b < 0x80) (rest : List UInt8) :
    decodeLossy (b :: rest) = Char.ofNat b.toNat :: decodeLossy rest := by
  rw [decodeLossy, cut, atFront_of_lt h]
  rfl

/-! ### Encodings -/

/-- A scalar value below 80 is its own encoding. The encoding of any other has no byte below 80, and
only its first byte is above BF. -/
lemma utf8EncodeChar_cases (c : Char) :
    (c.toNat < 0x80 ∧ String.utf8EncodeChar c = [c.toNat.toUInt8]) ∨
      (0x80 ≤ c.toNat ∧ ∃ b tail, String.utf8EncodeChar c = b :: tail ∧ 0xBF < b ∧
        ∀ x ∈ tail, 0x80 ≤ x ∧ x ≤ 0xBF) := by
  have hv : c.toNat.isValidChar := c.valid
  have henc := utf8EncodeChar_ofNat hv
  rw [Char.ofNat_toNat] at henc
  rw [henc]
  unfold Nat.isValidChar at hv
  generalize c.toNat = n at hv ⊢
  have hlead : ∀ k, 0xBF < k → k < 256 → (0xBF : UInt8) < UInt8.ofNat k := by
    intro k h₁ h₂
    rw [UInt8.lt_iff_toNat_lt, UInt8.toNat_ofNat', Nat.mod_eq_of_lt h₂]
    exact h₁
  have htail : ∀ k, (0x80 : UInt8) ≤ UInt8.ofNat (k % 0x40 + 0x80) ∧
      UInt8.ofNat (k % 0x40 + 0x80) ≤ 0xBF := by
    intro k
    simp only [UInt8.le_iff_toNat_le, UInt8.toNat_ofNat', UInt8.reduceToNat]
    omega
  split
  · exact .inl ⟨by omega, rfl⟩
  · refine .inr ⟨by omega, ?_⟩
    split
    · refine ⟨_, _, rfl, hlead _ (by omega) (by omega), ?_⟩
      exact List.forall_mem_singleton.2 (htail _)
    · split
      · refine ⟨_, _, rfl, hlead _ (by omega) (by omega), ?_⟩
        exact List.forall_mem_cons.2 ⟨htail _, List.forall_mem_singleton.2 (htail _)⟩
      · refine ⟨_, _, rfl, hlead _ (by omega) (by omega), ?_⟩
        exact List.forall_mem_cons.2
          ⟨htail _, List.forall_mem_cons.2 ⟨htail _, List.forall_mem_singleton.2 (htail _)⟩⟩

/-- A segment that does not start with an ASCII byte is not the encoding of an ASCII character. -/
lemma le_toNat_of_scalar_atFront {b : UInt8} (hb : ¬b < 0x80) {rest : List UInt8} {c : Char}
    (h : (Segment.atFront b rest).scalar = some c) : 0x80 ≤ c.toNat := by
  have hbytes := (h ▸ cuts_atFront b rest).encode_eq
  rcases utf8EncodeChar_cases c with ⟨hc, henc⟩ | ⟨hc, -⟩
  · -- the encoding would be one ASCII byte
    have hmem : c.toNat.toUInt8 ∈ (Segment.atFront b rest).bytes := by
      rw [← hbytes, henc]
      exact List.mem_singleton_self _
    have hle := UInt8.le_iff_toNat_le.1 (le_of_mem_atFront hb hmem)
    rw [Nat.toUInt8_eq, UInt8.toNat_ofNat'] at hle
    exact Nat.le_trans hle (Nat.mod_le _ _)
  · exact hc

/-- An encoding is a byte that starts anew and bytes that do not. -/
lemma exists_utf8EncodeChar_eq_cons (c : Char) :
    ∃ b tail, String.utf8EncodeChar c = b :: tail ∧ (b < 0x80 ∨ 0xBF < b) ∧
      ∀ x ∈ tail, 0x80 ≤ x ∧ x ≤ 0xBF := by
  rcases utf8EncodeChar_cases c with ⟨hlt, henc⟩ | ⟨-, b, tail, henc, hb, htail⟩
  · refine ⟨_, [], henc, .inl ?_, by simp⟩
    rw [UInt8.lt_iff_toNat_lt, Nat.toUInt8_eq, UInt8.toNat_ofNat', Nat.mod_eq_of_lt (by omega)]
    exact hlt
  · exact ⟨b, tail, henc, .inr hb, htail⟩

lemma cut_utf8EncodeChar_append (c : Char) (rest : List UInt8) :
    cut (String.utf8EncodeChar c ++ rest) = ⟨String.utf8EncodeChar c, some c⟩ :: cut rest := by
  have hwf := wellFormed_utf8EncodeChar c
  cases henc : String.utf8EncodeChar c with
  | nil => exact absurd (henc ▸ hwf) not_wellFormed_nil
  | cons b tail =>
    have hchar : Cuts (b :: (tail ++ rest)) (b :: tail) (some c) :=
      .wellFormed (henc ▸ hwf) (List.prefix_append _ _) henc
    obtain ⟨hbytes, hscalar⟩ := (cuts_atFront b (tail ++ rest)).unique hchar
    have hdrop : (tail ++ rest).drop ((b :: tail).length - 1) = rest := List.drop_left
    rw [List.cons_append, cut, hbytes, hdrop, ← hbytes, ← hscalar]

lemma utf8EncodeChar_append_inj {c d : Char} {p q : List UInt8}
    (h : String.utf8EncodeChar c ++ p = String.utf8EncodeChar d ++ q) : c = d ∧ p = q := by
  have hcut := congrArg cut h
  rw [cut_utf8EncodeChar_append, cut_utf8EncodeChar_append] at hcut
  obtain rfl : c = d := Option.some.inj (congrArg Segment.scalar (List.head_eq_of_cons_eq hcut))
  exact ⟨rfl, List.append_cancel_left h⟩

lemma encode_cons (c : Char) (s : List Char) :
    encode (c :: s) = String.utf8EncodeChar c ++ encode s := List.flatMap_cons

/-- The segments of an encoding are those of its scalar values, whatever comes behind. -/
theorem cut_encode_append (s : List Char) (rest : List UInt8) :
    cut (encode s ++ rest) = s.map (fun c => ⟨String.utf8EncodeChar c, some c⟩) ++ cut rest := by
  induction s with
  | nil => rfl
  | cons c s ih => rw [encode_cons, List.append_assoc, cut_utf8EncodeChar_append, ih]; rfl

lemma cut_encode (s : List Char) :
    cut (encode s) = s.map fun c => ⟨String.utf8EncodeChar c, some c⟩ := by
  have h := cut_encode_append s []
  rwa [List.append_nil, cut, List.append_nil] at h

/-- Reading undoes the encoding. -/
theorem decodeLossy_encode (s : List Char) : decodeLossy (encode s) = s := by
  rw [decodeLossy, cut_encode, List.map_map]
  exact List.map_id s

lemma encode_injective : Function.Injective encode := by
  intro s t h
  rw [← decodeLossy_encode s, h, decodeLossy_encode]

/-! ### Well-formed texts -/

/-- Sequences of the table, one after the other. -/
def WellFormedText (bytes : List UInt8) : Prop :=
  ∃ sequences : List (List UInt8), (∀ w ∈ sequences, WellFormed w) ∧ sequences.flatten = bytes

lemma wellFormedText_encode (s : List Char) : WellFormedText (encode s) := by
  refine ⟨s.map String.utf8EncodeChar, ?_, rfl⟩
  intro w hw
  obtain ⟨c, -, rfl⟩ := List.mem_map.1 hw
  exact wellFormed_utf8EncodeChar c

theorem wellFormedText_iff (bytes : List UInt8) : WellFormedText bytes ↔ ∃ s, encode s = bytes := by
  constructor
  · rintro ⟨sequences, hwf, rfl⟩
    induction sequences with
    | nil => exact ⟨[], rfl⟩
    | cons w sequences ih =>
      obtain ⟨c, hc⟩ := (wellFormed_iff w).1 (hwf w List.mem_cons_self)
      obtain ⟨s, hs⟩ := ih fun v hv => hwf v (List.mem_cons_of_mem _ hv)
      exact ⟨c :: s, by rw [encode_cons, hc, hs, List.flatten_cons]⟩
  · rintro ⟨s, rfl⟩
    exact wellFormedText_encode s

lemma WellFormedText.append {p q : List UInt8} (hp : WellFormedText p) (hq : WellFormedText q) :
    WellFormedText (p ++ q) := by
  obtain ⟨s, rfl⟩ := (wellFormedText_iff p).1 hp
  obtain ⟨t, rfl⟩ := (wellFormedText_iff q).1 hq
  exact (wellFormedText_iff _).2 ⟨s ++ t, List.flatMap_append⟩

lemma wellFormedText_of_lt {bytes : List UInt8} (h : ∀ b ∈ bytes, b < 0x80) :
    WellFormedText bytes := by
  refine (wellFormedText_iff bytes).2 ⟨bytes.map fun b => Char.ofNat b.toNat, ?_⟩
  rw [encode, List.flatMap_map]
  induction bytes with
  | nil => rfl
  | cons b bytes ih =>
    obtain ⟨hb, hbytes⟩ := List.forall_mem_cons.1 h
    rw [List.flatMap_cons, encode_one hb, ih hbytes]
    rfl

lemma exists_of_mem_cut {bytes : List UInt8} {segment : Segment} (h : segment ∈ cut bytes) :
    ∃ b rest, segment = Segment.atFront b rest := by
  induction bytes using cut.induct with
  | case1 => simp [cut] at h
  | case2 b rest first ih =>
    rw [cut] at h
    rcases List.mem_cons.1 h with rfl | h
    · exact ⟨b, rest, rfl⟩
    · exact ih h

/-- The segments make up the whole sequence. -/
lemma flatMap_bytes_cut (bytes : List UInt8) : (cut bytes).flatMap Segment.bytes = bytes := by
  induction bytes using cut.induct with
  | case1 => simp [cut]
  | case2 b rest segment ih =>
    rw [cut, List.flatMap_cons, ih]
    exact atFront_append_drop b rest

lemma encode_of_mem_cut {bytes : List UInt8} {segment : Segment} (h : segment ∈ cut bytes) {c : Char}
    (hc : segment.scalar = some c) : String.utf8EncodeChar c = segment.bytes := by
  obtain ⟨b, rest, rfl⟩ := exists_of_mem_cut h
  exact Cuts.encode_eq (hc ▸ cuts_atFront b rest)

/-- What is read back is the bytes that were there iff these were a text. -/
theorem encode_decodeLossy_iff (bytes : List UInt8) :
    encode (decodeLossy bytes) = bytes ↔ WellFormedText bytes := by
  rw [wellFormedText_iff]
  constructor
  · intro h
    exact ⟨_, h⟩
  · rintro ⟨s, rfl⟩
    rw [decodeLossy_encode]

lemma encode_of_mapM_scalar {segments : List Segment} {s : List Char}
    (hsegments : ∀ segment ∈ segments, ∀ c, segment.scalar = some c →
      String.utf8EncodeChar c = segment.bytes)
    (h : segments.mapM Segment.scalar = some s) : encode s = segments.flatMap Segment.bytes := by
  induction segments generalizing s with
  | nil =>
    obtain rfl : [] = s := by simpa using h
    rfl
  | cons segment segments ih =>
    rw [List.mapM_cons] at h
    obtain ⟨c, hc, h⟩ := Option.bind_eq_some_iff.1 h
    obtain ⟨t, ht, h⟩ := Option.bind_eq_some_iff.1 h
    obtain rfl := Option.some.inj h
    rw [encode_cons, hsegments segment List.mem_cons_self c hc,
      ih (fun x hx => hsegments x (List.mem_cons_of_mem _ hx)) ht, List.flatMap_cons]

lemma mapM_scalar_cut_encode (s : List Char) : (cut (encode s)).mapM Segment.scalar = some s := by
  induction s with
  | nil => simp [encode, cut]
  | cons c s ih => simp [encode_cons, cut_utf8EncodeChar_append, List.mapM_cons, ih]

/-- Strict reading accepts exactly the encoding of what it returns. -/
theorem decode?_eq_some_iff_encode (bytes : List UInt8) (s : List Char) :
    decode? bytes = some s ↔ encode s = bytes := by
  constructor
  · intro h
    rw [encode_of_mapM_scalar (fun _ hmem _ hc => encode_of_mem_cut hmem hc) h, flatMap_bytes_cut]
  · rintro rfl
    exact mapM_scalar_cut_encode s

/-- No segment is ill-formed iff the bytes are a text. -/
theorem isWellFormed_iff (bytes : List UInt8) : isWellFormed bytes = true ↔ WellFormedText bytes := by
  rw [isWellFormed, List.all_eq_true]
  constructor
  · intro h
    refine ⟨(cut bytes).map Segment.bytes, ?_, flatMap_bytes_cut bytes⟩
    intro w hw
    obtain ⟨segment, hmem, rfl⟩ := List.mem_map.1 hw
    obtain ⟨c, hc⟩ := Option.isSome_iff_exists.1 (h segment hmem)
    exact encode_of_mem_cut hmem hc ▸ wellFormed_utf8EncodeChar c
  · intro h
    obtain ⟨s, rfl⟩ := (wellFormedText_iff bytes).1 h
    intro segment hmem
    rw [cut_encode] at hmem
    obtain ⟨c, -, rfl⟩ := List.mem_map.1 hmem
    rfl

/-! ### What a text goes on with -/

/-- Behind an encoding a text goes on. -/
lemma WellFormedText.of_encode_append {s : List Char} {rest : List UInt8}
    (h : WellFormedText (encode s ++ rest)) : WellFormedText rest := by
  rw [← isWellFormed_iff, isWellFormed, List.all_eq_true] at h ⊢
  rw [cut_encode_append] at h
  exact fun segment hmem => h segment (List.mem_append_right _ hmem)

lemma wellFormedText_append_iff {p q : List UInt8} (hq : StartsAnew q) :
    WellFormedText (p ++ q) ↔ WellFormedText p ∧ WellFormedText q := by
  simp only [← isWellFormed_iff, isWellFormed, cut_append p hq, List.all_append,
    Bool.and_eq_true]

lemma WellFormedText.tail {b : UInt8} (hb : b < 0x80) {rest : List UInt8}
    (h : WellFormedText (b :: rest)) : WellFormedText rest := by
  have henc : encode [Char.ofNat b.toNat] = [b] := by
    rw [encode, List.flatMap_singleton, encode_one hb]
  exact WellFormedText.of_encode_append (s := [Char.ofNat b.toNat]) (by rwa [henc])

end Interop.Utf8
