import RowSync.Proofs.Text.LowerCase
import RowSync.Proofs.Text.Utf8
import RowSync.Value.Uuid

/-!
The hyphenated form of an identifier spells its bytes: without the hyphens it is their hexadecimal
digits, and those are read back to the bytes. A text of thirty-six bytes is read as the identifier
exactly when it has this form but for the case of letters.
-/

set_option autoImplicit false

namespace RowSync

namespace Hex

open Text (lowerAscii)

private theorem value?_digit {n : Nat} (bound : n < 16) : value? (digit n) = some n := by
  revert bound
  revert n
  decide

private theorem digit_ne_hyphen {n : Nat} (bound : n < 16) : digit n ≠ '-' := by
  revert bound
  revert n
  decide

theorem decode?_encode (bytes : Bytes) : decode? (encode bytes) = some bytes := by
  induction bytes with
  | nil => rfl
  | cons b bytes ih =>
    have byte : b.toNat < 256 := b.toNat_lt
    have whole : b.toNat / 16 * 16 + b.toNat % 16 = b.toNat := by omega
    show decode? (digit (b.toNat / 16) :: digit (b.toNat % 16) :: encode bytes) = _
    rw [decode?, value?_digit (by omega), value?_digit (by omega), ih]
    simp only [Option.bind_eq_bind, Option.bind_some, whole, UInt8.ofNat_toNat]
    rfl

private theorem digit_ascii {n : Nat} (bound : n < 16) : (digit n).toNat < 128 := by
  revert bound
  revert n
  decide

theorem exists_digit_of_mem_encode {bytes : Bytes} {c : Char} (mem : c ∈ encode bytes) :
    ∃ n, n < 16 ∧ c = digit n := by
  obtain ⟨b, -, inside⟩ := List.mem_flatMap.mp mem
  have byte : b.toNat < 256 := b.toNat_lt
  simp only [pair, List.mem_cons, List.not_mem_nil, or_false] at inside
  rcases inside with rfl | rfl
  · exact ⟨_, by omega, rfl⟩
  · exact ⟨_, by omega, rfl⟩

theorem ne_hyphen_of_mem_encode {bytes : Bytes} {c : Char} (mem : c ∈ encode bytes) :
    c ≠ '-' := by
  obtain ⟨n, bound, rfl⟩ := exists_digit_of_mem_encode mem
  exact digit_ne_hyphen bound

theorem ascii_of_mem_encode {bytes : Bytes} {c : Char} (mem : c ∈ encode bytes) :
    c.toNat < 128 := by
  obtain ⟨n, bound, rfl⟩ := exists_digit_of_mem_encode mem
  exact digit_ascii bound

theorem length_encode (bytes : Bytes) : (encode bytes).length = 2 * bytes.length := by
  induction bytes with
  | nil => rfl
  | cons b bytes ih =>
    show (encode bytes).length + 1 + 1 = 2 * (bytes.length + 1)
    omega

private theorem value?_eq_none {c : Char} (large : ¬c.toNat < 128) : value? c = none := by
  have above : ∀ d : Char, d.toNat < 128 → ¬c ≤ d := by
    intro d small below
    have number := UInt32.le_iff_toNat_le.mp below
    exact large (Nat.lt_of_le_of_lt number small)
  simp [value?, above]

theorem value?_lowerAscii (c : Char) : value? (lowerAscii c) = value? c :=
  Text.forall_of_capitals (P := fun c => value? (lowerAscii c) = value? c) (by decide)
    (fun c same => by rw [same]) c

theorem lowerAscii_of_value? {c : Char} {n : Nat} (value : value? c = some n) :
    n < 16 ∧ lowerAscii c = digit n := by
  by_cases small : c.toNat < 128
  · have all : ∀ k < 128, (value? (Char.ofNat k)).all
        fun n => n < 16 && lowerAscii (Char.ofNat k) == digit n := by decide
    have here := Text.forall_ascii
      (P := fun c => (value? c).all (fun n => n < 16 && lowerAscii c == digit n) = true) all small
    simpa [value] using here
  · rw [value?_eq_none small] at value
    cases value

theorem decode?_map_lowerAscii (cs : List Char) : decode? (cs.map lowerAscii) = decode? cs := by
  induction cs using decode?.induct with
  | case1 => rfl
  | case2 c => rfl
  | case3 c d rest ih => simp only [List.map_cons, decode?, value?_lowerAscii, ih]

/-- Characters are read as the bytes whose digits they are but for their case. -/
theorem decode?_eq_some_iff {cs : List Char} {bytes : Bytes} :
    decode? cs = some bytes ↔ cs.map lowerAscii = encode bytes := by
  constructor
  · intro read
    induction cs using decode?.induct generalizing bytes with
    | case1 =>
      cases read
      rfl
    | case2 c => cases read
    | case3 c d rest ih =>
      simp only [decode?, Option.bind_eq_bind, Option.bind_eq_some_iff, Option.pure_def,
        Option.some.injEq] at read
      obtain ⟨high, first, low, second, later, tail, rfl⟩ := read
      obtain ⟨high_lt, first⟩ := lowerAscii_of_value? first
      obtain ⟨low_lt, second⟩ := lowerAscii_of_value? second
      have byte : (UInt8.ofNat (high * 16 + low)).toNat = high * 16 + low := by
        rw [UInt8.toNat_ofNat']
        omega
      have upper : (high * 16 + low) / 16 = high := by omega
      have lower : (high * 16 + low) % 16 = low := by omega
      simp only [List.map_cons, first, second, ih tail, encode, List.flatMap_cons, pair, byte,
        upper, lower]
      rfl
  · intro spelled
    rw [← decode?_map_lowerAscii, spelled, decode?_encode]

end Hex

namespace Uuid

private theorem parts_eq (digits : List Char) :
    digits.take 8 ++ ((digits.drop 8).take 4 ++ ((digits.drop 12).take 4 ++
      ((digits.drop 16).take 4 ++ digits.drop 20))) = digits := by
  have joined : ∀ n, (digits.drop n).take 4 ++ digits.drop (n + 4) = digits.drop n := by
    intro n
    rw [← List.drop_drop, List.take_append_drop]
  rw [joined 16, joined 12, joined 8, List.take_append_drop]

theorem digits_text (u : Uuid) : u.text.toList.filter (· != '-') = Hex.encode u.bytes := by
  have kept : ∀ part : List Char, (∀ c ∈ part, c ∈ Hex.encode u.bytes) →
      part.filter (· != '-') = part := by
    intro part within
    apply List.filter_eq_self.mpr
    intro c mem
    simpa using Hex.ne_hyphen_of_mem_encode (within c mem)
  rw [text, String.toList_ofList, hyphenate]
  generalize Hex.encode u.bytes = digits at kept ⊢
  have head := kept (digits.take 8) (fun c => List.mem_of_mem_take)
  have middle : ∀ n, ((digits.drop n).take 4).filter (· != '-') = (digits.drop n).take 4 := by
    intro n
    exact kept _ (fun c mem => List.mem_of_mem_drop (List.mem_of_mem_take mem))
  have tail := kept (digits.drop 20) (fun c => List.mem_of_mem_drop)
  simp only [List.append_assoc, List.cons_append, List.filter_append, head, middle, tail,
    List.filter_cons_of_neg, bne_self_eq_false, Bool.false_eq_true, not_false_eq_true]
  exact parts_eq digits

section Hyphens

variable {cs digits : List Char}

theorem hyphenate_append {a b c d : List Char} (e : List Char) (ha : a.length = 8)
    (hb : b.length = 4) (hc : c.length = 4) (hd : d.length = 4) :
    hyphenate (a ++ (b ++ (c ++ (d ++ e)))) =
      a ++ '-' :: (b ++ '-' :: (c ++ '-' :: (d ++ '-' :: e))) := by
  simp (disch := omega) [hyphenate, List.drop_append, List.drop_eq_nil_of_le, ha, hb, hc]

theorem exists_parts (full : digits.length = 32) :
    ∃ a b c d e, digits = a ++ (b ++ (c ++ (d ++ e))) ∧ a.length = 8 ∧ b.length = 4 ∧
      c.length = 4 ∧ d.length = 4 ∧ e.length = 12 := by
  refine ⟨digits.take 8, (digits.drop 8).take 4, (digits.drop 12).take 4, (digits.drop 16).take 4,
    digits.drop 20, (parts_eq digits).symm, ?_⟩
  simp only [List.length_take, List.length_drop, full]
  decide

theorem unhyphenate?_eq_some_iff :
    unhyphenate? cs = some digits ↔ digits.length = 32 ∧ cs = hyphenate digits := by
  constructor
  · intro found
    simp only [unhyphenate?] at found
    split at found
    · rename_i whole
      cases found
      simp only [Bool.and_eq_true, beq_iff_eq] at whole
      refine ⟨?_, whole.2⟩
      simp [whole.1]
    · cases found
  · rintro ⟨full, rfl⟩
    obtain ⟨a, b, c, d, e, rfl, ha, hb, hc, hd, he⟩ := exists_parts full
    rw [hyphenate_append e ha hb hc hd, unhyphenate?]
    simp (disch := omega) [List.drop_append, List.drop_eq_nil_of_le, ha, hb, hc, hd, he,
      hyphenate_append]

theorem map_eq_hyphenate_iff {f : Char → Char} (hyphen : ∀ c, f c = '-' ↔ c = '-')
    (full : digits.length = 32) :
    cs.map f = hyphenate digits ↔ ∃ ds, cs = hyphenate ds ∧ ds.map f = digits := by
  constructor
  · intro mapped
    obtain ⟨a, b, c, d, e, rfl, ha, hb, hc, hd, he⟩ := exists_parts full
    rw [hyphenate_append e ha hb hc hd] at mapped
    simp only [List.map_eq_append_iff, List.map_eq_cons_iff, hyphen] at mapped
    obtain ⟨a', _, rfl, rfl, _, _, rfl, rfl, b', _, rfl, rfl, _, _, rfl, rfl, c', _, rfl, rfl, _, _,
      rfl, rfl, d', _, rfl, rfl, _, e', rfl, rfl, rfl⟩ := mapped
    simp only [List.length_map] at ha hb hc hd
    refine ⟨a' ++ (b' ++ (c' ++ (d' ++ e'))), ?_, ?_⟩
    · rw [hyphenate_append e' ha hb hc hd]
    · simp
  · rintro ⟨ds, rfl, rfl⟩
    rw [List.length_map] at full
    obtain ⟨a, b, c, d, e, rfl, ha, hb, hc, hd, he⟩ := exists_parts full
    simp [hyphenate_append, hyphen, ha, hb, hc, hd]

end Hyphens

open Text (lowerAscii)

variable {u : Uuid} {s : String}

theorem ofBytes?_eq_some_iff {b : Bytes} : ofBytes? b = some u ↔ b = u.bytes := by
  unfold ofBytes?
  split
  · rw [Option.some.injEq]
    exact ⟨fun same => same ▸ rfl, fun same => by cases u; cases same; rfl⟩
  · rename_i other
    refine ⟨nofun, ?_⟩
    rintro rfl
    exact absurd u.length_eq other

theorem length_digits (u : Uuid) : (Hex.encode u.bytes).length = 32 := by
  rw [Hex.length_encode, u.length_eq]

theorem toList_text (u : Uuid) : u.text.toList = hyphenate (Hex.encode u.bytes) :=
  String.toList_ofList

private theorem lowerAscii_eq_hyphen_iff : ∀ c, lowerAscii c = '-' ↔ c = '-' :=
  Text.forall_of_capitals (by decide) fun c same => by rw [same]

/-- The hyphenated form is read in any case of its letters, and nothing else is. -/
theorem readHyphenated?_eq_some_iff {cs : List Char} :
    readHyphenated? cs = some u ↔ cs.map lowerAscii = u.text.toList := by
  rw [toList_text, map_eq_hyphenate_iff lowerAscii_eq_hyphen_iff u.length_digits]
  simp only [readHyphenated?, Option.bind_eq_some_iff, ofBytes?_eq_some_iff,
    exists_eq_right, unhyphenate?_eq_some_iff, Hex.decode?_eq_some_iff]
  constructor
  · rintro ⟨digits, ⟨-, same⟩, spelled⟩
    exact ⟨digits, same, spelled⟩
  · rintro ⟨digits, same, spelled⟩
    refine ⟨digits, ⟨?_, same⟩, spelled⟩
    rw [← List.length_map (f := lowerAscii), spelled, u.length_digits]

/-- The text is the hyphenated form of the identifier in any mixture of cases. -/
def SpelledBy (u : Uuid) (s : String) : Prop := Text.sameAscii s u.text = true

theorem asciiLower_text (u : Uuid) : Text.asciiLower u.text = u.text := by
  have digits := Hex.decode?_eq_some_iff.mp (Hex.decode?_encode u.bytes)
  have hyphenated : u.text.toList.map lowerAscii = u.text.toList := by
    rw [toList_text, map_eq_hyphenate_iff lowerAscii_eq_hyphen_iff u.length_digits]
    exact ⟨_, rfl, digits⟩
  rw [Text.asciiLower, hyphenated, String.ofList_toList]

theorem spelledBy_iff : u.SpelledBy s ↔ s.toList.map lowerAscii = u.text.toList := by
  rw [SpelledBy, Text.sameAscii_iff, asciiLower_text, Text.asciiLower, ← String.toList_inj,
    String.toList_ofList]

theorem mem_text {c : Char} (mem : c ∈ u.text.toList) : c = '-' ∨ c ∈ Hex.encode u.bytes := by
  by_cases hyphen : c = '-'
  · exact .inl hyphen
  · right
    rw [← digits_text, List.mem_filter]
    exact ⟨mem, by simpa using hyphen⟩

private theorem ascii_of_mem_text {c : Char} (mem : c ∈ u.text.toList) : c.toNat < 128 := by
  rcases mem_text mem with rfl | digit
  · decide
  · exact Hex.ascii_of_mem_encode digit

theorem length_text (u : Uuid) : u.text.toList.length = 36 := by
  obtain ⟨a, b, c, d, e, parts, ha, hb, hc, hd, he⟩ := exists_parts u.length_digits
  rw [toList_text, parts, hyphenate_append e ha hb hc hd]
  simp only [List.length_append, List.length_cons, ha, hb, hc, hd, he]

private theorem ascii_map_iff {cs : List Char} :
    (∀ c ∈ cs.map lowerAscii, c.toNat < 128) ↔ ∀ c ∈ cs, c.toNat < 128 := by
  rw [List.forall_mem_map]
  have kept : ∀ c, (lowerAscii c).toNat < 128 ↔ c.toNat < 128 :=
    Text.forall_of_capitals (by decide) fun c same => by rw [same]
  exact forall₂_congr fun c _ => kept c

theorem length_of_spelledBy (spelled : u.SpelledBy s) :
    s.toList.length = 36 ∧ (Utf8.encode s).length = 36 := by
  rw [spelledBy_iff] at spelled
  have length : s.toList.length = 36 := by
    rw [← List.length_map (f := lowerAscii), spelled, length_text]
  have ascii : ∀ c ∈ s.toList, c.toNat < 128 := by
    rw [← ascii_map_iff, spelled]
    exact fun c => ascii_of_mem_text
  exact ⟨length, (Utf8.length_encode_of_ascii ascii).trans length⟩

/-- A text of thirty-six bytes is read as the identifier whose hyphenated form it is. -/
theorem read?_eq_some_iff (size : (Utf8.encode s).length = 36) :
    read? s = some u ↔ u.SpelledBy s := by
  have short := Utf8.length_le_encode s
  -- Thirty-two digits have too few bytes, and the forms with more than the hyphens too many.
  unfold read?
  dsimp only
  split
  · rename_i digits
    rw [beq_iff_eq] at digits
    constructor
    · intro read
      obtain ⟨bytes, read, -⟩ := Option.bind_eq_some_iff.mp read
      have ascii : ∀ c ∈ s.toList, c.toNat < 128 := by
        rw [← ascii_map_iff, Hex.decode?_eq_some_iff.mp read]
        exact fun c => Hex.ascii_of_mem_encode
      have length := Utf8.length_encode_of_ascii ascii
      omega
    · intro spelled
      have length := (length_of_spelledBy spelled).1
      omega
  · rw [if_neg (by simp only [beq_iff_eq]; omega), if_neg (by simp only [beq_iff_eq]; omega),
      readHyphenated?_eq_some_iff, spelledBy_iff]

end Uuid

end RowSync
