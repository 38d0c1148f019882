import RowSync.Proofs.Number.Digits
import RowSync.Proofs.Value.Uuid
import RowSync.Value.Basic

/-!
The texts of row identities. An identifier has one text in all of its representations, and that
text belongs to no other identifier; all other bytes are listed as numbers, from which they can be
told, and no list is the text of an identifier.
-/

set_option autoImplicit false

namespace RowSync

namespace Uuid

/-- The characters are the digits with hyphens behind the eighth, twelfth, sixteenth and twentieth
of thirty-two. -/
def IsHyphenated (cs digits : List Char) : Prop :=
  ∃ a b c d e, cs = a ++ '-' :: (b ++ '-' :: (c ++ '-' :: (d ++ '-' :: e))) ∧
    digits = a ++ (b ++ (c ++ (d ++ e))) ∧
    a.length = 8 ∧ b.length = 4 ∧ c.length = 4 ∧ d.length = 4 ∧ e.length = 12

theorem isHyphenated_text (u : Uuid) : IsHyphenated u.text.toList (Hex.encode u.bytes) := by
  obtain ⟨a, b, c, d, e, parts, ha, hb, hc, hd, he⟩ := exists_parts u.length_digits
  refine ⟨a, b, c, d, e, ?_, parts, ha, hb, hc, hd, he⟩
  rw [toList_text, parts, hyphenate_append e ha hb hc hd]

/-- The values that stand for an identifier. -/
inductive IsIn (u : Uuid) : Value → Prop
  | uuid : u.IsIn (.uuid u)
  | bytes : u.IsIn (.bytes u.bytes)
  | text (s : String) (spelled : u.SpelledBy s) : u.IsIn (.text s)
  | textBytes (s : String) (spelled : u.SpelledBy s) : u.IsIn (.bytes (Utf8.encode s))

theorem read?_text (u : Uuid) : read? u.text = some u := by
  have own : u.SpelledBy u.text := Text.sameAscii_refl u.text
  exact (read?_eq_some_iff (length_of_spelledBy own).2).mpr own

theorem text_injective : Function.Injective text := by
  intro u v same
  have read := read?_text u
  rw [same, read?_text v] at read
  exact (Option.some.inj read).symm

end Uuid

namespace Value

/-- An identifier is rendered as its text, whatever value stands for it. -/
theorem idText_of_isIn {u : Uuid} {v : Value} (represented : u.IsIn v) : v.idText = u.text := by
  cases represented with
  | uuid => rfl
  | bytes => rw [idText, Uuid.ofBytes?_eq_some_iff.mpr rfl]
  | text s spelled =>
    have size := (Uuid.length_of_spelledBy spelled).2
    have written : ((Utf8.encode s).length == writtenUuidLength) = true := beq_iff_eq.mpr size
    rw [idText, if_pos written, (Uuid.read?_eq_some_iff size).mpr spelled]
  | textBytes s spelled =>
    have size := (Uuid.length_of_spelledBy spelled).2
    have written : ((Utf8.encode s).length == writtenUuidLength) = true := beq_iff_eq.mpr size
    have many : Uuid.ofBytes? (Utf8.encode s) = none := dif_neg (by omega)
    have read := (Uuid.read?_eq_some_iff size).mpr spelled
    simp only [idText, many, written, if_true, Utf8.decode_encode, read]

/-- The bytes are neither those of an identifier nor those of its text. -/
def IsOtherBytes (b : Bytes) : Prop :=
  b.length ≠ 16 ∧ ∀ (u : Uuid) (s : String), u.SpelledBy s → b ≠ Utf8.encode s

theorem idText_of_isOtherBytes {b : Bytes} (other : IsOtherBytes b) :
    idText (.bytes b) = listed " " b := by
  have many : Uuid.ofBytes? b = none := dif_neg other.1
  simp only [idText, many]
  split
  · rename_i u found
    split at found
    · rename_i size
      rw [beq_iff_eq] at size
      cases decoded : Utf8.decode b with
      | error e =>
        rw [decoded] at found
        cases found
      | ok s =>
        rw [decoded] at found
        obtain rfl := Utf8.decode_eq_ok_iff.mp decoded
        exact absurd rfl (other.2 u s ((Uuid.read?_eq_some_iff size).mp found))
    · cases found
  · rfl

section Listing

theorem toList_listed (b : Bytes) : (listed " " b).toList =
    '[' :: ([' '].intercalate (b.map fun x => Nat.toDigits 10 x.toNat) ++ [']']) := by
  have digits : ∀ x : UInt8, (toString x.toNat).toList = Nat.toDigits 10 x.toNat :=
    fun x => Integer.toList_natCast x.toNat
  have blank : " ".toList = [' '] := rfl
  have opened : "[".toList = ['['] := rfl
  have closed : "]".toList = [']'] := rfl
  simp only [listed, String.toList_append, String.toList_intercalate, List.map_map,
    Function.comp_def, digits, blank, opened, closed, List.cons_append, List.nil_append]

private theorem splitOn_blanks (b : Bytes) :
    (List.splitOn ' ' ([' '].intercalate (b.map fun x => Nat.toDigits 10 x.toNat))).filter
        (fun part => !part.isEmpty) = b.map fun x => Nat.toDigits 10 x.toNat := by
  have blankless : ∀ part ∈ b.map fun x => Nat.toDigits 10 x.toNat, ' ' ∉ part := by
    intro part number blank
    obtain ⟨x, -, rfl⟩ := List.mem_map.mp number
    exact absurd (Integer.isDigit_toDigits blank) (by decide)
  have some_digit : ∀ part ∈ b.map fun x => Nat.toDigits 10 x.toNat,
      (!part.isEmpty) = true := by
    intro part number
    obtain ⟨x, -, rfl⟩ := List.mem_map.mp number
    simp [Nat.toDigits_ne_nil]
  cases b with
  | nil => rfl
  | cons x b =>
    rw [List.splitOn_intercalate ' ' blankless (by simp), List.filter_eq_self.mpr some_digit]

/-- The numbers are told from each other by the blanks between them. -/
theorem listed_injective : Function.Injective (listed " ") := by
  have digits : Function.Injective fun x : UInt8 => Nat.toDigits 10 x.toNat := by
    intro x y same
    have number := congrArg (Nat.ofDigitChars 10 · 0) same
    simp only [Nat.ofDigitChars_ten_toDigits] at number
    exact UInt8.toNat_inj.mp number
  intro b b' same
  have characters := congrArg String.toList same
  rw [toList_listed, toList_listed] at characters
  have inner := List.append_cancel_right (List.cons.inj characters).2
  apply List.map_injective_iff.mpr digits
  rw [← splitOn_blanks b, inner, splitOn_blanks]

theorem not_spelledBy_listed (b : Bytes) (u : Uuid) : ¬u.SpelledBy (listed " " b) := by
  intro spelled
  have bracket : '[' ∈ u.text.toList := by
    rw [← Uuid.spelledBy_iff.mp spelled, toList_listed]
    exact List.mem_cons_self
  rcases Uuid.mem_text bracket with hyphen | digit
  · exact absurd hyphen (by decide)
  · have none : ∀ n < 16, '[' ≠ Hex.digit n := by decide
    obtain ⟨n, bound, found⟩ := Hex.exists_digit_of_mem_encode digit
    exact none n bound found

end Listing

/-- The lower-case hyphenated form is the text of every value that stands for an identifier; it is
read back to the identifier and belongs to no other. Other bytes are listed as numbers, and are told
from each other and from identifiers. -/
theorem idText_canonical :
    (∀ u : Uuid, Uuid.IsHyphenated u.text.toList (Hex.encode u.bytes) ∧
      Text.asciiLower u.text = u.text ∧ Uuid.read? u.text = some u ∧
      ∀ v : Value, u.IsIn v → v.idText = u.text) ∧
    (∀ (u u' : Uuid) (v v' : Value), u.IsIn v → u'.IsIn v' → v.idText = v'.idText → u = u') ∧
    ∀ b : Bytes, IsOtherBytes b → idText (.bytes b) = listed " " b ∧
      (∀ u : Uuid, ¬u.SpelledBy (idText (.bytes b))) ∧
      ∀ b' : Bytes, IsOtherBytes b' → idText (.bytes b) = idText (.bytes b') → b = b' := by
  refine ⟨fun u => ⟨u.isHyphenated_text, u.asciiLower_text, u.read?_text,
    fun v => idText_of_isIn⟩, ?_, ?_⟩
  · intro u u' v v' represented represented' same
    rw [idText_of_isIn represented, idText_of_isIn represented'] at same
    exact Uuid.text_injective same
  · intro b other
    refine ⟨idText_of_isOtherBytes other, ?_, ?_⟩
    · intro u
      rw [idText_of_isOtherBytes other]
      exact not_spelledBy_listed b u
    · intro b' other' same
      rw [idText_of_isOtherBytes other, idText_of_isOtherBytes other'] at same
      exact listed_injective same

private def dns : Uuid :=
  ⟨[0x6b, 0xa7, 0xb8, 0x10, 0x9d, 0xad, 0x11, 0xd1, 0x80, 0xb4, 0x00, 0xc0, 0x4f, 0xd4, 0x30, 0xc8],
    rfl⟩

theorem idText_canonical_of_dns :
    dns.IsIn (.bytes (Utf8.encode "6BA7B810-9dad-11D1-80b4-00C04FD430C8")) ∧
      idText (.bytes (Utf8.encode "6BA7B810-9dad-11D1-80b4-00C04FD430C8")) = dns.text ∧
      IsOtherBytes [45, 23, 44] ∧ idText (.bytes [45, 23, 44]) = "[45 23 44]" ∧
      ¬dns.SpelledBy "[45 23 44]" := by
  have written : dns.IsIn (.bytes (Utf8.encode "6BA7B810-9dad-11D1-80b4-00C04FD430C8")) :=
    .textBytes _ (by unfold Uuid.SpelledBy; decide +kernel)
  have other : IsOtherBytes [45, 23, 44] := by
    refine ⟨by decide, fun u s spelled same => ?_⟩
    have size := (Uuid.length_of_spelledBy spelled).2
    rw [← same] at size
    exact absurd size (by decide)
  obtain ⟨listing, apart, -⟩ := idText_canonical.2.2 _ other
  have list : listed " " [45, 23, 44] = "[45 23 44]" := by decide +kernel
  rw [list] at listing
  exact ⟨written, (idText_canonical.1 dns).2.2.2 _ written, other, listing, listing ▸ apart dns⟩

end Value

end RowSync
