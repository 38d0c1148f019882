import RowSync.Text.LowerCase

/-!
Plain names: ASCII letters, digits and underscores. On them lower-casing only makes capitals
small, so looking a name up in lower case and comparing it without regard to case agree.
-/

set_option autoImplicit false

namespace RowSync.Text

def isNameChar (c : Char) : Bool := c.isAlphanum || c == '_'

/-- The text consists of ASCII letters, digits and underscores. -/
def IsPlain (s : String) : Prop := ∀ c ∈ s.toList, isNameChar c = true

instance (s : String) : Decidable (IsPlain s) := List.decidableBAll _ _

theorem toNat_lt_of_isNameChar {c : Char} (name : isNameChar c = true) : c.toNat < 128 := by
  have ranges : (((c.isUpper || c.isLower) || c.isDigit) || c == '_') = true := name
  rw [Bool.or_eq_true, Bool.or_eq_true, Bool.or_eq_true] at ranges
  rcases ranges with ((upper | lower) | digit) | underscore
  · have bounds : 'A'.val ≤ c.val ∧ c.val ≤ 'Z'.val := of_decide_eq_true upper
    have last : c.toNat ≤ 90 := UInt32.le_iff_toNat_le.mp bounds.2
    omega
  · have bounds := (Bool.and_eq_true _ _).mp lower
    have last : c.toNat ≤ 122 := UInt32.le_iff_toNat_le.mp (of_decide_eq_true bounds.2)
    omega
  · have bounds := (Bool.and_eq_true _ _).mp digit
    have last : c.toNat ≤ 57 := UInt32.le_iff_toNat_le.mp (of_decide_eq_true bounds.2)
    omega
  · rw [eq_of_beq underscore]
    decide

theorem forall_ascii {P : Char → Prop} (all : ∀ n < 128, P (Char.ofNat n)) {c : Char}
    (small : c.toNat < 128) : P c := by
  have same : Char.ofNat c.toNat = c := Char.ofNat_toNat c
  exact same ▸ all c.toNat small

theorem lowerChar_eq {c : Char} (small : c.toNat < 128) : lowerChar c = [lowerAscii c] := by
  simp [lowerChar, small]

theorem lowerAscii_lowerAscii {c : Char} (name : isNameChar c = true) :
    lowerAscii (lowerAscii c) = lowerAscii c :=
  forall_ascii (P := fun c => lowerAscii (lowerAscii c) = lowerAscii c) (by decide)
    (toNat_lt_of_isNameChar name)

theorem isNameChar_lowerAscii {c : Char} (name : isNameChar c = true) :
    isNameChar (lowerAscii c) = true :=
  forall_ascii (P := fun c => isNameChar c = true → isNameChar (lowerAscii c) = true) (by decide)
    (toNat_lt_of_isNameChar name) name

private theorem lowerAfter_eq_map {cs : List Char} (names : ∀ c ∈ cs, isNameChar c = true)
    (before : List Char) : lowerAfter before cs = cs.map lowerAscii := by
  induction cs generalizing before with
  | nil => rfl
  | cons c cs ih =>
    have small := toNat_lt_of_isNameChar (names c (by simp))
    have sigma : (c == 'Σ') = false := by
      rw [beq_eq_false_iff_ne]
      rintro rfl
      exact absurd small (by decide)
    have tail := ih (fun d member => names d (List.mem_cons_of_mem c member)) (c :: before)
    simp only [lowerAfter, sigma, lowerChar_eq small, tail]
    rfl

/-- A plain name has the same lower-case form under the full mapping as under that of ASCII. -/
theorem lower_eq_asciiLower {s : String} (plain : IsPlain s) : lower s = asciiLower s := by
  rw [lower, asciiLower, lowerAfter_eq_map plain]

theorem IsPlain.asciiLower {s : String} (plain : IsPlain s) : IsPlain (asciiLower s) := by
  intro c member
  rw [Text.asciiLower, String.toList_ofList, List.mem_map] at member
  obtain ⟨d, original, rfl⟩ := member
  exact isNameChar_lowerAscii (plain d original)

theorem asciiLower_asciiLower {s : String} (plain : IsPlain s) :
    asciiLower (asciiLower s) = asciiLower s := by
  simp only [asciiLower, String.toList_ofList, List.map_map]
  congr 1
  exact List.map_congr_left fun c member => lowerAscii_lowerAscii (plain c member)

theorem sameAscii_iff {s t : String} : sameAscii s t = true ↔ asciiLower s = asciiLower t := by
  simp [sameAscii]

theorem sameAscii_refl (s : String) : sameAscii s s = true := sameAscii_iff.mpr rfl

theorem sameAscii_comm (s t : String) : sameAscii s t = sameAscii t s := by
  rw [Bool.eq_iff_iff, sameAscii_iff, sameAscii_iff, eq_comm]

theorem lower_beq_lower {s t : String} (hs : IsPlain s) (ht : IsPlain t) :
    (lower s == lower t) = sameAscii s t := by
  rw [lower_eq_asciiLower hs, lower_eq_asciiLower ht, sameAscii]

theorem takeWhile_isNameChar {name after : List Char} (plain : ∀ c ∈ name, isNameChar c = true)
    {stop : Char} (foreign : isNameChar stop = false) :
    (name ++ stop :: after).takeWhile isNameChar = name := by
  induction name with
  | nil => simp [foreign]
  | cons c name ih =>
    have head := plain c (by simp)
    have tail := ih fun d member => plain d (List.mem_cons_of_mem c member)
    simp [head, tail]

end RowSync.Text
