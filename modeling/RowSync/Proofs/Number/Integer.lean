import RowSync.Number.BigEndian
import RowSync.Number.Integer
import RowSync.Text.Blank
import Mathlib.Data.List.Induction

/-!
Integers come back from both of their forms: from two's complement in a fixed number of bytes, and
from decimal digits.
-/

set_option autoImplicit false

namespace RowSync

namespace BigEndian

theorem toNat_append (b : Bytes) (x : UInt8) : toNat (b ++ [x]) = toNat b * 256 + x.toNat := by
  simp [toNat]

theorem toNat_lt (b : Bytes) : toNat b < Nat.pow 256 b.length := by
  induction b using List.reverseRecOn with
  | nil => decide
  | append_singleton b x ih =>
    have byte : x.toNat < 256 := x.toNat_lt
    have wider : Nat.pow 256 (b ++ [x]).length = Nat.pow 256 b.length * 256 := by
      rw [List.length_append]
      exact Nat.pow_succ 256 b.length
    rw [toNat_append, wider]
    omega

theorem ofNat_toNat (b : Bytes) : ofNat b.length (toNat b) = b := by
  induction b using List.reverseRecOn with
  | nil => rfl
  | append_singleton b x ih =>
    have byte : x.toNat < 256 := x.toNat_lt
    have high : (toNat b * 256 + x.toNat) / 256 = toNat b := by omega
    have low : UInt8.ofNat (toNat b * 256 + x.toNat) = x := by
      apply UInt8.toNat_inj.mp
      simp
    rw [toNat_append, List.length_append, List.length_singleton, ofNat, high, low, ih]

theorem ofInt_toInt (b : Bytes) : ofInt b.length (toInt b) = b := by
  have below := toNat_lt b
  have residue : toInt b % (Nat.pow 256 b.length : Nat) = toNat b := by
    unfold toInt
    split
    · exact Int.emod_eq_of_lt (by omega) (by omega)
    · rw [Int.sub_emod_right]
      exact Int.emod_eq_of_lt (by omega) (by omega)
  rw [ofInt, residue]
  exact ofNat_toNat b

theorem pow_eq_two_mul {width : Nat} (some_byte : 0 < width) :
    Nat.pow 256 width = 2 * Nat.pow 2 (8 * width - 1) := by
  show 256 ^ width = 2 * 2 ^ (8 * width - 1)
  rw [show 256 = 2 ^ 8 from rfl, ← Nat.pow_mul, ← Nat.pow_succ']
  congr 1
  omega

theorem toInt_range {b : Bytes} (some_byte : 0 < b.length) :
    -(Nat.pow 2 (8 * b.length - 1) : Nat) ≤ toInt b ∧
      toInt b < (Nat.pow 2 (8 * b.length - 1) : Nat) := by
  have below := toNat_lt b
  have half := pow_eq_two_mul some_byte
  unfold toInt
  split <;> omega

theorem length_ofNat (width : Nat) : ∀ n, (ofNat width n).length = width := by
  induction width with
  | zero => exact fun _ => rfl
  | succ width ih =>
    intro n
    rw [ofNat, List.length_append, ih, List.length_singleton]

theorem toNat_ofNat (width : Nat) : ∀ n, toNat (ofNat width n) = n % Nat.pow 256 width := by
  induction width with
  | zero => exact fun n => (Nat.mod_one n).symm
  | succ width ih =>
    intro n
    have byte : (UInt8.ofNat n).toNat = n % 256 := by simp
    have wider : Nat.pow 256 (width + 1) = 256 * Nat.pow 256 width := Nat.pow_succ'
    rw [ofNat, toNat_append, ih, byte, wider, Nat.mod_mul]
    omega

theorem length_ofInt (width : Nat) (n : Int) : (ofInt width n).length = width :=
  length_ofNat width _

theorem toInt_ofInt {width : Nat} {n : Int} (lower : -(Nat.pow 256 width : Nat) ≤ 2 * n)
    (upper : 2 * n < (Nat.pow 256 width : Nat)) : toInt (ofInt width n) = n := by
  have spelled : (toNat (ofInt width n) : Int) = n % (Nat.pow 256 width : Nat) := by
    have small := Int.emod_lt_of_pos n (show (0 : Int) < (Nat.pow 256 width : Nat) by omega)
    have positive := Int.emod_nonneg n (show ((Nat.pow 256 width : Nat) : Int) ≠ 0 by omega)
    rw [ofInt, toNat_ofNat, Nat.mod_eq_of_lt (by omega), Int.toNat_of_nonneg positive]
  rw [toInt, length_ofInt]
  rcases Int.lt_or_le n 0 with negative | positive
  · have residue : n % (Nat.pow 256 width : Nat) = n + (Nat.pow 256 width : Nat) := by
      rw [← Int.add_emod_right]
      exact Int.emod_eq_of_lt (by omega) (by omega)
    split <;> omega
  · have residue : n % (Nat.pow 256 width : Nat) = n := Int.emod_eq_of_lt positive (by omega)
    split <;> omega

theorem readInt?_ofInt {width : Nat} {n : Int} (lower : -(Nat.pow 256 width : Nat) ≤ 2 * n)
    (upper : 2 * n < (Nat.pow 256 width : Nat)) : readInt? width (ofInt width n) = some n := by
  rw [readInt?, length_ofInt, beq_self_eq_true, if_pos rfl, toInt_ofInt lower upper]

end BigEndian

namespace Text

theorem isBlank_of_isDigit {c : Char} (digit : c.isDigit = true) : isBlank c = false := by
  simp only [Char.isDigit, Bool.and_eq_true, decide_eq_true_eq, ge_iff_le,
    UInt32.le_iff_toNat_le] at digit
  have range : 48 ≤ c.toNat ∧ c.toNat ≤ 57 := digit
  simp [isBlank]
  omega

theorem dropBlanks_of_solid {c : Char} (cs : List Char) (solid : isBlank c = false) :
    dropBlanks (c :: cs) = c :: cs := by
  rw [dropBlanks, List.dropWhile_cons_of_neg]
  simp [solid]

theorem trim_of_solid {s : String} (solid : ∀ c ∈ s.toList, isBlank c = false) : trim s = s := by
  have front : ∀ cs : List Char, (∀ c ∈ cs, isBlank c = false) → dropBlanks cs = cs := by
    intro cs solid
    cases cs with
    | nil => rfl
    | cons c cs => exact dropBlanks_of_solid cs (solid c List.mem_cons_self)
  rw [trim, front _ solid, front, List.reverse_reverse]
  · exact String.ofList_toList
  · intro c mem
    exact solid c (List.mem_reverse.mp mem)

end Text

namespace Integer

theorem digit?_of_isDigit {c : Char} (digit : c.isDigit = true) :
    digit? c = some (c.toNat - '0'.toNat) := by
  have range : '0' ≤ c ∧ c ≤ '9' := by
    simpa [Char.isDigit, Char.le_def, and_comm] using digit
  rw [digit?, if_pos range]

theorem ne_sign_of_isDigit {c : Char} (digit : c.isDigit = true) : c ≠ '-' ∧ c ≠ '+' := by
  constructor
  · rintro rfl
    exact absurd digit (by decide)
  · rintro rfl
    exact absurd digit (by decide)

theorem le_ofDigitChars (cs : List Char) (acc : Nat) :
    acc ≤ Nat.ofDigitChars 10 cs acc := by
  rw [Nat.ofDigitChars_eq_ofDigitChars_zero]
  have positive : 0 < 10 ^ cs.length := Nat.pow_pos (by decide)
  calc acc = 1 * acc := (Nat.one_mul acc).symm
    _ ≤ 10 ^ cs.length * acc := Nat.mul_le_mul_right acc positive
    _ ≤ _ := Nat.le_add_right _ _

theorem readDigits_eq {limit : Nat} {overflow : IntegerFault} {cs : List Char} :
    ∀ {acc : Nat}, (∀ c ∈ cs, c.isDigit = true) → Nat.ofDigitChars 10 cs acc ≤ limit →
      readDigits limit overflow acc cs = .ok (Nat.ofDigitChars 10 cs acc) := by
  induction cs with
  | nil =>
    intro acc _ _
    rfl
  | cons c cs ih =>
    intro acc digits bound
    have order : acc * 10 = 10 * acc := Nat.mul_comm acc 10
    rw [Nat.ofDigitChars_cons] at bound ⊢
    -- No prefix has a greater value than the whole.
    have step := Nat.le_trans (le_ofDigitChars cs _) bound
    rw [readDigits, digit?_of_isDigit (digits c List.mem_cons_self), order]
    simp only [step, if_true]
    exact ih (fun d later => digits d (List.mem_cons_of_mem c later)) bound

theorem isDigit_toDigits {n : Nat} {c : Char} (mem : c ∈ Nat.toDigits 10 n) :
    c.isDigit = true :=
  Nat.isDigit_of_mem_toDigits (by decide) (by decide) mem

private theorem readSome_toDigits {limit n : Nat} {overflow : IntegerFault} (bound : n ≤ limit) :
    readSome limit overflow (Nat.toDigits 10 n) = .ok n := by
  have value : Nat.ofDigitChars 10 (Nat.toDigits 10 n) 0 = n := Nat.ofDigitChars_ten_toDigits
  have read : readDigits limit overflow 0 (Nat.toDigits 10 n) = .ok n := by
    rw [readDigits_eq (fun c => isDigit_toDigits) (by omega), value]
  cases digits : Nat.toDigits 10 n with
  | nil => exact absurd digits Nat.toDigits_ne_nil
  | cons c cs =>
    rw [digits] at read
    exact read

theorem toList_natCast (n : Nat) : (toString (n : Int)).toList = Nat.toDigits 10 n := by
  show n.repr.toList = _
  rw [Nat.repr_eq_ofList_toDigits]
  exact String.toList_ofList

theorem toList_negSucc (m : Nat) :
    (toString (Int.negSucc m)).toList = '-' :: Nat.toDigits 10 (m + 1) := by
  show ("-" ++ (m + 1).repr).toList = _
  rw [String.toList_append, Nat.repr_eq_ofList_toDigits]
  exact congrArg ('-' :: ·) String.toList_ofList

theorem mem_toString {n : Int} {c : Char} (mem : c ∈ (toString n).toList) :
    c = '-' ∨ c.isDigit = true := by
  cases n with
  | ofNat n =>
    rw [Int.ofNat_eq_natCast, toList_natCast] at mem
    exact .inr (isDigit_toDigits mem)
  | negSucc m =>
    rw [toList_negSucc, List.mem_cons] at mem
    exact mem.imp id isDigit_toDigits

private theorem toDigits_cons {n : Nat} : ∃ c cs, Nat.toDigits 10 n = c :: cs ∧
    c ≠ '-' ∧ c ≠ '+' := by
  obtain ⟨c, cs, digits⟩ := List.exists_cons_of_ne_nil (Nat.toDigits_ne_nil (n := n) (b := 10))
  have first : c ∈ Nat.toDigits 10 n := by
    rw [digits]
    exact List.mem_cons_self
  exact ⟨c, cs, digits, ne_sign_of_isDigit (isDigit_toDigits first)⟩

/-- An integer in the signed range of a width is read back from its text. -/
theorem readSigned_toString {bits : Nat} {n : Int} (lower : -(Nat.pow 2 (bits - 1) : Nat) ≤ n)
    (upper : n < (Nat.pow 2 (bits - 1) : Nat)) : readSigned bits (toString n) = .ok n := by
  cases n with
  | ofNat n =>
    obtain ⟨c, cs, digits, minus, plus⟩ := toDigits_cons (n := n)
    rw [Int.ofNat_eq_natCast] at upper ⊢
    have read : readSome (Nat.pow 2 (bits - 1) - 1) .tooLarge (Nat.toDigits 10 n) = .ok n :=
      readSome_toDigits (by omega)
    rw [readSigned, toList_natCast]
    rw [digits] at read ⊢
    split
    case h_1 empty => cases empty
    case h_2 rest sign => exact absurd (List.cons.inj sign).1 minus
    case h_3 rest sign => exact absurd (List.cons.inj sign).1 plus
    case h_4 =>
      rw [read]
      rfl
  | negSucc m =>
    have bound : m + 1 ≤ Nat.pow 2 (bits - 1) := by omega
    rw [readSigned, toList_negSucc]
    simp only [readSome_toDigits bound]
    rfl

theorem readUnsigned_of_digits {bits : Nat} {s : String} (some_digit : s.toList ≠ [])
    (digits : ∀ c ∈ s.toList, c.isDigit = true)
    (upper : Nat.ofDigitChars 10 s.toList 0 < Nat.pow 2 bits) :
    readUnsigned bits s = .ok (Nat.ofDigitChars 10 s.toList 0) := by
  obtain ⟨c, cs, form⟩ := List.exists_cons_of_ne_nil some_digit
  rw [form] at digits upper
  have read : readSome (Nat.pow 2 bits - 1) .tooLarge (c :: cs) =
      .ok (Nat.ofDigitChars 10 (c :: cs) 0) := readDigits_eq digits (by omega)
  rw [readUnsigned, form]
  split
  case h_1 empty => cases empty
  case h_2 rest sign =>
    exact absurd (List.cons.inj sign).1 (ne_sign_of_isDigit (digits c List.mem_cons_self)).2
  case h_3 => exact read

theorem narrow_toInt {b : Bytes} (some_byte : 0 < b.length) :
    narrow (8 * b.length) (BigEndian.toInt b) = .ok (BigEndian.toInt b) := by
  have range := BigEndian.toInt_range some_byte
  rw [narrow, if_neg (by omega), if_neg (by omega)]

theorem trim_toString (n : Int) : Text.trim (toString n) = toString n := by
  apply Text.trim_of_solid
  intro c mem
  rcases mem_toString mem with rfl | digit
  · decide
  · exact Text.isBlank_of_isDigit digit

end Integer

end RowSync
