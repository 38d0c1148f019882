import RowSync.Number.Decimal
import RowSync.Proofs.Number.Integer

/-!
Padded digits keep their number and, where it has no more digits than the width, take exactly the
width. The text of a decimal is read back to its coefficient and places.
-/

set_option autoImplicit false

namespace RowSync

theorem isDigit_of_mem_paddedDigits {width n : Nat} {c : Char} (mem : c ∈ paddedDigits width n) :
    c.isDigit = true := by
  rcases List.mem_append.mp mem with zero | digit
  · rw [List.eq_of_mem_replicate zero]
    rfl
  · exact Integer.isDigit_toDigits digit

theorem paddedDigits_ne_nil (width n : Nat) : paddedDigits width n ≠ [] :=
  fun empty => Nat.toDigits_ne_nil (List.append_eq_nil_iff.mp empty).2

theorem paddedDigits_cons (width n : Nat) :
    ∃ c cs, paddedDigits width n = c :: cs ∧ c.isDigit = true := by
  obtain ⟨c, cs, form⟩ := List.exists_cons_of_ne_nil (paddedDigits_ne_nil width n)
  have first : c ∈ paddedDigits width n := by
    rw [form]
    exact List.mem_cons_self
  exact ⟨c, cs, form, isDigit_of_mem_paddedDigits first⟩

theorem ofDigitChars_paddedDigits (width n : Nat) :
    Nat.ofDigitChars 10 (paddedDigits width n) 0 = n := by
  rw [paddedDigits, Nat.ofDigitChars_append, Nat.ofDigitChars_replicate_zero, Nat.mul_zero,
    Nat.ofDigitChars_ten_toDigits]

theorem paddedDigits_injective (width : Nat) : Function.Injective (paddedDigits width) := by
  intro m n same
  rw [← ofDigitChars_paddedDigits width m, same, ofDigitChars_paddedDigits]

theorem length_paddedDigits_eq (width n : Nat) :
    (paddedDigits width n).length = max width (Nat.toDigits 10 n).length := by
  rw [paddedDigits, List.length_append, List.length_replicate]
  omega

theorem length_paddedDigits {width n : Nat} (some_digit : 0 < width)
    (small : n < Nat.pow 10 width) : (paddedDigits width n).length = width := by
  have short := (Nat.length_toDigits_le_iff (by decide) some_digit).mpr small
  rw [length_paddedDigits_eq]
  omega

theorem paddedDigits_of_le {width n : Nat} (wide : width ≤ (Nat.toDigits 10 n).length) :
    paddedDigits width n = Nat.toDigits 10 n := by
  rw [paddedDigits, Nat.sub_eq_zero_of_le wide]
  rfl

theorem padded_zero (n : Nat) : padded 0 n = toString (n : Int) := by
  rw [← String.toList_inj, Integer.toList_natCast, padded, String.toList_ofList,
    paddedDigits_of_le (Nat.zero_le _)]

namespace Integer

theorem readUnsigned_padded {bits n : Nat} (width : Nat) (upper : n < Nat.pow 2 bits) :
    readUnsigned bits (padded width n) = .ok n := by
  have chars : (padded width n).toList = paddedDigits width n := String.toList_ofList
  have value : Nat.ofDigitChars 10 (padded width n).toList 0 = n := by
    rw [chars, ofDigitChars_paddedDigits]
  rw [readUnsigned_of_digits, value]
  · rw [chars]
    exact paddedDigits_ne_nil width n
  · rw [chars]
    exact fun c => isDigit_of_mem_paddedDigits
  · rw [value]
    exact upper

theorem trim_padded (width n : Nat) : Text.trim (padded width n) = padded width n := by
  apply Text.trim_of_solid
  rw [padded, String.toList_ofList]
  exact fun c mem => Text.isBlank_of_isDigit (isDigit_of_mem_paddedDigits mem)

end Integer

namespace DecimalText

open Integer (digit?_of_isDigit le_ofDigitChars)

private theorem readRest_whole {negative : Bool} (rest : List Char) {cs : List Char} :
    ∀ {acc : Nat} {begun : Bool}, (∀ c ∈ cs, c.isDigit = true) →
      Nat.ofDigitChars 10 cs acc < Decimal.coefficientBound →
      readRest ⟨negative, acc, 0, false, begun⟩ (cs ++ rest) =
        readRest ⟨negative, Nat.ofDigitChars 10 cs acc, 0, false, begun || !cs.isEmpty⟩ rest := by
  induction cs with
  | nil =>
    intro acc begun _ _
    simp [Nat.ofDigitChars_nil]
  | cons c cs ih =>
    intro acc begun digits small
    rw [Nat.ofDigitChars_cons, Nat.mul_comm] at small
    have step := Nat.lt_of_le_of_lt (le_ofDigitChars cs _) small
    rw [List.cons_append, readRest, digit?_of_isDigit (digits c List.mem_cons_self)]
    simp only [Bool.false_and, Bool.false_eq_true, if_false, step, if_true]
    rw [ih (fun d later => digits d (List.mem_cons_of_mem c later)) small, Nat.ofDigitChars_cons,
      Nat.mul_comm 10 acc]
    simp

private theorem readRest_places {negative : Bool} {cs : List Char} :
    ∀ {acc scale : Nat}, (∀ c ∈ cs, c.isDigit = true) →
      Nat.ofDigitChars 10 cs acc < Decimal.coefficientBound →
      scale + cs.length ≤ Decimal.maxScale →
      readRest ⟨negative, acc, scale, true, true⟩ cs =
        .ok (Decimal.ofParts negative (Nat.ofDigitChars 10 cs acc) (scale + cs.length)) := by
  induction cs with
  | nil =>
    intro acc scale _ _ _
    rfl
  | cons c cs ih =>
    intro acc scale digits small room
    rw [List.length_cons] at room
    rw [Nat.ofDigitChars_cons, Nat.mul_comm] at small
    have step := Nat.lt_of_le_of_lt (le_ofDigitChars cs _) small
    have inside : ¬ Decimal.maxScale ≤ scale := by omega
    rw [readRest, digit?_of_isDigit (digits c List.mem_cons_self)]
    simp only [Bool.true_and, decide_eq_true_eq, inside, if_false, step, if_true]
    rw [ih (fun d later => digits d (List.mem_cons_of_mem c later)) small (by omega),
      Nat.ofDigitChars_cons, Nat.mul_comm 10 acc, List.length_cons, Nat.add_right_comm,
      Nat.add_assoc]

private def body (d : Decimal) : List Char :=
  let digits := paddedDigits (d.scale + 1) d.coefficient
  let whole := digits.take (digits.length - d.scale)
  let places := digits.drop (digits.length - d.scale)
  if d.scale == 0 then whole else whole ++ '.' :: places

private theorem toList_text (d : Decimal) :
    d.text.toList = if d.negative then '-' :: body d else body d := String.toList_ofList

private theorem body_eq (d : Decimal) : ∃ whole places,
    paddedDigits (d.scale + 1) d.coefficient = whole ++ places ∧ whole ≠ [] ∧
      places.length = d.scale ∧
        body d = if d.scale == 0 then whole else whole ++ '.' :: places := by
  have long := length_paddedDigits_eq (d.scale + 1) d.coefficient
  refine ⟨_, _, (List.take_append_drop ((paddedDigits (d.scale + 1) d.coefficient).length -
    d.scale) _).symm, ?_, ?_, rfl⟩
  · rw [ne_eq, ← List.length_eq_zero_iff, List.length_take]
    omega
  · rw [List.length_drop]
    omega

private theorem body_cons (d : Decimal) : ∃ c cs, body d = c :: cs ∧ c.isDigit = true := by
  obtain ⟨whole, places, split, some_digit, -, form⟩ := body_eq d
  obtain ⟨c, cs, rfl⟩ := List.exists_cons_of_ne_nil some_digit
  have mem : c ∈ paddedDigits (d.scale + 1) d.coefficient := by
    rw [split]
    exact List.mem_cons_self
  refine ⟨c, if d.scale == 0 then cs else cs ++ '.' :: places, ?_, isDigit_of_mem_paddedDigits mem⟩
  rw [form]
  split <;> rfl

theorem trim_text (d : Decimal) : Text.trim d.text = d.text := by
  obtain ⟨whole, places, split, -, -, form⟩ := body_eq d
  have digits : ∀ c ∈ whole ++ places, Text.isBlank c = false := by
    rw [← split]
    exact fun c mem => Text.isBlank_of_isDigit (isDigit_of_mem_paddedDigits mem)
  have solid : ∀ c ∈ body d, Text.isBlank c = false := by
    rw [form]
    split
    · exact fun c mem => digits c (List.mem_append_left _ mem)
    · intro c mem
      rcases List.mem_append.mp mem with front | behind
      · exact digits c (List.mem_append_left _ front)
      · rcases List.mem_cons.mp behind with rfl | behind
        · decide
        · exact digits c (List.mem_append_right _ behind)
  apply Text.trim_of_solid
  rw [toList_text]
  split
  · exact List.forall_mem_cons.mpr ⟨by decide, solid⟩
  · exact solid

private theorem readRest_body {d : Decimal} (formed : d.WellFormed) :
    readRest ⟨d.negative, 0, 0, false, false⟩ (body d) =
      .ok (Decimal.ofParts d.negative d.coefficient d.scale) := by
  obtain ⟨small, short⟩ := formed
  obtain ⟨whole, places, split, some_digit, length, form⟩ := body_eq d
  have digits : ∀ c ∈ whole ++ places, c.isDigit = true := by
    rw [← split]
    exact fun c => isDigit_of_mem_paddedDigits
  have value := ofDigitChars_paddedDigits (d.scale + 1) d.coefficient
  rw [split, Nat.ofDigitChars_append] at value
  have begun : (false || !whole.isEmpty) = true := by simpa using some_digit
  have bounded : Nat.ofDigitChars 10 whole 0 < Decimal.coefficientBound := by
    have prefix_le := le_ofDigitChars places (Nat.ofDigitChars 10 whole 0)
    omega
  have front : ∀ rest, readRest ⟨d.negative, 0, 0, false, false⟩ (whole ++ rest) =
      readRest ⟨d.negative, Nat.ofDigitChars 10 whole 0, 0, false, false || !whole.isEmpty⟩ rest :=
    fun rest => readRest_whole rest (fun c mem => digits c (List.mem_append_left _ mem)) bounded
  rw [form]
  split
  · rename_i none
    rw [beq_iff_eq] at none
    have empty : places = [] := List.length_eq_zero_iff.mp (length.trans none)
    subst empty
    rw [List.append_nil] at split
    have read := front []
    rw [List.append_nil, begun] at read
    rw [read, none, ← value, Nat.ofDigitChars_nil]
    rfl
  · rw [front, begun, readRest]
    have point : Integer.digit? '.' = none := by decide
    simp only [point]
    have behind : readRest ⟨d.negative, Nat.ofDigitChars 10 whole 0, 0, true, true⟩ places =
        .ok (Decimal.ofParts d.negative
          (Nat.ofDigitChars 10 places (Nat.ofDigitChars 10 whole 0)) (0 + places.length)) :=
      readRest_places (fun c mem => digits c (List.mem_append_right _ mem)) (by omega) (by omega)
    rw [value, length, Nat.zero_add] at behind
    simpa using behind

/-- A decimal is read back from its text, except that a zero loses its sign. -/
theorem read_text {d : Decimal} (formed : d.WellFormed) :
    read d.text = .ok (Decimal.ofParts d.negative d.coefficient d.scale) := by
  have rest := readRest_body formed
  obtain ⟨c, cs, form, digit⟩ := body_cons d
  rw [read, toList_text]
  cases sign : d.negative with
  | true =>
    rw [sign] at rest
    exact rest
  | false =>
    rw [sign, form] at rest
    simp only [Bool.false_eq_true, if_false, form]
    obtain ⟨minus, plus⟩ := Integer.ne_sign_of_isDigit digit
    split
    case h_1 empty => cases empty
    case h_2 later signed => exact absurd (List.cons.inj signed).1 minus
    case h_3 later signed => exact absurd (List.cons.inj signed).1 plus
    case h_4 => exact rest

end DecimalText

end RowSync
