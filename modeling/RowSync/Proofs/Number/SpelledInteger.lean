import RowSync.Proofs.Number.Integer

/-!
Which texts are read as integers of a width: those that spell one in its range, with a sign at most
in front of at least one digit.
-/

set_option autoImplicit false

namespace RowSync.Integer

/-- The characters are the digits of the number, zeros in front of them allowed. -/
structure Numeral (cs : List Char) (n : Nat) : Prop where
  some_digit : cs ≠ []
  digits : ∀ c ∈ cs, c.isDigit = true
  value : Nat.ofDigitChars 10 cs 0 = n

/-- The characters spell the integer. -/
inductive Spelled : List Char → Int → Prop
  | unsigned {cs : List Char} {n : Nat} (numeral : Numeral cs n) : Spelled cs n
  | positive {cs : List Char} {n : Nat} (numeral : Numeral cs n) : Spelled ('+' :: cs) n
  | negative {cs : List Char} {n : Nat} (numeral : Numeral cs n) : Spelled ('-' :: cs) (-n)

variable {cs : List Char} {n : Nat}

theorem Numeral.unique {m : Nat} (one : Numeral cs m) (other : Numeral cs n) : m = n :=
  one.value.symm.trans other.value

theorem Numeral.head_ne {c : Char} (numeral : Numeral (c :: cs) n) : c ≠ '-' ∧ c ≠ '+' :=
  ne_sign_of_isDigit (numeral.digits c List.mem_cons_self)

theorem Spelled.unique {k m : Int} (one : Spelled cs k) (other : Spelled cs m) : k = m := by
  cases one with
  | unsigned first =>
    cases other with
    | unsigned second => rw [first.unique second]
    | positive second => exact absurd rfl first.head_ne.2
    | negative second => exact absurd rfl first.head_ne.1
  | positive first =>
    cases other with
    | unsigned second => exact absurd rfl second.head_ne.2
    | positive second => rw [first.unique second]
  | negative first =>
    cases other with
    | unsigned second => exact absurd rfl second.head_ne.1
    | negative second => rw [first.unique second]

theorem isDigit_of_digit? {c : Char} {d : Nat} (digit : digit? c = some d) : c.isDigit = true := by
  rw [digit?] at digit
  split at digit
  · rename_i range
    simpa [Char.isDigit, Char.le_def, and_comm] using range
  · cases digit

theorem of_readDigits {limit : Nat} {overflow : IntegerFault} :
    ∀ {acc : Nat}, acc ≤ limit → readDigits limit overflow acc cs = .ok n →
      (∀ c ∈ cs, c.isDigit = true) ∧ Nat.ofDigitChars 10 cs acc = n ∧ n ≤ limit := by
  induction cs with
  | nil =>
    intro acc bound read
    cases read
    exact ⟨by simp, rfl, bound⟩
  | cons c cs ih =>
    intro acc _ read
    rw [readDigits] at read
    cases digit : digit? c with
    | none =>
      rw [digit] at read
      cases read
    | some d =>
      have isDigit := isDigit_of_digit? digit
      have value : d = c.toNat - '0'.toNat :=
        Option.some.inj (digit.symm.trans (digit?_of_isDigit isDigit))
      simp only [digit] at read
      split at read
      · rename_i bound
        obtain ⟨digits, equal, below⟩ := ih bound read
        refine ⟨List.forall_mem_cons.mpr ⟨isDigit, digits⟩, ?_, below⟩
        rw [Nat.ofDigitChars_cons, Nat.mul_comm, ← value, equal]
      · cases read

theorem readSome_eq_ok_iff {limit : Nat} {overflow : IntegerFault} :
    readSome limit overflow cs = .ok n ↔ Numeral cs n ∧ n ≤ limit := by
  cases cs with
  | nil =>
    constructor
    · intro read
      cases read
    · intro numeral
      exact absurd rfl numeral.1.some_digit
  | cons c cs =>
    change readDigits limit overflow 0 (c :: cs) = .ok n ↔ _
    constructor
    · intro read
      obtain ⟨digits, value, bound⟩ := of_readDigits (Nat.zero_le _) read
      exact ⟨⟨List.cons_ne_nil _ _, digits, value⟩, bound⟩
    · rintro ⟨numeral, bound⟩
      rw [readDigits_eq numeral.digits (numeral.value ▸ bound), numeral.value]

private theorem map_eq_ok_iff {f : Int → Int} {read : Except IntegerFault Nat} {k : Int} :
    (do let n ← read; pure (n : Int)).map f = .ok k ↔ ∃ n : Nat, read = .ok n ∧ f n = k := by
  cases read with
  | ok n => simp [Except.map, bind, Except.bind, pure, Except.pure]
  | error fault => simp [Except.map, bind, Except.bind]

/-- Exactly the texts that spell an integer in the range of the width are read, and to it. -/
theorem readSigned_eq_ok_iff {bits : Nat} {s : String} {k : Int} :
    readSigned bits s = .ok k ↔ Spelled s.toList k ∧
      -(Nat.pow 2 (bits - 1) : Nat) ≤ k ∧ k < (Nat.pow 2 (bits - 1) : Nat) := by
  have positive : 0 < Nat.pow 2 (bits - 1) := Nat.pow_pos (by decide)
  rw [readSigned]
  split
  case h_1 empty =>
    constructor
    · intro read
      cases read
    · rintro ⟨spelled, -⟩
      rw [empty] at spelled
      cases spelled with
      | unsigned numeral => exact absurd rfl numeral.some_digit
  case h_2 cs form =>
    rw [form, map_eq_ok_iff]
    constructor
    · rintro ⟨n, read, rfl⟩
      obtain ⟨numeral, bound⟩ := readSome_eq_ok_iff.mp read
      exact ⟨.negative numeral, by omega, by omega⟩
    · rintro ⟨spelled, lower, -⟩
      cases spelled with
      | unsigned numeral => exact absurd rfl numeral.head_ne.1
      | @negative _ n numeral => exact ⟨n, readSome_eq_ok_iff.mpr ⟨numeral, by omega⟩, rfl⟩
  case h_3 cs form =>
    rw [form, map_eq_ok_iff]
    constructor
    · rintro ⟨n, read, rfl⟩
      obtain ⟨numeral, bound⟩ := readSome_eq_ok_iff.mp read
      exact ⟨.positive numeral, by omega, by omega⟩
    · rintro ⟨spelled, -, upper⟩
      cases spelled with
      | unsigned numeral => exact absurd rfl numeral.head_ne.2
      | @positive _ n numeral => exact ⟨n, readSome_eq_ok_iff.mpr ⟨numeral, by omega⟩, rfl⟩
  case h_4 some no_minus no_plus =>
    rw [map_eq_ok_iff]
    constructor
    · rintro ⟨n, read, rfl⟩
      obtain ⟨numeral, bound⟩ := readSome_eq_ok_iff.mp read
      exact ⟨.unsigned numeral, by omega, by omega⟩
    · rintro ⟨spelled, -, upper⟩
      generalize s.toList = cs at *
      cases spelled with
      | @unsigned _ n numeral => exact ⟨n, readSome_eq_ok_iff.mpr ⟨numeral, by omega⟩, rfl⟩
      | positive _ => exact absurd rfl (no_plus _)
      | negative _ => exact absurd rfl (no_minus _)

theorem isDigit_of_readUnsigned {bits : Nat} {s : String} {n : Nat}
    (read : readUnsigned bits s = .ok n) : ∀ c ∈ s.toList, c.isDigit = true ∨ c = '+' := by
  rw [readUnsigned] at read
  split at read
  case h_1 => cases read
  case h_2 cs form =>
    rw [form]
    exact List.forall_mem_cons.mpr
      ⟨.inr rfl, fun c member => .inl ((readSome_eq_ok_iff.mp read).1.digits c member)⟩
  case h_3 => exact fun c member => .inl ((readSome_eq_ok_iff.mp read).1.digits c member)

theorem eq_of_readUnsigned_toString {bits n m : Nat}
    (read : readUnsigned bits (toString (n : Int)) = .ok m) : m = n := by
  have spelled : Numeral (toString (n : Int)).toList n := by
    rw [toList_natCast]
    exact ⟨Nat.toDigits_ne_nil, fun _ => isDigit_toDigits, Nat.ofDigitChars_ten_toDigits⟩
  rw [readUnsigned] at read
  split at read
  case h_1 => cases read
  case h_2 cs form =>
    rw [form] at spelled
    exact absurd rfl spelled.head_ne.2
  case h_3 => exact (readSome_eq_ok_iff.mp read).1.unique spelled

end RowSync.Integer
