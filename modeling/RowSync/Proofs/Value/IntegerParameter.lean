import Mathlib.Data.Rat.Floor
import RowSync.Proofs.Number.SpelledInteger
import RowSync.Proofs.Value.IdentityTrip

/-!
Values as parameters of PostgreSQL's integer types. What is sent is the number of the value itself,
in two's complement of the width of the type, or nothing; only the places of a decimal are cut off.
-/

set_option autoImplicit false

namespace RowSync

def PostgresType.integerWidth? : PostgresType → Option Nat
  | int2 => some 2
  | int4 => some 4
  | int8 => some 8
  | _ => none

/-- The integer in front of the point. -/
def wholePart (q : ℚ) : ℤ := if 0 ≤ q then ⌊q⌋ else ⌈q⌉

theorem wholePart_intCast (n : ℤ) : wholePart n = n := by
  rw [wholePart, Int.floor_intCast, Int.ceil_intCast, ite_self]

/-- A number without places is its own whole part, and no other number is. -/
theorem wholePart_eq_iff {q : ℚ} : (wholePart q : ℚ) = q ↔ ∃ n : ℤ, q = n := by
  constructor
  · exact fun same => ⟨wholePart q, same.symm⟩
  · rintro ⟨n, rfl⟩
    rw [wholePart_intCast]

namespace Decimal

def toRat (d : Decimal) : ℚ := d.signedCoefficient / (Nat.pow 10 d.scale : Nat)

theorem wholePart_toRat (d : Decimal) : wholePart d.toRat = d.truncated := by
  have quotient : ⌊(d.coefficient : ℚ) / (Nat.pow 10 d.scale : Nat)⌋ =
      (d.coefficient / Nat.pow 10 d.scale : Nat) := by
    have floor := Rat.floor_intCast_div_natCast d.coefficient (Nat.pow 10 d.scale)
    rw [Int.cast_natCast] at floor
    rw [floor]
    rfl
  have size : 0 ≤ (d.coefficient : ℚ) / (Nat.pow 10 d.scale : Nat) := by positivity
  unfold toRat signedCoefficient truncated
  cases d.negative with
  | false =>
    simp only [Bool.false_eq_true, if_false, Int.cast_natCast]
    rw [wholePart, if_pos size, quotient]
  | true =>
    simp only [if_true, Int.cast_neg, Int.cast_natCast, neg_div]
    rw [wholePart]
    split
    · -- The number is zero.
      rename_i sign
      have zero : (d.coefficient : ℚ) / (Nat.pow 10 d.scale : Nat) = 0 :=
        le_antisymm (neg_nonneg.mp sign) size
      rw [zero, Int.floor_zero] at quotient
      rw [zero, neg_zero, Int.floor_zero, ← quotient, neg_zero]
    · rw [Int.ceil_neg, quotient]

end Decimal

namespace Value

/-- The number that a value stands for: of a text the integer that it spells without the blanks at
its ends. -/
inductive Denotes : Value → ℚ → Prop
  | bool (b : Bool) : Denotes (.bool b) (if b then 1 else 0)
  | int16 (n : Int16) : Denotes (.int16 n) n.toInt
  | int32 (n : Int32) : Denotes (.int32 n) n.toInt
  | int64 (n : Int64) : Denotes (.int64 n) n.toInt
  | decimal (d : Decimal) : Denotes (.decimal d) d.toRat
  | text {s : String} {n : ℤ} (spelled : Integer.Spelled (Text.trim s).toList n) :
    Denotes (.text s) n

/-- The value is of a kind that stands for numbers. -/
def mayDenote : Value → Bool
  | bool _ | int16 _ | int32 _ | int64 _ | decimal _ | text _ => true
  | _ => false

theorem Denotes.unique {v : Value} {q r : ℚ} (one : v.Denotes q) (other : v.Denotes r) : q = r := by
  cases one with
  | text spelled =>
    cases other with
    | text also => rw [spelled.unique also]
  | _ =>
    cases other
    rfl

end Value

namespace PostgresParameter

variable {type : PostgresType} {width : Nat} {n : ℤ} {b : Bytes}

/-- An integer is sent in its own two's complement, if it has one of the width. -/
theorem ofInteger_eq_ok_iff (some_byte : 0 < width) :
    ofInteger width n = .ok b ↔ b.length = width ∧ BigEndian.toInt b = n := by
  constructor
  · intro sent
    have half := BigEndian.pow_eq_two_mul some_byte
    rw [ofInteger, Integer.narrow] at sent
    split at sent
    · rename_i m narrowed
      split at narrowed
      · cases narrowed
      · split at narrowed
        · cases narrowed
        · cases narrowed
          cases sent
          exact ⟨BigEndian.length_ofInt width n, BigEndian.toInt_ofInt (by omega) (by omega)⟩
    · cases sent
  · rintro ⟨rfl, rfl⟩
    exact ofInteger_toInt some_byte

private theorem width_bounds (integer : type.integerWidth? = some width) :
    0 < width ∧ width ≤ 8 := by
  cases type with
  | int2 | int4 | int8 =>
    cases integer
    decide
  | _ => cases integer

private theorem ofInt_eq (integer : type.integerWidth? = some width) :
    ofInt type n = ofInteger width n := by
  cases type with
  | int2 | int4 | int8 =>
    cases integer
    rfl
  | _ => cases integer

private theorem ofText_eq (integer : type.integerWidth? = some width) (s : String) :
    ofText type s = readInteger s >>= ofInteger width := by
  cases type with
  | int2 | int4 | int8 =>
    cases integer
    rfl
  | _ => cases integer

private theorem ofDecimalValue_eq (integer : type.integerWidth? = some width) (d : Decimal) :
    ofDecimalValue type d =
      match d.toInt64? with
      | some n => ofInteger width n
      | none => .error (.decimalToInteger d) := by
  cases type with
  | int2 | int4 | int8 =>
    cases integer
    rfl
  | _ => cases integer

private theorem isInt64_of_width (some_byte : 0 < b.length) (bound : b.length ≤ 8) :
    -(Nat.pow 2 63 : Nat) ≤ BigEndian.toInt b ∧ BigEndian.toInt b < (Nat.pow 2 63 : Nat) := by
  have range := BigEndian.toInt_range some_byte
  have wider : Nat.pow 2 (8 * b.length - 1) ≤ Nat.pow 2 63 :=
    Nat.pow_le_pow_right (by decide) (by omega)
  omega

private theorem map_some_eq_ok_iff {sent : Encoded} :
    some <$> sent = .ok (some b) ↔ sent = .ok b := by
  cases sent with
  | ok a => simp
  | error fault => simp

private theorem map_some_ne_none (sent : Encoded) : some <$> sent ≠ .ok none := by
  cases sent with
  | ok a => simp
  | error fault => simp

private theorem ofText_eq_ok_iff (integer : type.integerWidth? = some width) {s : String} :
    ofText type s = .ok b ↔ b.length = width ∧
      Integer.Spelled (Text.trim s).toList (BigEndian.toInt b) := by
  obtain ⟨some_byte, bound⟩ := width_bounds integer
  rw [ofText_eq integer, readInteger]
  constructor
  · intro sent
    cases read : Integer.readSigned 64 (Text.trim s) with
    | error fault =>
      rw [read] at sent
      cases sent
    | ok n =>
      rw [read] at sent
      obtain ⟨length, value⟩ := (ofInteger_eq_ok_iff some_byte).mp sent
      exact ⟨length, value ▸ (Integer.readSigned_eq_ok_iff.mp read).1⟩
  · rintro ⟨rfl, spelled⟩
    have range := isInt64_of_width some_byte bound
    rw [Integer.readSigned_eq_ok_iff.mpr ⟨spelled, range⟩]
    exact (ofInteger_eq_ok_iff some_byte).mpr ⟨rfl, rfl⟩

private theorem ofDecimalValue_eq_ok_iff (integer : type.integerWidth? = some width)
    {d : Decimal} :
    ofDecimalValue type d = .ok b ↔ b.length = width ∧ BigEndian.toInt b = d.truncated := by
  obtain ⟨some_byte, bound⟩ := width_bounds integer
  rw [ofDecimalValue_eq integer, Decimal.toInt64?]
  constructor
  · intro sent
    split at sent
    · rename_i n whole
      split at whole
      · cases whole
        exact (ofInteger_eq_ok_iff some_byte).mp sent
      · cases whole
    · cases sent
  · rintro ⟨rfl, value⟩
    have range := isInt64_of_width some_byte bound
    have fits : Integer.isInt64 d.truncated = true := by
      rw [Integer.isInt64, ← value, Bool.and_eq_true, decide_eq_true_eq, decide_eq_true_eq]
      exact range
    rw [if_pos fits]
    exact (ofInteger_eq_ok_iff some_byte).mpr ⟨rfl, value⟩

/-- A value that stands for a number is sent to an integer type exactly when the whole part of its
number has a two's complement of the type's width, and then as that. So the number sent is the
value's own unless that has places. -/
theorem encode_integer (integer : type.integerWidth? = some width) {v : Value}
    (numeral : v.mayDenote = true) :
    encode type v ≠ .ok none ∧ ∀ b, (encode type v = .ok (some b) ↔
        b.length = width ∧ ∃ q, v.Denotes q ∧ BigEndian.toInt b = wholePart q) ∧
      ∀ q, v.Denotes q → encode type v = .ok (some b) →
        ((BigEndian.toInt b : ℚ) = q ↔ ∃ n : ℤ, q = n) := by
  have some_byte := (width_bounds integer).1
  -- The kinds differ in how they come to an integer; the places are lost on the way there.
  have sent : encode type v ≠ .ok none ∧ ∀ b, encode type v = .ok (some b) ↔
      b.length = width ∧ ∃ q, v.Denotes q ∧ BigEndian.toInt b = wholePart q := by
    have whole {v : Value} {n : ℤ} {q : ℚ} (denotes : v.Denotes q) (same : wholePart q = n)
        (b : Bytes) : (b.length = width ∧ BigEndian.toInt b = n) ↔
        b.length = width ∧ ∃ q, v.Denotes q ∧ BigEndian.toInt b = wholePart q := by
      refine and_congr_right fun _ => ⟨fun value => ⟨q, denotes, value.trans same.symm⟩, ?_⟩
      rintro ⟨r, also, value⟩
      rw [value, also.unique denotes, same]
    cases v with
    | bool c =>
      refine ⟨map_some_ne_none _, fun b => map_some_eq_ok_iff.trans ?_⟩
      rw [ofInt_eq integer, ofInteger_eq_ok_iff some_byte]
      refine whole (.bool c) ?_ b
      cases c with
      | false => exact wholePart_intCast 0
      | true => exact wholePart_intCast 1
    | int16 n | int32 n | int64 n =>
      refine ⟨map_some_ne_none _, fun b => map_some_eq_ok_iff.trans ?_⟩
      rw [ofInt_eq integer, ofInteger_eq_ok_iff some_byte]
      exact whole (by constructor) (wholePart_intCast _) b
    | decimal d =>
      refine ⟨map_some_ne_none _, fun b => map_some_eq_ok_iff.trans ?_⟩
      rw [ofDecimalValue_eq_ok_iff integer]
      exact whole (.decimal d) d.wholePart_toRat b
    | text s =>
      refine ⟨map_some_ne_none _, fun b => map_some_eq_ok_iff.trans ?_⟩
      rw [ofText_eq_ok_iff integer]
      refine and_congr_right fun _ =>
        ⟨fun spelled => ⟨_, .text spelled, (wholePart_intCast _).symm⟩, ?_⟩
      rintro ⟨q, denotes, value⟩
      cases denotes with
      | text spelled =>
        rw [wholePart_intCast] at value
        exact value ▸ spelled
    | _ => cases numeral
  refine ⟨sent.1, fun b => ⟨sent.2 b, fun q denotes encoded => ?_⟩⟩
  obtain ⟨-, r, also, value⟩ := (sent.2 b).mp encoded
  rw [value, also.unique denotes]
  exact wholePart_eq_iff

/-- The least number of a type, with a zero too many and blanks around it. -/
theorem encode_integer_of_padded_text :
    PostgresType.integerWidth? .int2 = some 2 ∧ (Value.text " -032768\n").mayDenote = true ∧
      encode .int2 (.text " -032768\n") = .ok (some [0x80, 0]) := by
  have trimmed : (Text.trim " -032768\n").toList = "-032768".toList := by decide
  have spelled : Integer.Spelled (Text.trim " -032768\n").toList (-(32768 : Nat)) := by
    rw [trimmed]
    exact .negative ⟨by decide, List.all_eq_true.mp (by decide), by decide⟩
  have least : BigEndian.toInt [0x80, 0] = wholePart (-(32768 : Nat) : ℤ) := by
    rw [wholePart_intCast]
    decide
  refine ⟨rfl, rfl, ?_⟩
  exact ((encode_integer rfl rfl).2 [0x80, 0]).1.mpr ⟨rfl, _, .text spelled, least⟩

/-- One and a half is sent as one. -/
theorem places_cut_off :
    (Value.decimal ⟨false, 15, 1⟩).Denotes (3 / 2) ∧
      encode .int4 (.decimal ⟨false, 15, 1⟩) = .ok (some [0, 0, 0, 1]) ∧
      (BigEndian.toInt [0, 0, 0, 1] : ℚ) ≠ 3 / 2 := by
  refine ⟨?_, by decide, ?_⟩
  · have half : (3 / 2 : ℚ) = Decimal.toRat ⟨false, 15, 1⟩ := by
      norm_num [Decimal.toRat, Decimal.signedCoefficient]
    rw [half]
    exact .decimal _
  · have one : BigEndian.toInt [0, 0, 0, 1] = 1 := by decide
    rw [one]
    norm_num

end PostgresParameter

end RowSync
