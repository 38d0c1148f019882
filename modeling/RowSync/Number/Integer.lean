/-!
Integers read from decimal text into a fixed width. The text is read from the left, so the first
fault met decides: a character that is no digit, or a digit that leaves the width.
-/

set_option autoImplicit false

namespace RowSync

/-- Why a text or a number is no integer of the wanted width. -/
inductive IntegerFault
  | empty
  | invalidDigit
  | tooLarge
  | tooSmall
  deriving DecidableEq, Repr

def IntegerFault.message : IntegerFault → String
  | .empty => "cannot parse integer from empty string"
  | .invalidDigit => "invalid digit found in string"
  | .tooLarge => "number too large to fit in target type"
  | .tooSmall => "number too small to fit in target type"

namespace Integer

/-- The value of an ASCII digit. -/
def digit? (c : Char) : Option Nat :=
  if '0' ≤ c ∧ c ≤ '9' then some (c.toNat - '0'.toNat) else none

/-- Reads digits behind the value `acc`, none of whose steps may exceed `limit`. -/
def readDigits (limit : Nat) (overflow : IntegerFault) (acc : Nat) :
    List Char → Except IntegerFault Nat
  | [] => .ok acc
  | c :: cs =>
    match digit? c with
    | none => .error .invalidDigit
    | some d =>
      if acc * 10 + d ≤ limit then readDigits limit overflow (acc * 10 + d) cs
      else .error overflow

/-- Reads at least one digit. -/
def readSome (limit : Nat) (overflow : IntegerFault) : List Char → Except IntegerFault Nat
  | [] => .error .invalidDigit
  | cs => readDigits limit overflow 0 cs

/-- Reads a signed integer of the given number of bits. -/
def readSigned (bits : Nat) (s : String) : Except IntegerFault Int :=
  match s.toList with
  | [] => .error .empty
  | '-' :: cs => (readSome (Nat.pow 2 (bits - 1)) .tooSmall cs).map fun n => -(n : Int)
  | '+' :: cs => (readSome (Nat.pow 2 (bits - 1) - 1) .tooLarge cs).map fun n => (n : Int)
  | cs => (readSome (Nat.pow 2 (bits - 1) - 1) .tooLarge cs).map fun n => (n : Int)

/-- Reads an unsigned integer of the given number of bits. -/
def readUnsigned (bits : Nat) (s : String) : Except IntegerFault Nat :=
  match s.toList with
  | [] => .error .empty
  | '+' :: cs => readSome (Nat.pow 2 bits - 1) .tooLarge cs
  | cs => readSome (Nat.pow 2 bits - 1) .tooLarge cs

/-- The number as it stands if it lies in the signed range of the given number of bits. -/
def narrow (bits : Nat) (n : Int) : Except IntegerFault Int :=
  if n < -(Nat.pow 2 (bits - 1) : Nat) then .error .tooSmall
  else if (Nat.pow 2 (bits - 1) : Nat) ≤ n then .error .tooLarge
  else .ok n

/-- The number lies in the signed range of 64 bits. -/
def isInt64 (n : Int) : Bool := -(Nat.pow 2 63 : Nat) ≤ n && n < (Nat.pow 2 63 : Nat)

end Integer

/-- The digits of a number, padded with zeros in front up to the width. -/
def paddedDigits (width n : Nat) : List Char :=
  let digits := Nat.toDigits 10 n
  List.replicate (width - digits.length) '0' ++ digits

def padded (width n : Nat) : String := String.ofList (paddedDigits width n)

end RowSync
