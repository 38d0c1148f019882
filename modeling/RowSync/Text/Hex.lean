import RowSync.Text.Utf8

/-!
Bytes written as pairs of lower-case hexadecimal digits.
-/

set_option autoImplicit false

namespace RowSync.Hex

def digit (n : Nat) : Char := if n < 10 then Char.ofNat (48 + n) else Char.ofNat (87 + n)

/-- The value of a digit in either case. -/
def value? (c : Char) : Option Nat :=
  if '0' ≤ c ∧ c ≤ '9' then some (c.toNat - 48)
  else if 'a' ≤ c ∧ c ≤ 'f' then some (c.toNat - 87)
  else if 'A' ≤ c ∧ c ≤ 'F' then some (c.toNat - 55)
  else none

/-- The two digits of a byte. -/
def pair (b : UInt8) : List Char := [digit (b.toNat / 16), digit (b.toNat % 16)]

def encode (bytes : Bytes) : List Char := bytes.flatMap pair

/-- The bytes written by pairs of digits. -/
def decode? : List Char → Option Bytes
  | [] => some []
  | [_] => none
  | c :: d :: rest => do
    let high ← value? c
    let low ← value? d
    let bytes ← decode? rest
    pure (UInt8.ofNat (high * 16 + low) :: bytes)

end RowSync.Hex
