import RowSync.Text.Utf8

/-!
Integers as a fixed number of bytes, the most significant first; negative ones in two's complement.
-/

set_option autoImplicit false

namespace RowSync.BigEndian

/-- The last `width` bytes of a natural number. -/
def ofNat : Nat → Nat → Bytes
  | 0, _ => []
  | width + 1, n => ofNat width (n / 256) ++ [UInt8.ofNat n]

/-- The natural number that the bytes spell. -/
def toNat (b : Bytes) : Nat := b.foldl (fun n x => n * 256 + x.toNat) 0

def ofInt (width : Nat) (n : Int) : Bytes := ofNat width (n % (Nat.pow 256 width : Nat)).toNat

/-- The integer that the bytes spell in two's complement. -/
def toInt (b : Bytes) : Int :=
  if 2 * toNat b < Nat.pow 256 b.length then toNat b
  else (toNat b : Int) - (Nat.pow 256 b.length : Nat)

/-- The integer of exactly that many bytes. -/
def readInt? (width : Nat) (b : Bytes) : Option Int :=
  if b.length == width then some (toInt b) else none

end RowSync.BigEndian
