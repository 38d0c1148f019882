import RowSync.Number.Binary
import RowSync.Number.Decimal

/-!
Conversions between decimals and double precision. From binary the number is brought to a power of
ten by fives and halves inside 96 bits, then cut to the digits that double precision guarantees.
-/

set_option autoImplicit false

namespace RowSync

namespace Decimal

/-- A power of ten as repeated rounded squaring and multiplication give it. -/
def powerLoop (base acc : Binary64) : Nat → Nat → Binary64
  | _, 0 => acc
  | n, fuel + 1 =>
    let acc := if n % 2 == 1 then acc.mul base else acc
    if n / 2 == 0 then acc else powerLoop (base.mul base) acc (n / 2) fuel

def powerOfTen (n : Nat) : Binary64 :=
  powerLoop (Binary.ofInt .double 10) (Binary.ofInt .double 1) n (n + 1)

/-- The number in double precision: the two parts are added and rounded to the places kept. -/
def toBinary64 (d : Decimal) : Binary64 :=
  let magnitude :=
    if d.scale == 0 then Binary.ofRatio .double false d.coefficient 1
    else
      let unit := Nat.pow 10 d.scale
      let whole := Binary.ofRatio .double false (d.coefficient / unit) 1
      let fraction :=
        (Binary.ofRatio .double false (d.coefficient % unit) 1).div
          (Binary.ofRatio .double false unit 1)
      if fraction.magnitude == 0 then whole
      else
        let power := powerOfTen d.scale
        (((whole.addMagnitude fraction).mul power).roundHalfUp).div power
  if d.negative && d.scale != 0 then magnitude.neg
  else if d.negative && d.coefficient != 0 then magnitude.neg
  else magnitude

/-- Brings in as many factors `5 / 10` as asked: an exact five or, where that does not fit, a half. -/
def absorbFives (bits : Nat) (exponent : Int) : Nat → Nat × Int
  | 0 => (bits, exponent)
  | n + 1 =>
    if bits % 2 == 0 then absorbFives (bits / 2) (exponent + 1) n
    else if bits * 5 < coefficientBound then absorbFives (bits * 5) exponent n
    else absorbFives (bits / 2) (exponent + 1) n

/-- Brings in as many factors `10 / 5` as asked: an exact two or, where it does not fit, a fifth. -/
def absorbTwos (bits : Nat) (exponent : Int) : Nat → Nat × Int
  | 0 => (bits, exponent)
  | n + 1 =>
    if bits < coefficientBound / 2 then absorbTwos (bits * 2) (exponent - 1) n
    else absorbTwos (bits / 5) exponent n

/-- Multiplies by ten while that fits. -/
def liftTens (bits : Nat) : Nat → Option Nat
  | 0 => some bits
  | n + 1 => if bits * 10 < coefficientBound then liftTens (bits * 10) n else none

/-- Cuts places down to the largest scale; a number that vanishes on the way has no places. -/
def dropToScale (bits scale : Nat) : Nat → Nat × Nat
  | 0 => (bits, scale)
  | n + 1 =>
    if bits / 10 == 0 then (0, 0)
    else dropToScale (bits / 10 + if 5 ≤ bits % 10 then 1 else 0) (scale - 1) n

/-- Cuts places while the coefficient has more bits than double precision guarantees. -/
def dropExcess (bits : Nat) : Nat → Nat × Nat
  | 0 => (bits, 0)
  | scale + 1 =>
    if Nat.pow 2 52 ≤ bits then dropExcess (bits / 10 + if 5 ≤ bits % 10 then 1 else 0) scale
    else (bits, scale + 1)

/-- The decimal of a finite binary number in range. -/
def ofBinary64? (x : Binary64) : Option Decimal :=
  match x.classify with
  | .finite negative m e =>
    if m == 0 then some ⟨negative, 0, 0⟩
    else
      let (bits, exponent) :=
        if e < 0 then absorbFives m e (-e).toNat else absorbTwos m e e.toNat
      if 0 < exponent then
        (liftTens bits exponent.toNat).map fun bits => ofParts negative bits 0
      else
        let places := (-exponent).toNat
        let (bits, scale) := dropToScale bits places (places - maxScale)
        let (bits, scale) := dropExcess bits scale
        let d := stripZeros negative bits scale
        some (ofParts d.negative d.coefficient d.scale)
  | _ => none

end Decimal

end RowSync
