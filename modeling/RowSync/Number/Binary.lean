/-!
Binary interchange floating point as bit patterns. Every operation is exact arithmetic on natural
numbers followed by one rounding, to the nearest value with ties to the even significand.
-/

set_option autoImplicit false

namespace RowSync

/-- The widths of the fields of a binary interchange format. -/
structure BinaryFormat where
  /-- Bits of the significand after the leading one. -/
  fractionBits : Nat
  exponentBits : Nat
  deriving DecidableEq, Repr

namespace BinaryFormat

/-- The format of 32 bits. -/
def single : BinaryFormat := ⟨23, 8⟩

/-- The format of 64 bits. -/
def double : BinaryFormat := ⟨52, 11⟩

/-- Bits of sign, exponent and fraction together. -/
def width (f : BinaryFormat) : Nat := 1 + f.exponentBits + f.fractionBits

/-- The exponent of the last place of the smallest numbers. -/
def minExponent (f : BinaryFormat) : Int := 2 - Nat.pow 2 (f.exponentBits - 1) - f.fractionBits

/-- The magnitude bits of infinity. -/
def infinityBits (f : BinaryFormat) : Nat :=
  (Nat.pow 2 f.exponentBits - 1) * Nat.pow 2 f.fractionBits

end BinaryFormat

/-- A floating point datum, given by its bits. -/
structure Binary (f : BinaryFormat) where
  bits : BitVec f.width
  deriving DecidableEq, Repr

abbrev Binary32 := Binary .single

abbrev Binary64 := Binary .double

/-- What a datum stands for; a finite one is `± significand * 2 ^ exponent`. -/
inductive FloatClass
  | nan (negative : Bool) (payload : Nat)
  | infinite (negative : Bool)
  | finite (negative : Bool) (significand : Nat) (exponent : Int)
  deriving DecidableEq, Repr

/-- The quotient rounded to the nearest integer, a half to the even neighbour. -/
def divEven (num den : Nat) : Nat :=
  let q := num / den
  let r := num % den
  if den < 2 * r || (2 * r == den && q % 2 == 1) then q + 1 else q

namespace Binary

variable {f : BinaryFormat}

/-- The datum with the given sign and magnitude bits. -/
def ofMagnitude (f : BinaryFormat) (negative : Bool) (magnitude : Nat) : Binary f :=
  let sign := if negative then Nat.pow 2 (f.exponentBits + f.fractionBits) else 0
  ⟨BitVec.ofNat _ (sign + magnitude)⟩

/-- The bits below the sign. -/
def magnitude (x : Binary f) : Nat := x.bits.toNat % Nat.pow 2 (f.exponentBits + f.fractionBits)

def isNegative (x : Binary f) : Bool :=
  x.bits.toNat / Nat.pow 2 (f.exponentBits + f.fractionBits) == 1

/-- What the datum stands for. -/
def classify (x : Binary f) : FloatClass :=
  let biased := x.magnitude / Nat.pow 2 f.fractionBits
  let fraction := x.magnitude % Nat.pow 2 f.fractionBits
  if biased == Nat.pow 2 f.exponentBits - 1 then
    if fraction == 0 then .infinite x.isNegative else .nan x.isNegative fraction
  else if biased == 0 then .finite x.isNegative fraction f.minExponent
  else .finite x.isNegative (Nat.pow 2 f.fractionBits + fraction) (f.minExponent + (biased - 1))

def isNaN (x : Binary f) : Bool := f.infinityBits < x.magnitude

/-- Numerator and denominator of `num / den / 2 ^ e`. -/
def scaleDown (num den : Nat) (e : Int) : Nat × Nat :=
  if 0 ≤ e then (num, den * Nat.pow 2 e.toNat) else (num * Nat.pow 2 (-e).toNat, den)

/-- The exponent of the last place of the quotient of two positive numbers. -/
def placeExponent (f : BinaryFormat) (num den : Nat) : Int :=
  let e : Int := (num.log2 : Int) - (den.log2 : Int) - (f.fractionBits + 1)
  let (n, d) := scaleDown num den e
  max f.minExponent (if n / d < Nat.pow 2 (f.fractionBits + 1) then e else e + 1)

/-- The datum nearest to the quotient, or an infinity when the quotient is out of range. -/
def ofRatio (f : BinaryFormat) (negative : Bool) (num den : Nat) : Binary f :=
  if num == 0 then ofMagnitude f negative 0
  else
    let e := placeExponent f num den
    let (n, d) := scaleDown num den e
    let magnitude := (e - f.minExponent).toNat * Nat.pow 2 f.fractionBits + divEven n d
    ofMagnitude f negative (min magnitude f.infinityBits)

/-- The datum nearest to `± significand * 2 ^ exponent`. -/
def ofScaled (f : BinaryFormat) (negative : Bool) (significand : Nat) (exponent : Int) :
    Binary f :=
  let (n, d) := scaleDown significand 1 (-exponent)
  ofRatio f negative n d

/-- The datum nearest to `± digits * 10 ^ exponent`. -/
def ofDecimal (f : BinaryFormat) (negative : Bool) (digits : Nat) (exponent : Int) : Binary f :=
  if 0 ≤ exponent then ofRatio f negative (digits * Nat.pow 10 exponent.toNat) 1
  else ofRatio f negative digits (Nat.pow 10 (-exponent).toNat)

def ofInt (f : BinaryFormat) (n : Int) : Binary f := ofRatio f (n < 0) n.natAbs 1

def infinity (f : BinaryFormat) (negative : Bool) : Binary f :=
  ofMagnitude f negative f.infinityBits

/-- The quiet datum that is no number. -/
def quietNaN (f : BinaryFormat) (negative : Bool) : Binary f :=
  ofMagnitude f negative (f.infinityBits + Nat.pow 2 (f.fractionBits - 1))

/-- The datum of another format nearest to this one; the payload of a NaN keeps its leading bits. -/
def convert (g : BinaryFormat) (x : Binary f) : Binary g :=
  match x.classify with
  | .infinite s => infinity g s
  | .finite s m e => ofScaled g s m e
  | .nan s payload =>
    let kept := payload * Nat.pow 2 g.fractionBits / Nat.pow 2 f.fractionBits
    ofMagnitude g s (g.infinityBits + (kept ||| Nat.pow 2 (g.fractionBits - 1)))

def neg (x : Binary f) : Binary f := ofMagnitude f (!x.isNegative) x.magnitude

/-- Numeric equality: zeros agree whatever their sign, and a NaN equals nothing. -/
def numericEq (x y : Binary f) : Bool :=
  !x.isNaN && !y.isNaN && (x.bits == y.bits || (x.magnitude == 0 && y.magnitude == 0))

/-- Numerator and denominator of a finite magnitude. -/
def ratio (m : Nat) (e : Int) : Nat × Nat := scaleDown m 1 (-e)

/-- The rounded product of two finite data; an operand out of range is handed on. -/
def mul (x y : Binary f) : Binary f :=
  match x.classify, y.classify with
  | .finite s m e, .finite s' m' e' => ofScaled f (s != s') (m * m') (e + e')
  | .finite _ _ _, _ => y
  | _, _ => x

/-- The rounded quotient of two finite data, the second not zero. -/
def div (x y : Binary f) : Binary f :=
  match x.classify, y.classify with
  | .finite s m e, .finite s' m' e' =>
    let (n, d) := ratio m e
    let (n', d') := ratio m' e'
    ofRatio f (s != s') (n * d') (d * n')
  | .finite _ _ _, _ => y
  | _, _ => x

/-- The rounded sum of two finite data that are not negative. -/
def addMagnitude (x y : Binary f) : Binary f :=
  match x.classify, y.classify with
  | .finite _ m e, .finite _ m' e' =>
    let (n, d) := ratio m e
    let (n', d') := ratio m' e'
    ofRatio f false (n * d' + n' * d) (d * d')
  | .finite _ _ _, _ => y
  | _, _ => x

/-- A finite datum that is not negative, rounded to an integer, a half away from zero. -/
def roundHalfUp (x : Binary f) : Binary f :=
  match x.classify with
  | .finite s m e =>
    let (n, d) := ratio m e
    ofRatio f s ((2 * n + d) / (2 * d)) 1
  | _ => x

/-- The bytes of the datum, most significant first. -/
def toBytes (x : Binary f) : List UInt8 :=
  (List.range (f.width / 8)).reverse.map fun i => UInt8.ofNat (x.bits.toNat / Nat.pow 256 i)

end Binary

end RowSync
