import RowSync.Number.Integer

/-!
Decimal numbers of 96 bits: an integer coefficient, a scale of at most 28 places and a sign. The
scale is kept as written, so `1.5` and `1.50` are different data of equal value.
-/

set_option autoImplicit false

namespace RowSync

/-- A coefficient divided by a power of ten. -/
structure Decimal where
  negative : Bool
  coefficient : Nat
  scale : Nat
  deriving DecidableEq, Repr

namespace Decimal

/-- Coefficients are below this bound. -/
def coefficientBound : Nat := Nat.pow 2 96

def maxScale : Nat := 28

/-- The coefficient and the scale fit the representation. -/
def WellFormed (d : Decimal) : Prop := d.coefficient < coefficientBound ∧ d.scale ≤ maxScale

instance (d : Decimal) : Decidable d.WellFormed := by unfold WellFormed; infer_instance

/-- A decimal whose sign is positive when the coefficient is zero. -/
def ofParts (negative : Bool) (coefficient scale : Nat) : Decimal :=
  ⟨negative && coefficient != 0, coefficient, scale⟩

def ofInt (n : Int) : Decimal := ofParts (n < 0) n.natAbs 0

def isZero (d : Decimal) : Bool := d.coefficient == 0

def signedCoefficient (d : Decimal) : Int := if d.negative then -d.coefficient else d.coefficient

/-- Two decimals are the same number. -/
def valueEq (a b : Decimal) : Bool :=
  a.signedCoefficient * Nat.pow 10 b.scale == b.signedCoefficient * Nat.pow 10 a.scale

/-- The decimal as text, with all its places. -/
def text (d : Decimal) : String :=
  let digits := paddedDigits (d.scale + 1) d.coefficient
  let whole := digits.take (digits.length - d.scale)
  let places := digits.drop (digits.length - d.scale)
  let body := if d.scale == 0 then whole else whole ++ '.' :: places
  String.ofList (if d.negative then '-' :: body else body)

/-- The integer part, toward zero. -/
def truncated (d : Decimal) : Int :=
  let n : Int := (d.coefficient / Nat.pow 10 d.scale : Nat)
  if d.negative then -n else n

/-- The integer part if it fits 64 bits. -/
def toInt64? (d : Decimal) : Option Int :=
  if Integer.isInt64 d.truncated then some d.truncated else none

/-- Moves trailing zeros of the coefficient out of the places. -/
def stripZeros (negative : Bool) (coefficient : Nat) : Nat → Decimal
  | 0 => ⟨negative, coefficient, 0⟩
  | scale + 1 =>
    if coefficient % 10 == 0 then stripZeros negative (coefficient / 10) scale
    else ⟨negative, coefficient, scale + 1⟩

/-- The coefficient multiplied by ten as often as asked and possible, with the number of steps. -/
def widen (coefficient : Nat) : Nat → Nat × Nat
  | 0 => (coefficient, 0)
  | n + 1 =>
    if coefficient * 10 < coefficientBound then
      let (c, steps) := widen (coefficient * 10) n
      (c, steps + 1)
    else (coefficient, 0)

/-- The quotient by a power of ten, rounded by the last digit cut off, five going up. -/
def cutPlaces (coefficient : Nat) : Nat → Nat
  | 0 => coefficient
  | n + 1 =>
    let shortened := coefficient / Nat.pow 10 n
    shortened / 10 + if 5 ≤ shortened % 10 then 1 else 0

/-- The decimal with the wanted number of places, or with as many as the coefficient admits. -/
def rescale (d : Decimal) (scale : Nat) : Decimal :=
  let wanted := min scale maxScale
  if d.coefficient == 0 then ⟨d.negative, 0, wanted⟩
  else if wanted < d.scale then ⟨d.negative, cutPlaces d.coefficient (d.scale - wanted), wanted⟩
  else
    let (c, steps) := widen d.coefficient (wanted - d.scale)
    ⟨d.negative, c, d.scale + steps⟩

/-- The quotient by a power of ten, a half going to the even neighbour. -/
def shortenEven (coefficient places : Nat) : Nat :=
  let unit := Nat.pow 10 places
  let q := coefficient / unit
  let r := coefficient % unit
  if unit < 2 * r || (2 * r == unit && q % 2 == 1) then q + 1 else q

/-- The sum brought below the bound by giving up as few places as possible. -/
def fitPlaces (sum scale : Nat) : Nat → Option Decimal
  | 0 => none
  | fuel + 1 =>
    let lost := scale - fuel
    let c := shortenEven sum lost
    if c < coefficientBound then some ⟨false, c, fuel⟩ else fitPlaces sum scale fuel

/-- The sum of two decimals that are not negative, or nothing when it is out of range. -/
def addMagnitude? (a b : Decimal) : Option Decimal :=
  let scale := max a.scale b.scale
  let sum :=
    a.coefficient * Nat.pow 10 (scale - a.scale) + b.coefficient * Nat.pow 10 (scale - b.scale)
  fitPlaces sum scale (scale + 1)

end Decimal

/-- Why a text is no decimal. -/
inductive DecimalFault
  | empty
  | noDigits
  | secondPoint
  | leadingSeparator
  | unknownCharacter
  | tooManyDigits
  | scaleExceeded (scale : Nat)
  | outOfRange
  deriving DecidableEq, Repr

def DecimalFault.message : DecimalFault → String
  | .empty => "Invalid decimal: empty"
  | .noDigits => "Invalid decimal: no digits found"
  | .secondPoint => "Invalid decimal: two decimal points"
  | .leadingSeparator => "Invalid decimal: must start lead with a number"
  | .unknownCharacter => "Invalid decimal: unknown character"
  | .tooManyDigits => "Invalid decimal: overflow from too many digits"
  | .scaleExceeded scale =>
    s!"Scale exceeds the maximum precision allowed: {scale} > {Decimal.maxScale}"
  | .outOfRange => "Number exceeds maximum value that can be represented."

namespace DecimalText

/-- The fault of a character that continues no number. -/
def strayFault (c : Char) : DecimalFault :=
  if c == '.' then .secondPoint
  else if c == '_' then .leadingSeparator
  else .unknownCharacter

/-- What has been read of a number. -/
structure Progress where
  negative : Bool
  coefficient : Nat
  scale : Nat
  /-- A decimal point has been read. -/
  point : Bool
  /-- A digit has been read. -/
  digits : Bool

/-- The number read so far. -/
def Progress.finish (p : Progress) : Except DecimalFault Decimal :=
  if p.digits then .ok (Decimal.ofParts p.negative p.coefficient p.scale) else .error .noDigits

/-- Rounds by the next digit, a five going up; what follows is not looked at. -/
def Progress.round (p : Progress) (next : Char) : Except DecimalFault Decimal :=
  let digit? :=
    if next == '_' || next == '.' then some 0 else Integer.digit? next
  match digit? with
  | none => .error (strayFault next)
  | some digit =>
    if digit < 5 then p.finish
    else if p.coefficient + 1 < Decimal.coefficientBound then
      { p with coefficient := p.coefficient + 1 }.finish
    else { p with coefficient := (p.coefficient + 5) / 10, scale := p.scale - 1 }.finish

/-- The number times a power of ten, given by the text of the exponent. -/
def applyExponent (d : Decimal) (cs : List Char) : Except DecimalFault Decimal :=
  let (negative, rest) :=
    match cs with
    | '-' :: rest => (true, rest)
    | rest => (false, rest)
  match Integer.readUnsigned 32 (String.ofList rest) with
  | .error _ => .error .unknownCharacter
  | .ok e =>
    if negative then
      if d.scale + e ≤ Decimal.maxScale then
        .ok (Decimal.ofParts d.negative d.coefficient (d.scale + e))
      else .error (.scaleExceeded (d.scale + e))
    else if e ≤ d.scale then .ok (Decimal.ofParts d.negative d.coefficient (d.scale - e))
    else if Decimal.maxScale < e then .error (.scaleExceeded e)
    else
      let c := d.coefficient * Nat.pow 10 (e - d.scale)
      if c < Decimal.coefficientBound then .ok (Decimal.ofParts d.negative c 0)
      else .error .outOfRange

def readRest (p : Progress) : List Char → Except DecimalFault Decimal
  | [] => p.finish
  | c :: cs =>
    match Integer.digit? c with
    | some digit =>
      if p.point && p.digits && Decimal.maxScale ≤ p.scale then p.round c
      else
        let next := p.coefficient * 10 + digit
        if next < Decimal.coefficientBound then
          readRest { p with
            coefficient := next, scale := if p.point then p.scale + 1 else 0, digits := true } cs
        else if p.point then p.round c
        else .error .tooManyDigits
    | none =>
      if p.point && p.digits && Decimal.maxScale ≤ p.scale then p.round c
      else if c == '.' && !p.point then readRest { p with point := true } cs
      else if c == '_' && p.digits then readRest p cs
      else if (c == 'e' || c == 'E') && p.digits then
        p.finish.bind fun d => applyExponent d cs
      else .error (strayFault c)

def read (s : String) : Except DecimalFault Decimal :=
  match s.toList with
  | [] => .error .empty
  | '-' :: cs => readRest ⟨true, 0, 0, false, false⟩ cs
  | '+' :: cs => readRest ⟨false, 0, 0, false, false⟩ cs
  | cs => readRest ⟨false, 0, 0, false, false⟩ cs

end DecimalText

end RowSync
