import RowSync.Number.Binary
import RowSync.Number.Integer

/-!
Floating point text. A number is written with the fewest digits that read back to it, and of those
with the digits nearest to it; a half goes up.
-/

set_option autoImplicit false

namespace RowSync

/-- A decimal number `0.d₁d₂…dₙ * 10 ^ point`, given by the digits as one number. -/
structure DecimalDigits where
  digits : List Char
  point : Int
  deriving DecidableEq, Repr

namespace Binary

variable {f : BinaryFormat}

/-- The power of ten below which no positive number of the two formats lies. -/
def smallestDecade : Nat := 400

/-- The `k` with `10 ^ (k - 1) ≤ num / den < 10 ^ k`. -/
def decade (num den : Nat) : Int :=
  ((Nat.toDigits 10 (num * Nat.pow 10 smallestDecade / den)).length : Int) - smallestDecade

/-- The number `n * 10 ^ e` reads back to the magnitude of the datum. -/
def readsBack (x : Binary f) (n : Nat) (e : Int) : Bool :=
  (ofDecimal f false n e).magnitude == x.magnitude

/-- The candidate of the grid of spacing `10 ^ e` that reads back, if there is one. -/
def onGrid (x : Binary f) (num den : Nat) (e : Int) : Option Nat :=
  let (n, d) :=
    if 0 ≤ e then (num, den * Nat.pow 10 e.toNat) else (num * Nat.pow 10 (-e).toNat, den)
  let low := n / d
  let lowFits := low != 0 && x.readsBack low e
  let highFits := x.readsBack (low + 1) e
  if lowFits && highFits then some (if 2 * (n % d) < d then low else low + 1)
  else if lowFits then some low
  else if highFits then some (low + 1)
  else none

/-- Tries `count` digits, then more, up to `fuel` further ones. -/
def shortestFrom (x : Binary f) (num den : Nat) (k : Int) : Nat → Nat → Nat × Int
  | count, 0 => (num / den, k - count)
  | count, fuel + 1 =>
    match x.onGrid num den (k - count) with
    | some n => (n, k - count)
    | none => shortestFrom x num den k (count + 1) fuel

/-- The shortest digits of the positive finite number `num / den` that the datum stands for. -/
def shortest (x : Binary f) (num den : Nat) : DecimalDigits :=
  let (n, e) := shortestFrom x num den (decade num den) 1 18
  let all := Nat.toDigits 10 n
  let kept := (all.reverse.dropWhile (· == '0')).reverse
  ⟨kept, e + all.length⟩

/-- The digits written out in positions, without an exponent. -/
def positional (d : DecimalDigits) : List Char :=
  let n := d.digits.length
  if d.point ≤ 0 then '0' :: '.' :: List.replicate (-d.point).toNat '0' ++ d.digits
  else if (n : Int) ≤ d.point then d.digits ++ List.replicate (d.point - n).toNat '0'
  else d.digits.take d.point.toNat ++ '.' :: d.digits.drop d.point.toNat

def signed (negative : Bool) (body : List Char) : List Char :=
  if negative then '-' :: body else body

/-- The datum as text, never with an exponent. -/
def text (x : Binary f) : String :=
  match x.classify with
  | .nan _ _ => "NaN"
  | .infinite s => String.ofList (signed s ['i', 'n', 'f'])
  | .finite s m e =>
    let body :=
      if m == 0 then ['0']
      else let (num, den) := ratio m e; positional (x.shortest num den)
    String.ofList (signed s body)

/-- One digit in front of the point, then an exponent. -/
def scientific (d : DecimalDigits) : List Char :=
  let exponent := (toString (d.point - 1)).toList
  match d.digits with
  | [] => ['0']
  | [c] => c :: 'e' :: exponent
  | c :: rest => c :: '.' :: rest ++ 'e' :: exponent

/-- Numbers of at least this power of ten are shown with an exponent in diagnostics. -/
def diagnosticUpper : Int := 16

/-- The datum as diagnostics show it: one place at least, an exponent below `10⁻⁴` and from `10¹⁶`. -/
def diagnosticText (x : Binary f) : String :=
  match x.classify with
  | .nan _ _ => "NaN"
  | .infinite s => String.ofList (signed s ['i', 'n', 'f'])
  | .finite s m e =>
    let body :=
      if m == 0 then ['0', '.', '0']
      else
        let (num, den) := ratio m e
        let d := x.shortest num den
        if d.point ≤ -4 || diagnosticUpper < d.point then scientific d
        else
          let plain := positional d
          if plain.contains '.' then plain else plain ++ ['.', '0']
    String.ofList (signed s body)

end Binary

/-- Why a text is no floating point number. -/
inductive FloatFault
  | empty
  | invalid
  deriving DecidableEq, Repr

def FloatFault.message : FloatFault → String
  | .empty => "cannot parse float from empty string"
  | .invalid => "invalid float literal"

namespace FloatText

/-- The value of a run of digits behind `acc`, and what follows the run. -/
def takeDigits (acc : Nat) : List Char → Nat × List Char
  | [] => (acc, [])
  | c :: cs =>
    match Integer.digit? c with
    | some d => takeDigits (acc * 10 + d) cs
    | none => (acc, c :: cs)

/-- Exponents beyond this bound already decide between zero and infinity. -/
def exponentBound : Nat := 100000

/-- The exponent after its letter: an optional sign, then digits to the end. -/
def readExponent (cs : List Char) : Option Int :=
  let (negative, rest) :=
    match cs with
    | '-' :: rest => (true, rest)
    | '+' :: rest => (false, rest)
    | rest => (false, rest)
  match rest with
  | [] => none
  | rest =>
    match takeDigits 0 rest with
    | (n, []) =>
      let bounded : Int := (min n exponentBound : Nat)
      some (if negative then -bounded else bounded)
    | _ => none

/-- The number of characters by which the second list is shorter. -/
def consumed (before after : List Char) : Nat := before.length - after.length

/-- Digits with an optional point and exponent, as a number and a power of ten. -/
def readUnsigned (cs : List Char) : Option (Nat × Int) :=
  let (whole, afterWhole) := takeDigits 0 cs
  let (value, places, rest) :=
    match afterWhole with
    | '.' :: fraction =>
      let (value, rest) := takeDigits whole fraction
      (value, consumed fraction rest, rest)
    | rest => (whole, 0, rest)
  if consumed cs afterWhole + places == 0 then none
  else
    match rest with
    | [] => some (value, -(places : Int))
    | 'e' :: exponent | 'E' :: exponent => (readExponent exponent).map fun e => (value, e - places)
    | _ => none

/-- The power of ten of a number with that many digits decides the result before rounding. -/
def clampedDecimal (f : BinaryFormat) (negative : Bool) (n : Nat) (e : Int) : Binary f :=
  if n == 0 then Binary.ofMagnitude f negative 0
  else
    let top := e + (Nat.toDigits 10 n).length
    if 400 < top then Binary.infinity f negative
    else if top < -400 then Binary.ofMagnitude f negative 0
    else Binary.ofDecimal f negative n e

/-- ASCII letters made small. -/
def small (cs : List Char) : List Char :=
  cs.map fun c => if 'A' ≤ c ∧ c ≤ 'Z' then Char.ofNat (c.toNat + 32) else c

def read (f : BinaryFormat) (s : String) : Except FloatFault (Binary f) :=
  let (negative, body) :=
    match s.toList with
    | '-' :: cs => (true, cs)
    | '+' :: cs => (false, cs)
    | cs => (false, cs)
  if s.isEmpty then .error .empty
  else if small body == ['n', 'a', 'n'] then .ok (Binary.quietNaN f negative)
  else if small body == ['i', 'n', 'f'] || small body == "infinity".toList then
    .ok (Binary.infinity f negative)
  else
    match readUnsigned body with
    | some (n, e) => .ok (clampedDecimal f negative n e)
    | none => .error .invalid

end FloatText

end RowSync
