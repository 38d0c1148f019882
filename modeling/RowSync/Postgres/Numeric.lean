import RowSync.Number.BigEndian
import RowSync.Number.Decimal

/-!
The binary form of PostgreSQL's `numeric`: groups of four decimal digits, the power of ten thousand
of the first group, a sign and the number of places to show.
-/

set_option autoImplicit false

namespace RowSync

/-- A number in groups of four digits. -/
structure PostgresNumeric where
  groups : List Nat
  /-- The power of ten thousand of the first group. -/
  weight : Int
  negative : Bool
  /-- The number of decimal places. -/
  scale : Nat
  deriving DecidableEq, Repr

namespace PostgresNumeric

/-- The number of values of a group. -/
def base : Nat := 10000

/-- The groups of a natural number, the most significant first; zero has none. -/
def groupsOf : Nat → List Nat
  | 0 => []
  | n + 1 => groupsOf ((n + 1) / base) ++ [(n + 1) % base]
termination_by n => n
decreasing_by exact Nat.div_lt_self (Nat.succ_pos _) (by decide)

/-- The groups without the zeros at the end. -/
def dropZeros (groups : List Nat) : List Nat := (groups.reverse.dropWhile (· == 0)).reverse

/-- The groups of a decimal: those behind the point that are zero to the end are left out when
there is a group in front of it. -/
def ofDecimal (d : Decimal) : PostgresNumeric :=
  if d.isZero then ⟨[], 0, false, 0⟩
  else
    let behind := (d.scale + 3) / 4
    let groups := groupsOf (d.coefficient * Nat.pow 10 (4 * behind - d.scale))
    let weight : Int := (groups.length : Int) - behind - 1
    let kept :=
      if 0 ≤ weight then
        groups.take (groups.length - behind) ++ dropZeros (groups.drop (groups.length - behind))
      else groups
    ⟨kept, weight, d.negative, d.scale⟩

/-- The mark of a negative number. -/
def negativeMark : Nat := 0x4000

def toBytes (n : PostgresNumeric) : Bytes :=
  BigEndian.ofNat 2 n.groups.length ++ BigEndian.ofInt 2 n.weight ++
    BigEndian.ofNat 2 (if n.negative then negativeMark else 0) ++ BigEndian.ofNat 2 n.scale ++
    n.groups.flatMap (BigEndian.ofNat 2)

/-- As many groups as asked from the front of some bytes. -/
def takeGroups? : Nat → Bytes → Option (List Nat)
  | 0, _ => some []
  | count + 1, a :: b :: rest => (takeGroups? count rest).map (BigEndian.toNat [a, b] :: ·)
  | _ + 1, _ => none

/-- Reads the form on the wire; marks for what is no number are refused. -/
def ofBytes? : Bytes → Option PostgresNumeric
  | c₁ :: c₂ :: w₁ :: w₂ :: m₁ :: m₂ :: s₁ :: s₂ :: rest =>
    let mark := BigEndian.toNat [m₁, m₂]
    if mark != 0 && mark != negativeMark then none
    else
      (takeGroups? (BigEndian.toNat [c₁, c₂]) rest).map fun groups =>
        ⟨groups, BigEndian.toInt [w₁, w₂], mark == negativeMark, BigEndian.toNat [s₁, s₂]⟩
  | _ => none

/-- The groups behind a value, as long as the coefficient of a decimal holds it. -/
def wholeOf? (acc : Nat) : List Nat → Option Nat
  | [] => some acc
  | g :: groups =>
    if acc * base + g < Decimal.coefficientBound then wholeOf? (acc * base + g) groups else none

/-- The greatest number of groups that may be missing in front of the point. -/
def missingLimit : Nat := 7

/-- The whole number in front of the point, so many groups of zeros included. -/
def shiftWhole? (n missing : Nat) : Option Nat :=
  if missingLimit < missing then none
  else
    let shifted := n * Nat.pow base missing
    if shifted < Decimal.coefficientBound then some shifted else none

/-- Adds the groups behind the point, the first of which ends at the given place; a group beyond
the last place of a decimal rounds it. -/
def addFraction? (d : Decimal) (place : Nat) : List Nat → Option Decimal
  | [] => some d
  | g :: groups =>
    let next? :=
      if place ≤ Decimal.maxScale then d.addMagnitude? ⟨false, g, place⟩
      else if place == Decimal.maxScale + 4 && 5000 ≤ g then
        d.addMagnitude? ⟨false, 1, Decimal.maxScale⟩
      else some d
    match next? with
    | some d => addFraction? d (place + 4) groups
    | none => none

/-- The decimal with the places to show, if it has room for the number. -/
def toDecimal? (n : PostgresNumeric) : Option Decimal :=
  let front := (n.weight + 1).toNat
  let whole? := (wholeOf? 0 (n.groups.take front)).bind fun whole =>
    shiftWhole? whole (front - n.groups.length)
  let place := 4 * ((-n.weight).toNat - 1) + 4
  (whole?.bind fun whole => addFraction? ⟨false, whole, 0⟩ place (n.groups.drop front)).map
    fun d => { d with negative := n.negative }.rescale n.scale

end PostgresNumeric

end RowSync
