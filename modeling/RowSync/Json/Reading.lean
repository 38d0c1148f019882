import RowSync.Json.Basic
import RowSync.Text.Hex

/-!
JSON documents read from text. Numbers with a point or an exponent, and integers beyond 64 bits,
become double precision by one multiplication or division of their leading digits by a power of ten.
-/

set_option autoImplicit false

namespace RowSync.JsonTree

/-- Characters that may stand between the parts of a document. -/
def isSpace (c : Char) : Bool := c == ' ' || c == '\n' || c == '\t' || c == '\r'

def skipSpace (cs : List Char) : List Char := cs.dropWhile isSpace

/-- The greatest number of leading digits is bounded by 64 bits. -/
def digitBound : Nat := Nat.pow 2 64

/-- The greatest power of ten in double precision. -/
def greatestDecade : Nat := 308

def decade (n : Nat) : Binary64 := Binary.ofDecimal .double false 1 n

/-- Divides by powers of ten until the exponent is within reach. -/
def scaleDown (x : Binary64) (exponent : Nat) : Nat → Binary64
  | 0 => x
  | fuel + 1 =>
    if exponent ≤ greatestDecade then x.div (decade exponent)
    else if x.magnitude == 0 then x
    else scaleDown (x.div (decade greatestDecade)) (exponent - greatestDecade) fuel

/-- The number `± digits * 10 ^ exponent`, unless it is out of range. -/
def numberOf? (negative : Bool) (digits : Nat) (exponent : Int) : Option JsonTree :=
  let x := Binary.ofInt .double digits
  let scaled? :=
    if exponent < 0 then some (scaleDown x (-exponent).toNat exponent.natAbs)
    else if x.magnitude == 0 then some x
    else if exponent ≤ greatestDecade then
      let y := x.mul (decade exponent.toNat)
      if y.magnitude == BinaryFormat.double.infinityBits then none else some y
    else none
  scaled?.map fun y => float (if negative then y.neg else y)

/-- Digits behind a value, as long as it stays below the bound: the value, the number of digits
taken, and what follows. -/
def takeBounded (acc count : Nat) : List Char → Nat × Nat × List Char
  | [] => (acc, count, [])
  | c :: cs =>
    match Integer.digit? c with
    | some d =>
      if acc * 10 + d < digitBound then takeBounded (acc * 10 + d) (count + 1) cs
      else (acc, count, c :: cs)
    | none => (acc, count, c :: cs)

def startsWithDigit : List Char → Bool
  | c :: _ => (Integer.digit? c).isSome
  | [] => false

/-- The characters without the digits in front, and how many these were. -/
def skipDigits (cs : List Char) : Nat × List Char :=
  let rest := cs.dropWhile fun c => (Integer.digit? c).isSome
  (cs.length - rest.length, rest)

/-- The number with an exponent after the letter, if one follows. -/
def finishNumber? (negative : Bool) (digits : Nat) (exponent : Int) (cs : List Char) :
    Option (JsonTree × List Char) :=
  let scaled := fun (e : Int) (rest : List Char) =>
    (numberOf? negative digits (exponent + e)).map fun t => (t, rest)
  let exponentOf := fun (below : Bool) (cs : List Char) =>
    if startsWithDigit cs then
      let (n, rest) := FloatText.takeDigits 0 cs
      scaled (if below then -(n : Int) else n) rest
    else none
  match cs with
  | 'e' :: cs | 'E' :: cs =>
    match cs with
    | '+' :: cs => exponentOf false cs
    | '-' :: cs => exponentOf true cs
    | cs => exponentOf false cs
  | cs => scaled 0 cs

/-- The number behind a decimal point; digits beyond the bound are skipped. -/
def readFraction? (negative : Bool) (digits : Nat) (exponent : Int) (cs : List Char) :
    Option (JsonTree × List Char) :=
  if startsWithDigit cs then
    let (digits, count, rest) := takeBounded digits 0 cs
    finishNumber? negative digits (exponent - count) (skipDigits rest).2
  else none

/-- An integer as it stands; a negative one that does not fit, and minus zero, become floats. -/
def integerOf (negative : Bool) (n : Nat) : JsonTree :=
  if negative then
    if n == 0 || Nat.pow 2 63 < n then float (Binary.ofInt .double n).neg else integer (-(n : Int))
  else integer n

def readUnsigned? (negative : Bool) (cs : List Char) : Option (JsonTree × List Char) :=
  let (whole, count, rest) := takeBounded 0 0 cs
  if count == 0 || (cs.head? == some '0' && 1 < count) then none
  else
    let (skipped, rest) := skipDigits rest
    match rest with
    | '.' :: fraction => readFraction? negative whole skipped fraction
    | 'e' :: _ | 'E' :: _ => finishNumber? negative whole skipped rest
    | rest =>
      if skipped == 0 then some (integerOf negative whole, rest)
      else (numberOf? negative whole skipped).map fun t => (t, rest)

def readNumber? : List Char → Option (JsonTree × List Char)
  | '-' :: cs => readUnsigned? true cs
  | cs => readUnsigned? false cs

/-- The number of four hexadecimal digits. -/
def hexQuad? (a b c d : Char) : Option Nat := do
  let a ← Hex.value? a
  let b ← Hex.value? b
  let c ← Hex.value? c
  let d ← Hex.value? d
  pure (((a * 16 + b) * 16 + c) * 16 + d)

/-- The character of a surrogate pair. -/
def surrogatePair? (high low : Nat) : Option Char :=
  if 0xdc00 ≤ low ∧ low ≤ 0xdfff then
    some (Char.ofNat (0x10000 + (high - 0xd800) * 0x400 + (low - 0xdc00)))
  else none

/-- The character that a letter stands for behind a backslash. -/
def escaped? : Char → Option Char
  | '"' => some '"'
  | '\\' => some '\\'
  | '/' => some '/'
  | 'b' => some (Char.ofNat 8)
  | 'f' => some (Char.ofNat 12)
  | 'n' => some '\n'
  | 'r' => some '\r'
  | 't' => some '\t'
  | _ => none

/-- The characters of a text up to its closing quote, behind those read before in reverse. -/
def readText? (before : List Char) : List Char → Option (String × List Char)
  | [] => none
  | '"' :: cs => some (String.ofList before.reverse, cs)
  | '\\' :: 'u' :: a :: b :: c :: d :: cs =>
    match hexQuad? a b c d with
    | none => none
    | some n =>
      if 0xdc00 ≤ n ∧ n ≤ 0xdfff then none
      else if 0xd800 ≤ n ∧ n ≤ 0xdbff then
        match cs with
        | '\\' :: 'u' :: e :: f :: g :: h :: cs =>
          match (hexQuad? e f g h).bind (surrogatePair? n) with
          | some x => readText? (x :: before) cs
          | none => none
        | _ => none
      else readText? (Char.ofNat n :: before) cs
  | '\\' :: c :: cs =>
    match escaped? c with
    | some x => readText? (x :: before) cs
    | none => none
  | c :: cs => if c.toNat < 32 || c == '\\' then none else readText? (c :: before) cs

/-- Lists and records may be nested to one less than this. -/
def nestingLimit : Nat := 128

mutual

/-- A document in front of other characters; `depth` counts the nesting that is still allowed. -/
def readTree? (depth : Nat) : Nat → List Char → Option (JsonTree × List Char)
  | 0, _ => none
  | fuel + 1, cs =>
    match skipSpace cs with
    | 'n' :: 'u' :: 'l' :: 'l' :: cs => some (null, cs)
    | 't' :: 'r' :: 'u' :: 'e' :: cs => some (bool true, cs)
    | 'f' :: 'a' :: 'l' :: 's' :: 'e' :: cs => some (bool false, cs)
    | '"' :: cs => (readText? [] cs).map fun part => (text part.1, part.2)
    | '[' :: cs =>
      if depth ≤ 1 then none
      else
        match skipSpace cs with
        | ']' :: cs => some (list [], cs)
        | cs => (readItems? (depth - 1) fuel cs).map fun part => (list part.1, part.2)
    | c :: cs =>
      if c.toNat == 0x7b then
        if depth ≤ 1 then none
        else
          match skipSpace cs with
          | [] => none
          | c :: cs =>
            if c.toNat == 0x7d then some (record [], cs)
            else
              (readMembers? (depth - 1) fuel [] (c :: cs)).map fun part => (record part.1, part.2)
      else readNumber? (c :: cs)
    | [] => none

/-- The items of a list up to its closing bracket. -/
def readItems? (depth : Nat) : Nat → List Char → Option (List JsonTree × List Char)
  | 0, _ => none
  | fuel + 1, cs =>
    match readTree? depth fuel cs with
    | none => none
    | some (item, cs) =>
      match skipSpace cs with
      | ',' :: cs => (readItems? depth fuel cs).map fun part => (item :: part.1, part.2)
      | ']' :: cs => some ([item], cs)
      | _ => none

/-- The members of a record up to its closing brace, added to those read before. -/
def readMembers? (depth : Nat) :
    Nat → List (String × JsonTree) → List Char → Option (List (String × JsonTree) × List Char)
  | 0, _, _ => none
  | fuel + 1, members, cs =>
    match skipSpace cs with
    | '"' :: cs =>
      match readText? [] cs with
      | none => none
      | some (name, cs) =>
        match skipSpace cs with
        | ':' :: cs =>
          match readTree? depth fuel cs with
          | none => none
          | some (item, cs) =>
            let members := insertMember name item members
            match skipSpace cs with
            | ',' :: cs => readMembers? depth fuel members cs
            | c :: cs => if c.toNat == 0x7d then some (members, cs) else none
            | [] => none
        | _ => none
    | _ => none

end

/-- The document that is written by the whole text. -/
def read? (s : String) : Option JsonTree :=
  let cs := s.toList
  match readTree? nestingLimit (2 * cs.length + 2) cs with
  | some (t, rest) => if (skipSpace rest).isEmpty then some t else none
  | none => none

end RowSync.JsonTree
