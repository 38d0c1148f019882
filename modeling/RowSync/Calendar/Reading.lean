import RowSync.Calendar.DateTime
import RowSync.Text.Blank
import RowSync.Text.Utf8

/-!
Dates and times read from text. A pattern is a list of items; numbers may have blanks in front and
need not be padded. The exchange form with a zone is fixed in its first nineteen characters.
-/

set_option autoImplicit false

namespace RowSync

/-- Why a text is no date or time. -/
inductive CalendarFault
  | invalid
  | tooShort
  | trailing
  | outOfRange
  deriving DecidableEq, Repr

def CalendarFault.message : CalendarFault → String
  | .invalid => "input contains invalid characters"
  | .tooShort => "premature end of input"
  | .trailing => "trailing input"
  | .outOfRange => "input is out of range"

namespace Calendar

/-- One element of a pattern. -/
inductive Item
  | year
  | month
  | day
  | hour
  | minute
  | second
  /-- An optional point with digits of a second. -/
  | fraction
  | literal (c : Char)
  /-- Any number of blanks. -/
  | blanks
  deriving DecidableEq, Repr

/-- The numbers read by a pattern. -/
structure Fields where
  year : Int := 0
  month : Nat := 0
  day : Nat := 0
  hour : Nat := 0
  minute : Nat := 0
  second : Nat := 0
  nano : Nat := 0

/-- Up to `width` digits behind the value `acc`. -/
def upToDigits (acc : Nat) : Nat → List Char → Nat × List Char
  | 0, cs => (acc, cs)
  | _ + 1, [] => (acc, [])
  | width + 1, c :: cs =>
    match Integer.digit? c with
    | some d => upToDigits (acc * 10 + d) width cs
    | none => (acc, c :: cs)

/-- A number of one digit at least and `width` digits at most. -/
def number (width : Nat) (cs : List Char) : Except CalendarFault (Nat × List Char) :=
  match cs with
  | [] => .error .tooShort
  | c :: rest =>
    match Integer.digit? c with
    | none => .error .invalid
    | some d => .ok (upToDigits d (width - 1) rest)

/-- A number without a bound on its digits; beyond 64 bits it is out of range. -/
def longNumber (cs : List Char) : Except CalendarFault (Nat × List Char) :=
  (number cs.length cs).bind fun (n, rest) =>
    if n < Nat.pow 2 63 then .ok (n, rest) else .error .outOfRange

/-- A year: four digits, or any number of digits behind a sign. -/
def signedYear (cs : List Char) : Except CalendarFault (Int × List Char) :=
  let result : Except CalendarFault (Int × List Char) :=
    match cs with
    | '-' :: rest => (longNumber rest).map fun (n, rest) => (-(n : Int), rest)
    | '+' :: rest => (longNumber rest).map fun (n, rest) => ((n : Int), rest)
    | rest => (number 4 rest).map fun (n, rest) => ((n : Int), rest)
  result.bind fun (year, rest) =>
    if -2147483648 ≤ year ∧ year < 2147483648 then .ok (year, rest) else .error .outOfRange

/-- A number of at most two digits within bounds. -/
def bounded (low high : Nat) (cs : List Char) : Except CalendarFault (Nat × List Char) :=
  (number 2 (Text.dropBlanks cs)).bind fun (n, rest) =>
    if low ≤ n ∧ n ≤ high then .ok (n, rest) else .error .outOfRange

/-- Digits of a second as nanoseconds; those after the ninth are skipped. -/
def fractionDigits (cs : List Char) : Except CalendarFault (Nat × List Char) :=
  (number 9 cs).map fun (n, rest) =>
    (n * Nat.pow 10 (9 - (cs.length - rest.length)),
      rest.dropWhile fun c => (Integer.digit? c).isSome)

def readItem (fields : Fields) (cs : List Char) : Item → Except CalendarFault (Fields × List Char)
  | .year =>
    (signedYear (Text.dropBlanks cs)).map fun (n, rest) => ({ fields with year := n }, rest)
  | .month => (bounded 1 12 cs).map fun (n, rest) => ({ fields with month := n }, rest)
  | .day => (bounded 1 31 cs).map fun (n, rest) => ({ fields with day := n }, rest)
  | .hour => (bounded 0 23 cs).map fun (n, rest) => ({ fields with hour := n }, rest)
  | .minute => (bounded 0 59 cs).map fun (n, rest) => ({ fields with minute := n }, rest)
  | .second => (bounded 0 60 cs).map fun (n, rest) => ({ fields with second := n }, rest)
  | .fraction =>
    match cs with
    | '.' :: rest => (fractionDigits rest).map fun (n, rest) => ({ fields with nano := n }, rest)
    | _ => .ok (fields, cs)
  | .literal c =>
    match cs with
    | [] => .error .tooShort
    | c' :: rest => if c' == c then .ok (fields, rest) else .error .invalid
  | .blanks => .ok (fields, Text.dropBlanks cs)

/-- Reads the elements in order, to the end of the text. -/
def readItems (fields : Fields) (cs : List Char) : List Item → Except CalendarFault Fields
  | [] => if cs.isEmpty then .ok fields else .error .trailing
  | item :: items =>
    match readItem fields cs item with
    | .error e => .error e
    | .ok (fields, rest) => readItems fields rest items

def Fields.date (fields : Fields) : Except CalendarFault Date :=
  match Date.ofParts? fields.year fields.month fields.day with
  | some date => .ok date
  | none => .error .outOfRange

def Fields.time (fields : Fields) : Except CalendarFault TimeOfDay :=
  let (second, nano) :=
    if fields.second == 60 then (59, nanosPerSecond + fields.nano) else (fields.second, fields.nano)
  match TimeOfDay.ofParts? fields.hour fields.minute second nano with
  | some time => .ok time
  | none => .error .outOfRange

def datePattern : List Item := [.year, .literal '-', .month, .literal '-', .day]

/-- Hour, minute and second with colons, and an optional part of a second. -/
def timePattern : List Item :=
  [.hour, .literal ':', .minute, .literal ':', .second, .fraction]

def readDate (s : String) : Except CalendarFault Date :=
  (readItems {} s.toList datePattern).bind Fields.date

def readTime (s : String) : Except CalendarFault TimeOfDay :=
  (readItems {} s.toList timePattern).bind Fields.time

/-- Reads a date and a time of day with the given element between them. -/
def readDateTime (separator : Item) (s : String) : Except CalendarFault DateTime :=
  (readItems {} s.toList (datePattern ++ separator :: timePattern)).bind fun fields =>
    fields.date.bind fun date => fields.time.map fun time => ⟨date, time⟩

def utf8Length (cs : List Char) : Nat := (cs.map Char.utf8Size).foldr (· + ·) 0

def twoDigits (c d : Char) : Except CalendarFault Nat :=
  match Integer.digit? c, Integer.digit? d with
  | some m, some n => .ok (m * 10 + n)
  | _, _ => .error .invalid

/-- The character at a fixed position is one of those allowed. -/
def expect (allowed : List Char) (c : Char) : Except CalendarFault Unit :=
  if allowed.contains c then .ok () else .error .invalid

/-- Two digits at the front of what follows the sign or the colon of an offset. -/
def offsetDigits (cs : List Char) : Except CalendarFault (Char × Char × List Char) :=
  if utf8Length cs < 2 then .error .tooShort
  else
    match cs with
    | c :: d :: rest =>
      if (Integer.digit? c).isSome && (Integer.digit? d).isSome then .ok (c, d, rest)
      else .error .invalid
    | _ => .error .invalid

/-- The offset of a zone from UTC in seconds, hours and minutes with a colon between them. -/
def readOffset (cs : List Char) : Except CalendarFault (Int × List Char) :=
  match cs with
  | [] => .error .tooShort
  | sign :: cs =>
    if sign == 'Z' || sign == 'z' then .ok (0, cs)
    else if sign != '+' && sign != '-' && sign != '−' then .error .invalid
    else do
      let (h₁, h₂, cs) ← offsetDigits cs
      let hours ← twoDigits h₁ h₂
      match cs with
      | [] => .error .tooShort
      | ':' :: cs =>
        let (m₁, m₂, cs) ← offsetDigits cs
        let minutes ← twoDigits m₁ m₂
        if 60 ≤ minutes then .error .outOfRange
        else
          let seconds : Int := (hours * 3600 + minutes * 60 : Nat)
          .ok (if sign == '+' then seconds else -seconds, cs)
      | _ => .error .invalid

/-- The greatest distance of a zone from UTC in seconds. -/
def maxOffset : Int := (23 * 60 + 59) * 60

/-- Reads the part of a second, if any, and the zone, and moves the local date-time to UTC. -/
def finishInstant (date : Date) (hour minute second : Nat) (cs : List Char) :
    Except CalendarFault DateTime := do
  let (nano, cs) ←
    match cs with
    | '.' :: rest => fractionDigits rest
    | rest => .ok (0, rest)
  let time ← Fields.time { hour, minute, second, nano }
  let (offset, cs) ← readOffset cs
  if !cs.isEmpty then .error .trailing
  else if offset < -maxOffset ∨ maxOffset < offset then .error .outOfRange
  else
    match (DateTime.mk date time).minusSeconds? offset with
    | some t => .ok t
    | none => .error .outOfRange

/-- The bytes of the text, each as the character of that code; only ASCII keeps its meaning. -/
def byteView (s : String) : List Char := (Utf8.encode s).map fun b => Char.ofNat b.toNat

/-- Reads a date-time with a zone as the UTC date-time. -/
def readInstant (s : String) : Except CalendarFault DateTime :=
  if utf8Length s.toList < 19 then .error .tooShort
  else
    match byteView s with
    | y₁ :: y₂ :: y₃ :: y₄ :: s₁ :: mo₁ :: mo₂ :: s₂ :: d₁ :: d₂ :: s₃ :: h₁ :: h₂ :: s₄ :: mi₁ ::
        mi₂ :: s₅ :: se₁ :: se₂ :: _ => do
      let century ← twoDigits y₁ y₂
      let yearOfCentury ← twoDigits y₃ y₄
      expect ['-'] s₁
      let month ← twoDigits mo₁ mo₂
      expect ['-'] s₂
      let day ← twoDigits d₁ d₂
      let date ← Fields.date { year := (century * 100 + yearOfCentury : Nat), month, day }
      expect ['t', 'T', ' '] s₃
      let hour ← twoDigits h₁ h₂
      expect [':'] s₄
      let minute ← twoDigits mi₁ mi₂
      expect [':'] s₅
      let second ← twoDigits se₁ se₂
      finishInstant date hour minute second (s.toList.drop 19)
    | _ => .error .invalid

end Calendar

end RowSync
