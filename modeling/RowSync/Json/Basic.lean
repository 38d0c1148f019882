import RowSync.Number.FloatText

/-!
JSON documents and their text, on one line or indented by two spaces.
-/

set_option autoImplicit false

namespace RowSync

/-- A JSON document. -/
inductive JsonTree
  | null
  | bool (b : Bool)
  | integer (n : Int)
  | float (x : Binary64)
  | text (s : String)
  | list (items : List JsonTree)
  | record (members : List (String × JsonTree))

namespace JsonTree

/-- The hexadecimal digits of a control character. -/
def controlDigits (c : Char) : List Char :=
  let digits := Nat.toDigits 16 c.toNat
  List.replicate (4 - digits.length) '0' ++ digits

/-- A character between quotes; only quotes, backslashes and control characters are escaped. -/
def escapedChar (c : Char) : List Char :=
  if c == '"' then ['\\', '"']
  else if c == '\\' then ['\\', '\\']
  else if c == '\n' then ['\\', 'n']
  else if c == '\r' then ['\\', 'r']
  else if c == '\t' then ['\\', 't']
  else if c.toNat == 8 then ['\\', 'b']
  else if c.toNat == 12 then ['\\', 'f']
  else if c.toNat < 32 then ['\\', 'u'] ++ controlDigits c
  else [c]

def quotedText (s : String) : String :=
  String.ofList ('"' :: s.toList.flatMap escapedChar ++ ['"'])

/-- The powers of ten of the leading digit at which a number is written without an exponent. -/
def positionalRange (e : Int) : Bool := -5 ≤ e && e < 16

/-- The digits with the point behind the first and an exponent of two digits at least. -/
def withExponent (d : DecimalDigits) : List Char :=
  let e := d.point - 1
  let mark := if e < 0 then '-' else '+'
  let mantissa :=
    match d.digits with
    | [] => ['0']
    | [c] => [c]
    | c :: rest => c :: '.' :: rest
  mantissa ++ 'e' :: mark :: paddedDigits 2 e.natAbs

/-- A number in double precision; one that is not finite has no JSON form. -/
def floatText (x : Binary64) : String :=
  match x.classify with
  | .finite negative m e =>
    let body :=
      if m == 0 then ['0', '.', '0']
      else
        let (num, den) := Binary.ratio m e
        let d := x.shortest num den
        if positionalRange (d.point - 1) then
          let plain := Binary.positional d
          if plain.contains '.' then plain else plain ++ ['.', '0']
        else withExponent d
    String.ofList (Binary.signed negative body)
  | _ => "null"

mutual

def compact : JsonTree → String
  | null => "null"
  | bool b => if b then "true" else "false"
  | integer n => toString n
  | float x => floatText x
  | text s => quotedText s
  | list items => "[" ++ ",".intercalate (compactItems items) ++ "]"
  | record members => "\x7b" ++ ",".intercalate (compactMembers members) ++ "\x7d"

def compactItems : List JsonTree → List String
  | [] => []
  | item :: items => compact item :: compactItems items

def compactMembers : List (String × JsonTree) → List String
  | [] => []
  | (name, item) :: members => (quotedText name ++ ":" ++ compact item) :: compactMembers members

end

def newLine (depth : Nat) : String := String.ofList ('\n' :: List.replicate (2 * depth) ' ')

/-- Parts between brackets, each on a line of its own. -/
def block (opening closing : String) (depth : Nat) (parts : List String) : String :=
  if parts.isEmpty then opening ++ closing
  else
    opening ++ newLine (depth + 1) ++ ("," ++ newLine (depth + 1)).intercalate parts ++
      newLine depth ++ closing

mutual

/-- The document with indentation, at a depth. -/
def indentedAt (depth : Nat) : JsonTree → String
  | list items => block "[" "]" depth (indentedItems (depth + 1) items)
  | record members => block "\x7b" "\x7d" depth (indentedMembers (depth + 1) members)
  | null => "null"
  | bool b => if b then "true" else "false"
  | integer n => toString n
  | float x => floatText x
  | text s => quotedText s

def indentedItems (depth : Nat) : List JsonTree → List String
  | [] => []
  | item :: items => indentedAt depth item :: indentedItems depth items

def indentedMembers (depth : Nat) : List (String × JsonTree) → List String
  | [] => []
  | (name, item) :: members =>
    (quotedText name ++ ": " ++ indentedAt depth item) :: indentedMembers depth members

end

def indented (t : JsonTree) : String := t.indentedAt 0

/-- Puts a member into a record whose names ascend; an older one of that name gives way. -/
def insertMember (name : String) (item : JsonTree) :
    List (String × JsonTree) → List (String × JsonTree)
  | [] => [(name, item)]
  | (other, old) :: members =>
    if name == other then (name, item) :: members
    else if name < other then (name, item) :: (other, old) :: members
    else (other, old) :: insertMember name item members

end JsonTree

end RowSync
