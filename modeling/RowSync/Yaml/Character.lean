/-!
The characters of YAML streams: which are allowed, which separate, and which end a line.
-/

set_option autoImplicit false

namespace RowSync.Yaml

/-- The character may occur in a stream. -/
def isAllowed (c : Char) : Bool :=
  let n := c.toNat
  n == 0x9 || n == 0xa || n == 0xd || (0x20 ≤ n && n ≤ 0x7e) || n == 0x85 ||
    (0xa0 ≤ n && n ≤ 0xfffd) || 0x10000 ≤ n

/-- A space or a tab. -/
def isBlank (c : Char) : Bool := c == ' ' || c == '\t'

/-- A line break, once lines end in one character. -/
def isBreak (c : Char) : Bool := c == '\n' || c.toNat == 0x2028 || c.toNat == 0x2029

/-- A letter, a digit, a hyphen or an underscore. -/
def isWordChar (c : Char) : Bool :=
  ('a' ≤ c && c ≤ 'z') || ('A' ≤ c && c ≤ 'Z') || ('0' ≤ c && c ≤ '9') || c == '-' || c == '_'

/-- The stream with every line break of one or two characters written as one. -/
def unifyBreaks : List Char → List Char
  | [] => []
  | c :: rest =>
    if c == '\r' then
      match rest with
      | '\n' :: rest => '\n' :: unifyBreaks rest
      | rest => '\n' :: unifyBreaks rest
    else if c.toNat == 0x85 then '\n' :: unifyBreaks rest
    else c :: unifyBreaks rest

/-- A blank, a line break or the end of the stream comes next. -/
def endsWord : List Char → Bool
  | [] => true
  | c :: _ => isBlank c || isBreak c

/-- A line break or the end of the stream comes next. -/
def endsLine : List Char → Bool
  | [] => true
  | c :: _ => isBreak c

def comesNext (c : Char) (cs : List Char) : Bool := cs.head? == some c

def oneComesNext (among : List Char) (cs : List Char) : Bool := cs.head?.any among.contains

/-- Three equal characters that mark the start or the end of a document come next. -/
def marksDocument (mark : Char) (cs : List Char) : Bool :=
  cs.take 3 == [mark, mark, mark] && endsWord (cs.drop 3)

/-- Either mark of a document comes next. -/
def marksAnyDocument (cs : List Char) : Bool := marksDocument '-' cs || marksDocument '.' cs

def openBrace : Char := Char.ofNat 0x7b

def closeBrace : Char := Char.ofNat 0x7d

/-- Characters that end a plain scalar in a flow collection. -/
def flowEnds : List Char := [',', '[', ']', openBrace, closeBrace]

end RowSync.Yaml
