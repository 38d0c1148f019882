import RowSync.Number.Integer
import RowSync.Text.Hex
import RowSync.Yaml.Character

/-!
Scalars as they are written: plain, quoted, and in blocks. Line breaks inside a scalar are folded;
each reader gives the content and the characters behind the scalar.
-/

set_option autoImplicit false

namespace RowSync.Yaml

/-- Blanks and line breaks between two pieces of a scalar. -/
structure Gap where
  /-- Blanks before any line break. -/
  blanks : List Char := []
  /-- A line has ended. -/
  ended : Bool := false
  /-- The first line break, unless it was escaped. -/
  first? : Option Char := none
  /-- The line breaks after the first. -/
  others : List Char := []

namespace Gap

/-- The gap with one more blank; blanks at the start of a line do not count. -/
def addBlank (g : Gap) (c : Char) : Gap :=
  if g.ended then g else { g with blanks := g.blanks ++ [c] }

def addBreak (g : Gap) (c : Char) : Gap :=
  if g.ended then { g with others := g.others ++ [c] } else { ended := true, first? := some c }

/-- The gap of an escaped line break. -/
def escaped : Gap := { ended := true }

/-- What the gap adds to the content: a lone line feed becomes a space. -/
def folded (g : Gap) : List Char :=
  if !g.ended then g.blanks
  else if g.first? == some '\n' then (if g.others.isEmpty then [' '] else g.others)
  else g.first?.toList ++ g.others

end Gap

/-- A scalar that was read: its content, the rest, and whether a line ended behind it. -/
structure ScalarRead where
  content : List Char
  rest : List Char
  lineEnded : Bool := false

/-- The scalar with content in front. -/
def ScalarRead.behind (r : ScalarRead) (front : List Char) : ScalarRead :=
  { r with content := front ++ r.content }

def plainEnds (inFlow : Bool) (cs : List Char) : Bool :=
  (comesNext ':' cs && endsWord (cs.drop 1)) || (inFlow && oneComesNext flowEnds cs)

/-- A colon stands directly before an indicator of a flow collection. -/
def strayColon (inFlow : Bool) (cs : List Char) : Bool :=
  inFlow && comesNext ':' cs && oneComesNext ('?' :: flowEnds) (cs.drop 1)

/-- Behind a gap, something comes that is not part of the scalar. -/
def plainStops (inFlow : Bool) (indent : Int) (column : Nat) (cs : List Char) : Bool :=
  (!inFlow && (column : Int) < indent) || (column == 0 && marksAnyDocument cs) || comesNext '#' cs

/-- Reads a plain scalar on from a column and a gap; `bare` says that nothing precedes the gap. -/
def readPlain (inFlow : Bool) (indent : Int) (column : Nat) (gap? : Option Gap) :
    List Char → Option ScalarRead
  | [] => some { content := [], rest := [], lineEnded := gap?.any (·.ended) }
  | c :: cs =>
    let gap := gap?.getD {}
    if isBlank c then
      if gap.ended && (column : Int) < indent && c == '\t' then none
      else readPlain inFlow indent (column + 1) (some (gap.addBlank c)) cs
    else if isBreak c then readPlain inFlow indent 0 (some (gap.addBreak c)) cs
    else if gap?.isSome && plainStops inFlow indent column (c :: cs) then
      some { content := [], rest := c :: cs, lineEnded := gap.ended }
    else if strayColon inFlow (c :: cs) then none
    else if plainEnds inFlow (c :: cs) then
      some { content := [], rest := c :: cs, lineEnded := gap.ended }
    else (readPlain inFlow indent (column + 1) none cs).map (·.behind (gap.folded ++ [c]))

/-- Reads a scalar in single quotes from behind the opening quote. -/
def readSingleQuoted (column : Nat) (gap : Gap) : List Char → Option ScalarRead
  | [] => none
  | c :: cs =>
    if isBlank c then readSingleQuoted (column + 1) (gap.addBlank c) cs
    else if isBreak c then readSingleQuoted 0 (gap.addBreak c) cs
    else if column == 0 && marksAnyDocument (c :: cs) then none
    else if c == '\'' then
      match cs with
      | '\'' :: cs => (readSingleQuoted (column + 2) {} cs).map (·.behind (gap.folded ++ [c]))
      | cs => some { content := gap.folded, rest := cs }
    else (readSingleQuoted (column + 1) {} cs).map (·.behind (gap.folded ++ [c]))

/-- The character of an escape of one letter. -/
def simpleEscape? (c : Char) : Option Char :=
  [('0', 0), ('a', 7), ('b', 8), ('t', 9), ('\t', 9), ('n', 10), ('v', 11), ('f', 12), ('r', 13),
    ('e', 0x1b), (' ', 0x20), ('"', 0x22), ('/', 0x2f), ('\\', 0x5c), ('N', 0x85), ('_', 0xa0),
    ('L', 0x2028), ('P', 0x2029)].lookup c |>.map Char.ofNat

/-- The number of digits of an escape by code. -/
def escapeLength? (c : Char) : Option Nat := [('x', 2), ('u', 4), ('U', 8)].lookup c

def hexNumber? (cs : List Char) : Option Nat :=
  cs.foldlM (fun acc c => (Hex.value? c).map (acc * 16 + ·)) 0

def charOfCode? (n : Nat) : Option Char :=
  if h : n.isValidChar then some (Char.ofNatAux n h) else none

/-- An escape behind its backslash: the character and the number of characters used. -/
def readEscape? (cs : List Char) : Option (Char × Nat) :=
  match cs with
  | [] => none
  | c :: cs =>
    match simpleEscape? c with
    | some d => some (d, 1)
    | none =>
      (escapeLength? c).bind fun n =>
        if cs.length < n then none
        else ((hexNumber? (cs.take n)).bind charOfCode?).map fun d => (d, n + 1)

/-- Reads a scalar in double quotes from behind the opening quote. -/
def readDoubleQuoted (column : Nat) (gap : Gap) (skip : Nat) : List Char → Option ScalarRead
  | [] => none
  | c :: cs =>
    if 0 < skip then readDoubleQuoted (column + 1) gap (skip - 1) cs
    else if isBlank c then readDoubleQuoted (column + 1) (gap.addBlank c) 0 cs
    else if isBreak c then readDoubleQuoted 0 (gap.addBreak c) 0 cs
    else if column == 0 && marksAnyDocument (c :: cs) then none
    else if c == '"' then some { content := gap.folded, rest := cs }
    else if c == '\\' then
      match cs with
      | [] => none
      | d :: ds =>
        if isBreak d then (readDoubleQuoted 0 .escaped 0 ds).map (·.behind gap.folded)
        else
          match readEscape? (d :: ds) with
          | none => none
          | some (e, n) =>
            (readDoubleQuoted (column + 1) {} n (d :: ds)).map (·.behind (gap.folded ++ [e]))
    else (readDoubleQuoted (column + 1) {} 0 cs).map (·.behind (gap.folded ++ [c]))

/-- What becomes of the line breaks at the end of a block. -/
inductive Chomping
  | strip
  | clip
  | keep
  deriving DecidableEq

/-- The head of a block: its chomping, its indentation if given, and the next lines. -/
structure BlockHead where
  chomping : Chomping := .clip
  increment? : Option Nat := none
  rest : List Char

/-- The chomping that a character stands for. -/
def chomping? (c : Char) : Option Chomping :=
  if c == '+' then some .keep else if c == '-' then some .strip else none

/-- Reads a digit of a block head, if there is one. -/
def readIncrement (head : BlockHead) : Option BlockHead :=
  match head.rest with
  | [] => some head
  | c :: cs =>
    match Integer.digit? c with
    | none => some head
    | some 0 => none
    | some d => some { head with increment? := some d, rest := cs }

def readChomping (head : BlockHead) : BlockHead :=
  match head.rest with
  | [] => head
  | c :: cs =>
    match chomping? c with
    | none => head
    | some chomping => { head with chomping, rest := cs }

/-- The characters from the next line break on, if nothing but blanks and a comment precede it. -/
def restOfLine (cs : List Char) : Option (List Char) :=
  let cs := cs.dropWhile isBlank
  let cs := if comesNext '#' cs then cs.dropWhile (!isBreak ·) else cs
  if endsLine cs then some cs else none

/-- Reads the head of a block from behind its indicator, up to the line break. -/
def readBlockHead (cs : List Char) : Option BlockHead := do
  let start : BlockHead := { rest := cs }
  let head ←
    if cs.head?.any fun c => (chomping? c).isSome then readIncrement (readChomping start)
    else (readIncrement start).map fun head =>
      if head.increment?.isSome then readChomping head else head
  let rest ← restOfLine head.rest
  some { head with rest }

/-- Line breaks and indentation in front of a line of a block. -/
structure BlockMargin where
  breaks : List Char := []
  widest : Nat := 0
  column : Nat
  rest : List Char

/-- Skips line breaks, and spaces up to the indentation; without one, all spaces. -/
def skipMargin (indent : Nat) (column : Nat) : List Char → Option BlockMargin
  | [] => some { column, widest := column, rest := [] }
  | c :: cs =>
    let inMargin := indent == 0 || column < indent
    if inMargin && c == ' ' then skipMargin indent (column + 1) cs
    else if inMargin && c == '\t' then none
    else if isBreak c then
      (skipMargin indent 0 cs).map fun m =>
        { m with breaks := c :: m.breaks, widest := max column m.widest }
    else some { column, widest := column, rest := c :: cs }

/-- A line break at the end of a line of a block, if there is one, and what follows. -/
def splitBreak : List Char → List Char × List Char
  | [] => ([], [])
  | c :: cs => if isBreak c then ([c], cs) else ([], c :: cs)

/-- What the lines of a block have gathered so far. -/
structure BlockText where
  content : List Char := []
  /-- The line break behind the last line. -/
  lineBreak : List Char := []
  /-- The last line began with a blank. -/
  wasBlank : Bool := false

/-- The content in front of the next line: a lone line feed between lines is folded. -/
def BlockText.joined (t : BlockText) (literal blank : Bool) (breaks : List Char) : List Char :=
  if !literal && t.lineBreak == ['\n'] && !t.wasBlank && !blank then
    t.content ++ (if breaks.isEmpty then [' '] else []) ++ breaks
  else t.content ++ t.lineBreak ++ breaks

/-- Reads lines of a block as long as they are indented; at most `fuel` lines. -/
def readBlockLines (literal : Bool) (indent : Nat) (t : BlockText) :
    Nat → BlockMargin → Option (BlockText × BlockMargin)
  | 0, m => some (t, m)
  | fuel + 1, m =>
    if m.column != indent || m.rest.isEmpty then some (t, m)
    else
      let blank := m.rest.head?.any isBlank
      let front := t.joined literal blank m.breaks
      let line := m.rest.takeWhile (!isBreak ·)
      let (lineBreak, rest) := splitBreak (m.rest.dropWhile (!isBreak ·))
      let column := if lineBreak.isEmpty then m.column + line.length else 0
      match skipMargin indent column rest with
      | none => none
      | some m =>
        readBlockLines literal indent
          { content := front ++ line, lineBreak, wasBlank := blank } fuel m

/-- The indentation of a block: given, or that of its widest margin but more than the parent's. -/
def blockIndent (parent : Int) (increment? : Option Nat) (widest : Nat) : Nat :=
  match increment? with
  | some n => (max parent 0).toNat + n
  | none => max (max widest (parent + 1).toNat) 1

/-- Reads a block from behind its indicator; `parent` is the indentation around it. -/
def readBlock (literal : Bool) (parent : Int) (cs : List Char) : Option ScalarRead := do
  let head ← readBlockHead cs
  let given := if head.increment?.isSome then blockIndent parent head.increment? 0 else 0
  let (lineBreak, rest) := splitBreak head.rest
  -- Without a line break the stream ends here, and no column matters any more.
  let margin ← skipMargin given (if lineBreak.isEmpty then 1 else 0) rest
  let indent := blockIndent parent head.increment? margin.widest
  let (t, margin) ← readBlockLines literal indent {} margin.rest.length margin
  let last := if head.chomping == .strip then [] else t.lineBreak
  let others := if head.chomping == .keep then margin.breaks else []
  some { content := t.content ++ last ++ others, rest := margin.rest }

end RowSync.Yaml
