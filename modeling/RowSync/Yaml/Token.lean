import RowSync.Text.Utf8
import RowSync.Yaml.Scalar

/-!
Tokens of a YAML stream. Indentation becomes explicit: blocks are opened and closed by tokens of
their own. A key is recognized only when its colon is met, so its tokens are then put in front of
what was read since.
-/

set_option autoImplicit false

namespace RowSync.Yaml

/-- How a scalar is written. -/
inductive ScalarStyle
  | plain
  | quoted
  | literal
  | folded
  deriving DecidableEq, Repr

/-- A token of a stream. -/
inductive Token
  | versionDirective (major minor : Nat)
  | tagDirective (handle lead : List Char)
  | documentStart
  | documentEnd
  | blockSequenceStart
  | blockMappingStart
  | blockEnd
  | flowSequenceStart
  | flowSequenceEnd
  | flowMappingStart
  | flowMappingEnd
  | blockEntry
  | flowEntry
  | key
  | value
  | alias (name : List Char)
  | anchor (name : List Char)
  | tag (handle suff : List Char)
  | scalar (style : ScalarStyle) (content : List Char)
  deriving DecidableEq

/-- A place where a key may have begun. -/
structure KeyCandidate where
  /-- The number of tokens in front of it. -/
  position : Nat
  line : Nat
  column : Nat
  index : Nat
  /-- Nothing but a key can stand there. -/
  required : Bool

/-- Where the reading of tokens stands. -/
structure Scan where
  rest : List Char
  index : Nat := 0
  line : Nat := 0
  column : Nat := 0
  tokens : Array Token := #[]
  indent : Int := -1
  /-- The indentations around the current one, the innermost first. -/
  outerIndents : List Int := []
  /-- A key may begin here. -/
  keyAllowed : Bool := true
  candidate? : Option KeyCandidate := none
  /-- The candidates of the collections around the current one, the innermost first. -/
  outerCandidates : List (Option KeyCandidate) := []

namespace Scan

def inFlow (s : Scan) : Bool := !s.outerCandidates.isEmpty

def emit (s : Scan) (t : Token) : Scan := { s with tokens := s.tokens.push t }

/-- The scan with a token put in front of those from a position on. -/
def emitAt (s : Scan) (position : Nat) (t : Token) : Scan :=
  { s with
    tokens := (s.tokens.extract 0 position).push t ++ s.tokens.extract position s.tokens.size }

def pass (s : Scan) (c : Char) : Scan :=
  if isBreak c then { s with index := s.index + 1, line := s.line + 1, column := 0 }
  else { s with index := s.index + 1, column := s.column + 1 }

/-- Passes over the characters in front of a later rest. -/
def goTo (s : Scan) (rest : List Char) : Scan :=
  { (s.rest.take (s.rest.length - rest.length)).foldl pass s with rest }

def skip (s : Scan) (n : Nat) : Scan := s.goTo (s.rest.drop n)

/-- Gives up the candidate; one that was required must not be given up. -/
def dropCandidate (s : Scan) : Option Scan :=
  if s.candidate?.any (·.required) then none else some { s with candidate? := none }

/-- Makes this place a candidate, if a key may begin here. -/
def saveCandidate (s : Scan) : Option Scan :=
  if s.keyAllowed then
    s.dropCandidate.map fun s =>
      { s with candidate? := some ⟨s.tokens.size, s.line, s.column, s.index,
          !s.inFlow && s.indent == s.column⟩ }
  else some s

def maxKeyLength : Nat := 1024

/-- A candidate on an earlier line, or too far back, is no key. -/
def isStale (s : Scan) (k : KeyCandidate) : Bool :=
  k.line < s.line || k.index + maxKeyLength < s.index

/-- The candidate, unless it is stale; a required one must not be. -/
def freshen (s : Scan) : Option KeyCandidate → Option (Option KeyCandidate)
  | none => some none
  | some k => if s.isStale k then (if k.required then none else some none) else some (some k)

/-- Gives up every stale candidate. -/
def dropStale (s : Scan) : Option Scan := do
  let candidate? ← s.freshen s.candidate?
  let outerCandidates ← s.outerCandidates.mapM s.freshen
  some { s with candidate?, outerCandidates }

/-- Opens a block at a column deeper than the current one, its token at a position. -/
def openBlock (s : Scan) (column : Nat) (position : Nat) (t : Token) : Scan :=
  if s.inFlow || (column : Int) ≤ s.indent then s
  else { s.emitAt position t with indent := column, outerIndents := s.indent :: s.outerIndents }

/-- Closes the blocks that are deeper than a column, from the current one out. -/
def closeFrom (column : Int) (s : Scan) : List Int → Scan
  | [] => s
  | outer :: rest =>
    if column < s.indent then
      closeFrom column { s.emit .blockEnd with indent := outer, outerIndents := rest } rest
    else s

def closeBlocks (s : Scan) (column : Int) : Scan :=
  if s.inFlow then s else s.closeFrom column s.outerIndents

/-- Skips blanks, comments and line breaks in front of a token; at most `fuel` characters. -/
def toToken (s : Scan) : Nat → Scan
  | 0 => s
  | fuel + 1 =>
    match s.rest with
    | [] => s
    | c :: cs =>
      if c == ' ' || (c == '\t' && (s.inFlow || !s.keyAllowed)) ||
          (s.column == 0 && c.toNat == 0xfeff) then
        (s.goTo cs).toToken fuel
      else if c == '#' then (s.goTo (cs.dropWhile (!isBreak ·))).toToken fuel
      else if isBreak c then
        let s := s.goTo cs
        { s with keyAllowed := s.keyAllowed || !s.inFlow }.toToken fuel
      else s

/-- An indicator of one character that is a token by itself. -/
def indicator (s : Scan) (t : Token) (keyAllowed : Bool) : Option Scan :=
  s.dropCandidate.map fun s => { (s.emit t).skip 1 with keyAllowed }

def flowStart (s : Scan) (t : Token) : Option Scan :=
  s.saveCandidate.map fun s =>
    { (s.emit t).skip 1 with
      keyAllowed := true, candidate? := none, outerCandidates := s.candidate? :: s.outerCandidates }

def flowEnd (s : Scan) (t : Token) : Option Scan :=
  s.dropCandidate.map fun s =>
    let s := { (s.emit t).skip 1 with keyAllowed := false }
    match s.outerCandidates with
    | [] => s
    | candidate? :: outerCandidates => { s with candidate?, outerCandidates }

def blockEntry (s : Scan) : Option Scan :=
  if s.inFlow then s.indicator .blockEntry true
  else if s.keyAllowed then
    (s.openBlock s.column s.tokens.size .blockSequenceStart).indicator .blockEntry true
  else none

def keyIndicator (s : Scan) : Option Scan :=
  if s.inFlow then s.indicator .key false
  else if s.keyAllowed then
    (s.openBlock s.column s.tokens.size .blockMappingStart).indicator .key true
  else none

/-- The indicator of a value; the candidate in front of it, if any, becomes a key. -/
def valueIndicator (s : Scan) : Option Scan :=
  match s.candidate? with
  | some k =>
    let s := (s.emitAt k.position .key).openBlock k.column k.position .blockMappingStart
    some { (s.emit .value).skip 1 with candidate? := none, keyAllowed := false }
  | none =>
    if s.inFlow then some { (s.emit .value).skip 1 with keyAllowed := false }
    else if s.keyAllowed then
      let s := s.openBlock s.column s.tokens.size .blockMappingStart
      some { (s.emit .value).skip 1 with keyAllowed := true }
    else none

def documentMark (s : Scan) (t : Token) : Option Scan :=
  (s.closeBlocks (-1)).dropCandidate.map fun s => { (s.emit t).skip 3 with keyAllowed := false }

/-- Characters that may follow the name of an anchor directly. -/
def afterAnchor : List Char := ['?', ':', ',', ']', closeBrace, '%', '@', Char.ofNat 0x60]

def anchorOr (s : Scan) (token : List Char → Token) : Option Scan := do
  let s ← s.saveCandidate
  let cs := s.rest.drop 1
  let name := cs.takeWhile isWordChar
  let rest := cs.dropWhile isWordChar
  if name.isEmpty || !(endsWord rest || oneComesNext afterAnchor rest) then none
  else some { (s.emit (token name)).goTo rest with keyAllowed := false }

/-- Characters of tags besides those of words. -/
def tagMarks : List Char :=
  [';', '/', '?', ':', '@', '&', '=', '+', '$', '.', '!', '~', '*', '\'', '(', ')']

/-- The byte that a percent sign and two digits stand for. -/
def escapedByte? (cs : List Char) : Option UInt8 :=
  match cs with
  | '%' :: a :: b :: _ => do
    let high ← Hex.value? a
    let low ← Hex.value? b
    some (UInt8.ofNat (high * 16 + low))
  | _ => none

/-- The bytes of the characters of a tag, and the rest; percent signs stand for bytes. -/
def tagBytes (verbatim : Bool) (skip : Nat) : List Char → Option (Bytes × List Char)
  | [] => some ([], [])
  | c :: cs =>
    if 0 < skip then tagBytes verbatim (skip - 1) cs
    else if c == '%' then do
      let byte ← escapedByte? (c :: cs)
      let (bytes, rest) ← tagBytes verbatim 2 cs
      some (byte :: bytes, rest)
    else if isWordChar c || tagMarks.contains c || (verbatim && [',', '[', ']'].contains c) then do
      let (bytes, rest) ← tagBytes verbatim 0 cs
      some (String.utf8EncodeChar c ++ bytes, rest)
    else some ([], c :: cs)

def tagChars (verbatim : Bool) (cs : List Char) : Option (List Char × List Char) := do
  let (bytes, rest) ← tagBytes verbatim 0 cs
  match Utf8.decode bytes with
  | .ok s => some (s.toList, rest)
  | .error _ => none

/-- The characters of a tag, of which there must be some, and the rest. -/
def someTagChars (verbatim : Bool) (cs : List Char) : Option (List Char × List Char) :=
  (tagChars verbatim cs).bind fun (chars, rest) =>
    if chars.isEmpty then none else some (chars, rest)

/-- A handle of tags: an exclamation mark, and perhaps a word and a second mark. -/
def tagHandle (cs : List Char) : List Char × List Char :=
  let word := (cs.drop 1).takeWhile isWordChar
  match (cs.drop 1).dropWhile isWordChar with
  | '!' :: rest => ('!' :: word ++ ['!'], rest)
  | rest => ('!' :: word, rest)

/-- The handle and the rest of the name of a tag, and what follows. -/
def readTag (cs : List Char) : Option ((List Char × List Char) × List Char) :=
  if comesNext '<' (cs.drop 1) then do
    let (chars, rest) ← someTagChars true (cs.drop 2)
    if comesNext '>' rest then some (([], chars), rest.drop 1) else none
  else
    let (handle, rest) := tagHandle cs
    if 1 < handle.length && handle.getLast? == some '!' then
      (someTagChars false rest).map fun (chars, rest) => ((handle, chars), rest)
    else
      (tagChars false rest).map fun (chars, rest) =>
        let suff := handle.drop 1 ++ chars
        (if suff.isEmpty then ([], ['!']) else (['!'], suff), rest)

def tag (s : Scan) : Option Scan := do
  let s ← s.saveCandidate
  let ((handle, suff), rest) ← readTag s.rest
  if endsWord rest || (s.inFlow && comesNext ',' rest) then
    some { (s.emit (.tag handle suff)).goTo rest with keyAllowed := false }
  else none

/-- Digits of a version number, at most nine, and the rest. -/
def versionNumber (cs : List Char) : Option (Nat × List Char) :=
  let digits := cs.takeWhile fun c => (Integer.digit? c).isSome
  if digits.isEmpty || 9 < digits.length then none
  else some (digits.foldl (fun acc c => acc * 10 + (Integer.digit? c).getD 0) 0,
    cs.drop digits.length)

def versionValue (cs : List Char) : Option (Token × List Char) := do
  let (major, rest) ← versionNumber (cs.dropWhile isBlank)
  if !comesNext '.' rest then none
  else
    let (minor, rest) ← versionNumber (rest.drop 1)
    some (.versionDirective major minor, rest)

def tagValue (cs : List Char) : Option (Token × List Char) := do
  let cs := cs.dropWhile isBlank
  if !comesNext '!' cs then none
  else
    let (handle, rest) := tagHandle cs
    if (1 < handle.length && handle.getLast? != some '!') || !rest.head?.any isBlank then none
    else
      let (lead, rest) ← someTagChars true (rest.dropWhile isBlank)
      if endsWord rest then some (.tagDirective handle lead, rest) else none

/-- A directive with the rest of its line. -/
def directive (s : Scan) : Option Scan := do
  let s ← (s.closeBlocks (-1)).dropCandidate
  let cs := s.rest.drop 1
  let name := String.ofList (cs.takeWhile isWordChar)
  let rest := cs.dropWhile isWordChar
  if !endsWord rest then none
  else
    let (token, rest) ←
      if name == "YAML" then versionValue rest
      else if name == "TAG" then tagValue rest
      else none
    let rest ← restOfLine rest
    some { (s.emit token).goTo rest with keyAllowed := false }

def plainScalar (s : Scan) : Option Scan := do
  let s ← s.saveCandidate
  let r ← readPlain s.inFlow (s.indent + 1) s.column none s.rest
  some { (s.emit (.scalar .plain r.content)).goTo r.rest with keyAllowed := r.lineEnded }

def quotedScalar (s : Scan) (single : Bool) : Option Scan := do
  let s ← s.saveCandidate
  let cs := s.rest.drop 1
  let r ← if single then readSingleQuoted (s.column + 1) {} cs
    else readDoubleQuoted (s.column + 1) {} 0 cs
  some { (s.emit (.scalar .quoted r.content)).goTo r.rest with keyAllowed := false }

def blockScalar (s : Scan) (literal : Bool) : Option Scan := do
  let s ← s.dropCandidate
  let r ← readBlock literal s.indent (s.rest.drop 1)
  let style := if literal then ScalarStyle.literal else .folded
  some { (s.emit (.scalar style r.content)).goTo r.rest with keyAllowed := true }

/-- Characters that cannot begin a plain scalar. -/
def notPlain : List Char :=
  ['-', '?', ':', ',', '[', ']', openBrace, closeBrace, '#', '&', '*', '!', '|', '>', '\'', '"',
    '%', '@', Char.ofNat 0x60]

/-- A plain scalar can begin with the character, in front of the given ones. -/
def beginsPlain (s : Scan) (c : Char) (cs : List Char) : Bool :=
  !(notPlain.contains c || endsWord [c]) || (c == '-' && !cs.head?.any isBlank) ||
    (!s.inFlow && (c == '?' || c == ':') && !endsWord cs)

/-- Reads the next token, which begins with the character. -/
def next (s : Scan) (c : Char) (cs : List Char) : Option Scan :=
  let atStart := s.column == 0
  if atStart && c == '%' then s.directive
  else if atStart && marksDocument '-' (c :: cs) then s.documentMark .documentStart
  else if atStart && marksDocument '.' (c :: cs) then s.documentMark .documentEnd
  else if c == '[' then s.flowStart .flowSequenceStart
  else if c == openBrace then s.flowStart .flowMappingStart
  else if c == ']' then s.flowEnd .flowSequenceEnd
  else if c == closeBrace then s.flowEnd .flowMappingEnd
  else if c == ',' then s.indicator .flowEntry true
  else if c == '-' && endsWord cs then s.blockEntry
  else if c == '?' && (s.inFlow || endsWord cs) then s.keyIndicator
  else if c == ':' && (s.inFlow || endsWord cs) then s.valueIndicator
  else if c == '*' then s.anchorOr .alias
  else if c == '&' then s.anchorOr .anchor
  else if c == '!' then s.tag
  else if c == '|' && !s.inFlow then s.blockScalar true
  else if c == '>' && !s.inFlow then s.blockScalar false
  else if c == '\'' then s.quotedScalar true
  else if c == '"' then s.quotedScalar false
  else if s.beginsPlain c cs then s.plainScalar
  else none

/-- Closes everything at the end of the stream. -/
def finish (s : Scan) : Option Scan := (s.closeBlocks (-1)).dropCandidate

/-- Reads at most `fuel` tokens, to the end of the stream. -/
def toEnd : Nat → Scan → Option Scan
  | 0, s => some s
  | fuel + 1, s => do
    let s ← (s.toToken s.rest.length).dropStale
    let s := s.closeBlocks s.column
    match s.rest with
    | [] => s.finish
    | c :: cs => (s.next c cs).bind (toEnd fuel)

end Scan

/-- The tokens of a stream, unless it is malformed. -/
def tokens? (text : String) : Option (List Token) :=
  let cs := text.toList
  if cs.all isAllowed then
    let cs := unifyBreaks cs
    (Scan.toEnd (cs.length + 1) { rest := cs }).map fun s => s.tokens.toList
  else none

end RowSync.Yaml
