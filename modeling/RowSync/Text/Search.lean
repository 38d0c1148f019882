/-!
Parts of a text found by the words around them, on lists of characters.
-/

set_option autoImplicit false

namespace RowSync.Text

/-- What follows the given characters at the front. -/
def stripPrefix? : List Char → List Char → Option (List Char)
  | [], cs => some cs
  | p :: ps, c :: cs => if p == c then stripPrefix? ps cs else none
  | _ :: _, [] => none

/-- What precedes the given characters at the end. -/
def stripSuffix? (suff cs : List Char) : Option (List Char) :=
  if suff.isSuffixOf cs then some (cs.take (cs.length - suff.length)) else none

/-- The parts in front of and behind the first occurrence of a separator. -/
def splitOnce? (separator : List Char) : List Char → Option (List Char × List Char)
  | [] => (stripPrefix? separator []).map fun rest => ([], rest)
  | c :: cs =>
    match stripPrefix? separator (c :: cs) with
    | some rest => some ([], rest)
    | none => (splitOnce? separator cs).map fun parts => (c :: parts.1, parts.2)

/-- Splits at most `fuel` times. -/
def splitUpTo (separator : List Char) : Nat → List Char → List (List Char)
  | 0, cs => [cs]
  | fuel + 1, cs =>
    match splitOnce? separator cs with
    | none => [cs]
    | some (part, rest) => part :: splitUpTo separator fuel rest

/-- The parts between the occurrences of a separator. -/
def splitAll (separator cs : List Char) : List (List Char) := splitUpTo separator cs.length cs

/-- Every occurrence of some characters replaced by others. -/
def replaceAll (old new cs : List Char) : List Char := new.intercalate (splitAll old cs)

end RowSync.Text
