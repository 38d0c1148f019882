import RowSync.Text.Hex

/-!
Universally unique identifiers. They are written in lower case with hyphens, and read in any case
with hyphens, without, in braces, or behind the prefix of their resource name.
-/

set_option autoImplicit false

namespace RowSync

/-- An identifier of sixteen bytes. -/
structure Uuid where
  bytes : Bytes
  length_eq : bytes.length = 16
  deriving DecidableEq

namespace Uuid

/-- The identifier with those bytes, if there are sixteen. -/
def ofBytes? (bytes : Bytes) : Option Uuid :=
  if h : bytes.length = 16 then some ⟨bytes, h⟩ else none

/-- The hyphenated form of thirty-two digits. -/
def hyphenate (digits : List Char) : List Char :=
  digits.take 8 ++ '-' :: (digits.drop 8).take 4 ++ '-' :: (digits.drop 12).take 4 ++
    '-' :: (digits.drop 16).take 4 ++ '-' :: digits.drop 20

/-- The lower-case hyphenated form. -/
def text (u : Uuid) : String := String.ofList (hyphenate (Hex.encode u.bytes))

/-- The digits of a hyphenated form of thirty-six characters. -/
def unhyphenate? (cs : List Char) : Option (List Char) :=
  let digits := cs.take 8 ++ (cs.drop 9).take 4 ++ (cs.drop 14).take 4 ++ (cs.drop 19).take 4 ++
    cs.drop 24
  if cs.length == 36 && cs == hyphenate digits then some digits else none

def readHyphenated? (cs : List Char) : Option Uuid :=
  (unhyphenate? cs).bind fun digits => (Hex.decode? digits).bind ofBytes?

/-- The characters in front of an identifier in its resource name. -/
def resourceMark : List Char := "urn:uuid:".toList

/-- Reads an identifier in any of its forms. -/
def read? (s : String) : Option Uuid :=
  let cs := s.toList
  if cs.length == 32 then (Hex.decode? cs).bind ofBytes?
  else if cs.length == 38 then
    if cs.head? == some (Char.ofNat 0x7b) && cs.getLast? == some (Char.ofNat 0x7d) then
      readHyphenated? (cs.drop 1).dropLast
    else none
  else if cs.length == 45 then
    if resourceMark.isPrefixOf cs then readHyphenated? (cs.drop 9) else none
  else readHyphenated? cs

end Uuid

end RowSync
