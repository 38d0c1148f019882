/-!
UTF-8. Decoding reports the offset up to which the bytes are well formed and, unless the input
merely ends too early, how many bytes belong to the first malformed sequence.
-/

set_option autoImplicit false

namespace RowSync

abbrev Bytes := List UInt8

namespace Utf8

/-- Where decoding stopped. -/
structure Malformed where
  /-- Number of well-formed bytes in front. -/
  validUpTo : Nat
  /-- Length of the malformed sequence, or nothing when the bytes end inside a sequence. -/
  length? : Option Nat
  deriving DecidableEq, Repr

def Malformed.message (e : Malformed) : String :=
  match e.length? with
  | some n => s!"invalid utf-8 sequence of {n} bytes from index {e.validUpTo}"
  | none => s!"incomplete utf-8 byte sequence from index {e.validUpTo}"

/-- The byte continues a sequence. -/
def isTail (b : UInt8) : Bool := 0x80 ≤ b && b ≤ 0xbf

/-- The second byte fits behind the first byte of a sequence of three. -/
def secondOfThree (a b : UInt8) : Bool :=
  isTail b && (a != 0xe0 || 0xa0 ≤ b) && (a != 0xed || b ≤ 0x9f)

/-- The second byte fits behind the first byte of a sequence of four. -/
def secondOfFour (a b : UInt8) : Bool :=
  isTail b && (a != 0xf0 || 0x90 ≤ b) && (a != 0xf4 || b ≤ 0x8f)

/-- The low six bits of a continuation byte. -/
def tailBits (b : UInt8) : Nat := b.toNat % 64

/-- Decodes the bytes that follow the first `offset` bytes. -/
def decodeFrom (offset : Nat) : Bytes → Except Malformed (List Char)
  | [] => .ok []
  | a :: rest =>
    if a < 0x80 then
      (decodeFrom (offset + 1) rest).map (Char.ofNat a.toNat :: ·)
    else if 0xc2 ≤ a && a ≤ 0xdf then
      match rest with
      | [] => .error ⟨offset, none⟩
      | b :: rest =>
        if isTail b then
          (decodeFrom (offset + 2) rest).map
            (Char.ofNat (a.toNat % 32 * 64 + tailBits b) :: ·)
        else .error ⟨offset, some 1⟩
    else if 0xe0 ≤ a && a ≤ 0xef then
      match rest with
      | [] => .error ⟨offset, none⟩
      | b :: rest =>
        if secondOfThree a b then
          match rest with
          | [] => .error ⟨offset, none⟩
          | c :: rest =>
            if isTail c then
              (decodeFrom (offset + 3) rest).map
                (Char.ofNat (a.toNat % 16 * 4096 + tailBits b * 64 + tailBits c) :: ·)
            else .error ⟨offset, some 2⟩
        else .error ⟨offset, some 1⟩
    else if 0xf0 ≤ a && a ≤ 0xf4 then
      match rest with
      | [] => .error ⟨offset, none⟩
      | b :: rest =>
        if secondOfFour a b then
          match rest with
          | [] => .error ⟨offset, none⟩
          | c :: rest =>
            if isTail c then
              match rest with
              | [] => .error ⟨offset, none⟩
              | d :: rest =>
                if isTail d then
                  (decodeFrom (offset + 4) rest).map
                    (Char.ofNat (a.toNat % 8 * 262144 + tailBits b * 4096 + tailBits c * 64
                      + tailBits d) :: ·)
                else .error ⟨offset, some 3⟩
            else .error ⟨offset, some 2⟩
        else .error ⟨offset, some 1⟩
    else .error ⟨offset, some 1⟩

def decode (bytes : Bytes) : Except Malformed String := (decodeFrom 0 bytes).map String.ofList

def encode (s : String) : Bytes := s.toList.flatMap String.utf8EncodeChar

end Utf8

end RowSync
