import RowSync.Text.Utf8
import Mathlib.Data.List.Basic

/-!
Decoding the bytes of a text gives back the text, and no other bytes are decoded to it. A character
takes one to four bytes, and its first byte tells how many; the others carry six bits each.
-/

set_option autoImplicit false

namespace RowSync.Utf8

private theorem toNat_byte {n : Nat} (bound : n < 256) : (UInt8.ofNat n).toNat = n := by
  simpa using bound

private theorem isTail_byte {n : Nat} (bound : n < 64) : isTail (UInt8.ofNat (n + 128)) = true := by
  simp [isTail, UInt8.le_iff_toNat_le]
  omega

private theorem tailBits_byte {n : Nat} (bound : n < 64) :
    tailBits (UInt8.ofNat (n + 128)) = n := by
  have value := toNat_byte (show n + 128 < 256 by omega)
  simp only [tailBits, value]
  omega

private theorem decodeFrom_one (offset : Nat) {n : Nat} (rest : Bytes) (bound : n < 128) :
    decodeFrom offset (UInt8.ofNat n :: rest) =
      (decodeFrom (offset + 1) rest).map (Char.ofNat n :: ·) := by
  have value := toNat_byte (show n < 256 by omega)
  have one : UInt8.ofNat n < 0x80 := by
    simp [UInt8.lt_iff_toNat_lt]
    omega
  rw [decodeFrom.eq_def]
  simp only [one, if_true, value]

private theorem decodeFrom_two (offset : Nat) {high low : Nat} (rest : Bytes)
    (above : 2 ≤ high) (below : high < 32) (tail : low < 64) :
    decodeFrom offset (UInt8.ofNat (high + 192) :: UInt8.ofNat (low + 128) :: rest) =
      (decodeFrom (offset + 2) rest).map (Char.ofNat (high * 64 + low) :: ·) := by
  have value := toNat_byte (show high + 192 < 256 by omega)
  have many : ¬ UInt8.ofNat (high + 192) < 0x80 := by
    simp [UInt8.lt_iff_toNat_lt]
    omega
  have two : (0xc2 ≤ UInt8.ofNat (high + 192) && UInt8.ofNat (high + 192) ≤ 0xdf) = true := by
    simp [UInt8.le_iff_toNat_le]
    omega
  have bits : (high + 192) % 32 = high := by omega
  rw [decodeFrom.eq_def]
  simp only [many, two, isTail_byte tail, tailBits_byte tail, value, bits, if_true, if_false]

/-- The bounds on the first two bytes leave out overlong forms and surrogates. -/
private theorem decodeFrom_three (offset : Nat) {high middle low : Nat} (rest : Bytes)
    (below : high < 16) (inner : middle < 64) (tail : low < 64)
    (short : high = 0 → 32 ≤ middle) (scalar : high = 13 → middle < 32) :
    decodeFrom offset (UInt8.ofNat (high + 224) :: UInt8.ofNat (middle + 128) ::
        UInt8.ofNat (low + 128) :: rest) =
      (decodeFrom (offset + 3) rest).map (Char.ofNat (high * 4096 + middle * 64 + low) :: ·) := by
  have value := toNat_byte (show high + 224 < 256 by omega)
  have many : ¬ UInt8.ofNat (high + 224) < 0x80 := by
    simp [UInt8.lt_iff_toNat_lt]
    omega
  have two : (0xc2 ≤ UInt8.ofNat (high + 224) && UInt8.ofNat (high + 224) ≤ 0xdf) = false := by
    simp [UInt8.le_iff_toNat_le]
    omega
  have three : (0xe0 ≤ UInt8.ofNat (high + 224) && UInt8.ofNat (high + 224) ≤ 0xef) = true := by
    simp [UInt8.le_iff_toNat_le]
    omega
  have second :
      secondOfThree (UInt8.ofNat (high + 224)) (UInt8.ofNat (middle + 128)) = true := by
    have later := toNat_byte (show middle + 128 < 256 by omega)
    simp only [secondOfThree, isTail_byte inner, Bool.and_eq_true, Bool.or_eq_true, bne_iff_ne,
      decide_eq_true_eq, UInt8.le_iff_toNat_le, ne_eq, ← UInt8.toNat_inj, value, later,
      UInt8.reduceToNat, true_and]
    omega
  have bits : (high + 224) % 16 = high := by omega
  rw [decodeFrom.eq_def]
  simp only [many, two, three, second, isTail_byte tail, tailBits_byte inner, tailBits_byte tail,
    value, bits, if_true, if_false, Bool.false_eq_true]

private theorem decodeFrom_four (offset : Nat) {high middle inner low : Nat} (rest : Bytes)
    (below : high < 5) (first : middle < 64) (second : inner < 64) (tail : low < 64)
    (short : high = 0 → 16 ≤ middle) (scalar : high = 4 → middle < 16) :
    decodeFrom offset (UInt8.ofNat (high + 240) :: UInt8.ofNat (middle + 128) ::
        UInt8.ofNat (inner + 128) :: UInt8.ofNat (low + 128) :: rest) =
      (decodeFrom (offset + 4) rest).map
        (Char.ofNat (high * 262144 + middle * 4096 + inner * 64 + low) :: ·) := by
  have value := toNat_byte (show high + 240 < 256 by omega)
  have many : ¬ UInt8.ofNat (high + 240) < 0x80 := by
    simp [UInt8.lt_iff_toNat_lt]
    omega
  have two : (0xc2 ≤ UInt8.ofNat (high + 240) && UInt8.ofNat (high + 240) ≤ 0xdf) = false := by
    simp [UInt8.le_iff_toNat_le]
    omega
  have three : (0xe0 ≤ UInt8.ofNat (high + 240) && UInt8.ofNat (high + 240) ≤ 0xef) = false := by
    simp [UInt8.le_iff_toNat_le]
    omega
  have four : (0xf0 ≤ UInt8.ofNat (high + 240) && UInt8.ofNat (high + 240) ≤ 0xf4) = true := by
    simp [UInt8.le_iff_toNat_le]
    omega
  have begins :
      secondOfFour (UInt8.ofNat (high + 240)) (UInt8.ofNat (middle + 128)) = true := by
    have later := toNat_byte (show middle + 128 < 256 by omega)
    simp only [secondOfFour, isTail_byte first, Bool.and_eq_true, Bool.or_eq_true, bne_iff_ne,
      decide_eq_true_eq, UInt8.le_iff_toNat_le, ne_eq, ← UInt8.toNat_inj, value, later,
      UInt8.reduceToNat, true_and]
    omega
  have bits : (high + 240) % 8 = high := by omega
  rw [decodeFrom.eq_def]
  simp only [many, two, three, four, begins, isTail_byte second, isTail_byte tail,
    tailBits_byte first, tailBits_byte second, tailBits_byte tail, value, bits, if_true, if_false,
    Bool.false_eq_true]

/-- One character is read off its bytes, and the rest is left. -/
theorem decodeFrom_char (offset : Nat) (c : Char) (rest : Bytes) :
    ∃ next, decodeFrom offset (String.utf8EncodeChar c ++ rest) =
      (decodeFrom next rest).map (c :: ·) := by
  have valid : c.toNat < 0xd800 ∨ 0xdfff < c.toNat ∧ c.toNat < 0x110000 := c.valid
  have whole : Char.ofNat c.toNat = c := Char.ofNat_toNat c
  simp only [String.utf8EncodeChar, show c.val.toNat = c.toNat from rfl]
  generalize c.toNat = n at valid whole
  by_cases one : n ≤ 127
  · refine ⟨offset + 1, ?_⟩
    rw [if_pos one, ← whole]
    exact decodeFrom_one offset rest (by omega)
  by_cases two : n ≤ 2047
  · have parts : n / 64 % 32 * 64 + n % 64 = n := by omega
    refine ⟨offset + 2, ?_⟩
    rw [if_neg one, if_pos two, ← whole]
    have read := decodeFrom_two offset rest (show 2 ≤ n / 64 % 32 by omega)
      (show n / 64 % 32 < 32 by omega) (show n % 64 < 64 by omega)
    rw [parts] at read
    exact read
  by_cases three : n ≤ 65535
  · have parts : n / 4096 % 16 * 4096 + n / 64 % 64 * 64 + n % 64 = n := by omega
    refine ⟨offset + 3, ?_⟩
    rw [if_neg one, if_neg two, if_pos three, ← whole]
    have read := decodeFrom_three offset rest (show n / 4096 % 16 < 16 by omega)
      (show n / 64 % 64 < 64 by omega) (show n % 64 < 64 by omega) (by omega) (by omega)
    rw [parts] at read
    exact read
  · have parts :
        n / 262144 % 8 * 262144 + n / 4096 % 64 * 4096 + n / 64 % 64 * 64 + n % 64 = n := by omega
    refine ⟨offset + 4, ?_⟩
    rw [if_neg one, if_neg two, if_neg three, ← whole]
    have read := decodeFrom_four offset rest (show n / 262144 % 8 < 5 by omega)
      (show n / 4096 % 64 < 64 by omega) (show n / 64 % 64 < 64 by omega)
      (show n % 64 < 64 by omega) (by omega) (by omega)
    rw [parts] at read
    exact read

theorem decodeFrom_chars (cs : List Char) :
    ∀ offset, decodeFrom offset (cs.flatMap String.utf8EncodeChar) = .ok cs := by
  induction cs with
  | nil =>
    intro offset
    rw [List.flatMap_nil, decodeFrom]
  | cons c cs ih =>
    intro offset
    obtain ⟨next, read⟩ := decodeFrom_char offset c (cs.flatMap String.utf8EncodeChar)
    rw [List.flatMap_cons, read, ih next]
    rfl

theorem decode_encode (s : String) : decode (encode s) = .ok s := by
  rw [decode, encode, decodeFrom_chars]
  exact congrArg Except.ok (String.ofList_toList)

private theorem utf8EncodeChar_ofNat {n : Nat} (valid : n.isValidChar) :
    String.utf8EncodeChar (Char.ofNat n) =
      if n ≤ 127 then [UInt8.ofNat n]
      else if n ≤ 2047 then [UInt8.ofNat (n / 64 % 32 + 192), UInt8.ofNat (n % 64 + 128)]
      else if n ≤ 65535 then
        [UInt8.ofNat (n / 4096 % 16 + 224), UInt8.ofNat (n / 64 % 64 + 128),
          UInt8.ofNat (n % 64 + 128)]
      else
        [UInt8.ofNat (n / 262144 % 8 + 240), UInt8.ofNat (n / 4096 % 64 + 128),
          UInt8.ofNat (n / 64 % 64 + 128), UInt8.ofNat (n % 64 + 128)] := by
  have number : (Char.ofNat n).val.toNat = n := by
    rw [Char.ofNat, dif_pos valid]
    rfl
  simp only [String.utf8EncodeChar, number]

private theorem byte_eq {a : UInt8} {n : Nat} (value : n = a.toNat) : UInt8.ofNat n = a := by
  rw [value, UInt8.ofNat_toNat]

private theorem isTail_iff {b : UInt8} : isTail b = true ↔ 128 ≤ b.toNat ∧ b.toNat ≤ 191 := by
  simp [isTail, UInt8.le_iff_toNat_le]

private theorem encode_one {a : UInt8} (one : a < 0x80) :
    String.utf8EncodeChar (Char.ofNat a.toNat) = [a] := by
  have small : a.toNat < 128 := UInt8.lt_iff_toNat_lt.mp one
  rw [utf8EncodeChar_ofNat (.inl (by omega)), if_pos (by omega), UInt8.ofNat_toNat]

private theorem encode_two {a b : UInt8} (first : (0xc2 ≤ a && a ≤ 0xdf) = true)
    (tail : isTail b = true) :
    String.utf8EncodeChar (Char.ofNat (a.toNat % 32 * 64 + tailBits b)) = [a, b] := by
  simp only [Bool.and_eq_true, decide_eq_true_eq, UInt8.le_iff_toNat_le, UInt8.reduceToNat]
    at first
  rw [isTail_iff] at tail
  unfold tailBits
  rw [utf8EncodeChar_ofNat (.inl (by omega)), if_neg (by omega), if_pos (by omega),
    byte_eq (a := a) (by omega), byte_eq (a := b) (by omega)]

private theorem encode_three {a b c : UInt8} (first : (0xe0 ≤ a && a ≤ 0xef) = true)
    (second : secondOfThree a b = true) (tail : isTail c = true) :
    String.utf8EncodeChar (Char.ofNat (a.toNat % 16 * 4096 + tailBits b * 64 + tailBits c)) =
      [a, b, c] := by
  simp only [Bool.and_eq_true, decide_eq_true_eq, UInt8.le_iff_toNat_le, UInt8.reduceToNat]
    at first
  simp only [secondOfThree, Bool.and_eq_true, Bool.or_eq_true, bne_iff_ne, decide_eq_true_eq,
    UInt8.le_iff_toNat_le, ne_eq, ← UInt8.toNat_inj, UInt8.reduceToNat, isTail_iff] at second
  rw [isTail_iff] at tail
  unfold tailBits
  have valid : (a.toNat % 16 * 4096 + b.toNat % 64 * 64 + c.toNat % 64).isValidChar := by
    unfold Nat.isValidChar
    omega
  rw [utf8EncodeChar_ofNat valid, if_neg (by omega), if_neg (by omega), if_pos (by omega),
    byte_eq (a := a) (by omega), byte_eq (a := b) (by omega), byte_eq (a := c) (by omega)]

private theorem encode_four {a b c d : UInt8} (first : (0xf0 ≤ a && a ≤ 0xf4) = true)
    (second : secondOfFour a b = true) (third : isTail c = true) (tail : isTail d = true) :
    String.utf8EncodeChar (Char.ofNat
      (a.toNat % 8 * 262144 + tailBits b * 4096 + tailBits c * 64 + tailBits d)) =
      [a, b, c, d] := by
  simp only [Bool.and_eq_true, decide_eq_true_eq, UInt8.le_iff_toNat_le, UInt8.reduceToNat]
    at first
  simp only [secondOfFour, Bool.and_eq_true, Bool.or_eq_true, bne_iff_ne, decide_eq_true_eq,
    UInt8.le_iff_toNat_le, ne_eq, ← UInt8.toNat_inj, UInt8.reduceToNat, isTail_iff] at second
  rw [isTail_iff] at third tail
  unfold tailBits
  have valid : (a.toNat % 8 * 262144 + b.toNat % 64 * 4096 + c.toNat % 64 * 64 +
      d.toNat % 64).isValidChar := by
    unfold Nat.isValidChar
    omega
  rw [utf8EncodeChar_ofNat valid, if_neg (by omega), if_neg (by omega), if_neg (by omega),
    byte_eq (a := a) (by omega), byte_eq (a := b) (by omega), byte_eq (a := c) (by omega),
    byte_eq (a := d) (by omega)]

private theorem eq_flatMap_of_map {front rest : Bytes} {c : Char} {cs : List Char}
    {decoded : Except Malformed (List Char)} (first : String.utf8EncodeChar c = front)
    (whole : decoded.map (c :: ·) = .ok cs)
    (tail : ∀ {cs}, decoded = .ok cs → rest = cs.flatMap String.utf8EncodeChar) :
    front ++ rest = cs.flatMap String.utf8EncodeChar := by
  cases decoded with
  | error e => cases whole
  | ok later =>
    cases whole
    rw [List.flatMap_cons, first, ← tail rfl]

theorem eq_flatMap_of_decodeFrom {b : Bytes} {offset : Nat} {cs : List Char}
    (decoded : decodeFrom offset b = .ok cs) : b = cs.flatMap String.utf8EncodeChar := by
  -- One case for each length of a sequence; all others end in a failure.
  fun_induction decodeFrom offset b generalizing cs with
  | case1 =>
    cases decoded
    rfl
  | case2 offset a rest one ih => exact eq_flatMap_of_map (encode_one one) decoded ih
  | case4 offset a _ first b rest tail ih =>
    exact eq_flatMap_of_map (encode_two first tail) decoded ih
  | case8 offset a _ _ first b second c rest tail ih =>
    exact eq_flatMap_of_map (encode_three first second tail) decoded ih
  | case14 offset a _ _ _ first b second c third d rest tail ih =>
    exact eq_flatMap_of_map (encode_four first second third tail) decoded ih
  | _ => cases decoded

/-- Bytes are decoded to the one text that they encode. -/
theorem decode_eq_ok_iff {b : Bytes} {s : String} : decode b = .ok s ↔ b = encode s := by
  constructor
  · intro decoded
    rw [decode] at decoded
    cases characters : decodeFrom 0 b with
    | error e =>
      rw [characters] at decoded
      cases decoded
    | ok cs =>
      rw [characters] at decoded
      cases decoded
      rw [encode, String.toList_ofList]
      exact eq_flatMap_of_decodeFrom characters
  · rintro rfl
    exact decode_encode s

theorem length_le_encode (s : String) : s.toList.length ≤ (encode s).length := by
  unfold encode
  induction s.toList with
  | nil => exact Nat.le_refl 0
  | cons c cs ih =>
    have some_byte := c.utf8Size_pos
    rw [List.flatMap_cons, List.length_append, String.length_utf8EncodeChar, List.length_cons]
    omega

theorem length_encode_of_ascii {s : String} (ascii : ∀ c ∈ s.toList, c.toNat < 128) :
    (encode s).length = s.toList.length := by
  unfold encode
  generalize s.toList = cs at ascii ⊢
  induction cs with
  | nil => rfl
  | cons c cs ih =>
    have small := ascii c List.mem_cons_self
    have one : c.utf8Size = 1 :=
      Char.utf8Size_eq_one_iff.mpr (UInt32.le_iff_toNat_le.mpr (Nat.le_of_lt_succ small))
    rw [List.flatMap_cons, List.length_append, String.length_utf8EncodeChar, List.length_cons, one,
      ih fun d later => ascii d (List.mem_cons_of_mem c later), Nat.add_comm]

end RowSync.Utf8
