import SealedPost.Bytes

/-!
# Hexadecimal text

`encode` writes two lower-case digits for every octet. `decode` reads digits of either case and
passes over ASCII blanks between the pairs; where a text is not hexadecimal it gives the place of
the first character at fault. A character outside ASCII is at fault before all others, and a digit
without a partner puts the fault after the end of the text.
-/

namespace SealedPost.Hex

/-! ### Writing -/

def digit (n : Nat) : Char := if n < 10 then Char.ofNat (0x30 + n) else Char.ofNat (0x57 + n)

def encodeOctet (b : UInt8) : List Char := [digit (b.toNat / 16), digit (b.toNat % 16)]

/-- Two lower-case digits for every octet. -/
def encode (bs : Bytes) : String := String.ofList (bs.flatMap encodeOctet)

/-! ### Reading -/

/-- A space, or one of the five ASCII control characters that move the place of writing. -/
def isBlank (c : Char) : Bool := c == ' ' || (9 ≤ c.toNat && c.toNat ≤ 13)

/-- The value of a digit of either case. -/
def value? (c : Char) : Option Nat :=
  let n := c.toNat
  if 0x30 ≤ n && n ≤ 0x39 then some (n - 0x30)
  else if 0x41 ≤ n && n ≤ 0x46 then some (n - 0x37)
  else if 0x61 ≤ n && n ≤ 0x66 then some (n - 0x57)
  else none

/-- Reads on at a place, with the octets before it in reverse. -/
def decodeFrom (place : Nat) (done : Bytes) : List Char → Except Nat Bytes
  | [] => .ok done.reverse
  | a :: rest =>
    if isBlank a then decodeFrom (place + 1) done rest
    else
      match value? a with
      | none => .error place
      | some high =>
        match rest with
        | [] => .error (place + 1)
        | b :: rest =>
          match value? b with
          | none => .error (place + 1)
          | some low => decodeFrom (place + 2) (UInt8.ofNat (16 * high + low) :: done) rest

/-- The octets that a text spells, or the place of its first fault. -/
def decode (s : String) : Except Nat Bytes :=
  match s.toList.findIdx? (fun c => 0x80 ≤ c.toNat) with
  | some place => .error place
  | none       => decodeFrom 0 [] s.toList

end SealedPost.Hex
