import SealedPost.Bytes

/-!
# Text as UTF-8

`encode` writes a text, `decode` reads one and names the first fault of an octet string that is no
text: where the faulty octets begin and end, and what is wrong with them. Overlong forms,
surrogates and numbers past the last scalar value are faults of the octet that would make them so.
-/

namespace SealedPost.Utf8

/-! ### Writing -/

/-- A number below 64 as a continuation octet. -/
def continuation (n : Nat) : UInt8 := UInt8.ofNat (0x80 + n % 0x40)

/-- The one to four octets of a character. -/
def encodeChar (c : Char) : Bytes :=
  let n := c.toNat
  if n < 0x80 then [UInt8.ofNat n]
  else if n < 0x800 then [UInt8.ofNat (0xc0 + n / 0x40), continuation n]
  else if n < 0x10000 then
    [UInt8.ofNat (0xe0 + n / 0x1000), continuation (n / 0x40), continuation n]
  else
    [UInt8.ofNat (0xf0 + n / 0x40000), continuation (n / 0x1000), continuation (n / 0x40),
      continuation n]

/-- The octets of a text. -/
def encode (s : String) : Bytes := s.toList.flatMap encodeChar

/-! ### Faults -/

/-- What is wrong with a run of octets. -/
inductive Reason where
  | start
  | continuation
  | endOfData
  deriving DecidableEq, Repr

/-- The first run of octets that belongs to no text. -/
structure Fault where
  /-- The octet that the run begins with. -/
  octet : UInt8
  /-- The place of the first octet of the run. -/
  first : Nat
  /-- The place of its last octet. -/
  last : Nat
  reason : Reason
  deriving DecidableEq, Repr

/-! ### Reading -/

/-- Can the octet continue a character? -/
def isContinuation (b : UInt8) : Bool := 0x80 ≤ b && b < 0xc0

/-- Can the octet follow the first of three? Neither overlong forms nor surrogates come through. -/
def isSecondOfThree (a b : UInt8) : Bool :=
  isContinuation b && (if b < 0xa0 then a != 0xe0 else a != 0xed)

/-- Can the octet follow the first of four? Neither overlong forms nor too large numbers come
through. -/
def isSecondOfFour (a b : UInt8) : Bool :=
  isContinuation b && (if b < 0x90 then a != 0xf0 else a != 0xf4)

/-- The character spelled by the low bits of an octet and of the continuation octets after it. -/
def charOf (lead : Nat) (rest : List UInt8) : Char :=
  Char.ofNat (rest.foldl (fun n b => n * 0x40 + b.toNat % 0x40) lead)

/-- Reads on at a place, with the characters before it in reverse. -/
def decodeFrom (place : Nat) (done : List Char) : Bytes → Except Fault String
  | [] => .ok (String.ofList done.reverse)
  | a :: rest =>
    let fault (length : Nat) (reason : Reason) : Except Fault String :=
      .error ⟨a, place, place + length - 1, reason⟩
    if a < 0x80 then decodeFrom (place + 1) (charOf a.toNat [] :: done) rest
    else if a < 0xc2 then fault 1 .start
    else if a < 0xe0 then
      match rest with
      | [] => fault 1 .endOfData
      | b :: rest =>
        if isContinuation b then decodeFrom (place + 2) (charOf (a.toNat % 0x20) [b] :: done) rest
        else fault 1 .continuation
    else if a < 0xf0 then
      match rest with
      | [] => fault 1 .endOfData
      | b :: rest =>
        if !isSecondOfThree a b then fault 1 .continuation
        else
          match rest with
          | [] => fault 2 .endOfData
          | c :: rest =>
            if isContinuation c then
              decodeFrom (place + 3) (charOf (a.toNat % 0x10) [b, c] :: done) rest
            else fault 2 .continuation
    else if a < 0xf5 then
      match rest with
      | [] => fault 1 .endOfData
      | b :: rest =>
        if !isSecondOfFour a b then fault 1 .continuation
        else
          match rest with
          | [] => fault 2 .endOfData
          | c :: rest =>
            if !isContinuation c then fault 2 .continuation
            else
              match rest with
              | [] => fault 3 .endOfData
              | d :: rest =>
                if isContinuation d then
                  decodeFrom (place + 4) (charOf (a.toNat % 0x08) [b, c, d] :: done) rest
                else fault 3 .continuation
    else fault 1 .start

/-- The text that an octet string spells, or its first fault. -/
def decode (bs : Bytes) : Except Fault String := decodeFrom 0 [] bs

end SealedPost.Utf8
