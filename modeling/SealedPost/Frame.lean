import SealedPost.RandomSource

/-!
# Frames

A frame is a type tag, a payload and a padding. The last octet of the padding is its length, at
least one; the octets before it are random. The padding is so long that the frame reaches a floor,
which is small enough for its length to fit in one octet.
-/

namespace SealedPost.Frame

variable {ω : Type}

/-- The largest floor. -/
def maxFloor : Int := 256

/-- The floor where none is asked for. -/
def defaultFloor : Int := 32

/-- The length of the padding that brings a payload to a floor. -/
def paddingLength (payloadLength floor : Int) : Except Failure Int :=
  if 0 ≤ floor ∧ floor ≤ maxFloor then .ok (max 1 (floor - 1 - payloadLength))
  else .error (.floorOutOfRange floor)

/-- The random octets of a padding. A padding of one octet needs none, and none are drawn; what is
drawn is used whatever its length. -/
def filler (source : RandomSource ω) (length : Int) : Action ω Bytes := do
  if 1 < length then Action.ofExcept (← source.draw (length - 1).toNat).joined
  else pure []

/-- The frame of a payload. -/
def encode (source : RandomSource ω) (tag : Int) (payload : Bytes) (floor : Int) :
    Action ω Bytes := do
  if 0 ≤ tag ∧ tag ≤ 255 then
    let length ← Action.ofExcept (paddingLength payload.length floor)
    let random ← filler source length
    pure (UInt8.ofNat tag.toNat :: payload ++ random ++ [UInt8.ofNat length.toNat])
  else throw (.tagTooLarge tag)

/-- The tag and the payload of a frame. -/
def decode (frame : Bytes) : Except Failure (UInt8 × Bytes) :=
  match frame with
  | tag :: body =>
    match body.getLast? with
    | none => .error (.frameTooShort 1)
    | some length =>
      if length = 0 then .error .paddingZero
      else if body.length < length.toNat then .error (.paddingTooLong length.toNat body.length)
      else .ok (tag, body.take (body.length - length.toNat))
  | [] => .error (.frameTooShort 0)

end SealedPost.Frame
