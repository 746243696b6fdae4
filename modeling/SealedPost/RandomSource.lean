import SealedPost.Action

/-!
# Random sources

A random source is asked for a number of octets and hands over material, which need not have the
size asked for. A tape is a source whose draws are known beforehand.

Material is taken for octets in one of two ways. What is measured first must have a length and, if
it is a text, lacks an encoding; what is only joined to other octets must consist of octets itself.
-/

namespace SealedPost

/-! ### Octets from material -/

namespace Material

/-- The octets of material that is measured before it is used. -/
def measured : Material → Except Failure Bytes
  | .octets bs => .ok bs
  | .absent    => .error .nothingMeasured
  | .text _    => .error .textUnencoded

/-- The octets of material that is joined to others, whatever its length. -/
def joined : Material → Except Failure Bytes
  | .octets bs => .ok bs
  | other      => .error (.notJoinable other)

theorem joined_eq_ok_iff {m : Material} {bs : Bytes} : joined m = .ok bs ↔ m = .octets bs := by
  cases m <;> simp [joined]

end Material

/-! ### Sources -/

/-- A source of random octets in a world. -/
structure RandomSource (ω : Type) where
  draw : Nat → Action ω Material

namespace RandomSource

variable {ω ρ ν : Type}

/-- The source with a record of the sizes asked for. -/
def recorded (source : RandomSource ω) : RandomSource (ω × List Nat) :=
  ⟨fun size => Action.noting size (source.draw size)⟩

def onFirst (source : RandomSource ρ) : RandomSource (ρ × ν) :=
  ⟨fun size => (source.draw size).onFirst⟩

def onSecond (source : RandomSource ν) : RandomSource (ρ × ν) :=
  ⟨fun size => (source.draw size).onSecond⟩

/-- Does the source hand over as many octets as it is asked for, at every call that does not
fail? -/
def IsExact (source : RandomSource ω) : Prop :=
  ∀ size w m w', source.draw size w = .ok m w' → ∃ bs : Bytes, m = .octets bs ∧ bs.length = size

end RandomSource

/-! ### Tapes -/

/-- Draws that are known beforehand. -/
inductive Tape where
  /-- The same octet for ever. -/
  | constant (octet : UInt8)
  /-- Octets that count up, over all draws. -/
  | counting (next : UInt8)
  /-- A list of draws, whatever their size. -/
  | script (draws : List Material)
  deriving DecidableEq, Repr

namespace Tape

/-- Draws from a tape. -/
def draw (size : Nat) : Action Tape Material
  | .constant octet => .ok (.octets (List.replicate size octet)) (.constant octet)
  | .counting next  =>
    .ok (.octets ((List.range size).map fun i => next + UInt8.ofNat i))
      (.counting (next + UInt8.ofNat size))
  | .script []            => .error (.reported .runtime "random source exhausted") (.script [])
  | .script (m :: draws)  => .ok m (.script draws)

/-- The source that draws from a tape. -/
def source : RandomSource Tape := ⟨draw⟩

end Tape

end SealedPost
