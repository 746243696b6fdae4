import SealedPost.Failure

/-!
# Secret memory

Octets that must not outlive their use are kept in buffers. A buffer is known by a handle; all
holders of the handle see the same octets, and after a wipe all of them see zeros. A view reads and
cannot write; a copy is a buffer of its own.
-/

namespace SealedPost

/-- A buffer of octets that can be overwritten in place. -/
structure SecretBuffer where
  bytes : Bytes
  deriving DecidableEq

namespace SecretBuffer

/-- Overwrites every octet with zero. -/
def wipe (b : SecretBuffer) : SecretBuffer := ⟨b.bytes.map fun _ => 0⟩

/-- Is every octet zero? -/
def isWiped (b : SecretBuffer) : Bool := b.bytes.all (· == 0)

def length (b : SecretBuffer) : Nat := b.bytes.length

/-- The text of a buffer; only its length is shown. -/
def redacted (b : SecretBuffer) : String := "SecretBuffer(<" ++ toString b.length ++ " bytes>)"

end SecretBuffer

/-! ### Handles -/

/-- All buffers that were ever made, oldest first. -/
structure SecretMemory where
  buffers : List SecretBuffer
  deriving DecidableEq

namespace SecretMemory

/-- The place of a buffer. -/
abbrev Handle := Nat

def empty : SecretMemory := ⟨[]⟩

/-- Makes a buffer with a copy of some octets. -/
def allocate (bs : Bytes) (m : SecretMemory) : Handle × SecretMemory :=
  (m.buffers.length, ⟨m.buffers ++ [⟨bs⟩]⟩)

/-- The buffer that a handle stands for; one without octets where there is none. -/
def buffer (m : SecretMemory) (h : Handle) : SecretBuffer := m.buffers.getD h ⟨[]⟩

/-- The octets seen through a handle or a view of it. -/
def read (m : SecretMemory) (h : Handle) : Bytes := (m.buffer h).bytes

/-- Wipes the buffer that a handle stands for. -/
def wipe (h : Handle) (m : SecretMemory) : SecretMemory :=
  ⟨m.buffers.modify h SecretBuffer.wipe⟩

/-- Uses the octets of a buffer, which is wiped afterwards, also when the use fails. -/
def within {α : Type} (h : Handle) (use : Bytes → Except Failure α) :
    EStateM Failure SecretMemory α := fun m =>
  match use (m.read h) with
  | .ok a    => .ok a (m.wipe h)
  | .error e => .error e (m.wipe h)

/-- A view refuses to be written to. -/
def writeView {α : Type} (_ : Handle) (_ : Nat) (_ : Int) : EStateM Failure SecretMemory α :=
  fun m => .error .readOnly m

end SecretMemory

end SealedPost
