import SealedPost.Bytes
import SealedPost.Number.Quantity

/-!
# What is handed over

Keys, nonces and random draws come from outside the library, where octets are expected but nothing
at all or a text may be handed over; where an identity is expected, it may be anything. Checks tell
these apart where they are used.
-/

namespace SealedPost

/-! ### In the place of octets -/

/-- What is handed over where octets belong. -/
inductive Material where
  | octets (bs : Bytes)
  | absent
  | text (s : String)
  deriving DecidableEq, Repr

instance : Coe Bytes Material := ⟨.octets⟩

/-- The word for material that is no octet string. -/
def Material.word : Material → String
  | .octets _ => "bytes"
  | .absent   => "NoneType"
  | .text _   => "str"

/-! ### In the place of an identity -/

namespace Identity

/-- What is offered as an identity. -/
inductive Candidate where
  | text (s : String)
  | absent
  | flag (b : Bool)
  | number (n : Quantity)
  /-- Anything else, with what messages show of it. -/
  | other (shown : String)

instance : Coe String Candidate := ⟨.text⟩

/-- A candidate as messages show it. Whole numbers are written in full; those of more than 4300
digits have no text in a message and are out of scope. -/
def Candidate.quoted : Candidate → String
  | .text s   => Quoted.quote s
  | .absent   => "None"
  | .flag b   => if b then "True" else "False"
  | .number n => n.write
  | .other s  => s

end Identity

end SealedPost
