import SealedPost.Action

/-!
# Key directories

A directory answers with the public key of an identity. A key book is a directory that is kept in
memory and counts how often it is asked.
-/

namespace SealedPost

/-- Where public keys are looked up, in a world. -/
structure KeyDirectory (ω : Type) where
  publicKeyFor : String → Action ω Material

namespace KeyDirectory

variable {ω ρ ν : Type}

/-- The directory with a record of the identities it is asked for. -/
def recorded (d : KeyDirectory ω) : KeyDirectory (ω × List String) :=
  ⟨fun identity => Action.noting identity (d.publicKeyFor identity)⟩

def onFirst (d : KeyDirectory ρ) : KeyDirectory (ρ × ν) :=
  ⟨fun identity => (d.publicKeyFor identity).onFirst⟩

def onSecond (d : KeyDirectory ν) : KeyDirectory (ρ × ν) :=
  ⟨fun identity => (d.publicKeyFor identity).onSecond⟩

end KeyDirectory

/-! ### Key books -/

/-- Keys under their identities, latest first, and the number of lookups so far. -/
structure KeyBook where
  keys : List (String × Material)
  lookups : Nat
  deriving DecidableEq

namespace KeyBook

def empty : KeyBook := ⟨[], 0⟩

/-- Writes down the key of an identity, or strikes it out. -/
def set (identity : String) (key : Option Material) (b : KeyBook) : KeyBook :=
  let others := b.keys.filter (·.1 ≠ identity)
  { b with keys := (key.map (identity, ·)).toList ++ others }

/-- The key of an identity; the lookup counts also when there is none. -/
def lookup (identity : String) : Action KeyBook Material := fun b =>
  let counted := { b with lookups := b.lookups + 1 }
  match b.keys.lookup identity with
  | some key => .ok key counted
  | none     => .error (.reported .idNotFound identity) counted

/-- The book as a directory. -/
def directory : KeyDirectory KeyBook := ⟨lookup⟩

end KeyBook

end SealedPost
