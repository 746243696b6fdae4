import SealedPost.Identity
import SealedPost.KeyDirectory
import SealedPost.KeyPair

/-!
# Cached keys

A cache answers for a directory. A key that was looked up is fresh until its time to live has
passed, and a pinned key for ever; only an identity without a fresh entry is looked up. Entries
whose time has come stay until they are replaced or pruned. Times are of any type with a partial sum
and an order.
-/

namespace SealedPost

variable {ω τ : Type}

/-- A cached key and the time at which it is no longer fresh; none for a pinned key. -/
structure KeyCache.Entry (τ : Type) where
  key : Bytes
  expiresAt : Option τ

/-- The entries of a cache, one for each identity, and the time to live of a new one. -/
structure KeyCache (τ : Type) where
  ttl : τ
  entries : List (String × KeyCache.Entry τ)

namespace KeyCache

/-! ### Entries -/

/-- A cache without entries. -/
def empty (ttl : τ) : KeyCache τ := ⟨ttl, []⟩

def find? (c : KeyCache τ) (identity : String) : Option (Entry τ) := c.entries.lookup identity

/-- Puts an entry in the place of the one before it. -/
def insert (identity : String) (e : Entry τ) (c : KeyCache τ) : KeyCache τ :=
  { c with entries := (identity, e) :: c.entries.filter (·.1 ≠ identity) }

def erase (identity : String) (c : KeyCache τ) : KeyCache τ :=
  { c with entries := c.entries.filter (·.1 ≠ identity) }

/-- The number of entries, fresh or not. -/
def size (c : KeyCache τ) : Nat := c.entries.length

/-! ### Freshness -/

section Fresh

variable [LE τ] [DecidableLE τ]

/-- Is the entry still good? It is not from its time of expiry on. -/
def Entry.isFresh (now : τ) (e : Entry τ) : Bool :=
  match e.expiresAt with
  | none   => true
  | some t => !(t ≤ now : Bool)

/-- The key of an identity, if its entry is fresh. -/
def fresh? (now : τ) (c : KeyCache τ) (identity : String) : Option Bytes :=
  ((c.find? identity).filter (Entry.isFresh now)).map Entry.key

/-- Is there a fresh entry for what is offered as an identity? -/
def contains (now : τ) (c : KeyCache τ) : Identity.Candidate → Bool
  | .text identity => (c.fresh? now identity).isSome
  | _              => false

/-- Drops the entries that are not fresh; gives their number. -/
def prune (now : τ) (c : KeyCache τ) : Nat × KeyCache τ :=
  let kept := { c with entries := c.entries.filter fun entry => entry.2.isFresh now }
  (c.size - kept.size, kept)

/-! ### Lookups -/

/-- The time that is a span after another. -/
def later [PartialAdd τ] (time span : τ) : Except Failure τ :=
  match add? time span with
  | some t => .ok t
  | none   => .error .sumTooLarge

/-- The entry of a key that was looked up. -/
def Entry.ofLookup [PartialAdd τ] (now ttl : τ) (found : Material) : Except Failure (Entry τ) := do
  let key ← Key.check "Public key" Key.size found
  let expiresAt ← later now ttl
  pure ⟨key, some expiresAt⟩

/-- The key of an identity, from its fresh entry or from the directory. A key of the wrong length
is not cached, nor one whose time of expiry does not exist, nor a failure. -/
def publicKeyFor [PartialAdd τ] (directory : KeyDirectory ω) (clock : ω → τ)
    (offered : Identity.Candidate) : EStateM Failure (KeyCache τ × ω) Bytes := fun (c, w) =>
  match Identity.validate offered with
  | .error e     => .error e (c, w)
  | .ok identity =>
    match c.fresh? (clock w) identity with
    | some key => .ok key (c, w)
    | none     =>
      match directory.publicKeyFor identity w with
      | .error e w     => .error e (c, w)
      | .ok material w =>
        match Entry.ofLookup (clock w) c.ttl material with
        | .error e => .error e (c, w)
        | .ok e    => .ok e.key (c.insert identity e, w)

end Fresh

/-! ### Entries by hand -/

/-- Keeps a key for ever. -/
def pin (offered : Identity.Candidate) (key : Material) (c : KeyCache τ) :
    Except Failure (KeyCache τ) := do
  let identity ← Identity.validate offered
  let key ← Key.check "Public key" Key.size key
  pure (c.insert identity ⟨key, none⟩)

/-- Forgets the key of an identity; what is no identity has none. -/
def invalidate (offered : Identity.Candidate) (c : KeyCache τ) : KeyCache τ :=
  match offered with
  | .text identity => c.erase identity
  | _              => c

/-- Forgets all keys. -/
def clear (c : KeyCache τ) : KeyCache τ := { c with entries := [] }

/-! ### Caches in seconds -/

/-- The time to live where none is asked for: a day. -/
def defaultTtl : Quantity := .real 86400.0

/-- A cache without entries whose time to live is counted in seconds; it may not be negative. -/
def create (ttl : Quantity) : Except Failure (KeyCache Quantity) :=
  if ttl.isNegative then .error (.negativeTtl ttl) else .ok (empty ttl)

end KeyCache

end SealedPost
