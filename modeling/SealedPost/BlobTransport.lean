import SealedPost.Blob

/-!
# Blob transports

A transport takes encrypted octets and answers with an id, and gives back what lies under an id. A
store is the transport that keeps blobs itself, under the ids of a supply.
-/

namespace SealedPost

/-- Where blobs are put and fetched from, in a world. An upload may be answered without an id, and
a download without data. -/
structure BlobTransport (ω : Type) where
  upload : Bytes → Action ω (Option BlobId)
  download : BlobId → Action ω (Option Bytes)

/-- A call of a transport. -/
inductive BlobCall where
  | upload (bs : Bytes)
  | download (id : BlobId)
  deriving DecidableEq

namespace BlobTransport

variable {ω ρ ν : Type}

/-- The transport with a record of its calls. -/
def recorded (t : BlobTransport ω) : BlobTransport (ω × List BlobCall) where
  upload bs   := Action.noting (.upload bs) (t.upload bs)
  download id := Action.noting (.download id) (t.download id)

def onFirst (t : BlobTransport ρ) : BlobTransport (ρ × ν) where
  upload bs   := (t.upload bs).onFirst
  download id := (t.download id).onFirst

def onSecond (t : BlobTransport ν) : BlobTransport (ρ × ν) where
  upload bs   := (t.upload bs).onSecond
  download id := (t.download id).onSecond

/-- The transport that gives the same two answers to every call. -/
def answering (upload : Except Failure (Option BlobId)) (download : Except Failure (Option Bytes)) :
    BlobTransport ω where
  upload _   := Action.ofExcept upload
  download _ := Action.ofExcept download

end BlobTransport

/-! ### Stores -/

/-- Blobs under their ids, latest first, with the number of calls so far and of ids given out. -/
structure BlobStore where
  blobs : List (BlobId × Bytes)
  issued : Nat
  uploads : Nat
  downloads : Nat
  deriving DecidableEq

namespace BlobStore

def empty : BlobStore := ⟨[], 0, 0, 0⟩

/-- The blob under an id; a missing id has none. -/
def get? (s : BlobStore) (id : Option BlobId) : Option Bytes :=
  id.bind fun id => s.blobs.lookup id

def contains (s : BlobStore) (id : Option BlobId) : Bool := (s.get? id).isSome

def size (s : BlobStore) : Nat := s.blobs.length

/-- The ids of a store that numbers its blobs. -/
def counted (n : Nat) : BlobId := BlobId.ofNat (n + 1)

/-- Keeps a blob under the next id of a supply. -/
def uploadFrom (ids : Nat → BlobId) (bs : Bytes) : Action BlobStore BlobId := fun s =>
  let id := ids s.issued
  .ok id { s with
    blobs := (id, bs) :: s.blobs, issued := s.issued + 1, uploads := s.uploads + 1 }

/-- Keeps a blob under its number. -/
def upload (bs : Bytes) : Action BlobStore BlobId := uploadFrom counted bs

/-- The blob under an id; the call counts also when there is none. -/
def download (id : Option BlobId) : Action BlobStore Bytes := fun s =>
  match s.get? id with
  | some bs => .ok bs { s with downloads := s.downloads + 1 }
  | none    => .error (.blobNotFound (BlobId.shown id)) { s with downloads := s.downloads + 1 }

/-- Drops all blobs; the numbers of calls and of ids given out stay. -/
def drop (s : BlobStore) : BlobStore := { s with blobs := [] }

/-- The store as a transport. -/
def transportFrom (ids : Nat → BlobId) : BlobTransport BlobStore where
  upload bs   := some <$> uploadFrom ids bs
  download id := some <$> download id

def transport : BlobTransport BlobStore := transportFrom counted

end BlobStore

end SealedPost
