import SealedPost.Gateway

/-!
# The local gateway

A gateway without a network: a blob store, a key book and an outbox in which envelopes lie in the
order of their delivery. Uploads can be made to fail.
-/

namespace SealedPost

structure LocalGateway where
  store : BlobStore
  book : KeyBook
  /-- Envelopes with their recipients, oldest first. -/
  outbox : List (String × Envelope)
  /-- What an upload fails with, before anything is counted or kept. -/
  uploadFault : Option Failure

namespace LocalGateway

variable {α : Type}

def empty : LocalGateway := ⟨.empty, .empty, [], none⟩

/-! ### Parts -/

def onStore (x : Action BlobStore α) : Action LocalGateway α := fun g =>
  match x g.store with
  | .ok a store    => .ok a { g with store := store }
  | .error e store => .error e { g with store := store }

def onBook (x : Action KeyBook α) : Action LocalGateway α := fun g =>
  match x g.book with
  | .ok a book    => .ok a { g with book := book }
  | .error e book => .error e { g with book := book }

def upload (ids : Nat → BlobId) (bs : Bytes) : Action LocalGateway (Option BlobId) := fun g =>
  match g.uploadFault with
  | some e => .error e g
  | none   => onStore (some <$> BlobStore.uploadFrom ids bs) g

/-- Lays an envelope into the outbox; the id of the message is its number there. -/
def deliver (recipient : String) (envelope : Envelope) : Action LocalGateway String := fun g =>
  let outbox := g.outbox ++ [(recipient, envelope)]
  .ok (Hex.encode (Bytes.ofNatBE 8 outbox.length)) { g with outbox := outbox }

/-- What the local gateway is to a client, with a supply of ids for its store. -/
def gatewayFrom (ids : Nat → BlobId) : Gateway LocalGateway where
  blobs := {
    upload   := upload ids
    download := fun id => onStore (some <$> BlobStore.download id) }
  deliver := deliver
  keys    := ⟨fun identity => onBook (KeyBook.lookup identity)⟩

/-- The local gateway whose store numbers its blobs. -/
def gateway : Gateway LocalGateway := gatewayFrom BlobStore.counted

/-! ### The outbox -/

/-- The envelope at a place in the outbox; negative places count from the end. -/
def letter (g : LocalGateway) (place : Int) : Except Failure (String × Envelope) :=
  if g.outbox.isEmpty then .error (.reported .lookup "nothing to deliver")
  else
    let place := if place < 0 then place + g.outbox.length else place
    match if place < 0 then none else g.outbox[place.toNat]? with
    | some letter => .ok letter
    | none        => .error (.reported .index "list index out of range")

end LocalGateway

end SealedPost
