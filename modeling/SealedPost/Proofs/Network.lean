import SealedPost.Proofs.Client

/-!
# Clients around one gateway

Any number of clients share a local gateway. In any order they send messages, receive what lies in
the outbox for them, and pin, forget and prune keys, while clocks go on.
-/

namespace SealedPost

/-! ### Networks -/

/-- A message that one client has sent to another. -/
structure Post (ι : Type) where
  sender : ι
  recipient : ι
  message : Message

/-- Clients with the gateway between them. What is around them are the clocks and the random source.
The messages sent so far stand in the order of their delivery; no client sees this list. -/
structure Network (ι ρ τ : Type) where
  clients : ι → Client τ
  around : ρ
  gateway : LocalGateway
  posted : List (Post ι)

/-- What all clients use: a random source, the supply of ids for the blob store, and a clock for
each client. -/
structure Network.Setting (ι ρ τ : Type) where
  source : RandomSource ρ
  ids : Nat → BlobId
  clock : ι → ρ → τ

/-- What can happen in a network. A letter is received with the name of the one who sent it, and a
key is pinned that is the key of its owner. -/
inductive Network.Event (ι ρ : Type) where
  | send (sender recipient : ι) (m : Message)
  | receive (receiver : ι) (place : Nat) (messageId : Option String) (resolve : Bool)
  | elapse (around : ρ)
  | pin (holder owner : ι)
  | invalidate (holder : ι) (offered : Identity.Candidate)
  | clear (holder : ι)
  | prune (holder : ι)

namespace Network

variable {ι ρ τ : Type}

def identity (n : Network ι ρ τ) (i : ι) : String := (n.clients i).config.identity

def keys (n : Network ι ρ τ) (i : ι) : KeyPair := (n.clients i).keys

/-- A client and what it acts on. -/
def view (n : Network ι ρ τ) (i : ι) : Client τ × ρ × LocalGateway :=
  (n.clients i, n.around, n.gateway)

section Acts

variable [PartialAdd τ] [LE τ] [DecidableLE τ] (S : Setting ι ρ τ)

/-- One client sends a message to another. -/
def sending (sender recipient : ι) (m : Message) (n : Network ι ρ τ) :
    Client.Act τ (ρ × LocalGateway) SentMessage :=
  Client.send S.source.onFirst (LocalGateway.gatewayFrom S.ids).onSecond
    (fun w => S.clock sender w.1) (.text (n.identity recipient)) m

/-- A client receives an envelope that came with the name of a sender. -/
def receiving (receiver sender : ι) (envelope : Envelope) (messageId : Option String)
    (resolve : Bool) (n : Network ι ρ τ) : Client.Act τ (ρ × LocalGateway) IncomingMessage :=
  Client.receive (LocalGateway.gatewayFrom S.ids).onSecond (fun w => S.clock receiver w.1)
    (.text (n.identity sender)) envelope.toHex.1 envelope.toHex.2 messageId resolve

end Acts

/-! ### Steps -/

variable [DecidableEq ι]

/-- The network after a client has come to be another. -/
def withClient (i : ι) (c : Client τ) (n : Network ι ρ τ) : Network ι ρ τ :=
  { n with clients := Function.update n.clients i c }

/-- The network after a client has acted on it. -/
def settled (i : ι) (v : Client τ × ρ × LocalGateway) (n : Network ι ρ τ) : Network ι ρ τ :=
  { n.withClient i v.1 with around := v.2.1, gateway := v.2.2 }

variable [PartialAdd τ] [LE τ] [DecidableLE τ] (S : Setting ι ρ τ)

/-- What an event makes of a network. A message that could not be sent is not posted; a letter that
is not there, or not for the receiver, is not received. -/
def after (n : Network ι ρ τ) : Event ι ρ → Network ι ρ τ
  | .send sender recipient m =>
    match n.sending S sender recipient m (n.view sender) with
    | .ok _ v    => { n.settled sender v with posted := n.posted ++ [⟨sender, recipient, m⟩] }
    | .error _ v => n.settled sender v
  | .receive receiver place messageId resolve =>
    match n.gateway.outbox[place]?, n.posted[place]? with
    | some (addressee, envelope), some p =>
      if addressee = n.identity receiver then
        match n.receiving S receiver p.sender envelope messageId resolve (n.view receiver) with
        | .ok _ v    => n.settled receiver v
        | .error _ v => n.settled receiver v
      else n
    | _, _ => n
  | .elapse around => { n with around := around }
  | .pin holder owner =>
    match (n.clients holder).pin (.text (n.identity owner)) (.octets (n.keys owner).publicKey) with
    | .ok c    => n.withClient holder c
    | .error _ => n
  | .invalidate holder offered => n.withClient holder ((n.clients holder).invalidate offered)
  | .clear holder =>
    let c := n.clients holder
    n.withClient holder { c with cache := c.cache.clear }
  | .prune holder =>
    let c := n.clients holder
    n.withClient holder { c with cache := (c.cache.prune (S.clock holder n.around)).2 }

/-- Only well-formed messages are sent. -/
def Event.IsAllowed : Event ι ρ → Prop
  | .send _ _ m => m.IsWellFormed
  | _           => True

/-- The networks that a network can come to while no blob id is given out twice. -/
inductive Run (n₀ : Network ι ρ τ) : Network ι ρ τ → Prop where
  | start : Run n₀ n₀
  | step {n : Network ι ρ τ} (e : Event ι ρ) (h : Run n₀ n) (he : e.IsAllowed)
      (hids : (n.after S e).gateway.store.IdsDiffer S.ids) : Run n₀ (n.after S e)

end Network

end SealedPost
