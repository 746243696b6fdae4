import SealedPost.Config
import SealedPost.Gateway
import SealedPost.KeyCache
import SealedPost.Message.Sealed

/-!
# Clients

A client sends and receives messages under one identity. The keys of others come from its cache,
which asks the gateway. To send is to look up, to seal and to deliver, in this order; to receive is
to read the envelope, to look up and to open it.
-/

namespace SealedPost

/-- An identity with its keys and the keys of others that it knows. -/
structure Client (τ : Type) where
  config : Config
  keys : KeyPair
  cache : KeyCache τ

/-- What came of a message that was sent. -/
structure SentMessage where
  messageId : String
  recipient : String
  message : Message

/-- A message that came in. -/
structure IncomingMessage where
  sender : String
  message : Message
  messageId : Option String

/-- Is the content there? Only an attachment that was not fetched lacks it. -/
def IncomingMessage.isAttachmentResolved (m : IncomingMessage) : Bool := m.message.isResolved

namespace Client

variable {ω τ : Type}

/-! ### Known keys -/

/-- The client with a key that is kept for ever. -/
def pin (offered : Identity.Candidate) (key : Material) (c : Client τ) :
    Except Failure (Client τ) := do
  let cache ← c.cache.pin offered key
  pure { c with cache := cache }

/-- The client without the key of an identity. -/
def invalidate (offered : Identity.Candidate) (c : Client τ) : Client τ :=
  { c with cache := c.cache.invalidate offered }

/-! ### Messages -/

variable [PartialAdd τ] [LE τ] [DecidableLE τ]

/-- Something done by a client in a world. -/
abbrev Act (τ ω : Type) := EStateM Failure (Client τ × ω)

/-- The public key of an identity, from the cache or by way of it. -/
def publicKeyFor (g : Gateway ω) (clock : ω → τ) (identity : Identity.Candidate) :
    Act τ ω Bytes := fun (c, w) =>
  match KeyCache.publicKeyFor g.keys clock identity (c.cache, w) with
  | .ok key (cache, w)  => .ok key ({ c with cache := cache }, w)
  | .error e (cache, w) => .error e ({ c with cache := cache }, w)

/-- Seals and delivers a message. Nothing is delivered when an upload fails. -/
def send (source : RandomSource ω) (g : Gateway ω) (clock : ω → τ) (offered : Identity.Candidate)
    (m : Message) : Act τ ω SentMessage := do
  let recipient ← Action.ofExcept (Identity.validate offered)
  let key ← publicKeyFor g clock recipient
  let (c, _) ← get
  let envelope ← Action.onSecond
    (m.encrypt source c.keys key c.config.minFrameLength (some g.blobs))
  let messageId ← Action.onSecond (g.deliver recipient envelope)
  pure ⟨messageId, recipient, m⟩

/-- Opens a message as it comes in. With `resolve`, the data of an attachment are fetched. -/
def receive (g : Gateway ω) (clock : ω → τ) (offered : Identity.Candidate) (nonce box : String)
    (messageId : Option String) (resolve : Bool) : Act τ ω IncomingMessage := do
  let envelope ← Action.ofExcept (Envelope.ofHex nonce box)
  let sender ← Action.ofExcept (Identity.validate offered)
  let key ← publicKeyFor g clock sender
  let (c, _) ← get
  let m ← Action.onSecond
    (Message.decrypt envelope key c.keys.privateKey (if resolve then some g.blobs else none))
  pure ⟨sender, m, messageId⟩

end Client

end SealedPost
