import SealedPost.Client
import SealedPost.Proofs.KeyCache
import SealedPost.Proofs.LocalGateway
import SealedPost.Proofs.Message.RoundTrip
import SealedPost.Proofs.Envelope

/-!
# Clients of a local gateway

A client whose cache is true to what is known of keys sends and receives without fail over a local
gateway that lists the same keys. What it sends comes to lie in the outbox, and what is received
from there is what was sent.
-/

namespace SealedPost

/-! ### Incoming messages -/

/-- An incoming message is the one that was sent: the same where attachments were to be fetched, and
otherwise without the data of an attachment and with its reference. -/
structure IncomingMessage.Renders (sender : String) (m : Message) (messageId : Option String)
    (resolve : Bool) (incoming : IncomingMessage) : Prop where
  sender : incoming.sender = sender
  messageId : incoming.messageId = messageId
  resolved : resolve = true → incoming.message.same m = true
  unresolved : resolve = false → m.ComesAs false incoming.message fun _ _ => True
  isAttachmentResolved : incoming.isAttachmentResolved = false ↔
    m.isAttachment = true ∧ resolve = false

theorem IncomingMessage.renders_of_comesAs {m arrived : Message} {resolve : Bool}
    {R : Bytes → BlobReference → Prop} (sender : String) (messageId : Option String)
    (h : m.ComesAs resolve arrived R) :
    Renders sender m messageId resolve ⟨sender, arrived, messageId⟩ where
  sender := rfl
  messageId := rfl
  resolved := by
    rintro rfl
    exact h.same
  unresolved := by
    rintro rfl
    exact h.mono fun _ _ _ => trivial
  isAttachmentResolved := by
    rw [IncomingMessage.isAttachmentResolved, h.isResolved]
    cases resolve <;> simp

namespace Client

variable {ρ τ : Type}

/-! ### Any gateway -/

section AnyGateway

variable {ω : Type} [PartialAdd τ] [LE τ] [DecidableLE τ] {g : Gateway ω} {clock : ω → τ}
  {c : Client τ} {w : ω}

theorem publicKeyFor_of_fresh {identity : String} {key : Bytes}
    (hi : Identity.isWellFormed identity = true)
    (hf : c.cache.fresh? (clock w) identity = some key) :
    publicKeyFor g clock (.text identity) (c, w) = .ok key (c, w) := by
  rw [publicKeyFor, KeyCache.publicKeyFor_of_fresh hi hf]

/-- What becomes of a client that asks for a key is what becomes of its cache. -/
theorem publicKeyFor_endsIn {offered : Identity.Candidate} {Q : Bytes → KeyCache τ × ω → Prop}
    {E : KeyCache τ × ω → Prop}
    (h : Action.EndsIn (KeyCache.publicKeyFor g.keys clock offered) (c.cache, w) Q E) :
    Action.EndsIn (publicKeyFor g clock offered) (c, w)
      (fun key s => ∃ cache, s.1 = { c with cache := cache } ∧ Q key (cache, s.2))
      fun s => ∃ cache, s.1 = { c with cache := cache } ∧ E (cache, s.2) := by
  cases hx : KeyCache.publicKeyFor g.keys clock offered (c.cache, w) with
  | ok key s =>
    have hrun : publicKeyFor g clock offered (c, w) = .ok key ({ c with cache := s.1 }, s.2) := by
      rw [publicKeyFor]
      simp only [hx]
    rw [Action.endsIn_of_ok hrun]
    exact ⟨s.1, rfl, h.ok hx⟩
  | error e s =>
    have hrun : publicKeyFor g clock offered (c, w) = .error e ({ c with cache := s.1 }, s.2) := by
      rw [publicKeyFor]
      simp only [hx]
    rw [Action.endsIn_of_error hrun]
    exact ⟨s.1, rfl, h.error hx⟩

variable {K : Bytes → Client τ × ω → Prop} {E : Client τ × ω → Prop} {identity : String}
  {s : Client τ × ω}

/-- A send ends as its three parts do: to know the key, to seal and to deliver. -/
theorem send_endsIn {source : RandomSource ω} {m : Message} {S : Envelope → Client τ × ω → Prop}
    {D : String → Client τ × ω → Prop} (hi : Identity.isWellFormed identity = true)
    (hkey : Action.EndsIn (publicKeyFor g clock (.text identity)) s K E)
    (hseal : ∀ key c w, K key (c, w) →
      (m.encrypt source c.keys key c.config.minFrameLength (some g.blobs)).EndsIn w
        (fun envelope w' => S envelope (c, w')) fun w' => E (c, w'))
    (hdeliver : ∀ envelope c w, S envelope (c, w) →
      (g.deliver identity envelope).EndsIn w (fun id w' => D id (c, w')) fun w' => E (c, w')) :
    Action.EndsIn (send source g clock (.text identity) m) s
      (fun sent s' => ∃ id, sent = ⟨id, identity, m⟩ ∧ D id s') E := by
  rw [send, Identity.validate_text hi, Action.ofExcept_ok_bind]
  apply hkey.bind
  rintro key ⟨c, w⟩ hk
  refine Action.EndsIn.get_bind ?_
  apply (hseal key c w hk).onSecond.bind
  rintro envelope ⟨c, w⟩ hs
  apply (hdeliver envelope c w hs).onSecond.bind
  intro id s' hd
  exact Action.EndsIn.pure ⟨id, rfl, hd⟩

/-- An envelope that can be read is received as its two parts end: to know the key and to open. -/
theorem receive_endsIn {nonce box : String} {envelope : Envelope} {messageId : Option String}
    {resolve : Bool} {D : Message → Client τ × ω → Prop}
    (hi : Identity.isWellFormed identity = true) (he : Envelope.ofHex nonce box = .ok envelope)
    (hkey : Action.EndsIn (publicKeyFor g clock (.text identity)) s K E)
    (hopen : ∀ key c w, K key (c, w) →
      (Message.decrypt envelope key c.keys.privateKey
        (if resolve then some g.blobs else none)).EndsIn w
        (fun m w' => D m (c, w')) fun w' => E (c, w')) :
    Action.EndsIn (receive g clock (.text identity) nonce box messageId resolve) s
      (fun incoming s' => ∃ m, incoming = ⟨identity, m, messageId⟩ ∧ D m s') E := by
  rw [receive, he, Action.ofExcept_ok_bind, Identity.validate_text hi, Action.ofExcept_ok_bind]
  apply hkey.bind
  rintro key ⟨c, w⟩ hk
  refine Action.EndsIn.get_bind ?_
  apply (hopen key c w hk).onSecond.bind
  intro m s' hd
  exact Action.EndsIn.pure ⟨m, rfl, hd⟩

end AnyGateway

/-! ### Clients and the keys they know -/

/-- The client with another cache, which is true and has the same time to live. -/
def Recaches (known : String → Bytes → Prop) (c c' : Client τ) : Prop :=
  ∃ cache : KeyCache τ, c' = { c with cache := cache } ∧ cache.IsTrue known ∧
    cache.ttl = c.cache.ttl

theorem Recaches.trans {known : String → Bytes → Prop} {c c' c'' : Client τ}
    (h : Recaches known c c') (h' : Recaches known c' c'') : Recaches known c c'' := by
  obtain ⟨cache, rfl, -, ht⟩ := h
  obtain ⟨cache', rfl, hc', ht'⟩ := h'
  exact ⟨cache', rfl, hc', ht'.trans ht⟩

/-- What a client needs in order to deal with another party over a gateway: its cache is true, what
is known of the other's identity is the key in the gateway's book, and the two agree on a shared
key. Every time of expiry must exist. -/
structure CanReach [PartialAdd τ] (known : String → Bytes → Prop) (clock : ρ × LocalGateway → τ)
    (c : Client τ) (g : LocalGateway) (identity : String) (other : KeyPair) : Prop where
  cache : c.cache.IsTrue known
  expiry : ∀ w, ∃ t, add? (clock w) c.cache.ttl = some t
  wellFormed : Identity.isWellFormed identity = true
  isKnown : known identity other.publicKey
  unique : ∀ key, known identity key → key = other.publicKey
  listed : g.book.keys.lookup identity = some (.octets other.publicKey)
  agrees : c.keys.Agrees other

variable [PartialAdd τ] [LE τ] [DecidableLE τ] {known : String → Bytes → Prop}
  {clock : ρ × LocalGateway → τ} {ids : Nat → BlobId} {c : Client τ} {r : ρ} {g : LocalGateway}
  {identity : String} {other : KeyPair} {m : Message}

theorem publicKeyFor_yields (h : c.CanReach known clock g identity other) :
    Action.Yields (publicKeyFor (LocalGateway.gatewayFrom ids).onSecond clock (.text identity))
      (c, r, g) fun key cw =>
        key = other.publicKey ∧ c.Recaches known cw.1 ∧ g.SameContents cw.2.2 := by
  have hd := (LocalGateway.publicKeyFor_yields ids h.listed).onSecond r
  have hkey : Action.Yields
      (KeyCache.publicKeyFor (LocalGateway.gatewayFrom ids).onSecond.keys clock (.text identity))
      (c.cache, r, g) fun key cw => key = other.publicKey ∧ cw.1.IsTrue known ∧
        cw.1.ttl = c.cache.ttl ∧ g.SameContents cw.2.2 :=
    KeyCache.publicKeyFor_yields (P := fun w => g.SameContents w.2) h.wellFormed h.cache h.isKnown
      h.unique other.length_publicKey (.refl g) (hd.mono fun _ _ hm => hm.2) h.expiry
  obtain ⟨key, ⟨cache, w⟩, hrun, hother, hc, ht, hg⟩ := hkey
  refine ⟨key, ({ c with cache := cache }, w), ?_, hother, ⟨cache, rfl, hc, ht⟩, hg⟩
  rw [publicKeyFor]
  simp only [hrun]

/-! ### Sending -/

/-- What is left behind by sealing a message: the gateway takes the letter, and the blob that an
attachment needs lies in it. -/
theorem takes_of_comesAs {g₁ : LocalGateway} {opened : Message} (letter : String × Envelope)
    (hc : m.ComesAs false opened fun data r => r.LeadsTo data fun id box =>
      id = ids g.store.issued ∧ LocalGateway.SameContents (g.keeping ids box) g₁)
    (hsame : m.isAttachment = false → g.SameContents g₁) :
    g.Takes ids letter (g₁.taking letter) ∧
      m.ComesAs false opened fun data r => r.LeadsTo data ((g₁.taking letter).store.Has ids) := by
  cases m with
  | text s => exact ⟨(hsame rfl).takes ids letter, hc⟩
  | receipt receiptType messageIds => exact ⟨(hsame rfl).takes ids letter, hc⟩
  | attachment a =>
    obtain ⟨data, r, ha, ⟨id, box, hr, hid, hd, rfl, hkept⟩, rfl⟩ := hc
    refine ⟨hkept.takes_keeping letter, data, r, ha, ⟨_, box, hr, hid, hd, ?_⟩, rfl⟩
    exact hkept.has (BlobStore.has_kept ids g.store box)

/-- A message that is sent comes to lie in the outbox, in an envelope that the recipient opens. -/
theorem send_yields {source : RandomSource ρ} (hs : source.IsReliable)
    (h : c.CanReach known clock g identity other)
    (hf : 0 ≤ c.config.minFrameLength ∧ c.config.minFrameLength ≤ Frame.maxFloor)
    (hm : m.IsWellFormed) (hfault : g.uploadFault = none) :
    Action.Yields
      (send source.onFirst (LocalGateway.gatewayFrom ids).onSecond clock (.text identity) m)
      (c, r, g) fun sent cw =>
        sent.recipient = identity ∧ sent.message = m ∧ c.Recaches known cw.1 ∧
        ∃ envelope opened, g.Takes ids (identity, envelope) cw.2.2 ∧
          Message.open envelope c.keys.publicKey other.privateKey = .ok opened ∧
          m.ComesAs false opened fun data r => r.LeadsTo data (cw.2.2.store.Has ids) := by
  rw [send, Identity.validate_text h.wellFormed, Action.ofExcept_ok_bind]
  apply (publicKeyFor_yields h).bind
  rintro _ ⟨_, r₁, g₁⟩ ⟨rfl, ⟨cache, rfl, hc, ht⟩, hg⟩
  refine Action.Yields.get_bind ?_
  have henvelope := Message.encrypt_yields hs.onFirst (LocalGateway.accepts ids source hfault) hg
    h.agrees hf hm
  apply (henvelope.onSecond _).bind
  rintro envelope ⟨_, r₂, g₂⟩ ⟨rfl, ⟨opened, ho, hcomes⟩, hsame⟩
  apply (((LocalGateway.deliver_yields ids identity envelope).onSecond r₂).onSecond _).bind
  rintro messageId ⟨_, _, _⟩ ⟨rfl, rfl, rfl⟩
  obtain ⟨htakes, hhas⟩ :=
    takes_of_comesAs (identity, envelope) (hcomes.mono fun _ _ h => h.2) hsame
  exact Action.Yields.pure ⟨rfl, rfl, ⟨cache, rfl, hc, ht⟩, envelope, opened, htakes, ho, hhas⟩

/-! ### Receiving -/

/-- The data of an attachment are fetched from the gateway, which holds the same afterwards. -/
theorem resolve_yields {opened : Message} {g₁ : LocalGateway}
    (hm : m.ComesAs false opened fun data r => r.LeadsTo data (g.store.Has ids)) (r : ρ)
    (hg : g.SameContents g₁) :
    (opened.resolve (LocalGateway.gatewayFrom ids).onSecond.blobs).Yields (r, g₁) fun arrived w =>
      m.ComesAs true arrived (fun data r => r.LeadsTo data (g.store.Has ids)) ∧
        g.SameContents w.2 := by
  refine hm.resolve_yields hg ?_
  intro data reference hr
  apply hr.mono
  intro id box hb
  apply ((LocalGateway.download_yields (hg.has hb)).onSecond r).mono
  rintro found w ⟨-, hfound, hw⟩
  exact ⟨hfound, hg.trans hw⟩

/-- A message is received from its envelope, with the data of an attachment only if they are asked
for. -/
theorem receive_yields {envelope : Envelope} {opened : Message}
    (h : c.CanReach known clock g identity other)
    (ho : Message.open envelope other.publicKey c.keys.privateKey = .ok opened)
    (hm : m.ComesAs false opened fun data r => r.LeadsTo data (g.store.Has ids))
    (messageId : Option String) (resolve : Bool) :
    Action.Yields (receive (LocalGateway.gatewayFrom ids).onSecond clock (.text identity)
      envelope.toHex.1 envelope.toHex.2 messageId resolve) (c, r, g) fun incoming cw =>
        incoming.Renders identity m messageId resolve ∧ c.Recaches known cw.1 ∧
          g.SameContents cw.2.2 := by
  rw [receive, Envelope.ofHex_toHex, Action.ofExcept_ok_bind, Identity.validate_text h.wellFormed,
    Action.ofExcept_ok_bind]
  apply (publicKeyFor_yields h).bind
  rintro _ ⟨_, r₁, g₁⟩ ⟨rfl, ⟨cache, rfl, hc, ht⟩, hg⟩
  refine Action.Yields.get_bind ?_
  simp only [Message.decrypt, ho, Action.ofExcept_ok_bind]
  cases resolve with
  | false =>
    exact Action.Yields.pure
      ⟨IncomingMessage.renders_of_comesAs identity messageId hm, ⟨cache, rfl, hc, ht⟩, hg⟩
  | true =>
    apply ((resolve_yields hm r₁ hg).onSecond _).bind
    rintro arrived ⟨_, w⟩ ⟨rfl, harrived, hw⟩
    exact Action.Yields.pure
      ⟨IncomingMessage.renders_of_comesAs identity messageId harrived, ⟨cache, rfl, hc, ht⟩, hw⟩

end Client

end SealedPost
