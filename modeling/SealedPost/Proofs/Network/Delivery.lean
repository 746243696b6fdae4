import SealedPost.Proofs.Config
import SealedPost.Proofs.Network

/-!
# Networks deliver

Every letter that lies in the outbox is one that its recipient can open, and the blob that it may
need lies in the store. What clients do leaves it so, because they know none but true keys and no
blob loses its place. So every letter can be received at any time, and gives the message that was
sent.
-/

namespace SealedPost.Network

variable {ι ρ τ : Type} {ids : Nat → BlobId} {n₀ n : Network ι ρ τ}

/-! ### What is always true of a network -/

/-- A network in which nothing has been sent: its clients have valid configurations and identities
of their own, which the gateway lists with their keys, and have not looked up any key. -/
structure IsSetUp (n : Network ι ρ τ) : Prop where
  valid : ∀ i, (n.clients i).config.IsValid
  distinct : Function.Injective n.identity
  listed : ∀ i, n.gateway.book.keys.lookup (n.identity i) = some (.octets (n.keys i).publicKey)
  caches : ∀ i, (n.clients i).cache.entries = []
  uploadFault : n.gateway.uploadFault = none
  outbox : n.gateway.outbox = []
  posted : n.posted = []

/-- The keys of the clients under their identities. -/
def Knows (n : Network ι ρ τ) (identity : String) (key : Bytes) : Prop :=
  ∃ i, identity = n.identity i ∧ key = (n.keys i).publicKey

/-- A letter is that of a message: it is for its recipient, who opens it to the message,
and the blob that an attachment needs lies in the store. -/
def IsLetterOf (ids : Nat → BlobId) (n : Network ι ρ τ) (store : BlobStore) (p : Post ι)
    (letter : String × Envelope) : Prop :=
  letter.1 = n.identity p.recipient ∧ ∃ opened,
    Message.open letter.2 (n.keys p.sender).publicKey (n.keys p.recipient).privateKey = .ok opened ∧
      p.message.ComesAs false opened fun data r => r.LeadsTo data (store.Has ids)

theorem IsLetterOf.mono {ids : Nat → BlobId} {n : Network ι ρ τ} {s s' : BlobStore} {p : Post ι}
    {letter : String × Envelope} (h : IsLetterOf ids n s p letter)
    (hs : ∀ id bs, s.Has ids id bs → s'.Has ids id bs) : IsLetterOf ids n s' p letter := by
  obtain ⟨hl, opened, ho, hm⟩ := h
  exact ⟨hl, opened, ho, hm.mono fun data r hr => hr.mono hs⟩

theorem exists_getElem?_of_forall₂ {α β : Type} {R : α → β → Prop} {as : List α} {bs : List β}
    {b : β} {k : Nat} (h : List.Forall₂ R as bs) (hb : bs[k]? = some b) :
    ∃ a, as[k]? = some a ∧ R a b := by
  induction h generalizing k with
  | nil => cases hb
  | cons hab _ ih =>
    cases k with
    | zero =>
      cases hb
      exact ⟨_, rfl, hab⟩
    | succ k => exact ih hb

/-- What is true of a network whatever has happened in it since it was set up. -/
structure Sound (ids : Nat → BlobId) (n₀ n : Network ι ρ τ) : Prop where
  clients : ∀ i, (n₀.clients i).Recaches n₀.Knows (n.clients i)
  keys : n.gateway.book.keys = n₀.gateway.book.keys
  uploadFault : n.gateway.uploadFault = none
  letters : List.Forall₂ (IsLetterOf ids n₀ n.gateway.store) n.posted n.gateway.outbox

theorem IsSetUp.sound (h : n₀.IsSetUp) (ids : Nat → BlobId) : Sound ids n₀ n₀ where
  clients := fun i => ⟨_, rfl, by rw [KeyCache.IsTrue, h.caches i]; exact nofun, rfl⟩
  keys := rfl
  uploadFault := h.uploadFault
  letters := by
    rw [h.posted, h.outbox]
    exact .nil

theorem Sound.identity_eq (h : Sound ids n₀ n) (i : ι) : n.identity i = n₀.identity i := by
  obtain ⟨cache, hc, -⟩ := h.clients i
  rw [identity, hc, identity]

theorem Sound.keys_eq (h : Sound ids n₀ n) (i : ι) : n.keys i = n₀.keys i := by
  obtain ⟨cache, hc, -⟩ := h.clients i
  rw [Network.keys, hc, Network.keys]

/-- A letter in the outbox is that of a message which was posted to the one it is for. -/
theorem Sound.letter (hn : n₀.IsSetUp) (h : Sound ids n₀ n) {place : Nat} {receiver : ι}
    {envelope : Envelope} (hl : n.gateway.outbox[place]? = some (n.identity receiver, envelope)) :
    ∃ p, n.posted[place]? = some p ∧ p.recipient = receiver ∧
      IsLetterOf ids n₀ n.gateway.store p (n.identity receiver, envelope) := by
  obtain ⟨p, hp, hletter⟩ := exists_getElem?_of_forall₂ h.letters hl
  refine ⟨p, hp, hn.distinct ?_, hletter⟩
  rw [← h.identity_eq receiver]
  exact hletter.1.symm

theorem Sound.isTrue (h : Sound ids n₀ n) (i : ι) : (n.clients i).cache.IsTrue n₀.Knows := by
  obtain ⟨cache, hc, hcache, -⟩ := h.clients i
  rw [hc]
  exact hcache

theorem Sound.config_eq (h : Sound ids n₀ n) (i : ι) :
    (n.clients i).config = (n₀.clients i).config := by
  obtain ⟨cache, hc, -⟩ := h.clients i
  rw [hc]

/-! ### Changes that leave a network sound -/

section Changes

variable [DecidableEq ι] {i : ι}

theorem Sound.withClient {c : Client τ} (h : Sound ids n₀ n)
    (hc : (n₀.clients i).Recaches n₀.Knows c) : Sound ids n₀ (n.withClient i c) where
  clients := fun k => by
    show (n₀.clients k).Recaches n₀.Knows (Function.update n.clients i c k)
    by_cases hk : k = i
    · rw [hk, Function.update_self]
      exact hc
    · rw [Function.update_of_ne hk]
      exact h.clients k
  keys := h.keys
  uploadFault := h.uploadFault
  letters := h.letters

theorem Sound.withCache {cache : KeyCache τ} (h : Sound ids n₀ n) (hc : cache.IsTrue n₀.Knows)
    (ht : cache.ttl = (n.clients i).cache.ttl) :
    Sound ids n₀ (n.withClient i { n.clients i with cache := cache }) :=
  h.withClient ((h.clients i).trans ⟨cache, rfl, hc, ht⟩)

theorem Sound.pinned {j : ι} {c : Client τ} (h : Sound ids n₀ n)
    (hpin : (n.clients i).pin (.text (n.identity j)) (.octets (n.keys j).publicKey) = .ok c) :
    Sound ids n₀ (n.withClient i c) := by
  obtain ⟨cache, hcache, hc⟩ := Check.bind_eq_ok_iff.mp hpin
  have hknows : n₀.Knows (n.identity j) (n.keys j).publicKey :=
    ⟨j, h.identity_eq j, by rw [h.keys_eq j]⟩
  obtain ⟨htrue, httl⟩ := (h.isTrue i).pin hknows hcache
  cases hc
  exact h.withCache htrue httl

/-- A client that leaves the contents of the gateway alone leaves everything sound. -/
theorem Sound.settled {v : Client τ × ρ × LocalGateway} (h : Sound ids n₀ n)
    (hc : (n₀.clients i).Recaches n₀.Knows v.1) (hg : n.gateway.SameContents v.2.2) :
    Sound ids n₀ (n.settled i v) where
  clients := (h.withClient hc).clients
  keys := hg.keys.trans h.keys
  uploadFault := hg.uploadFault.trans h.uploadFault
  letters := by
    show List.Forall₂ _ n.posted v.2.2.outbox
    rw [hg.outbox]
    exact h.letters.imp fun p letter hp => hp.mono fun id bs => hg.has

/-- A letter is added that is the one of the message that was sent. -/
theorem Sound.posted {v : Client τ × ρ × LocalGateway} {p : Post ι} {letter : String × Envelope}
    (h : Sound ids n₀ n) (hc : (n₀.clients i).Recaches n₀.Knows v.1)
    (ht : n.gateway.Takes ids letter v.2.2) (hp : IsLetterOf ids n₀ v.2.2.store p letter)
    (hids : v.2.2.store.IdsDiffer ids) :
    Sound ids n₀ { n.settled i v with posted := n.posted ++ [p] } where
  clients := (h.withClient hc).clients
  keys := ht.keys.trans h.keys
  uploadFault := ht.uploadFault.trans h.uploadFault
  letters := by
    show List.Forall₂ _ (n.posted ++ [p]) v.2.2.outbox
    rw [ht.outbox]
    refine List.rel_append ?_ (.cons hp .nil)
    exact h.letters.imp fun q l hq => hq.mono (ht.has hids)

end Changes

/-! ### What a client does in a network -/

section Reach

variable [PartialAdd τ]

/-- A setting serves a network when its source is reliable and whatever a clock shows can be moved
on by the time to live of the cache that it is for. -/
structure Setting.Serves (S : Setting ι ρ τ) (n : Network ι ρ τ) : Prop where
  source : S.source.IsReliable
  expiry : ∀ i r, ∃ t, add? (S.clock i r) (n.clients i).cache.ttl = some t

/-- Seconds in doubles can always be added. -/
theorem Setting.serves_of_real {S : Setting ι ρ Quantity} {n : Network ι ρ Quantity}
    (hs : S.source.IsReliable) (hclock : ∀ i r, ∃ x, S.clock i r = .real x)
    (httl : ∀ i, ∃ x, (n.clients i).cache.ttl = .real x) : S.Serves n where
  source := hs
  expiry := by
    intro i r
    obtain ⟨x, hx⟩ := hclock i r
    obtain ⟨y, hy⟩ := httl i
    rw [hx, hy]
    exact ⟨.real (x + y), rfl⟩

variable {S : Setting ι ρ τ}

theorem Sound.canReach (hn : n₀.IsSetUp) (hS : S.Serves n₀)
    (hk : ∀ i j, (n₀.keys i).Agrees (n₀.keys j)) (h : Sound S.ids n₀ n) (i j : ι) :
    (n.clients i).CanReach n₀.Knows (fun w => S.clock i w.1) n.gateway (n.identity j)
      (n.keys j) := by
  obtain ⟨cache, hc, hcache, httl⟩ := h.clients i
  rw [h.identity_eq j, h.keys_eq j]
  refine ⟨by rw [hc]; exact hcache, ?_, (hn.valid j).1, ⟨j, rfl, rfl⟩, ?_, ?_, ?_⟩
  · intro w
    rw [hc, httl]
    exact hS.expiry i w.1
  · rintro key ⟨k, hid, rfl⟩
    rw [hn.distinct hid]
  · rw [h.keys]
    exact hn.listed j
  · rw [hc]
    exact hk i j

end Reach

variable [PartialAdd τ] [LE τ] [DecidableLE τ] {S : Setting ι ρ τ}

theorem Sound.sending_yields (hn : n₀.IsSetUp) (hS : S.Serves n₀)
    (hk : ∀ i j, (n₀.keys i).Agrees (n₀.keys j)) (h : Sound S.ids n₀ n) (i j : ι) {m : Message}
    (hm : m.IsWellFormed) :
    Action.Yields (n.sending S i j m) (n.view i) fun sent v =>
      sent.recipient = n.identity j ∧ sent.message = m ∧ (n₀.clients i).Recaches n₀.Knows v.1 ∧
        ∃ letter, n.gateway.Takes S.ids letter v.2.2 ∧
          IsLetterOf S.ids n₀ v.2.2.store ⟨i, j, m⟩ letter := by
  have hf := (hn.valid i).2
  rw [← h.config_eq i] at hf
  apply (Client.send_yields hS.source (h.canReach hn hS hk i j) hf hm h.uploadFault).mono
  rintro sent v ⟨hr, hmessage, hc, envelope, opened, htakes, ho, hcomes⟩
  rw [show (n.clients i).keys = n₀.keys i from h.keys_eq i, h.keys_eq j] at ho
  exact ⟨hr, hmessage, (h.clients i).trans hc, (n.identity j, envelope), htakes, h.identity_eq j,
    opened, ho, hcomes⟩

theorem Sound.receiving_yields (hn : n₀.IsSetUp) (hS : S.Serves n₀)
    (hk : ∀ i j, (n₀.keys i).Agrees (n₀.keys j)) (h : Sound S.ids n₀ n) {p : Post ι}
    {addressee : String} {envelope : Envelope}
    (hp : IsLetterOf S.ids n₀ n.gateway.store p (addressee, envelope)) (messageId : Option String)
    (resolve : Bool) :
    Action.Yields (n.receiving S p.recipient p.sender envelope messageId resolve)
      (n.view p.recipient) fun incoming v =>
        incoming.Renders (n.identity p.sender) p.message messageId resolve ∧
          (n₀.clients p.recipient).Recaches n₀.Knows v.1 ∧ n.gateway.SameContents v.2.2 := by
  obtain ⟨-, opened, ho, hcomes⟩ := hp
  rw [← h.keys_eq p.sender, ← h.keys_eq p.recipient] at ho
  refine (Client.receive_yields (h.canReach hn hS hk p.recipient p.sender) ho hcomes messageId
    resolve).mono ?_
  rintro incoming v ⟨hrenders, hc, hg⟩
  exact ⟨hrenders, (h.clients p.recipient).trans hc, hg⟩

/-! ### Events -/

variable [DecidableEq ι]

theorem Sound.sent (hn : n₀.IsSetUp) (hS : S.Serves n₀)
    (hk : ∀ i j, (n₀.keys i).Agrees (n₀.keys j)) (h : Sound S.ids n₀ n) {sender recipient : ι}
    {m : Message} (hm : m.IsWellFormed)
    (hids : (n.after S (.send sender recipient m)).gateway.store.IdsDiffer S.ids) :
    Sound S.ids n₀ (n.after S (.send sender recipient m)) := by
  obtain ⟨sent, v, hrun, -, -, hc, letter, ht, hl⟩ :=
    h.sending_yields hn hS hk sender recipient hm
  simp only [Network.after, hrun] at hids ⊢
  exact h.posted hc ht hl hids

theorem Sound.received (hn : n₀.IsSetUp) (hS : S.Serves n₀)
    (hk : ∀ i j, (n₀.keys i).Agrees (n₀.keys j)) (h : Sound S.ids n₀ n) (receiver : ι)
    (place : Nat) (messageId : Option String) (resolve : Bool) :
    Sound S.ids n₀ (n.after S (.receive receiver place messageId resolve)) := by
  simp only [Network.after]
  split
  case h_2 => exact h
  case h_1 addressee envelope p hl hp =>
    split
    case isFalse => exact h
    case isTrue haddressee =>
      rw [haddressee] at hl
      -- the message that the letter is of is the one posted in its place
      obtain ⟨q, hq, rfl, hletter⟩ := h.letter hn hl
      obtain rfl : p = q := Option.some.inj (hp.symm.trans hq)
      obtain ⟨incoming, v, hrun, -, hc, hg⟩ :=
        h.receiving_yields hn hS hk hletter messageId resolve
      rw [hrun]
      exact h.settled hc hg

/-- Nothing that can happen in a network makes it unsound. -/
theorem Sound.after (hn : n₀.IsSetUp) (hS : S.Serves n₀)
    (hk : ∀ i j, (n₀.keys i).Agrees (n₀.keys j)) (h : Sound S.ids n₀ n) {e : Event ι ρ}
    (he : e.IsAllowed) (hids : (n.after S e).gateway.store.IdsDiffer S.ids) :
    Sound S.ids n₀ (n.after S e) := by
  cases e with
  | send sender recipient m => exact h.sent hn hS hk he hids
  | receive receiver place messageId resolve =>
    exact h.received hn hS hk receiver place messageId resolve
  | elapse around => exact ⟨h.clients, h.keys, h.uploadFault, h.letters⟩
  | pin holder owner =>
    simp only [Network.after]
    split
    case h_1 c hpin => exact h.pinned hpin
    case h_2 => exact h
  | invalidate holder offered =>
    exact h.withCache ((h.isTrue holder).invalidate offered) (KeyCache.ttl_invalidate _ _)
  | clear holder => exact h.withCache (KeyCache.isTrue_clear _ _) rfl
  | prune holder => exact h.withCache ((h.isTrue holder).prune _) rfl

theorem Run.sound (hn : n₀.IsSetUp) (hS : S.Serves n₀)
    (hk : ∀ i j, (n₀.keys i).Agrees (n₀.keys j)) (h : Run S n₀ n) : Sound S.ids n₀ n := by
  induction h with
  | start => exact hn.sound S.ids
  | step e _ he hids ih => exact ih.after hn hS hk he hids

/-- In a network every well-formed message can be sent, and every letter in the outbox can be
received by the one it is for and renders the message that was posted in its place. -/
structure Delivers (S : Setting ι ρ τ) (n : Network ι ρ τ) : Prop where
  send : ∀ i j m, m.IsWellFormed → Action.Yields (n.sending S i j m) (n.view i) fun sent _ =>
    sent.recipient = n.identity j ∧ sent.message = m
  receive : ∀ (place : Nat) receiver envelope,
    n.gateway.outbox[place]? = some (n.identity receiver, envelope) →
    ∃ p : Post ι, n.posted[place]? = some p ∧ p.recipient = receiver ∧ ∀ messageId resolve,
      Action.Yields (n.receiving S receiver p.sender envelope messageId resolve) (n.view receiver)
        fun incoming _ => incoming.Renders (n.identity p.sender) p.message messageId resolve

/-- A network delivers whatever has happened in it, in whatever order, since it was set up. -/
theorem delivers_of_run (hn : n₀.IsSetUp) (hS : S.Serves n₀)
    (hk : ∀ i j, (n₀.keys i).Agrees (n₀.keys j)) (h : Run S n₀ n) : n.Delivers S := by
  have hsound := h.sound hn hS hk
  constructor
  · intro i j m hm
    apply (hsound.sending_yields hn hS hk i j hm).mono
    rintro sent _ ⟨hrecipient, hmessage, -⟩
    exact ⟨hrecipient, hmessage⟩
  · intro place receiver envelope hl
    obtain ⟨p, hp, rfl, hletter⟩ := hsound.letter hn hl
    refine ⟨p, hp, rfl, ?_⟩
    intro messageId resolve
    apply (hsound.receiving_yields hn hS hk hletter messageId resolve).mono
    rintro incoming _ ⟨hrenders, -, -⟩
    exact hrenders

/-! ### Two clients -/

/-- A gateway that lists two identities, with a client for each. Keys are cached for a day. -/
def pair : Network Bool Nat Quantity where
  clients b :=
    let keys := KeyPair.uniform (if b then 2 else 1)
    ⟨⟨if b then "BOBBOB42" else "*ALICE01", "", Config.defaultApiUrl, if b then 256 else 0, none⟩,
      keys, .empty KeyCache.defaultTtl⟩
  around := 0
  gateway := { LocalGateway.empty with
    book := ⟨[("*ALICE01", .octets (KeyPair.uniform 1).publicKey),
      ("BOBBOB42", .octets (KeyPair.uniform 2).publicKey)], 0⟩ }
  posted := []

/-- Two clients with one clock, which shows the number of draws as a double. -/
def Setting.numbered : Setting Bool Nat Quantity :=
  ⟨RandomSource.numbered, BlobStore.counted, fun _ draws => .real draws.toFloat⟩

theorem isSetUp_pair : pair.IsSetUp where
  valid := by intro b; cases b <;> exact ⟨by decide, by decide⟩
  distinct := by intro a b h; revert h; cases a <;> cases b <;> decide
  listed := by intro b; cases b <;> rfl
  caches := by intro b; rfl
  uploadFault := rfl
  outbox := rfl
  posted := rfl

theorem serves_pair : Setting.numbered.Serves pair :=
  Setting.serves_of_real RandomSource.isReliable_numbered (fun _ _ => ⟨_, rfl⟩) fun _ => ⟨_, rfl⟩

theorem agrees_pair (a b : Bool) : (pair.keys a).Agrees (pair.keys b) := by
  cases a <;> cases b
  · exact KeyPair.agrees_of_eq (by decide +kernel) rfl
  · exact KeyPair.agrees_uniform
  · exact KeyPair.agrees_uniform.symm
  · exact KeyPair.agrees_of_eq (by decide +kernel) rfl

/-- An image is sent, its sender's key is pinned, time passes, and the image is received. -/
theorem delivers_of_run_image :
    ∃ n, pair.IsSetUp ∧ Setting.numbered.Serves pair ∧
      (∀ i j, (pair.keys i).Agrees (pair.keys j)) ∧ Run Setting.numbered pair n ∧
      n.gateway.outbox.length = 1 ∧ n.gateway.store.downloads = 1 ∧
      n.Delivers Setting.numbered := by
  have h₀ : Run Setting.numbered pair pair := .start
  have h₁ := h₀.step (.send false true (.attachment ⟨.image, some [1, 2, 3], none⟩))
    ⟨rfl, trivial⟩ (BlobStore.idsDiffer_of_issued_le_one _ (by decide +kernel))
  have h₂ := h₁.step (.pin true false) trivial
    (BlobStore.idsDiffer_of_issued_le_one _ (by decide +kernel))
  have h₃ := h₂.step (.elapse 1000) trivial
    (BlobStore.idsDiffer_of_issued_le_one _ (by decide +kernel))
  have h₄ := h₃.step (.receive true 0 none true) trivial
    (BlobStore.idsDiffer_of_issued_le_one _ (by decide +kernel))
  exact ⟨_, isSetUp_pair, serves_pair, agrees_pair, h₄, by decide +kernel, by decide +kernel,
    delivers_of_run isSetUp_pair serves_pair agrees_pair h₄⟩

end SealedPost.Network
