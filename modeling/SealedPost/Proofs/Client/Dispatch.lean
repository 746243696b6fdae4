import SealedPost.Proofs.Client
import SealedPost.Proofs.Connection
import SealedPost.Proofs.Message.Sealing

/-!
# The requests of a send

To send a message over a connection takes a lookup, unless the key of the recipient is cached, then
an upload, if the message is an attachment, and then the delivery. Each of them is made at most
once, and not before all that comes before it has succeeded. The message is sent exactly if the
delivery is answered with the status 200, and all that the client can have learnt is the key it
looked up.
-/

namespace SealedPost

/-- What is requested to send a message. -/
inductive Leg where
  | lookup
  | upload
  | delivery
  deriving DecidableEq

/-- A message that a client is about to send over a connection, at some time. -/
structure Dispatch (ω τ : Type) where
  connection : Connection ω
  client : Client τ
  now : τ
  recipient : String
  message : Message

namespace Dispatch

variable {ω τ : Type}

/-! ### Legs -/

/-- The method and the address of a leg. -/
def line (d : Dispatch ω τ) : Leg → Method × String
  | .lookup   => (.get, d.connection.config.apiUrl ++ ("/pubkeys/" ++ d.recipient))
  | .upload   => (.post, d.connection.config.apiUrl ++ "/upload_blob")
  | .delivery => (.post, d.connection.config.apiUrl ++ "/send_e2e")

theorem line_injective (d : Dispatch ω τ) : Function.Injective d.line := by
  intro a b h
  -- The lookup has a method of its own; the two others differ in their paths alone.
  have hposts : d.connection.config.apiUrl ++ "/upload_blob" ≠
      d.connection.config.apiUrl ++ "/send_e2e" := by
    rw [Ne, ← String.toList_inj, String.toList_append, String.toList_append, List.append_right_inj]
    decide
  cases a <;> cases b <;> simp_all [line]

@[simp] theorem line_lookupRequest (d : Dispatch ω τ) (answer : Except Failure Response) :
    Exchange.line ⟨d.connection.lookupRequest d.recipient, answer⟩ = d.line .lookup := rfl

@[simp] theorem line_uploadRequest (d : Dispatch ω τ) (bs : Bytes)
    (answer : Except Failure Response) :
    Exchange.line ⟨d.connection.uploadRequest bs, answer⟩ = d.line .upload := rfl

@[simp] theorem line_deliveryRequest (d : Dispatch ω τ) (envelope : Envelope)
    (answer : Except Failure Response) :
    Exchange.line ⟨d.connection.deliveryRequest d.recipient envelope, answer⟩ = d.line .delivery :=
  rfl

/-! ### Deliveries -/

/-- The message was delivered with this answer. -/
def Delivers (d : Dispatch ω τ) (r : Response) (log : List Exchange) : Prop :=
  r.status = 200 ∧ ∃ envelope, ⟨d.connection.deliveryRequest d.recipient envelope, .ok r⟩ ∈ log

section Delivers

variable {d : Dispatch ω τ} {log : List Exchange} {r : Response}

theorem delivers_append (hs : r.status = 200) (log : List Exchange) (envelope : Envelope) :
    d.Delivers r (log ++ [⟨d.connection.deliveryRequest d.recipient envelope, .ok r⟩]) :=
  ⟨hs, envelope, List.mem_append_right _ (List.mem_singleton_self _)⟩

theorem not_delivers_nil (d : Dispatch ω τ) (r : Response) : ¬ d.Delivers r [] := by
  rintro ⟨-, envelope, hmem⟩
  cases hmem

theorem not_delivers_append {request : Request} {answer : Except Failure Response}
    (h : ¬ d.Delivers r log)
    (hr : ∀ envelope, request = d.connection.deliveryRequest d.recipient envelope →
      answer = .ok r → r.status ≠ 200) : ¬ d.Delivers r (log ++ [⟨request, answer⟩]) := by
  rintro ⟨hs, envelope, hmem⟩
  rcases List.mem_append.mp hmem with hmem | hmem
  · exact h ⟨hs, envelope, hmem⟩
  · rw [List.mem_singleton, Exchange.mk.injEq] at hmem
    exact hr envelope hmem.1.symm hmem.2.symm hs

end Delivers

/-! ### How far a send can come -/

variable [LE τ] [DecidableLE τ]

/-- The key of the recipient, if it is cached and fresh. -/
def cached? (d : Dispatch ω τ) : Option Bytes := d.client.cache.fresh? d.now d.recipient

/-- The legs in their order. -/
def legs (d : Dispatch ω τ) : List Leg :=
  (if d.cached?.isSome then [] else [.lookup]) ++
    (if d.message.isAttachment then [.upload] else []) ++ [.delivery]

theorem nodup_legs (d : Dispatch ω τ) : d.legs.Nodup := by
  unfold legs
  cases d.cached?.isSome <;> cases d.message.isAttachment <;> decide

/-- The exchanges after which the key of the recipient is known. -/
inductive Knows (d : Dispatch ω τ) (key : Bytes) : List Exchange → Prop where
  | cached (h : d.cached? = some key) : Knows d key []
  | fetched {r : Response} (h : d.cached? = none) (hs : r.status = 200)
      (hk : Key.ofHex r.text = .ok key) :
      Knows d key [⟨d.connection.lookupRequest d.recipient, .ok r⟩]

/-- The exchanges after which an envelope of the message is sealed; for an attachment, with a
reference to the blob that its data were uploaded to. -/
inductive Seals (d : Dispatch ω τ) (envelope : Envelope) : List Exchange → Prop where
  | plain {key : Bytes} {log : List Exchange} (h : d.Knows key log)
      (hm : d.message.isAttachment = false)
      (he : envelope.Holds key d.client.keys.privateKey d.message) : Seals d envelope log
  | attachment {key data blobKey nonce : Bytes} {log : List Exchange} {a : Attachment}
      {id : BlobId} {r : Response} (h : d.Knows key log) (hm : d.message = .attachment a)
      (hd : a.data = some data) (hs : r.status = 200) (hid : BlobId.ofHex (strip r.text) = .ok id)
      (he : envelope.Holds key d.client.keys.privateKey
        (.attachment ⟨a.kind, none, some ⟨.octets blobKey, .octets nonce, some id⟩⟩)) :
      Seals d envelope
        (log ++ [⟨d.connection.uploadRequest (SecretBox.seal blobKey nonce data), .ok r⟩])

/-- All exchanges that a send can have made. What the last of them was answered with is left open;
those before it were such that it could be made. -/
inductive Makes (d : Dispatch ω τ) : List Exchange → Prop where
  | nothing : Makes d []
  | lookup (h : d.cached? = none) (answer : Except Failure Response) :
      Makes d [⟨d.connection.lookupRequest d.recipient, answer⟩]
  | upload {key data : Bytes} {log : List Exchange} {a : Attachment} (h : d.Knows key log)
      (hm : d.message = .attachment a) (hd : a.data = some data) (blobKey nonce : Bytes)
      (answer : Except Failure Response) :
      Makes d (log ++ [⟨d.connection.uploadRequest (SecretBox.seal blobKey nonce data), answer⟩])
  | delivery {envelope : Envelope} {log : List Exchange} (h : d.Seals envelope log)
      (answer : Except Failure Response) :
      Makes d (log ++ [⟨d.connection.deliveryRequest d.recipient envelope, answer⟩])

/-- The client as it was, or with the key that was looked up in the place of the one it had. -/
def Leaves (d : Dispatch ω τ) (log : List Exchange) (c : Client τ) : Prop :=
  c = d.client ∨ d.cached? = none ∧ ∃ r key t, r.status = 200 ∧ Key.ofHex r.text = .ok key ∧
    log.head? = some ⟨d.connection.lookupRequest d.recipient, .ok r⟩ ∧
    c = { d.client with cache := d.client.cache.insert d.recipient ⟨key, some t⟩ }

/-- What holds of the exchanges of a send and of the client after it. -/
structure Accounts (d : Dispatch ω τ) (log : List Exchange) (c : Client τ) : Prop where
  inOrder : log.map Exchange.line <+: d.legs.map d.line
  nodup : (log.map Exchange.line).Nodup
  makes : d.Makes log
  leaves : d.Leaves log c

variable {d : Dispatch ω τ} {key : Bytes} {envelope : Envelope} {log : List Exchange} {c : Client τ}

/-! ### Exchanges and legs -/

theorem Knows.map_line (h : d.Knows key log) :
    log.map Exchange.line = (if d.cached?.isSome then [] else [Leg.lookup]).map d.line := by
  cases h with
  | cached h => simp [h]
  | fetched h hs hk => simp [h]

theorem Seals.map_line (h : d.Seals envelope log) :
    log.map Exchange.line = ((if d.cached?.isSome then [] else [Leg.lookup]) ++
      if d.message.isAttachment then [Leg.upload] else []).map d.line := by
  cases h with
  | plain h hm he => simp [h.map_line, hm]
  | attachment h hm hd hs hid he => simp [h.map_line, hm, Message.isAttachment]

theorem Makes.isPrefix (h : d.Makes log) : log.map Exchange.line <+: d.legs.map d.line := by
  cases h with
  | nothing => exact List.nil_prefix
  | lookup h answer => simp [legs, h]
  | upload h hm hd blobKey nonce answer => simp [legs, h.map_line, hm, Message.isAttachment]
  | delivery h answer => simp [legs, h.map_line]

theorem Makes.accounts (h : d.Makes log) (hl : d.Leaves log c) : d.Accounts log c where
  inOrder := h.isPrefix
  nodup := (d.nodup_legs.map d.line_injective).sublist h.isPrefix.sublist
  makes := h
  leaves := hl

theorem Knows.makes (h : d.Knows key log) : d.Makes log := by
  cases h with
  | cached h => exact .nothing
  | fetched h hs hk => exact .lookup h _

theorem Knows.not_delivers (h : d.Knows key log) (r : Response) : ¬ d.Delivers r log := by
  cases h with
  | cached h => exact d.not_delivers_nil r
  | fetched h hs hk =>
    apply not_delivers_append (d.not_delivers_nil r)
    intro envelope he
    cases congrArg Request.method he

theorem Seals.not_delivers (h : d.Seals envelope log) (r : Response) : ¬ d.Delivers r log := by
  cases h with
  | plain h hm he => exact h.not_delivers r
  | attachment h hm hd hs hid he =>
    apply not_delivers_append (h.not_delivers r)
    intro envelope he
    cases congrArg Request.query he

/-! ### The client -/

theorem Leaves.append (h : d.Leaves log c) (more : List Exchange) : d.Leaves (log ++ more) c := by
  rcases h with rfl | ⟨hn, r, key, t, hs, hk, hlog, rfl⟩
  · exact .inl rfl
  · refine .inr ⟨hn, r, key, t, hs, hk, ?_, rfl⟩
    rw [List.head?_append, hlog, Option.some_or]

theorem Leaves.keys_eq (h : d.Leaves log c) : c.keys = d.client.keys := by
  rcases h with rfl | ⟨-, r, key, t, -, -, -, rfl⟩ <;> rfl

end Dispatch

/-- An upload over a connection is one exchange, and its answer spells the id. -/
theorem Connection.uploads {ω : Type} (conn : Connection ω) (source : RandomSource ω)
    (log : List Exchange) :
    conn.observed.gateway.blobs.Uploads source.onFirst (fun w => w.2 = log)
      (fun id bs w => ∃ r i, r.status = 200 ∧ BlobId.ofHex (strip r.text) = .ok i ∧ id = some i ∧
        w.2 = log ++ [⟨conn.uploadRequest bs, .ok r⟩])
      fun bs w => ∃ answer, w.2 = log ++ [⟨conn.uploadRequest bs, answer⟩] where
  before := source.leaves_onFirst (· = log)
  upload := by
    rintro bs ⟨w, _⟩ rfl
    apply ((conn.uploadBlob_endsIn bs w _).map some).mono
    · rintro _ w' ⟨i, rfl, r, hs, hi, hlog⟩
      exact ⟨r, i, hs, hi, rfl, hlog⟩
    · exact fun _ => id
  after id bs := source.leaves_onFirst fun log' => ∃ r i, r.status = 200 ∧
    BlobId.ofHex (strip r.text) = .ok i ∧ id = some i ∧
      log' = log ++ [⟨conn.uploadRequest bs, .ok r⟩]
  weaken := by
    rintro _ bs w ⟨r, i, -, -, -, hlog⟩
    exact ⟨.ok r, hlog⟩

namespace Client

variable {ω τ : Type} [LE τ] [DecidableLE τ] {d : Dispatch ω τ} {clock : ω → τ} {w : ω}
  {c : Client τ} {key : Bytes} {log : List Exchange}

/-! ### The parts of a send -/

/-- The key comes from the cache without a request, or by a lookup. -/
theorem publicKeyFor_knows [PartialAdd τ] (hn : clock w = d.now)
    (hi : Identity.isWellFormed d.recipient = true) :
    Action.EndsIn
      (publicKeyFor d.connection.observed.gateway (clock ∘ Prod.fst) (.text d.recipient))
      (d.client, w, []) (fun key s => d.Knows key s.2.2 ∧ d.Leaves s.2.2 s.1)
      fun s => d.Accounts s.2.2 s.1 ∧ ∀ r, ¬ d.Delivers r s.2.2 := by
  have hcached : d.client.cache.fresh? ((clock ∘ Prod.fst) (w, ([] : List Exchange))) d.recipient =
      d.cached? := by
    rw [Dispatch.cached?, ← hn]
    rfl
  cases hf : d.cached? with
  | some key =>
    rw [Action.endsIn_of_ok (publicKeyFor_of_fresh hi (hcached.trans hf))]
    exact ⟨.cached hf, .inl rfl⟩
  | none =>
    have hlookup := (d.connection.lookupPublicKey_endsIn hi w []).map Material.octets
    have hask : Action.EndsIn (KeyCache.publicKeyFor d.connection.observed.gateway.keys
        (clock ∘ Prod.fst) (.text d.recipient)) (d.client.cache, w, []) _ _ :=
      KeyCache.publicKeyFor_endsIn hi (hcached.trans hf) hlookup
    -- A lookup that fails and an answer that cannot be cached leave the same behind.
    have hfails : ∀ answer, d.Accounts [⟨d.connection.lookupRequest d.recipient, answer⟩] d.client ∧
        ∀ r, ¬ d.Delivers r [⟨d.connection.lookupRequest d.recipient, answer⟩] := by
      refine fun answer => ⟨Dispatch.Makes.accounts (.lookup hf answer) (.inl rfl), fun r => ?_⟩
      apply Dispatch.not_delivers_append (d.not_delivers_nil r)
      intro envelope he
      cases congrArg Request.method he
    apply (publicKeyFor_endsIn hask).mono
    · rintro key ⟨c, w', log⟩ ⟨cache, rfl, ⟨_, ⟨⟩, r, hs, hk, rfl⟩, t, rfl⟩
      exact ⟨.fetched hf hs hk, .inr ⟨hf, r, key, t, hs, hk, rfl, rfl⟩⟩
    · rintro ⟨c, w', log⟩ ⟨cache, rfl, rfl, ⟨answer, rfl⟩ | ⟨m, key, -, r, -, -, rfl⟩⟩
      · exact hfails answer
      · exact hfails (.ok r)

/-- Sealing takes an upload at most, and that only for the data of an attachment. -/
theorem encrypt_seals (hk : d.Knows key log) (hl : d.Leaves log c) (source : RandomSource ω)
    (w : ω) :
    (d.message.encrypt source.onFirst c.keys key c.config.minFrameLength
      (some d.connection.observed.gateway.blobs)).EndsIn (w, log)
      (fun envelope w' => d.Seals envelope w'.2 ∧ d.Leaves w'.2 c)
      fun w' => d.Accounts w'.2 c ∧ ∀ r, ¬ d.Delivers r w'.2 := by
  apply (Message.encrypt_endsIn (d.connection.uploads source log) rfl d.message c.keys).mono
  · rintro envelope ⟨w', log'⟩ ⟨hplain, sent, hholds, hcomes⟩
    rw [hl.keys_eq] at hholds
    rcases hcomes.plain_or_attachment with ⟨hm, rfl⟩ | ⟨a, data, _, hm, hd,
      ⟨blobKey, nonce, _, rfl, r, id, hs, hid, rfl, rfl⟩, rfl⟩
    · obtain rfl : log' = log := hplain hm
      exact ⟨.plain hk hm hholds, hl⟩
    · exact ⟨.attachment hk hm hd hs hid hholds, hl.append _⟩
  · rintro ⟨w', log'⟩ (rfl | ⟨a, data, blobKey, nonce, hm, hd, answer, rfl⟩)
    · exact ⟨hk.makes.accounts hl, hk.not_delivers⟩
    · refine ⟨Dispatch.Makes.accounts (.upload hk hm hd blobKey nonce answer) (hl.append _),
        fun r => ?_⟩
      apply Dispatch.not_delivers_append (hk.not_delivers r)
      intro envelope he
      cases congrArg Request.query he

/-- An envelope is delivered exactly if the answer has the status 200. -/
theorem sendEnvelope_delivers {envelope : Envelope} (hs : d.Seals envelope log)
    (hl : d.Leaves log c) (hi : Identity.isWellFormed d.recipient = true) (w : ω) :
    (d.connection.observed.sendEnvelope (.text d.recipient) envelope []).EndsIn (w, log)
      (fun id w' => d.Accounts w'.2 c ∧ ∃ r, d.Delivers r w'.2 ∧ id = strip r.text)
      fun w' => d.Accounts w'.2 c ∧ ∀ r, ¬ d.Delivers r w'.2 := by
  have haccounts : ∀ answer, d.Accounts
      (log ++ [⟨d.connection.deliveryRequest d.recipient envelope, answer⟩]) c :=
    fun answer => Dispatch.Makes.accounts (.delivery hs answer) (hl.append _)
  apply (d.connection.sendEnvelope_endsIn hi envelope w log).mono
  · rintro id w' ⟨r, hstatus, hid, hlog⟩
    rw [hlog]
    exact ⟨haccounts _, r, Dispatch.delivers_append hstatus log envelope, hid⟩
  · rintro w' ⟨answer, hanswer, hlog⟩
    rw [hlog]
    refine ⟨haccounts answer, fun r => ?_⟩
    exact Dispatch.not_delivers_append (hs.not_delivers r) fun _ _ => hanswer r

/-- A send to an identity accounts for itself, whether or not the key is known or found. -/
theorem send_accounts_of_wellFormed [PartialAdd τ] (hn : clock w = d.now)
    (hi : Identity.isWellFormed d.recipient = true) (source : RandomSource ω) :
    Action.EndsIn
      (send source.onFirst d.connection.observed.gateway (clock ∘ Prod.fst) (.text d.recipient)
        d.message)
      (d.client, w, [])
      (fun sent s => ∃ r, d.Accounts s.2.2 s.1 ∧ d.Delivers r s.2.2 ∧
        sent = ⟨strip r.text, d.recipient, d.message⟩)
      fun s => d.Accounts s.2.2 s.1 ∧ ∀ r, ¬ d.Delivers r s.2.2 := by
  apply (send_endsIn (S := fun envelope s => d.Seals envelope s.2.2 ∧ d.Leaves s.2.2 s.1)
    (D := fun id s => d.Accounts s.2.2 s.1 ∧ ∃ r, d.Delivers r s.2.2 ∧ id = strip r.text) hi
    (publicKeyFor_knows hn hi) ?sealed ?delivered).mono ?sent fun _ => id
  case sealed =>
    rintro key c ⟨w, log⟩ ⟨hk, hl⟩
    exact encrypt_seals hk hl source w
  case delivered =>
    rintro envelope c ⟨w, log⟩ ⟨hs, hl⟩
    exact sendEnvelope_delivers hs hl hi w
  case sent =>
    rintro sent s ⟨id, rfl, haccounts, r, hr, rfl⟩
    exact ⟨r, haccounts, hr, rfl⟩

/-- The requests of a send, from any state of a client and over any session, are the first of the
legs, each made once and only after all before it have succeeded. The message is sent exactly if it
is delivered, and nothing else is left behind than the key of the recipient. What is no identity
is refused before any request. -/
theorem send_accounts [PartialAdd τ] (conn : Connection ω) (source : RandomSource ω)
    (clock : ω → τ) (c : Client τ) (w : ω) (offered : Identity.Candidate) (m : Message) :
    Action.EndsIn
      (send source.onFirst conn.observed.gateway (clock ∘ Prod.fst) offered m) (c, w, [])
      (fun sent s => ∃ recipient r, offered = .text recipient ∧
        let d : Dispatch ω τ := ⟨conn, c, clock w, recipient, m⟩
        d.Accounts s.2.2 s.1 ∧ d.Delivers r s.2.2 ∧ sent = ⟨strip r.text, recipient, m⟩)
      fun s => (s = (c, w, []) ∧ ∃ e, Identity.validate offered = .error e) ∨
        ∃ recipient, offered = .text recipient ∧
          let d : Dispatch ω τ := ⟨conn, c, clock w, recipient, m⟩
          d.Accounts s.2.2 s.1 ∧ ∀ r, ¬ d.Delivers r s.2.2 := by
  cases hv : Identity.validate offered with
  | error e =>
    rw [send, hv]
    exact Action.EndsIn.throw (.inl ⟨rfl, e, rfl⟩) e
  | ok recipient =>
    obtain ⟨rfl, hi⟩ := Identity.validate_eq_ok_iff.mp hv
    apply (send_accounts_of_wellFormed (d := ⟨conn, c, clock w, recipient, m⟩) rfl hi source).mono
    · rintro sent s ⟨r, h⟩
      exact ⟨recipient, r, rfl, h⟩
    · exact fun s h => .inr ⟨recipient, rfl, h⟩

/-- An image is sent to someone whose key is not cached, and each of the three requests is answered
with the status 200. -/
theorem send_accounts_image :
    ∃ (d : Dispatch (Nat × List (Except Failure Response)) Nat)
      (answers : List (Except Failure Response)) (sent : SentMessage) (r : Response)
      (s : Client Nat × (Nat × List (Except Failure Response)) × List Exchange),
      d.legs = [.lookup, .upload, .delivery] ∧
      send RandomSource.numbered.onFirst.onFirst d.connection.observed.gateway
        (Prod.fst ∘ Prod.fst) (.text d.recipient) d.message (d.client, (0, answers), []) =
          .ok sent s ∧
      s.2.2.map Exchange.line = d.legs.map d.line ∧ d.Accounts s.2.2 s.1 ∧ d.Delivers r s.2.2 ∧
      sent = ⟨strip r.text, d.recipient, d.message⟩ ∧ sent.messageId = "0102030405060708" := by
  let d : Dispatch (Nat × List (Except Failure Response)) Nat :=
    { connection := ⟨⟨"*GATEWAY", "s3cret", Config.defaultApiUrl, 32, none⟩,
        Session.scripted.onSecond⟩
      client := ⟨⟨"*GATEWAY", "s3cret", Config.defaultApiUrl, 32, none⟩, KeyPair.uniform 1,
        .empty 60⟩
      now := 0
      recipient := "BOBBOB42"
      message := .attachment ⟨.image, some [1, 2, 3], none⟩ }
  let answers : List (Except Failure Response) :=
    [.ok ⟨200, Hex.encode (KeyPair.uniform 2).publicKey, none⟩,
      .ok ⟨200, (BlobId.ofNat 1).toHex, none⟩, .ok ⟨200, " 0102030405060708\n", none⟩]
  let act : Action (Client Nat × (Nat × List (Except Failure Response)) × List Exchange)
      SentMessage := send RandomSource.numbered.onFirst.onFirst d.connection.observed.gateway
    (Prod.fst ∘ Prod.fst) (.text d.recipient) d.message
  have hid : (Action.outcome act (d.client, (0, answers), [])).toOption.map SentMessage.messageId =
      some "0102030405060708" := by
    decide +kernel
  have hlength : (Action.after act (d.client, (0, answers), [])).2.2.length = 3 := by
    decide +kernel
  obtain ⟨sent, hsent, hmessage⟩ := Option.map_eq_some_iff.mp hid
  obtain ⟨s, hrun⟩ := Action.outcome_eq_ok_iff.mp (Check.toOption_eq_some_iff.mp hsent)
  rw [Action.after, hrun] at hlength
  obtain ⟨_, r, ⟨⟩, haccounts, hdelivers, heq⟩ := (send_accounts d.connection
    RandomSource.numbered.onFirst Prod.fst d.client (0, answers) (.text d.recipient)
    d.message).ok hrun
  have hline : s.2.2.map Exchange.line = d.legs.map d.line := by
    apply haccounts.inOrder.eq_of_length
    rw [List.length_map, hlength]
    rfl
  exact ⟨d, answers, sent, r, s, rfl, hrun, hline, haccounts, hdelivers, heq, hmessage⟩

end Client

end SealedPost
