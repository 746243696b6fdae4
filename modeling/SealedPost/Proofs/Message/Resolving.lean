import SealedPost.Proofs.Dealings
import SealedPost.Proofs.Message.Opening
import SealedPost.Proofs.Message.RoundTrip

/-!
# Opening with and without a transport

To open an envelope with a transport is to open it without one and to fetch the data of what came
out. Nothing is downloaded before the message has been read, and then only the blob that the message
refers to. Both runs are compared step by step, with a record of the dealings of the one that has
the transport.
-/

namespace SealedPost

variable {ω α β : Type}

/-! ### Runs on an observed world -/

/-- What an action comes to, in a world with a record. -/
def Action.recorded (log : List Dealing) :
    EStateM.Result Failure ω α → EStateM.Result Failure (ω × List Dealing) α
  | .ok a w    => .ok a (w, log)
  | .error e w => .error e (w, log)

/-- From a world on, one action is the other with a record, to which it adds these dealings. -/
def Action.Shows (x' : Action (ω × List Dealing) α) (x : Action ω α) (w : ω) (ds : List Dealing) :
    Prop :=
  ∀ log, x' (w, log) = recorded (log ++ ds) (x w)

namespace Action

variable {x : Action ω α} {x' : Action (ω × List Dealing) α} {w : ω} {ds : List Dealing}

theorem ofExcept_recorded (r : Except Failure α) (w : ω) (log : List Dealing) :
    Action.ofExcept r (w, log) = recorded log (Action.ofExcept r w) := by
  cases r <;> rfl

/-- A check deals with nobody. -/
theorem Shows.ofExcept (r : Except Failure α) (w : ω) :
    Shows (Action.ofExcept r) (Action.ofExcept r) w [] := by
  intro log
  rw [List.append_nil, ofExcept_recorded]

theorem Shows.map (h : x'.Shows x w ds) (f : α → β) : (f <$> x').Shows (f <$> x) w ds := by
  intro log
  have hrun := h log
  simp only [Functor.map, EStateM.map, hrun]
  cases x w <;> rfl

theorem shows_observed (note : Except Failure α → Dealing) (x : Action ω α) (w : ω) :
    (x.observed note).Shows x w [note (x.outcome w)] := by
  intro log
  cases hx : x w <;> simp [observed, outcome, recorded, hx]

end Action

/-! ### Fetching -/

/-- The call for a blob, with what the transport answers in a world. -/
def BlobTransport.downloading (t : BlobTransport ω) (id : BlobId) (w : ω) : Dealing :=
  .download id ((t.download id).outcome w)

/-- To fetch the data of a blob takes one download, of this blob. -/
theorem BlobReference.fetch_shows {r : BlobReference} {id : BlobId} (h : r.blobId = some id)
    (t : BlobTransport ω) (w : ω) :
    (r.fetch t.observed).Shows (r.fetch t) w [t.downloading id w] := by
  intro log
  have hrun := Action.shows_observed (.download id) (t.download id) w log
  simp only [fetch, h, BlobTransport.observed, hrun]
  cases t.download id w with
  | ok downloaded w' => exact Action.ofExcept_recorded (r.resolve downloaded) w' _
  | error cause w' => rfl

/-! ### Opening -/

namespace Message

/-- An attachment with its data. -/
def withData (a : Attachment) (data : Bytes) : Message := .attachment { a with data := some data }

theorem resolve_attachment {a : Attachment} {r : BlobReference} (h : a.reference = some r)
    (t : BlobTransport ω) : (Message.attachment a).resolve t = withData a <$> r.fetch t := by
  rw [← bind_pure_comp]
  simp only [resolve, h, withData]

variable (envelope : Envelope) (senderPublic recipientPrivate : Material)

/-- With a transport, from a world on, the envelope opens with this result and these dealings. -/
def ResolvesTo (t : BlobTransport ω) (w : ω) (result : EStateM.Result Failure ω Message)
    (ds : List Dealing) : Prop :=
  decrypt envelope senderPublic recipientPrivate (some t) w = result ∧
    (decrypt envelope senderPublic recipientPrivate (some t.observed)).Shows
      (decrypt envelope senderPublic recipientPrivate (some t)) w ds

/-- To open an envelope with a transport refines opening it without one. What fails without one
fails in the same way, and a message without data stays as it is, both without a call; for the data
of an attachment there is one download, of the blob that it refers to, and what is fetched is all
that is added. -/
theorem decrypt_some_refines_none (envelope : Envelope) (senderPublic recipientPrivate : Material)
    (t : BlobTransport ω) (w : ω) :
    match decrypt envelope senderPublic recipientPrivate none w with
    | .error e w' => w' = w ∧ ResolvesTo envelope senderPublic recipientPrivate t w (.error e w) []
    | .ok (.attachment a) w' => w' = w ∧ a.data = none ∧
        ∃ r id, a.reference = some r ∧ r.blobId = some id ∧
          ResolvesTo envelope senderPublic recipientPrivate t w ((withData a <$> r.fetch t) w)
            [t.downloading id w]
    | .ok m w' => w' = w ∧ ResolvesTo envelope senderPublic recipientPrivate t w (.ok m w) [] := by
  cases ho : Message.open envelope senderPublic recipientPrivate with
  | error e =>
    simp only [ResolvesTo, decrypt_of_open_error ho, Action.throw_apply, true_and]
    exact .ofExcept (.error e) w
  | ok m =>
    simp only [ResolvesTo, decrypt_none ho, decrypt_some ho, Action.pure_apply]
    cases m with
    | text s => exact ⟨rfl, rfl, .ofExcept (.ok _) w⟩
    | receipt receiptType ids => exact ⟨rfl, rfl, .ofExcept (.ok _) w⟩
    | attachment a =>
      obtain ⟨hdata, r, hr, key, nonce, id, rfl, -, -⟩ := attachment_of_open ho
      refine ⟨rfl, hdata, _, id, hr, rfl, ?_⟩
      simp only [resolve_attachment hr, true_and]
      exact (BlobReference.fetch_shows rfl t w).map (withData a)

/-- An image is opened right after it was sealed, and one download fetches its data. -/
theorem decrypt_some_refines_none_image :
    ∃ (envelope : Envelope) (senderPublic recipientPrivate : Material)
      (t : BlobTransport (Nat × BlobStore)) (w w' : Nat × BlobStore) (a : Attachment) (id : BlobId)
      (box : Bytes),
      decrypt envelope senderPublic recipientPrivate none w = .ok (.attachment a) w ∧
      a.data = none ∧
      ResolvesTo envelope senderPublic recipientPrivate t w (.ok (withData a [1, 2, 3]) w')
        [.download id (.ok (some box))] := by
  obtain ⟨sender, recipient, hk⟩ : ∃ sender recipient : KeyPair, sender.Agrees recipient :=
    ⟨_, _, KeyPair.agrees_uniform⟩
  have hs := RandomSource.isReliable_numbered.onFirst (ν := BlobStore)
  have ht := BlobStore.handsBack BlobStore.counted RandomSource.numbered
  have hf : (0 : Int) ≤ 40 ∧ 40 ≤ Frame.maxFloor := by decide
  have hsealed := Attachment.encrypt_yields hs ht.accepts (w := (0, .empty)) trivial hk hf
    (a := ⟨.image, none, none⟩) trivial [1, 2, 3]
  obtain ⟨envelope, w, -, r, -, -, ⟨id, box, -, hid, hresolve, _, w', hdownload, rfl⟩, hopen⟩ :=
    hsealed
  have hnone : decrypt envelope sender.publicKey recipient.privateKey none w =
      .ok (.attachment ⟨.image, none, some r⟩) w := by
    rw [decrypt_none hopen]
    rfl
  have hfetch : r.fetch (BlobStore.transportFrom BlobStore.counted).onSecond w =
      .ok [1, 2, 3] w' := by
    simp only [BlobReference.fetch, hid, hdownload, hresolve, Action.ofExcept_ok]
  have hrefines := decrypt_some_refines_none envelope sender.publicKey recipient.privateKey
    (BlobStore.transportFrom BlobStore.counted).onSecond w
  rw [hnone] at hrefines
  obtain ⟨-, hdata, _, i, ⟨⟩, hi, hresolves⟩ := hrefines
  obtain rfl : id = i := Option.some.inj (hid.symm.trans hi)
  rw [Action.map_of_ok hfetch, BlobTransport.downloading, Action.outcome, hdownload] at hresolves
  exact ⟨envelope, _, _, _, w, w', _, id, box, hnone, hdata, hresolves⟩

end Message

end SealedPost
