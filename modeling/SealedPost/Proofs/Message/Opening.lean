import SealedPost.Message.Sealed
import SealedPost.Proofs.Box
import SealedPost.Proofs.Frame
import SealedPost.Proofs.Payload

/-!
# What opening an envelope comes to

Whoever sealed an envelope, and whatever a transport answers, to open it gives a message or fails in
one of five kinds. An attachment that comes out has a complete reference.
-/

namespace SealedPost

variable {ω : Type}

/-- A download fails as one, whatever it failed with. -/
theorem Blob.kind_of_downloadFailure (id : BlobId) (cause : Failure) :
    (downloadFailure id cause).kind = .blobFetchFailed := by
  rw [downloadFailure]
  split
  · assumption
  · rfl

theorem BlobReference.kind_of_fetch {r : BlobReference} {t : BlobTransport ω} {w w' : ω}
    {e : Failure} (hr : r.IsComplete) (h : r.fetch t w = .error e w') :
    e.kind = .blobFetchFailed ∨ e.kind = .authenticationFailed := by
  obtain ⟨key, nonce, id, rfl, hk, hn⟩ := hr
  simp only [fetch] at h
  cases hd : t.download id w with
  | error cause w₁ =>
    rw [hd] at h
    cases h
    exact .inl (Blob.kind_of_downloadFailure id cause)
  | ok downloaded w₁ =>
    simp only [hd] at h
    cases downloaded with
    | none => cases h; exact .inl rfl
    | some bs =>
      cases ho : Box.openSymmetric nonce bs key with
      | ok data => simp [resolve, ho] at h
      | error e' =>
        simp only [resolve, ho, Action.ofExcept_error, EStateM.Result.error.injEq] at h
        exact .inr (h.1 ▸ Box.kind_of_openSymmetric hk hn ho)

section Decrypt

variable {envelope : Envelope} {senderPublic recipientPrivate : Material} {e : Failure}
  {m : Message}

/-- What does not open is not looked for elsewhere. -/
theorem Message.decrypt_of_open_error
    (h : Message.open envelope senderPublic recipientPrivate = .error e)
    (transport : Option (BlobTransport ω)) :
    decrypt envelope senderPublic recipientPrivate transport = throw e := by
  rw [decrypt, h]
  rfl

theorem Message.decrypt_none (h : Message.open envelope senderPublic recipientPrivate = .ok m) :
    (decrypt envelope senderPublic recipientPrivate none : Action ω Message) = pure m := by
  rw [decrypt, h, Action.ofExcept_ok_bind]

theorem Message.decrypt_some (h : Message.open envelope senderPublic recipientPrivate = .ok m)
    (t : BlobTransport ω) :
    decrypt envelope senderPublic recipientPrivate (some t) = m.resolve t := by
  rw [decrypt, h, Action.ofExcept_ok_bind]

end Decrypt

section Keeps

variable {P : ω → Prop} {w : ω}

/-- What every download keeps is kept by fetching. -/
theorem BlobReference.fetch_endsIn {t : BlobTransport ω}
    (ht : ∀ id w, P w → (t.download id).EndsIn w (fun _ => P) P) (hw : P w) (r : BlobReference) :
    (r.fetch t).EndsIn w (fun _ => P) P := by
  cases hid : r.blobId with
  | none =>
    have hrun : r.fetch t w = .error .noBlobId w := by rw [fetch, hid]
    exact (Action.endsIn_of_error hrun).mpr hw
  | some id =>
    have hdownload := ht id w hw
    cases hd : t.download id w with
    | error cause w' =>
      have hrun : r.fetch t w = .error (Blob.downloadFailure id cause) w' := by
        simp only [fetch, hid, hd]
      exact (Action.endsIn_of_error hrun).mpr (hdownload.error hd)
    | ok downloaded w' =>
      have hrun : r.fetch t w = Action.ofExcept (r.resolve downloaded) w' := by
        simp only [fetch, hid, hd]
      have hresolved : (Action.ofExcept (r.resolve downloaded)).EndsIn w' (fun _ => P) P :=
        .ofExcept (hdownload.ok hd) fun _ _ => hdownload.ok hd
      exact ⟨fun h => hresolved.ok (hrun.symm.trans h),
        fun h => hresolved.error (hrun.symm.trans h)⟩

theorem Message.resolve_endsIn {t : BlobTransport ω}
    (ht : ∀ id w, P w → (t.download id).EndsIn w (fun _ => P) P) (hw : P w) (m : Message) :
    (m.resolve t).EndsIn w (fun _ => P) P := by
  cases m with
  | text s => exact Action.EndsIn.pure hw
  | receipt receiptType ids => exact Action.EndsIn.pure hw
  | attachment a =>
    cases ha : a.reference with
    | none =>
      simp only [Message.resolve, ha]
      exact Action.EndsIn.pure hw
    | some r =>
      simp only [Message.resolve, ha]
      apply (BlobReference.fetch_endsIn ht hw r).bind
      intro data w' hw'
      exact Action.EndsIn.pure hw'

/-- A message comes out of an envelope only if it opens. -/
theorem Message.decrypt_endsIn {transport : Option (BlobTransport ω)}
    (ht : ∀ t, transport = some t → ∀ id w, P w → (t.download id).EndsIn w (fun _ => P) P)
    (hw : P w) (envelope : Envelope) (senderPublic recipientPrivate : Material) :
    (Message.decrypt envelope senderPublic recipientPrivate transport).EndsIn w
      (fun _ w' => (∃ opened, Message.open envelope senderPublic recipientPrivate = .ok opened) ∧
        P w') P := by
  cases ho : Message.open envelope senderPublic recipientPrivate with
  | error e =>
    rw [Message.decrypt_of_open_error ho]
    exact Action.EndsIn.throw hw e
  | ok opened =>
    cases transport with
    | none =>
      rw [Message.decrypt_none ho]
      exact Action.EndsIn.pure ⟨⟨opened, rfl⟩, hw⟩
    | some t =>
      rw [Message.decrypt_some ho]
      exact (Message.resolve_endsIn (ht t rfl) hw opened).mono (fun _ _ h => ⟨⟨opened, rfl⟩, h⟩)
        fun _ => id

end Keeps

namespace Message

/-- The kinds of failures of opening. -/
def openingKinds : List Kind :=
  [.invalidKeyLength, .authenticationFailed, .malformedFrame, .malformedPayload, .blobFetchFailed]

theorem kind_of_open {envelope : Envelope} {senderPublic recipientPrivate : Bytes} {e : Failure}
    (h : Message.open envelope senderPublic recipientPrivate = .error e) :
    e.kind ∈ openingKinds := by
  rcases Check.bind_eq_error_iff.mp h with h | ⟨frame, -, h⟩
  · rcases Box.kind_of_open h with h | h <;> simp [h, openingKinds]
  rcases Check.bind_eq_error_iff.mp h with h | ⟨⟨tag, payload⟩, -, h⟩
  · simp [Frame.kind_of_decode h, openingKinds]
  · rcases Payload.kind_of_decode h with h | h <;> simp [h, openingKinds]

/-- An attachment comes out of an envelope without its data and with a reference to them. -/
theorem attachment_of_open {envelope : Envelope} {senderPublic recipientPrivate : Material}
    {a : Attachment}
    (h : Message.open envelope senderPublic recipientPrivate = .ok (.attachment a)) :
    a.data = none ∧ ∃ r, a.reference = some r ∧ r.IsComplete := by
  obtain ⟨frame, -, h⟩ := Check.bind_eq_ok_iff.mp h
  obtain ⟨⟨tag, payload⟩, -, h⟩ := Check.bind_eq_ok_iff.mp h
  exact Payload.isComplete_of_decode h

theorem isComplete_of_open {envelope : Envelope} {senderPublic recipientPrivate : Bytes}
    {a : Attachment}
    (h : Message.open envelope senderPublic recipientPrivate = .ok (.attachment a)) :
    ∃ r, a.reference = some r ∧ r.IsComplete :=
  (attachment_of_open h).2

/-- To open any envelope with any octets for keys and any transport gives a message, whose reference
is complete if it is an attachment, or fails in one of the five kinds. -/
theorem decrypt_outcome (envelope : Envelope) (senderPublic recipientPrivate : Bytes)
    (transport : Option (BlobTransport ω)) (w : ω) :
    match Message.decrypt envelope senderPublic recipientPrivate transport w with
    | .ok m _    => ∀ a, m = .attachment a → ∃ r, a.reference = some r ∧ r.IsComplete
    | .error e _ => e.kind ∈ openingKinds := by
  cases ho : Message.open envelope senderPublic recipientPrivate with
  | error e =>
    have hd : Message.decrypt envelope senderPublic recipientPrivate transport w = .error e w := by
      rw [Message.decrypt, ho]
      exact Action.bind_of_error (Action.ofExcept_error e w)
    rw [hd]
    exact kind_of_open ho
  | ok m =>
    rw [Message.decrypt, ho, Action.ofExcept_ok_bind]
    cases transport with
    | none =>
      rintro a rfl
      exact isComplete_of_open ho
    | some t =>
      cases m with
      | text s => exact fun a ha => nomatch ha
      | receipt receiptType ids => exact fun a ha => nomatch ha
      | attachment a =>
        obtain ⟨r, hr, hc⟩ := isComplete_of_open ho
        simp only [Message.resolve, hr]
        cases hf : r.fetch t w with
        | error e w' =>
          rw [Action.bind_of_error hf]
          rcases BlobReference.kind_of_fetch hc hf with h | h <;> simp [h, openingKinds]
        | ok data w' =>
          rw [Action.bind_of_ok hf]
          rintro a' ⟨⟩
          exact ⟨r, rfl, hc⟩

end Message

end SealedPost
