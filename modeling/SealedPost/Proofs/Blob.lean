import SealedPost.AttachmentSend
import SealedPost.Proofs.Box
import SealedPost.Proofs.Payload

/-!
# Blobs are fetched as they were put

The data of an attachment are put into a blob before its frame is built: they are encrypted under a
fresh key and uploaded. The reference that comes of it leads back to the data as long as the
transport holds what was uploaded.
-/

namespace SealedPost

variable {ω ρ ν : Type}

/-! ### References and what they lead to -/

/-- The reference is complete and opens some octets to the data; `Q` holds of its id and of them. -/
def BlobReference.LeadsTo (r : BlobReference) (data : Bytes) (Q : BlobId → Bytes → Prop) : Prop :=
  ∃ id box, r.IsComplete ∧ r.blobId = some id ∧ r.resolve (some box) = .ok data ∧ Q id box

theorem BlobReference.LeadsTo.mono {r : BlobReference} {data : Bytes} {Q R : BlobId → Bytes → Prop}
    (h : r.LeadsTo data Q) (hqr : ∀ id box, Q id box → R id box) : r.LeadsTo data R := by
  obtain ⟨id, box, hc, hid, hr, hq⟩ := h
  exact ⟨id, box, hc, hid, hr, hqr id box hq⟩

theorem BlobReference.leadsTo_of_seal {key nonce data : Bytes} {id : BlobId}
    {Q : BlobId → Bytes → Prop} (hk : key.length = Key.size) (hn : nonce.length = nonceSize)
    (hq : Q id (SecretBox.seal key nonce data)) :
    LeadsTo ⟨.octets key, .octets nonce, some id⟩ data Q :=
  ⟨id, _, ⟨key, nonce, id, rfl, hk, hn⟩, rfl, Box.openSymmetric_seal hk hn data, hq⟩

/-! ### Transports that keep what they are given -/

namespace BlobTransport

/-- Would a download answer with these octets? -/
def Holds (t : BlobTransport ω) (id : BlobId) (bs : Bytes) (w : ω) : Prop :=
  (t.download id).Yields w fun found _ => found = some bs

theorem holds_onSecond {t : BlobTransport ν} {id : BlobId} {bs : Bytes} {w : ρ × ν} :
    t.onSecond.Holds id bs w ↔ t.Holds id bs w.2 := by
  obtain ⟨r, n⟩ := w
  simp only [Holds, Action.Yields, onSecond, Action.onSecond]
  cases hd : t.download id n <;> simp

/-- Where `P` holds an upload is answered with an id, and then `Q` holds of the id and of what was
uploaded. To draw from the random source touches neither. -/
structure Accepts (t : BlobTransport ω) (source : RandomSource ω) (P : ω → Prop)
    (Q : BlobId → Bytes → ω → Prop) : Prop where
  before : source.Keeps P
  upload : ∀ bs w, P w → (t.upload bs).Yields w fun id w' => ∃ i, id = some i ∧ Q i bs w'
  after : ∀ id bs, source.Keeps (Q id bs)

/-- Does the transport answer every upload with an id and hand back under it what was uploaded, also
when something has been drawn from the random source in between? -/
structure HandsBack (t : BlobTransport ω) (source : RandomSource ω) : Prop where
  upload : ∀ bs w, ∃ id w', t.upload bs w = .ok (some id) w' ∧ t.Holds id bs w'
  draw : ∀ id bs, source.Keeps (t.Holds id bs)

/-- A transport that has nothing to do with the random source need only hand back at once. -/
theorem handsBack_onSecond {t : BlobTransport ν}
    (h : ∀ bs n, ∃ id n', t.upload bs n = .ok (some id) n' ∧ t.Holds id bs n')
    (source : RandomSource ρ) : t.onSecond.HandsBack source.onFirst where
  upload := fun bs ⟨r, n⟩ => by
    obtain ⟨id, n', hu, hid⟩ := h bs n
    refine ⟨id, (r, n'), ?_, holds_onSecond.mpr hid⟩
    simp only [onSecond, Action.onSecond, hu]
  draw := fun id bs => by
    intro size w m w' hd hw
    exact holds_onSecond.mpr
      (source.keeps_onFirst (t.Holds id bs) size w m w' hd (holds_onSecond.mp hw))

theorem HandsBack.accepts {t : BlobTransport ω} {source : RandomSource ω}
    (h : t.HandsBack source) : t.Accepts source (fun _ => True) t.Holds where
  before := fun _ _ _ _ _ _ => trivial
  upload := fun bs w _ => by
    obtain ⟨id, w', hu, hid⟩ := h.upload bs w
    exact ⟨some id, w', hu, id, rfl, hid⟩
  after := h.draw

end BlobTransport

/-! ### Stores -/

namespace BlobStore

/-- A store after it has kept a blob under the next id. -/
def kept (ids : Nat → BlobId) (bs : Bytes) (s : BlobStore) : BlobStore :=
  { s with
    blobs := (ids s.issued, bs) :: s.blobs, issued := s.issued + 1, uploads := s.uploads + 1 }

theorem lookup_kept (ids : Nat → BlobId) (bs : Bytes) (s : BlobStore) :
    (s.kept ids bs).blobs.lookup (ids s.issued) = some bs :=
  List.lookup_cons_self

theorem lookup_kept_of_ne {ids : Nat → BlobId} {bs : Bytes} {s : BlobStore} {id : BlobId}
    (h : id ≠ ids s.issued) : (s.kept ids bs).blobs.lookup id = s.blobs.lookup id := by
  rw [kept, List.lookup_cons, beq_eq_false_iff_ne.mpr h]

theorem download_of_lookup {s : BlobStore} {id : BlobId} {bs : Bytes}
    (h : s.blobs.lookup id = some bs) :
    download (some id) s = .ok bs { s with downloads := s.downloads + 1 } := by
  rw [download, get?, Option.bind_some, h]

theorem holds_of_lookup {ids : Nat → BlobId} {s : BlobStore} {id : BlobId} {bs : Bytes}
    (h : s.blobs.lookup id = some bs) : (transportFrom ids).Holds id bs s :=
  ⟨some bs, _, Action.map_of_ok (download_of_lookup h), rfl⟩

/-- A store is a transport that hands back. -/
theorem handsBack (ids : Nat → BlobId) (source : RandomSource ρ) :
    (transportFrom ids).onSecond.HandsBack source.onFirst := by
  refine BlobTransport.handsBack_onSecond ?_ source
  intro bs s
  exact ⟨ids s.issued, s.kept ids bs, rfl, holds_of_lookup (lookup_kept ids bs s)⟩

end BlobStore

/-! ### Fetching -/

theorem BlobReference.fetch_yields {t : BlobTransport ω} {r : BlobReference} {data : Bytes} {w : ω}
    {P : ω → Prop} (h : r.LeadsTo data fun id box =>
      (t.download id).Yields w fun found w' => found = some box ∧ P w') :
    (r.fetch t).Yields w fun fetched w' => fetched = data ∧ P w' := by
  obtain ⟨id, box, -, hid, hr, _, w', hd, rfl, hw'⟩ := h
  refine ⟨data, w', ?_, rfl, hw'⟩
  simp only [fetch, hid, hd, hr, Action.ofExcept_ok]

/-! ### Putting data into a blob -/

/-- Encrypts and uploads data; gives the reference to the blob. -/
def Blob.put (source : RandomSource ω) (t : BlobTransport ω) (data : Bytes) :
    Action ω BlobReference := do
  let (encrypted, r) ← prepare source data
  let id ← EStateM.adaptExcept AttachmentSend.uploadFailure (t.upload encrypted)
  pure (r.withBlobId id)

section Put

variable {source : RandomSource ω} {t : BlobTransport ω} {P : ω → Prop}
  {Q : BlobId → Bytes → ω → Prop} {w : ω}

theorem Blob.prepare_yields (hs : source.IsReliable) (hk : source.Keeps P) (hw : P w)
    (data : Bytes) :
    (prepare source data).Yields w fun out w' => ∃ key nonce : Bytes,
      key.length = Key.size ∧ nonce.length = nonceSize ∧
      out = (SecretBox.seal key nonce data, ⟨.octets key, .octets nonce, none⟩) ∧ P w' := by
  apply (Key.fresh_yields hs hk hw).bind
  rintro key w₁ ⟨hkey, hw₁⟩
  apply (Box.sealSymmetric_yields hs hk hw₁ data hkey).bind
  rintro _ w₂ ⟨nonce, rfl, hw₂⟩
  exact Action.Yields.pure ⟨key, nonce, hkey, nonce.property, rfl, hw₂⟩

theorem Blob.prepare_ensures (hs : source.Leaves P) (hw : P w) (data : Bytes) :
    (prepare source data).Ensures w P fun out => ∃ key nonce : Bytes,
      key.length = Key.size ∧ nonce.length = nonceSize ∧
      out = (SecretBox.seal key nonce data, ⟨.octets key, .octets nonce, none⟩) := by
  apply (Key.fresh_ensures hs hw).bind
  intro key w₁ hw₁ hkey
  apply (Box.sealSymmetric_ensures hs hw₁ data hkey).bind
  rintro _ w₂ hw₂ ⟨nonce, rfl⟩
  exact Action.Ensures.pure hw₂ ⟨key, nonce, hkey, nonce.property, rfl⟩

/-- A reference that comes of an upload has a key and a nonce of their lengths. -/
theorem Blob.put_ensures (source : RandomSource ω) (t : BlobTransport ω) (data : Bytes) (w : ω) :
    (put source t data).Ensures w (fun _ => True) fun r => ∃ (key nonce : Bytes)
      (id : Option BlobId), key.length = Key.size ∧ nonce.length = nonceSize ∧
      r = ⟨.octets key, .octets nonce, id⟩ := by
  apply (prepare_ensures source.leaves_true trivial data).bind
  rintro _ w₁ - ⟨key, nonce, hkey, hnonce, rfl⟩
  apply (Action.ensures_true _ w₁).bind
  intro id w₂ _ _
  exact Action.Ensures.pure trivial ⟨key, nonce, id, hkey, hnonce, rfl⟩

/-- What was put leads back to the data. -/
theorem Blob.put_yields (hs : source.IsReliable) (ht : t.Accepts source P Q) (hw : P w)
    (data : Bytes) :
    (put source t data).Yields w fun r w' => r.LeadsTo data fun id box => Q id box w' := by
  apply (prepare_yields hs ht.before hw data).bind
  rintro _ w₁ ⟨key, nonce, hk, hn, rfl, hw₁⟩
  obtain ⟨_, w₂, hu, id, rfl, hq⟩ := ht.upload (SecretBox.seal key nonce data) w₁ hw₁
  refine ⟨⟨.octets key, .octets nonce, some id⟩, w₂, ?_, BlobReference.leadsTo_of_seal hk hn hq⟩
  refine Action.bind_of_ok (a := some id) ?_
  rw [EStateM.adaptExcept, hu]

end Put

end SealedPost
