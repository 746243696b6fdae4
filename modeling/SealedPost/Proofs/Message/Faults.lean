import SealedPost.Proofs.Frame.Reading
import SealedPost.Proofs.Message.Randomness

/-!
# What is uploaded in vain

The key of the recipient and the data of an attachment are looked at before anything is done. The
floor and the strings of a file are looked at when a frame is built, and the frame of an attachment
is built after the upload. So a send that fails for one of these leaves at most one blob behind that
nothing refers to.
-/

namespace SealedPost

variable {ω : Type} {source : RandomSource ω} {t : BlobTransport ω} {floor : Int}

/-! ### Uploads among dealings -/

def Dealing.upload? : Dealing → Option Bytes
  | .upload bs _ => some bs
  | _            => none

/-- What was uploaded, or would have been if the transport had not failed. -/
def uploads (ds : List Dealing) : List Bytes := ds.filterMap Dealing.upload?

theorem mem_uploads_iff {ds : List Dealing} {bs : Bytes} :
    bs ∈ uploads ds ↔ ∃ answer, .upload bs answer ∈ ds := by
  rw [uploads, List.mem_filterMap]
  constructor
  · rintro ⟨d, hd, hbs⟩
    cases d with
    | upload bs' answer =>
      cases hbs
      exact ⟨answer, hd⟩
    | draw size answer => cases hbs
    | download id answer => cases hbs
  · rintro ⟨answer, hd⟩
    exact ⟨_, hd, rfl⟩

theorem Follows.uploads_eq {ds : List Dealing} {sizes : List Nat} (h : Follows ds sizes) :
    uploads ds = [] := by
  rw [List.eq_nil_iff_forall_not_mem]
  intro bs hbs
  obtain ⟨answer, hmem⟩ := mem_uploads_iff.mp hbs
  exact h.not_mem_upload bs answer hmem

/-! ### Frames that are not built -/

/-- The floor is out of range, or a string of a file is too long for its length to be written. -/
def Message.IsUnframed (m : Message) (floor : Int) : Prop :=
  ¬ (0 ≤ floor ∧ floor ≤ 256) ∨ ∃ a, m = .attachment a ∧ ¬ a.kind.Fits

/-- A reference makes no difference. -/
theorem Message.IsUnframed.withReference {a : Attachment} (h : IsUnframed (.attachment a) floor)
    (r : BlobReference) : IsUnframed (.attachment { a with reference := some r }) floor := by
  refine h.imp_right ?_
  rintro ⟨_, ⟨⟩, hfits⟩
  exact ⟨_, rfl, hfits⟩

/-- A payload that is written has strings that fit, so it is the floor that is out of range. -/
theorem Message.IsUnframed.floor_out_of_range {m : Message} (h : m.IsUnframed floor)
    {payload : Bytes} (hp : m.encodePayload = .ok payload) :
    ¬ (0 ≤ floor ∧ floor ≤ Frame.maxFloor) := by
  refine h.resolve_right ?_
  rintro ⟨a, rfl, hfits⟩
  exact hfits (Attachment.fits_of_encodePayload hp).1

/-- Where no frame can be built nothing is drawn for it. -/
theorem Message.seal_deals_of_isUnframed (source : RandomSource ω) {m : Message}
    (h : m.IsUnframed floor) (recipientPublic senderPrivate : Bytes) :
    (do
      let payload ← Action.ofExcept m.encodePayload
      let frame ← Frame.encode source.observed m.payloadKind.tag.toNat payload floor
      Box.seal source.observed frame recipientPublic senderPrivate :
        Action (ω × List Dealing) Envelope).Deals (fun _ _ => False) (fun ds => ds = []) := by
  refine .ofExcept_bind rfl fun payload hpayload => ?_
  have hthrow : Frame.encode source.observed m.payloadKind.tag.toNat payload floor =
      throw (.floorOutOfRange floor) :=
    funext (Frame.encode_of_floor_out_of_range source.observed _ payload
      (h.floor_out_of_range hpayload))
  have hnothing : (throw (.floorOutOfRange floor) : Action (ω × List Dealing) Bytes).Deals
      (fun _ _ => False) fun ds => ds = [] :=
    Action.Deals.throw (E := fun ds => ds = []) rfl _
  rw [hthrow]
  exact hnothing.bind (fun _ => id) fun _ _ => False.elim

/-- An attachment without a frame fails before its upload, with it or right after it. -/
theorem Attachment.encrypt_deals_of_isUnframed (source : RandomSource ω) (t : BlobTransport ω)
    {a : Attachment} (h : Message.IsUnframed (.attachment a) floor)
    (recipientPublic senderPrivate data : Bytes) :
    (a.encrypt source.observed t.observed floor recipientPublic senderPrivate data).Deals
      (fun _ _ => False)
      fun ds => Follows ds [Key.size, nonceSize] ∨
        ∃ key nonce answer, ds = Blob.dealings key nonce data answer := by
  rw [Attachment.encrypt]
  apply (Blob.put_deals source t data).bind
  · rintro ds (hfollows | ⟨key, nonce, e, rfl⟩)
    · exact .inl hfollows
    · exact .inr ⟨key, nonce, _, rfl⟩
  rintro r _ ⟨key, nonce, id, -, -, -, rfl⟩
  have hseal := Message.seal_deals_of_isUnframed source (h.withReference r) recipientPublic
    senderPrivate
  apply hseal.mono fun _ _ => False.elim
  rintro _ rfl
  exact .inr ⟨key, nonce, .ok id, List.append_nil _⟩

/-! ### Blobs that are put before a frame -/

/-- Over a reliable source the data are encrypted, so the transport is called. -/
theorem Blob.put_endsIn_uploads (hs : source.IsReliable) (t : BlobTransport ω) (data : Bytes)
    (w : ω) (log : List Dealing) :
    (put source.observed t.observed data).EndsIn (w, log) (fun _ w' => uploads w'.2 ≠ [])
      fun w' => uploads w'.2 ≠ [] := by
  obtain ⟨out, w₁, hrun, -⟩ := prepare_yields (P := fun _ => True) (w := (w, log)) hs.observed
    (fun _ _ _ _ _ _ => trivial) trivial data
  rw [put]
  apply ((Action.endsIn_of_ok (Q := fun _ _ => True) hrun).mpr trivial).bind
  rintro ⟨encrypted, r⟩ ⟨w₂, log₂⟩ -
  have hlog (answer : Except Failure (Option BlobId)) :
      uploads (log₂ ++ [.upload encrypted answer]) ≠ [] := by
    simp [uploads, Dealing.upload?]
  have hupload := (Action.observed_deals (.upload encrypted) (t.upload encrypted)).adaptExcept
    AttachmentSend.uploadFailure w₂ log₂
  have hnoted := hupload.mono (R := fun _ w' => uploads w'.2 ≠ [])
    (F := fun w' => uploads w'.2 ≠ [])
    (by rintro id w' ⟨_, hw', rfl⟩; rw [hw']; exact hlog _)
    (by rintro w' ⟨_, hw', e, rfl⟩; rw [hw']; exact hlog _)
  exact hnoted.bind fun _ _ hw' => .pure hw'

namespace Sealing

/-! ### Faults of the arguments -/

/-- There is no key of 32 octets for the recipient, or an attachment has no data. -/
def IsRefused (s : Sealing ω) : Prop :=
  (∀ bs : Bytes, s.recipientPublic = .octets bs → bs.length ≠ 32) ∨
    ∃ a, s.message = .attachment a ∧ a.data = none

theorem observed_of_isRefused {s : Sealing ω} (h : s.IsRefused) (source : RandomSource ω) :
    ∃ e, s.observed source = throw e := by
  obtain ⟨m, sender, recipientPublic, floor, transport⟩ := s
  rcases h with hkey | ⟨a, ha, hdata⟩
  · exact Message.encrypt_of_no_key m sender floor _ hkey
  · obtain rfl : m = .attachment a := ha
    exact Message.encrypt_of_no_data sender floor (.inr hdata) recipientPublic

theorem observed_deals_of_isUnframed {s : Sealing ω} (h : s.message.IsUnframed s.floor)
    (source : RandomSource ω) :
    (s.observed source).Deals (fun _ _ => False) fun ds => Follows ds [Key.size, nonceSize] ∨
      ∃ key nonce data answer, ds = Blob.dealings key nonce data answer := by
  obtain ⟨m, sender, recipientPublic, floor, transport⟩ := s
  simp only [observed]
  rcases Message.encrypt_cases source.observed m sender floor
    (transport.map BlobTransport.observed) recipientPublic with
    ⟨e, he⟩ | ⟨key, rfl, hl, ⟨hm, he⟩ | ⟨a, data, _, rfl, ha, ht, he⟩⟩
  · rw [he]
    exact .throw (.inl (.nil _)) e
  · rw [he]
    apply (Message.seal_deals_of_isUnframed source h _ _).mono fun _ _ => id
    rintro _ rfl
    exact .inl (.nil _)
  · obtain ⟨t, -, rfl⟩ := Option.map_eq_some_iff.mp ht
    rw [he]
    apply (a.encrypt_deals_of_isUnframed source t h _ _ data).mono fun _ _ => id
    rintro ds (hfollows | ⟨key, nonce, answer, rfl⟩)
    · exact .inl hfollows
    · exact .inr ⟨key, nonce, data, answer, rfl⟩

/-- An upload is made all the same: over a reliable source the data are encrypted, and they are
handed to the transport before the fault is seen. -/
theorem uploads_of_isUnframed (hs : source.IsReliable) {s : Sealing ω}
    (h : s.message.IsUnframed s.floor) {key : Bytes} (hkey : s.recipientPublic = .octets key)
    (hl : key.length = Key.size) {a : Attachment} {data : Bytes} (hm : s.message = .attachment a)
    (ha : a.data = some data) (ht : s.transport = some t) (w : ω) :
    uploads (record source s w).dealings ≠ [] := by
  obtain ⟨m, sender, recipientPublic, floor, transport⟩ := s
  obtain rfl : m = .attachment a := hm
  obtain rfl : recipientPublic = .octets key := hkey
  obtain rfl : transport = some t := ht
  have hends : (a.encrypt source.observed t.observed floor key sender.privateKey data).EndsIn
      (w, []) (fun _ w' => uploads w'.2 ≠ []) fun w' => uploads w'.2 ≠ [] := by
    rw [Attachment.encrypt]
    apply (Blob.put_endsIn_uploads hs t data w []).bind
    rintro r ⟨w₁, log⟩ hlog
    have hseal := Message.seal_deals_of_isUnframed source (h.withReference r) key
      sender.privateKey
    apply (hseal w₁ log).mono
    · rintro _ _ ⟨_, -, hfalse⟩
      exact hfalse.elim
    · rintro _ ⟨_, hw', rfl⟩
      rwa [hw', List.append_nil]
  have hrun : Message.encrypt source.observed (.attachment a) sender key floor (some t.observed) =
      a.encrypt source.observed t.observed floor key sender.privateKey data :=
    Message.encrypt_of_attachment ha hl
  rw [← hrun] at hends
  exact hends.after

/-- Three octets that are to be sent as an attachment of some kind. -/
def threeOctets (kind : AttachmentKind) (recipientPublic : Bytes) (floor : Int) :
    Sealing (Nat × BlobStore) :=
  ⟨.attachment ⟨kind, some [1, 2, 3], none⟩, .uniform 1, .octets recipientPublic, floor,
    some BlobStore.transport.onSecond⟩

/-- An image whose floor is out of range, and files with a mime type or a name that is too long, are
uploaded, though no frame can be built for them. -/
theorem exists_upload_in_vain :
    ∃ (source : RandomSource (Nat × BlobStore)) (recipientPublic : Bytes) (long : String),
      recipientPublic.length = 32 ∧ (Utf8.encode long).length = 65536 ∧
      ∀ s ∈ [threeOctets .image recipientPublic 300,
          threeOctets (.file long "a") recipientPublic 32,
          threeOctets (.file "a" long) recipientPublic 32],
        uploads (record source s (0, .empty)).dealings ≠ [] := by
  obtain ⟨long, hlong⟩ : ∃ long : String, (Utf8.encode long).length = 65536 := by
    refine ⟨String.ofList (List.replicate 65536 'a'), ?_⟩
    rw [Utf8.encode, String.toList_ofList, List.flatMap_replicate,
      show Utf8.encodeChar 'a' = [0x61] from rfl, List.flatten_replicate_singleton,
      List.length_replicate]
  have huploads {kind : AttachmentKind} {floor : Int}
      (h : (threeOctets kind (KeyPair.uniform 2).publicKey floor).message.IsUnframed floor) :
      uploads (record RandomSource.numbered.onFirst
        (threeOctets kind (KeyPair.uniform 2).publicKey floor) (0, .empty)).dealings ≠ [] :=
    uploads_of_isUnframed RandomSource.isReliable_numbered.onFirst h rfl (by decide) rfl rfl rfl _
  have hunfit {kind : AttachmentKind} (h : ¬ kind.Fits) :
      (threeOctets kind (KeyPair.uniform 2).publicKey 32).message.IsUnframed 32 := .inr ⟨_, rfl, h⟩
  refine ⟨RandomSource.numbered.onFirst, (KeyPair.uniform 2).publicKey, long, by decide, hlong, ?_⟩
  simp only [List.forall_mem_cons]
  refine ⟨huploads (.inl ?_), huploads (hunfit ?_), huploads (hunfit ?_),
    List.forall_mem_nil _⟩
  · rintro ⟨-, h⟩
    exact absurd h (by decide)
  · rintro ⟨h, -⟩
    rw [hlong] at h
    exact absurd h (by decide)
  · rintro ⟨-, h⟩
    rw [hlong] at h
    exact absurd h (by decide)

/-- Without a key of 32 octets or without data there is a failure and nothing else. Outside the
range of floors, or with a string that is too long, there is a failure too, after two draws and one
upload at the most. -/
theorem uploads_of_fault (source : RandomSource ω) (s : Sealing ω) (w : ω) :
    (s.IsRefused → ∃ e, (record source s w).outcome = .error e ∧
      (record source s w).dealings = []) ∧
    (s.message.IsUnframed s.floor → ∃ e, (record source s w).outcome = .error e ∧
      (uploads (record source s w).dealings).length ≤ 1 ∧
      (record source s w).draws.map Prod.fst <+: [32, 24]) := by
  constructor
  · intro h
    obtain ⟨e, he⟩ := s.observed_of_isRefused h source
    refine ⟨e, ?_, ?_⟩
    · simp only [record, he]
      rfl
    · simp only [record, he]
      rfl
  · intro h
    apply of_deals (P := fun outcome ds => ∃ e, outcome = .error e ∧ (uploads ds).length ≤ 1 ∧
      (draws ds).map Prod.fst <+: [32, 24])
    apply (observed_deals_of_isUnframed h source).mono fun _ _ => False.elim
    rintro ds (hfollows | ⟨key, nonce, data, answer, rfl⟩) e
    · refine ⟨e, rfl, ?_, hfollows.draws_prefix⟩
      rw [hfollows.uploads_eq]
      exact Nat.zero_le 1
    · exact ⟨e, rfl, Nat.le_refl 1, List.prefix_rfl⟩

/-- An image for a key that is too short, and one whose floor is out of range. -/
theorem uploads_of_fault_image :
    ∃ (source : RandomSource (Nat × BlobStore)) (refused unframed : Sealing (Nat × BlobStore)),
      refused = threeOctets .image (List.replicate 16 0) 32 ∧ refused.IsRefused ∧
      unframed = threeOctets .image (KeyPair.uniform 2).publicKey 300 ∧
      unframed.message.IsUnframed unframed.floor ∧
      (∃ e, (record source refused (0, .empty)).outcome = .error e ∧
        (record source refused (0, .empty)).dealings = []) ∧
      ∃ e, (record source unframed (0, .empty)).outcome = .error e ∧
        (uploads (record source unframed (0, .empty)).dealings).length ≤ 1 ∧
        (record source unframed (0, .empty)).draws.map Prod.fst <+: [32, 24] := by
  let refused := threeOctets .image (List.replicate 16 0) 32
  let unframed := threeOctets .image (KeyPair.uniform 2).publicKey 300
  have hrefused : refused.IsRefused := by
    refine .inl fun bs hbs => ?_
    cases hbs
    decide
  have hunframed : unframed.message.IsUnframed unframed.floor := .inl fun h => absurd h.2 (by decide)
  exact ⟨RandomSource.numbered.onFirst, refused, unframed, rfl, hrefused, rfl, hunframed,
    (uploads_of_fault _ refused _).1 hrefused, (uploads_of_fault _ unframed _).2 hunframed⟩

end Sealing

end SealedPost
