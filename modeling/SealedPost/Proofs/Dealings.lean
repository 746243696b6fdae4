import SealedPost.Proofs.AttachmentSend.InOrder

/-!
# What is dealt with collaborators

A dealing is a call of a random source or a transport with what came of it. `Action.Deals` says of
an action on an observed world which dealings it adds if it succeeds and which if it fails, whatever
world it starts in; what is sealed is described in this way layer by layer.
-/

namespace SealedPost

variable {ω α β : Type}

/-! ### Dealings -/

/-- A call of a collaborator and what came of it. -/
inductive Dealing where
  | draw (size : Nat) (answer : Except Failure Material)
  | upload (bs : Bytes) (answer : Except Failure (Option BlobId))
  | download (id : BlobId) (answer : Except Failure (Option Bytes))

/-- The size of a draw and what came of it. -/
def Dealing.draw? : Dealing → Option (Nat × Except Failure Material)
  | .draw size answer => some (size, answer)
  | _                 => none

def Dealing.size? (d : Dealing) : Option Nat := d.draw?.map Prod.fst

/-- An action with a note of what came of it. -/
def Action.observed {δ : Type} (note : Except Failure α → δ) (x : Action ω α) :
    Action (ω × List δ) α := fun (w, notes) =>
  match x w with
  | .ok a w    => .ok a (w, notes ++ [note (.ok a)])
  | .error e w => .error e (w, notes ++ [note (.error e)])

/-- The source with a record of what is drawn. -/
def RandomSource.observed (source : RandomSource ω) : RandomSource (ω × List Dealing) :=
  ⟨fun size => (source.draw size).observed (.draw size)⟩

theorem RandomSource.IsReliable.observed {source : RandomSource ω} (hs : source.IsReliable) :
    source.observed.IsReliable := by
  intro size ⟨w, log⟩
  obtain ⟨bs, w', hd, hl⟩ := hs size w
  refine ⟨bs, (w', log ++ [.draw size (.ok (.octets bs))]), ?_, hl⟩
  simp only [RandomSource.observed, Action.observed, hd]

/-- The transport with a record of its calls. -/
def BlobTransport.observed (t : BlobTransport ω) : BlobTransport (ω × List Dealing) where
  upload bs   := (t.upload bs).observed (.upload bs)
  download id := (t.download id).observed (.download id)

/-! ### Dealings of an action -/

namespace Action

/-- From any world on, the action adds dealings to the record of which `Q` holds, with its result,
if it succeeds, and `E` if it fails. -/
def Deals (x : Action (ω × List Dealing) α) (Q : α → List Dealing → Prop)
    (E : List Dealing → Prop) : Prop :=
  ∀ w log, x.EndsIn (w, log) (fun a w' => ∃ ds, w'.2 = log ++ ds ∧ Q a ds)
    fun w' => ∃ ds, w'.2 = log ++ ds ∧ E ds

variable {x : Action (ω × List Dealing) α} {f : α → Action (ω × List Dealing) β}
  {Q : α → List Dealing → Prop} {R : β → List Dealing → Prop} {E F : List Dealing → Prop}

theorem Deals.pure {a : α} (h : Q a []) : (Pure.pure a : Action (ω × List Dealing) α).Deals Q E :=
  fun _ log => .pure ⟨[], (List.append_nil log).symm, h⟩

theorem Deals.throw (h : E []) (e : Failure) :
    (MonadExcept.throw e : Action (ω × List Dealing) α).Deals Q E :=
  fun _ log => .throw ⟨[], (List.append_nil log).symm, h⟩ e

theorem Deals.ofExcept {r : Except Failure α} (he : E []) (h : ∀ a, r = .ok a → Q a []) :
    (Action.ofExcept r : Action (ω × List Dealing) α).Deals Q E := by
  cases r with
  | ok a => exact .pure (h a rfl)
  | error e => exact .throw he e

theorem Deals.mono {Q' : α → List Dealing → Prop} (h : x.Deals Q E)
    (hq : ∀ a ds, Q a ds → Q' a ds) (he : ∀ ds, E ds → F ds) : x.Deals Q' F :=
  fun w log => (h w log).mono (fun a _ ⟨ds, hw, hds⟩ => ⟨ds, hw, hq a ds hds⟩)
    fun _ ⟨ds, hw, hds⟩ => ⟨ds, hw, he ds hds⟩

/-- What is done later adds to the dealings there are. -/
theorem Deals.bind (h : x.Deals Q F) (he : ∀ ds, F ds → E ds)
    (hf : ∀ a ds, Q a ds → (f a).Deals (fun b ds' => R b (ds ++ ds')) fun ds' => E (ds ++ ds')) :
    (x >>= f).Deals R E := by
  intro w log
  apply ((h.mono (fun _ _ => id) he) w log).bind
  rintro a ⟨w₁, _⟩ ⟨ds, rfl, hds⟩
  apply (hf a ds hds w₁ (log ++ ds)).mono
  · rintro b w₂ ⟨ds', hw₂, hb⟩
    exact ⟨ds ++ ds', by rw [hw₂, List.append_assoc], hb⟩
  · rintro w₂ ⟨ds', hw₂, he⟩
    exact ⟨ds ++ ds', by rw [hw₂, List.append_assoc], he⟩

/-- A check deals with nobody. -/
theorem Deals.ofExcept_bind {r : Except Failure α} (he : E [])
    (hf : ∀ a, r = .ok a → (f a).Deals R E) : (Action.ofExcept r >>= f).Deals R E := by
  cases r with
  | ok a => exact hf a rfl
  | error e => exact .throw he e

theorem Deals.adaptExcept (h : x.Deals Q E) (g : Failure → Failure) :
    Deals (EStateM.adaptExcept g x) Q E :=
  fun w log => (h w log).adaptExcept g

theorem observed_deals (note : Except Failure α → Dealing) (x : Action ω α) :
    (x.observed note).Deals (fun a ds => ds = [note (.ok a)])
      fun ds => ∃ e, ds = [note (.error e)] := by
  intro w log
  cases hx : x w with
  | ok a w' =>
    have hrun : x.observed note (w, log) = .ok a (w', log ++ [note (.ok a)]) := by
      simp only [observed, hx]
    rw [endsIn_of_ok hrun]
    exact ⟨_, rfl, rfl⟩
  | error e w' =>
    have hrun : x.observed note (w, log) = .error e (w', log ++ [note (.error e)]) := by
      simp only [observed, hx]
    rw [endsIn_of_error hrun]
    exact ⟨_, rfl, e, rfl⟩

end Action

/-! ### Plans -/

/-- Nothing but draws, of the first of these sizes. -/
def Follows (ds : List Dealing) (sizes : List Nat) : Prop :=
  ds.map Dealing.size? <+: sizes.map some

theorem Follows.nil (sizes : List Nat) : Follows [] sizes := List.nil_prefix

theorem Follows.extend {ds : List Dealing} {sizes : List Nat} (h : Follows ds sizes)
    (more : List Nat) : Follows ds (sizes ++ more) := by
  rw [Follows, List.map_append]
  exact h.trans (List.prefix_append _ _)

/-- Once all sizes of a plan have been drawn, another plan is begun. -/
theorem Follows.append {ds ds' : List Dealing} {sizes sizes' : List Nat}
    (h : ds.map Dealing.size? = sizes.map some) (h' : Follows ds' sizes') :
    Follows (ds ++ ds') (sizes ++ sizes') := by
  rw [Follows, List.map_append, List.map_append, h]
  exact (List.prefix_append_right_inj _).mpr h'

/-- The draws among dealings. -/
def draws (ds : List Dealing) : List (Nat × Except Failure Material) := ds.filterMap Dealing.draw?

theorem draws_append (ds ds' : List Dealing) : draws (ds ++ ds') = draws ds ++ draws ds' :=
  List.filterMap_append

theorem map_fst_draws (ds : List Dealing) : (draws ds).map Prod.fst = ds.filterMap Dealing.size? :=
  List.map_filterMap

theorem Follows.draws_prefix {ds : List Dealing} {sizes : List Nat} (h : Follows ds sizes) :
    (draws ds).map Prod.fst <+: sizes := by
  have hsizes := h.filterMap id
  rwa [List.filterMap_map, List.filterMap_map, Function.id_comp, Function.id_comp,
    List.filterMap_some, ← map_fst_draws] at hsizes

theorem Follows.not_mem_upload {ds : List Dealing} {sizes : List Nat} (h : Follows ds sizes)
    (bs : Bytes) (answer : Except Failure (Option BlobId)) : .upload bs answer ∉ ds := by
  intro hmem
  obtain ⟨size, -, hsize⟩ := List.mem_map.mp (h.subset (List.mem_map_of_mem hmem))
  cases hsize

/-! ### Keys, nonces and boxes -/

theorem Key.fresh_deals (source : RandomSource ω) :
    (fresh source.observed).Deals
      (fun key ds => key.length = size ∧ ds = [.draw size (.ok (.octets key))])
      fun ds => Follows ds [size] := by
  apply (Action.observed_deals _ _).bind
  · rintro _ ⟨e, rfl⟩
    exact List.prefix_rfl
  · rintro m _ rfl
    refine Action.Deals.ofExcept List.prefix_rfl fun key hkey => ?_
    obtain ⟨rfl, hl⟩ := check_eq_ok_iff.mp hkey
    exact ⟨by exact_mod_cast hl, rfl⟩

theorem Nonce.fresh_deals (source : RandomSource ω) :
    (fresh source.observed).Deals
      (fun nonce ds => ds = [.draw nonceSize (.ok (.octets nonce))])
      fun ds => Follows ds [nonceSize] := by
  apply (Action.observed_deals _ _).bind
  · rintro _ ⟨e, rfl⟩
    exact List.prefix_rfl
  · rintro m _ rfl
    refine Action.Deals.ofExcept List.prefix_rfl fun nonce hnonce => ?_
    obtain rfl := check_eq_ok_iff.mp hnonce
    rfl

/-- An envelope has the one nonce that is drawn for it. -/
theorem Box.seal_deals (source : RandomSource ω) (plaintext recipientPublic senderPrivate : Bytes) :
    (Box.seal source.observed plaintext recipientPublic senderPrivate).Deals
      (fun envelope ds => envelope.IsSealed recipientPublic senderPrivate plaintext ∧
        ds = [.draw nonceSize (.ok (.octets envelope.nonce))])
      fun ds => Follows ds [nonceSize] := by
  rw [Box.seal]
  refine .ofExcept_bind (.nil _) fun publicKey hpublic => ?_
  cases (Key.check_eq_ok_iff.mp hpublic).1
  refine .ofExcept_bind (.nil _) fun privateKey hprivate => ?_
  cases (Key.check_eq_ok_iff.mp hprivate).1
  apply (Nonce.fresh_deals source).bind fun _ => id
  rintro nonce _ rfl
  cases hkey : X25519.agree? senderPrivate recipientPublic with
  | none =>
    have hall : Follows [.draw nonceSize (.ok (.octets nonce))] [nonceSize] := List.prefix_rfl
    exact .throw hall _
  | some key => exact .pure ⟨⟨key, hkey, rfl⟩, rfl⟩

/-- A blob has the key and the nonce that are drawn for it, one after the other. -/
theorem Blob.prepare_deals (source : RandomSource ω) (data : Bytes) :
    (prepare source.observed data).Deals
      (fun out ds => ∃ key nonce : Bytes, key.length = Key.size ∧ nonce.length = nonceSize ∧
        out = (SecretBox.seal key nonce data, ⟨.octets key, .octets nonce, none⟩) ∧
        ds = [.draw Key.size (.ok (.octets key)), .draw nonceSize (.ok (.octets nonce))])
      fun ds => Follows ds [Key.size, nonceSize] := by
  apply (Key.fresh_deals source).bind fun _ h => h.extend [nonceSize]
  rintro key _ ⟨hkey, rfl⟩
  rw [Box.sealSymmetric, Key.check_octets hkey, Action.ofExcept_ok_bind, bind_assoc]
  apply (Nonce.fresh_deals source).bind
  · intro ds h
    exact h.append rfl
  · rintro nonce _ rfl
    exact .pure ⟨key, nonce, hkey, nonce.property, rfl, rfl⟩

/-! ### Blobs -/

/-- The dealings of an upload that gets as far as the transport. -/
def Blob.dealings (key nonce data : Bytes) (answer : Except Failure (Option BlobId)) :
    List Dealing :=
  [.draw Key.size (.ok (.octets key)), .draw nonceSize (.ok (.octets nonce)),
    .upload (SecretBox.seal key nonce data) answer]

theorem Blob.put_deals (source : RandomSource ω) (t : BlobTransport ω) (data : Bytes) :
    (put source.observed t.observed data).Deals
      (fun r ds => ∃ key nonce id, key.length = Key.size ∧ nonce.length = nonceSize ∧
        r = ⟨.octets key, .octets nonce, id⟩ ∧ ds = dealings key nonce data (.ok id))
      fun ds => Follows ds [Key.size, nonceSize] ∨
        ∃ key nonce e, ds = dealings key nonce data (.error e) := by
  apply (prepare_deals source data).bind fun _ => .inl
  rintro _ _ ⟨key, nonce, hkey, hnonce, rfl, rfl⟩
  apply ((Action.observed_deals _ _).adaptExcept AttachmentSend.uploadFailure).bind
  · rintro _ ⟨e, rfl⟩
    exact .inr ⟨key, nonce, e, rfl⟩
  · rintro id _ rfl
    exact .pure ⟨key, nonce, id, hkey, hnonce, rfl, rfl⟩

/-! ### Frames -/

namespace Frame

/-- The length of the padding of a payload, for a floor that is in range. -/
def padding (payloadLength floor : Int) : Int := max 1 (floor - 1 - payloadLength)

theorem eq_padding_of_paddingLength {payloadLength floor length : Int}
    (h : paddingLength payloadLength floor = .ok length) :
    length = padding payloadLength floor := by
  rw [paddingLength] at h
  split at h <;> cases h
  rfl

/-- What is drawn for a padding. -/
def fillerSizes (padding : Int) : List Nat :=
  if 1 < padding then [(padding - 1).toNat] else []

/-- The dealings of a padding that is filled. -/
def fillerDealings (padding : Int) (filler : Bytes) : List Dealing :=
  if 1 < padding then [.draw (padding - 1).toNat (.ok (.octets filler))] else []

theorem map_size_fillerDealings (padding : Int) (filler : Bytes) :
    (fillerDealings padding filler).map Dealing.size? = (fillerSizes padding).map some := by
  rw [fillerDealings, fillerSizes]
  split <;> rfl

theorem filler_deals (source : RandomSource ω) (padding : Int) :
    (filler source.observed padding).Deals
      (fun bs ds => (¬ 1 < padding → bs = []) ∧ ds = fillerDealings padding bs)
      fun ds => Follows ds (fillerSizes padding) := by
  rw [filler]
  simp only [fillerDealings, fillerSizes]
  split
  case isTrue h =>
    apply (Action.observed_deals _ _).bind
    · rintro _ ⟨e, rfl⟩
      exact List.prefix_rfl
    · rintro m _ rfl
      refine Action.Deals.ofExcept List.prefix_rfl fun bs hbs => ?_
      obtain rfl := Material.joined_eq_ok_iff.mp hbs
      exact ⟨absurd h, rfl⟩
  case isFalse => exact .pure ⟨fun _ => rfl, rfl⟩

/-- The filler of a frame is all that is drawn for it. -/
theorem encode_deals (source : RandomSource ω) (tag : UInt8) (payload : Bytes) (floor : Int) :
    (encode source.observed tag.toNat payload floor).Deals
      (fun frame ds => ∃ filler,
        paddingLength payload.length floor = .ok (padding payload.length floor) ∧
        (¬ 1 < padding payload.length floor → filler = []) ∧
        frame = tag :: payload ++ filler ++ [UInt8.ofNat (padding payload.length floor).toNat] ∧
        ds = fillerDealings (padding payload.length floor) filler)
      fun ds => Follows ds (fillerSizes (padding payload.length floor)) := by
  have ht : (0 : Int) ≤ tag.toNat ∧ (tag.toNat : Int) ≤ 255 := by
    have := tag.toNat_lt
    omega
  rw [encode, if_pos ht]
  refine .ofExcept_bind (.nil _) fun length hlength => ?_
  obtain rfl := eq_padding_of_paddingLength hlength
  apply (filler_deals source _).bind fun _ => id
  rintro filler _ ⟨hfiller, rfl⟩
  exact .pure ⟨filler, hlength, hfiller, by simp, by simp⟩

end Frame

end SealedPost
