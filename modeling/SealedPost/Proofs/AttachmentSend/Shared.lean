import SealedPost.Proofs.AttachmentSend.Watched

/-!
# Sends that share a store

Any number of sends put their blobs into one store and draw from one random source, their calls in
any order, with steps that fail and sends that are abandoned in between. An envelope that a send
holds leads to the data of that send: what the send encrypted is what lies under the id that its own
upload was answered with, and this is the id in its frame. Other sends add to the store and take
nothing from it.
-/

namespace SealedPost

variable {ι ρ : Type}

/-! ### Many sends -/

/-- Sends with the store that they share and what is around them. -/
structure Outgoing (ι ρ : Type) where
  sends : ι → AttachmentSend.Watched
  around : ρ
  store : BlobStore

namespace Outgoing

/-- What can happen: a step of one of the sends is called, or a blob is fetched. -/
inductive Event (ι ρ : Type) where
  | call (i : ι) (c : AttachmentSend.Call (ρ × BlobStore))
  | fetch (r : BlobReference)

/-- Every upload is one into the store, if it does not fail. -/
def Event.IsAllowed (ids : Nat → BlobId) : Event ι ρ → Prop
  | .call _ c => c.Reaches ids
  | .fetch _  => True

/-- Every send is at the beginning of its attachment. -/
def IsSetUp (a : ι → Attachment) (n : Outgoing ι ρ) : Prop :=
  ∀ i, ∃ s, AttachmentSend.start (a i) = .ok s ∧ n.sends i = ⟨s, [], []⟩

/-- Every send stands for the data of its attachment. -/
def Stands (ids : Nat → BlobId) (a : ι → Attachment) (n : Outgoing ι ρ) : Prop :=
  ∀ i, ∃ data, (a i).data = some data ∧ (n.sends i).Stands ids (a i).kind data n.store

theorem IsSetUp.stands {a : ι → Attachment} {n : Outgoing ι ρ} (h : n.IsSetUp a)
    (ids : Nat → BlobId) : n.Stands ids a := by
  intro i
  obtain ⟨s, hs, hi⟩ := h i
  rw [AttachmentSend.start] at hs
  split at hs
  case h_1 => cases hs
  case h_2 data hdata =>
    cases hs
    rw [hi]
    exact ⟨data, hdata, ⟨rfl, rfl⟩, rfl, rfl, rfl⟩

variable [DecidableEq ι]

/-- What an event makes of the sends and the store. -/
def after (source : RandomSource ρ) (ids : Nat → BlobId) (n : Outgoing ι ρ) :
    Event ι ρ → Outgoing ι ρ
  | .call i c =>
    let (s, around, store) := (n.sends i).after source.onFirst (n.around, n.store) c
    ⟨Function.update n.sends i s, around, store⟩
  | .fetch r =>
    match r.fetch (BlobStore.transportFrom ids) n.store with
    | .ok _ store    => { n with store := store }
    | .error _ store => { n with store := store }

/-- What the sends and the store can come to while no blob id is given out twice. -/
inductive Run (source : RandomSource ρ) (ids : Nat → BlobId) (n₀ : Outgoing ι ρ) :
    Outgoing ι ρ → Prop where
  | start : Run source ids n₀ n₀
  | step {n : Outgoing ι ρ} (e : Event ι ρ) (h : Run source ids n₀ n) (he : e.IsAllowed ids)
      (hids : (n.after source ids e).store.IdsDiffer ids) : Run source ids n₀ (n.after source ids e)

variable {source : RandomSource ρ} {ids : Nat → BlobId} {a : ι → Attachment}
  {n₀ n n' : Outgoing ι ρ}

/-! ### Steps and runs -/

theorem grows_fetch (r : BlobReference) (n : Outgoing ι ρ) :
    BlobStore.Grows ids n.store (n.after source ids (.fetch r)).store := by
  have hf := r.fetch_ensures_grows ids n.store
  rw [after]
  cases hr : r.fetch (BlobStore.transportFrom ids) n.store with
  | ok data store => exact (hf.of_ok hr).1
  | error e store => exact hf.of_error hr

theorem grows_after (hs : source.IsExact) (h : n.Stands ids a) {e : Event ι ρ}
    (he : e.IsAllowed ids) : BlobStore.Grows ids n.store (n.after source ids e).store := by
  cases e with
  | call i c =>
    obtain ⟨data, -, hi⟩ := h i
    exact (hi.after (w := (n.around, n.store)) hs he).1
  | fetch r => exact grows_fetch r n

/-- What the calls of a send keep true of it and of the store stays true of it after every event, if
it is true also when only the store has changed. -/
theorem sends_after {R : BlobStore → AttachmentSend.Watched → Prop} {i : ι} {e : Event ι ρ}
    (he : e.IsAllowed ids)
    (hown : ∀ c : AttachmentSend.Call (ρ × BlobStore), c.Reaches ids →
      R ((n.sends i).after source.onFirst (n.around, n.store) c).2.2
        ((n.sends i).after source.onFirst (n.around, n.store) c).1)
    (hothers : R (n.after source ids e).store (n.sends i)) :
    R (n.after source ids e).store ((n.after source ids e).sends i) := by
  cases e with
  | call j c =>
    by_cases hij : i = j
    · subst hij
      have hi : (n.after source ids (.call i c)).sends i = _ := Function.update_self i _ n.sends
      rw [hi]
      exact hown c he
    · have hi : (n.after source ids (.call j c)).sends i = n.sends i :=
        Function.update_of_ne hij _ _
      rwa [hi]
  | fetch r =>
    have hi : (n.after source ids (.fetch r)).sends = n.sends := by
      rw [after]
      split <;> rfl
    rwa [hi]

theorem Stands.after (hs : source.IsExact) (h : n.Stands ids a) {e : Event ι ρ}
    (he : e.IsAllowed ids) (hids : (n.after source ids e).store.IdsDiffer ids) :
    (n.after source ids e).Stands ids a := by
  intro i
  obtain ⟨data, hdata, hi⟩ := h i
  refine ⟨data, hdata, sends_after (R := AttachmentSend.Watched.Stands ids (a i).kind data) he
    (fun c hc => ?_) ?_⟩
  · exact (hi.after (w := (n.around, n.store)) hs hc).2
  · exact hi.mono (grows_after hs h he) hids

theorem Run.stands (hs : source.IsExact) (h₀ : n₀.Stands ids a) (h : Run source ids n₀ n) :
    n.Stands ids a := by
  induction h with
  | start => exact h₀
  | step e h he hids ih => exact ih.after hs he hids

section Posts

variable {i : ι} {data : Bytes} {envelope : Envelope} {sealing : Material × Material}
  {r : BlobReference}

theorem posts_after (hs : source.IsExact) (h : n.Stands ids a)
    (hp : (n.sends i).Posts ids (a i).kind data n.store envelope sealing r) {e : Event ι ρ}
    (he : e.IsAllowed ids) (hids : (n.after source ids e).store.IdsDiffer ids) :
    ((n.after source ids e).sends i).Posts ids (a i).kind data (n.after source ids e).store
      envelope sealing r := by
  refine sends_after (R := fun store s => s.Posts ids (a i).kind data store envelope sealing r) he
    (fun c hc => ?_) ?_
  · obtain ⟨hnext, hw⟩ := hp.after source (w := (n.around, n.store)) c
    rwa [hw]
  · exact hp.mono (grows_after hs h he) hids

theorem Run.posts (hs : source.IsExact) (h₀ : n₀.Stands ids a)
    (hp : (n₀.sends i).Posts ids (a i).kind data n₀.store envelope sealing r)
    (h : Run source ids n₀ n) :
    (n.sends i).Posts ids (a i).kind data n.store envelope sealing r := by
  induction h with
  | start => exact hp
  | step e h he hids ih => exact posts_after hs (h.stands hs h₀) ih he hids

end Posts

/-- Whenever a send holds an envelope, whatever else was called on it and on others before, the
message in it is of the kind of the attachment and refers to a blob under the id that its own upload
was answered with. This blob is in the store and gives back the data of the attachment, and so it
stays, together with the envelope, whatever is called afterwards. -/
theorem envelope_leads_to_data (hs : source.IsExact) (h₀ : n₀.IsSetUp a)
    (h : Run source ids n₀ n) {i : ι} {envelope : Envelope}
    (he : (n.sends i).send.envelope = some envelope) :
    ∃ (id : BlobId) (sealing : Material × Material) (r : BlobReference), r.blobId = some id ∧
      envelope.OpensTo sealing (.attachment ⟨(a i).kind, none, some r⟩) ∧
      ∀ n', Run source ids n n' →
        (n'.sends i).send.envelope = some envelope ∧ (n'.sends i).answers = [some id] ∧
        (n'.sends i).sealings = [sealing] ∧ n'.store.contains (some id) = true ∧
        (r.fetch (BlobStore.transportFrom ids)).Yields n'.store fun fetched _ =>
          (a i).data = some fetched := by
  have hn := h.stands hs (h₀.stands ids)
  obtain ⟨data, hdata, hi⟩ := hn i
  obtain ⟨envelope', sealing, r, hp⟩ := hi.isUnsealed_or_posts.resolve_left fun hu => by
    cases hu.1.symm.trans he
  cases hp.envelope_eq.symm.trans he
  obtain ⟨id, -, -, hid, -⟩ := hp.stored
  refine ⟨id, sealing, r, hid, hp.opens, fun n' hn' => ?_⟩
  have hp' := hn'.posts hs hn hp
  obtain ⟨id', box, -, hid', -, hanswers, hbox⟩ := hp'.stored
  cases hid.symm.trans hid'
  refine ⟨hp'.envelope_eq, hanswers, hp'.sealings_eq, hbox.contains, ?_⟩
  have hleads : r.LeadsTo data (n'.store.Has ids) :=
    BlobReference.LeadsTo.mono hp'.stored fun _ _ h => h.2
  exact (BlobReference.fetch_yields_of_has hleads).mono fun fetched _ hfetched =>
    hdata.trans (congrArg some hfetched.symm)

/-! ### Two sends -/

/-- An image and a file at their beginnings, around an empty store. -/
def pair : Outgoing Bool Nat where
  sends b :=
    let (a, data) : Attachment × Bytes :=
      if b then (⟨.file "text/plain" "notes.txt", some [4, 5], none⟩, [4, 5])
      else (⟨.image, some [1, 2, 3], none⟩, [1, 2, 3])
    ⟨⟨a, data, .composed, none, none, none, none, none, .empty⟩, [], []⟩
  around := 0
  store := .empty

theorem isSetUp_pair : pair.IsSetUp fun b => (pair.sends b).send.attachment := by
  intro b
  cases b <;> exact ⟨_, rfl, rfl⟩

/-- Both are uploaded, the file is abandoned over a floor that is out of range, and the image is
sealed: its message opens, and its data are fetched. -/
theorem envelope_leads_to_data_image :
    ∃ n : Outgoing Bool Nat, ∃ envelope r,
      RandomSource.numbered.IsExact ∧ pair.IsSetUp (fun b => (pair.sends b).send.attachment) ∧
      Run RandomSource.numbered BlobStore.counted pair n ∧
      (n.sends false).send.envelope = some envelope ∧ (n.sends true).send.stage = .aborted ∧
      n.store.size = 2 ∧
      Message.open envelope (KeyPair.uniform 1).publicKey (KeyPair.uniform 2).privateKey =
        .ok (.attachment ⟨.image, none, some r⟩) ∧
      (r.fetch (BlobStore.transportFrom BlobStore.counted)).Yields n.store fun fetched _ =>
        some [1, 2, 3] = some fetched := by
  let t : BlobTransport (Nat × BlobStore) := (BlobStore.transportFrom BlobStore.counted).onSecond
  have ht : t.Reaches BlobStore.counted := BlobStore.reaches_transportFrom _
  have hs := RandomSource.isReliable_numbered.isExact
  have h₀ : Run RandomSource.numbered BlobStore.counted pair pair := .start
  have h₁ := h₀.step (.call false .encryptBlob) trivial
    (BlobStore.idsDiffer_counted (by decide +kernel))
  have h₂ := h₁.step (.call true .encryptBlob) trivial
    (BlobStore.idsDiffer_counted (by decide +kernel))
  have h₃ := h₂.step (.call true (.upload t)) ht
    (BlobStore.idsDiffer_counted (by decide +kernel))
  have h₄ := h₃.step (.call false (.upload t)) ht
    (BlobStore.idsDiffer_counted (by decide +kernel))
  have h₅ := h₄.step (.call true (.buildFrame 257)) trivial
    (BlobStore.idsDiffer_counted (by decide +kernel))
  have h₆ := h₅.step (.call false (.buildFrame 32)) trivial
    (BlobStore.idsDiffer_counted (by decide +kernel))
  have h₇ := h₆.step (.call false (.sealFrame (.octets (KeyPair.uniform 2).publicKey)
    (.octets (KeyPair.uniform 1).privateKey))) trivial
    (BlobStore.idsDiffer_counted (by decide +kernel))
  obtain ⟨n, hrun, henvelope, hsealing, hstage, hsize⟩ :
      ∃ n, Run RandomSource.numbered BlobStore.counted pair n ∧
        (n.sends false).send.envelope.isSome = true ∧
        (n.sends false).sealings =
          [(.octets (KeyPair.uniform 2).publicKey, .octets (KeyPair.uniform 1).privateKey)] ∧
        (n.sends true).send.stage = .aborted ∧ n.store.size = 2 :=
    ⟨_, h₇, by decide +kernel, by decide +kernel, by decide +kernel, by decide +kernel⟩
  obtain ⟨envelope, he⟩ := Option.isSome_iff_exists.mp henvelope
  obtain ⟨id, sealing, r, -, hopens, hlater⟩ := envelope_leads_to_data hs isSetUp_pair hrun he
  obtain ⟨-, -, hsealings, -, hfetch⟩ := hlater n .start
  cases hsealings.symm.trans hsealing
  exact ⟨n, envelope, r, hs, isSetUp_pair, hrun, he, hstage, hsize,
    hopens _ _ KeyPair.agrees_uniform rfl rfl, hfetch⟩

end Outgoing

end SealedPost
