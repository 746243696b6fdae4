import SealedPost.LocalGateway
import SealedPost.Proofs.Blob

/-!
# What the local gateway holds

Lookups and downloads are counted and change nothing else. An upload adds one blob to the store and
a delivery one letter to the outbox; what was there before stays where it was, as long as the supply
of the store gives no id twice.
-/

namespace SealedPost

/-! ### Blobs under ids of the supply -/

namespace BlobStore

variable {ids : Nat → BlobId} {s : BlobStore} {id : BlobId} {bs box : Bytes}

/-- Are the ids that the store has given out so far different from each other? -/
def IdsDiffer (ids : Nat → BlobId) (s : BlobStore) : Prop :=
  ∀ i j, i < s.issued → j < s.issued → ids i = ids j → i = j

theorem idsDiffer_of_issued_le_one (ids : Nat → BlobId) (h : s.issued ≤ 1) : s.IdsDiffer ids := by
  intro i j hi hj _
  omega

/-- Does a blob lie under an id that the store has given out? -/
def Has (ids : Nat → BlobId) (s : BlobStore) (id : BlobId) (bs : Bytes) : Prop :=
  ∃ n < s.issued, id = ids n ∧ s.blobs.lookup id = some bs

theorem has_kept (ids : Nat → BlobId) (s : BlobStore) (bs : Bytes) :
    (s.kept ids bs).Has ids (ids s.issued) bs :=
  ⟨s.issued, Nat.lt_succ_self _, rfl, lookup_kept ids bs s⟩

/-- A blob stays where it is when another one is kept under a new id. -/
theorem Has.kept (h : s.Has ids id bs) (hd : (s.kept ids box).IdsDiffer ids) :
    (s.kept ids box).Has ids id bs := by
  obtain ⟨n, hn, rfl, hl⟩ := h
  have hne : ids n ≠ ids s.issued := by
    intro heq
    have := hd n s.issued (Nat.lt_succ_of_lt hn) (Nat.lt_succ_self _) heq
    omega
  exact ⟨n, Nat.lt_succ_of_lt hn, rfl, (lookup_kept_of_ne hne).trans hl⟩

end BlobStore

namespace LocalGateway

/-! ### Contents -/

/-- Do two gateways hold the same? The numbers of their calls are left aside. -/
structure SameContents (g g' : LocalGateway) : Prop where
  keys : g'.book.keys = g.book.keys
  outbox : g'.outbox = g.outbox
  uploadFault : g'.uploadFault = g.uploadFault
  blobs : g'.store.blobs = g.store.blobs
  issued : g'.store.issued = g.store.issued

variable {g g' g'' : LocalGateway} {ids : Nat → BlobId}

theorem SameContents.refl (g : LocalGateway) : SameContents g g := ⟨rfl, rfl, rfl, rfl, rfl⟩

theorem SameContents.trans (h : SameContents g g') (h' : SameContents g' g'') :
    SameContents g g'' where
  keys := h'.keys.trans h.keys
  outbox := h'.outbox.trans h.outbox
  uploadFault := h'.uploadFault.trans h.uploadFault
  blobs := h'.blobs.trans h.blobs
  issued := h'.issued.trans h.issued

theorem SameContents.has {id : BlobId} {bs : Bytes} (h : SameContents g g')
    (hb : g.store.Has ids id bs) : g'.store.Has ids id bs := by
  unfold BlobStore.Has at *
  rwa [h.blobs, h.issued]

/-- The gateway after an upload. -/
def keeping (ids : Nat → BlobId) (bs : Bytes) (g : LocalGateway) : LocalGateway :=
  { g with store := g.store.kept ids bs }

theorem SameContents.keeping (h : SameContents g g') (ids : Nat → BlobId) (bs : Bytes) :
    SameContents (g.keeping ids bs) (g'.keeping ids bs) where
  keys := h.keys
  outbox := h.outbox
  uploadFault := h.uploadFault
  blobs := by
    show (_, _) :: _ = (_, _) :: _
    rw [h.issued, h.blobs]
  issued := congrArg (· + 1) h.issued

/-- The gateway after a delivery. -/
def taking (letter : String × Envelope) (g : LocalGateway) : LocalGateway :=
  { g with outbox := g.outbox ++ [letter] }

/-! ### Calls -/

theorem publicKeyFor_yields (ids : Nat → BlobId) {identity : String} {m : Material}
    (h : g.book.keys.lookup identity = some m) :
    ((gatewayFrom ids).keys.publicKeyFor identity).Yields g fun found g' =>
      found = m ∧ SameContents g g' := by
  refine ⟨m, { g with book := { g.book with lookups := g.book.lookups + 1 } }, ?_, rfl, ?_⟩
  · simp only [gatewayFrom, onBook, KeyBook.lookup, h]
  · exact ⟨rfl, rfl, rfl, rfl, rfl⟩

theorem download_yields {id : BlobId} {bs : Bytes} (h : g.store.Has ids id bs) :
    ((gatewayFrom ids).blobs.download id).Yields g fun found g' =>
      found = some bs ∧ SameContents g g' := by
  obtain ⟨-, -, -, hl⟩ := h
  have hd := Action.map_of_ok (g := some) (BlobStore.download_of_lookup hl)
  refine ⟨some bs, { g with store := { g.store with downloads := g.store.downloads + 1 } }, ?_,
    rfl, ?_⟩
  · simp only [gatewayFrom, onStore, hd]
  · exact ⟨rfl, rfl, rfl, rfl, rfl⟩

theorem upload_yields (ids : Nat → BlobId) (h : g.uploadFault = none) (bs : Bytes) :
    ((gatewayFrom ids).blobs.upload bs).Yields g fun id g' =>
      id = some (ids g.store.issued) ∧ g' = g.keeping ids bs := by
  refine ⟨some (ids g.store.issued), g.keeping ids bs, ?_, rfl, rfl⟩
  simp only [gatewayFrom, upload, h]
  rfl

theorem deliver_yields (ids : Nat → BlobId) (recipient : String) (envelope : Envelope) :
    ((gatewayFrom ids).deliver recipient envelope).Yields g fun _ g' =>
      g' = g.taking (recipient, envelope) :=
  ⟨_, _, rfl, rfl⟩

/-! ### Sealing over the gateway -/

/-- Over the gateway, an upload adds one blob, and random sources have nothing to do with it. -/
theorem accepts {ρ : Type} (ids : Nat → BlobId) (source : RandomSource ρ)
    (h : g.uploadFault = none) :
    (gatewayFrom ids).onSecond.blobs.Accepts source.onFirst (fun w => SameContents g w.2)
      fun id bs w => id = ids g.store.issued ∧ SameContents (g.keeping ids bs) w.2 where
  before := source.keeps_onFirst (SameContents g)
  upload := fun bs ⟨r, g'⟩ hg => by
    apply ((upload_yields ids (hg.uploadFault.trans h) bs).onSecond r).mono
    rintro _ w' ⟨-, rfl, hw'⟩
    refine ⟨_, rfl, by rw [hg.issued], ?_⟩
    rw [hw']
    exact hg.keeping ids bs
  after := fun id bs => source.keeps_onFirst fun g' =>
    id = ids g.store.issued ∧ SameContents (g.keeping ids bs) g'

/-- A gateway after a message has been sent: its letter is the last one, and every blob is where it
was unless an id has been given out twice. -/
structure Takes (ids : Nat → BlobId) (letter : String × Envelope) (g g' : LocalGateway) :
    Prop where
  keys : g'.book.keys = g.book.keys
  uploadFault : g'.uploadFault = g.uploadFault
  outbox : g'.outbox = g.outbox ++ [letter]
  has : g'.store.IdsDiffer ids → ∀ id bs, g.store.Has ids id bs → g'.store.Has ids id bs

theorem SameContents.takes (h : SameContents g g') (ids : Nat → BlobId)
    (letter : String × Envelope) : g.Takes ids letter (g'.taking letter) where
  keys := h.keys
  uploadFault := h.uploadFault
  outbox := congrArg (· ++ [letter]) h.outbox
  has := fun _ _ _ hb => h.has hb

theorem SameContents.takes_keeping {bs : Bytes} (h : SameContents (g.keeping ids bs) g')
    (letter : String × Envelope) : g.Takes ids letter (g'.taking letter) where
  keys := h.keys
  uploadFault := h.uploadFault
  outbox := congrArg (· ++ [letter]) h.outbox
  has := fun hd id box hb => by
    have hkept : (g.store.kept ids bs).IdsDiffer ids := by
      intro i j hi hj
      exact hd i j (h.issued ▸ hi) (h.issued ▸ hj)
    exact h.has (hb.kept hkept)

end LocalGateway

end SealedPost
