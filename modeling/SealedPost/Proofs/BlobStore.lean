import SealedPost.Proofs.LocalGateway

/-!
# Stores that are shared

A store that several parties use only grows: uploads add blobs under new ids, downloads are counted,
and what lies under an id stays there. A reference to a blob that the store has is fetched from it.
-/

namespace SealedPost

variable {ρ : Type}

/-! ### Uploads into one store -/

/-- Does a transport put what it is given into the store, under the next id of the supply, and
answer with that id? An upload may also fail, before or after. -/
def BlobTransport.Reaches (ids : Nat → BlobId) (t : BlobTransport (ρ × BlobStore)) : Prop :=
  ∀ bs w, match t.upload bs w with
    | .ok id w'   => id = some (ids w.2.issued) ∧ w'.2 = w.2.kept ids bs
    | .error _ w' => w'.2 = w.2 ∨ w'.2 = w.2.kept ids bs

namespace BlobStore

variable {ids : Nat → BlobId} {store store' : BlobStore}

theorem reaches_transportFrom (ids : Nat → BlobId) :
    BlobTransport.Reaches ids ((transportFrom ids).onSecond : BlobTransport (ρ × BlobStore)) :=
  fun _ _ => ⟨rfl, rfl⟩

/-- The numbers of blobs are different ids as long as they fit. -/
theorem idsDiffer_counted (h : store.issued < 256 ^ 16) : store.IdsDiffer counted := by
  intro i j hi hj hij
  have hn := congrArg (fun id => Bytes.toNatBE id.octets) hij
  simp only [counted, BlobId.ofNat] at hn
  rw [Bytes.toNatBE_ofNatBE (by omega), Bytes.toNatBE_ofNatBE (by omega)] at hn
  omega

/-! ### Stores that grow -/

/-- A store as it was, as it was but for one blob more, or after a download. -/
inductive Grows (ids : Nat → BlobId) (store : BlobStore) : BlobStore → Prop where
  | refl : Grows ids store store
  | kept (bs : Bytes) : Grows ids store (store.kept ids bs)
  | counted (downloads : Nat) : Grows ids store { store with downloads := downloads }

theorem Grows.has (h : Grows ids store store') (hd : store'.IdsDiffer ids) {id : BlobId}
    {bs : Bytes} (hb : store.Has ids id bs) : store'.Has ids id bs := by
  cases h with
  | refl => exact hb
  | kept box => exact hb.kept hd
  | counted downloads => exact hb

end BlobStore

theorem BlobStore.Has.contains {ids : Nat → BlobId} {store : BlobStore} {id : BlobId} {bs : Bytes}
    (h : store.Has ids id bs) : store.contains (some id) = true := by
  obtain ⟨n, -, -, hl⟩ := h
  rw [BlobStore.contains, BlobStore.get?, Option.bind_some, hl, Option.isSome_some]

theorem BlobReference.fetch_yields_of_has {ids : Nat → BlobId} {r : BlobReference} {data : Bytes}
    {store : BlobStore} (h : r.LeadsTo data (store.Has ids)) :
    (r.fetch (BlobStore.transportFrom ids)).Yields store fun fetched _ => fetched = data := by
  have hdownload : r.LeadsTo data fun id box =>
      ((BlobStore.transportFrom ids).download id).Yields store fun found _ =>
        found = some box ∧ True := by
    refine h.mono fun id box hbox => ?_
    obtain ⟨n, -, -, hl⟩ := hbox
    exact (BlobStore.holds_of_lookup hl).mono fun _ _ hfound => ⟨hfound, trivial⟩
  exact (BlobReference.fetch_yields hdownload).mono fun _ _ h => h.1

/-- To fetch a blob is to download it at most. -/
theorem BlobReference.fetch_ensures_grows (ids : Nat → BlobId) (r : BlobReference)
    (store : BlobStore) :
    (r.fetch (BlobStore.transportFrom ids)).Ensures store (BlobStore.Grows ids store)
      fun _ => True := by
  unfold Action.Ensures fetch
  cases r.blobId with
  | none => exact .refl
  | some id =>
    cases hl : store.blobs.lookup id with
    | none =>
      have hd : (BlobStore.transportFrom ids).download id store =
          .error (.blobNotFound (BlobId.shown (some id)))
            { store with downloads := store.downloads + 1 } := by
        simp only [BlobStore.transportFrom, BlobStore.download, BlobStore.get?, Option.bind_some,
          Functor.map, EStateM.map, hl]
      simp only [hd]
      exact .counted _
    | some bs =>
      have hd : (BlobStore.transportFrom ids).download id store =
          .ok (some bs) { store with downloads := store.downloads + 1 } :=
        Action.map_of_ok (BlobStore.download_of_lookup hl)
      simp only [hd]
      cases r.resolve (some bs) with
      | error e => exact .counted _
      | ok data => exact ⟨.counted _, trivial⟩

end SealedPost
