import SealedPost.BlobTransport
import SealedPost.Box
import SealedPost.Message

/-!
# The data of attachments

The data of an attachment are encrypted under a key of their own before they are uploaded, and
fetched and opened with the reference that came in the frame.
-/

namespace SealedPost

variable {ω : Type}

/-- Encrypts data under a fresh key; gives the encrypted octets and a reference without an id. -/
def Blob.prepare (source : RandomSource ω) (data : Bytes) : Action ω (Bytes × BlobReference) := do
  let key ← Key.fresh source
  let (nonce, encrypted) ← Box.sealSymmetric source data key
  pure (encrypted, ⟨key, nonce, none⟩)

/-- Opens what was downloaded for a reference. -/
def BlobReference.resolve (r : BlobReference) (downloaded : Option Bytes) : Except Failure Bytes :=
  match downloaded with
  | none    => .error (.noBlobData (BlobId.shown r.blobId))
  | some bs => Box.openSymmetric r.nonce bs r.key

/-- The failure of a download, as the one who fetches a blob sees it. -/
def Blob.downloadFailure (id : BlobId) (cause : Failure) : Failure :=
  if cause.kind = .blobFetchFailed then cause else .downloadFailed id.toHex cause

/-- Downloads and opens the blob of a reference. -/
def BlobReference.fetch (r : BlobReference) (t : BlobTransport ω) : Action ω Bytes := fun w =>
  match r.blobId with
  | none    => .error .noBlobId w
  | some id =>
    match t.download id w with
    | .ok downloaded w => Action.ofExcept (r.resolve downloaded) w
    | .error cause w   => .error (Blob.downloadFailure id cause) w

end SealedPost
