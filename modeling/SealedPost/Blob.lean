import SealedPost.Envelope
import SealedPost.KeyPair

/-!
# Blobs

An attachment travels as a blob of its own. A blob has an id of 16 octets, and a reference to it
holds everything needed to fetch and open it: the id, once there is one, a key and a nonce.
-/

namespace SealedPost

/-! ### Ids -/

/-- The id of a blob. -/
structure BlobId where
  octets : Bytes
  length_octets : octets.length = 16
  deriving DecidableEq

namespace BlobId

def size : Nat := 16

def ofBytes (bs : Bytes) : Except Failure BlobId :=
  if h : bs.length = 16 then .ok ⟨bs, h⟩ else .error (.blobIdLength bs.length)

/-- The id of a number, high octet first. -/
def ofNat (n : Nat) : BlobId := ⟨Bytes.ofNatBE 16 n, by simp⟩

/-- The text of an id: 32 lower-case digits. -/
def toHex (id : BlobId) : String := Hex.encode id.octets

/-- How messages show an id that may be missing. -/
def shown (id : Option BlobId) : String := (id.map toHex).getD "None"

/-- The id that a text of 32 characters spells. -/
def ofHex (text : String) : Except Failure BlobId :=
  if text.length ≠ 2 * size then .error (.blobIdNotHex text)
  else
    match Hex.decode text with
    | .error _ => .error (.blobIdNotHex text)
    | .ok bs   => ofBytes bs

end BlobId

/-! ### References -/

/-- Where a blob is and what opens it. The key and the nonce are looked at when they are used. -/
structure BlobReference where
  key : Material
  nonce : Material
  blobId : Option BlobId
  deriving DecidableEq

namespace BlobReference

/-- The octets of a reference. -/
def size : Nat := BlobId.size + Key.size + nonceSize

/-- The reference to the same blob under another id. -/
def withBlobId (r : BlobReference) (id : Option BlobId) : BlobReference := { r with blobId := id }

def encode (r : BlobReference) : Except Failure Bytes :=
  match r.blobId with
  | none    => .error .blobNotUploaded
  | some id => do
    let key ← r.key.joined
    let nonce ← r.nonce.joined
    pure (id.octets ++ key ++ nonce)

def decode (bs : Bytes) : Except Failure BlobReference :=
  if bs.length = size then do
    let id ← BlobId.ofBytes (bs.take BlobId.size)
    let rest := bs.drop BlobId.size
    pure ⟨.octets (rest.take Key.size), .octets (rest.drop Key.size), some id⟩
  else .error (.referenceLength bs.length)

/-- The text of a reference; its key is left out. -/
def redacted (r : BlobReference) : String :=
  "BlobReference(blob_id=" ++ BlobId.shown r.blobId ++ ", key=<redacted>)"

end BlobReference

end SealedPost
