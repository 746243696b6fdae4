import SealedPost.BlobTransport
import SealedPost.KeyDirectory

/-!
# Gateways

To a client, a gateway is a place for blobs, a delivery of envelopes and a directory of keys.
-/

namespace SealedPost

/-- What a client works with, in a world. A delivery is answered with the id of the message. -/
structure Gateway (ω : Type) where
  blobs : BlobTransport ω
  deliver : String → Envelope → Action ω String
  keys : KeyDirectory ω

namespace Gateway

variable {ρ ν : Type}

def onFirst (g : Gateway ρ) : Gateway (ρ × ν) where
  blobs               := g.blobs.onFirst
  deliver recipient e := (g.deliver recipient e).onFirst
  keys                := g.keys.onFirst

def onSecond (g : Gateway ν) : Gateway (ρ × ν) where
  blobs               := g.blobs.onSecond
  deliver recipient e := (g.deliver recipient e).onSecond
  keys                := g.keys.onSecond

end Gateway

end SealedPost
