import SealedPost.Action
import SealedPost.Attachment
import SealedPost.AttachmentSend
import SealedPost.Blob
import SealedPost.BlobTransport
import SealedPost.Box
import SealedPost.Bytes
import SealedPost.Cipher.Poly1305
import SealedPost.Cipher.Salsa20
import SealedPost.Cipher.SecretBox
import SealedPost.Cipher.Sha256
import SealedPost.Cipher.X25519
import SealedPost.Client
import SealedPost.Config
import SealedPost.Connection
import SealedPost.Envelope
import SealedPost.Failure
import SealedPost.Frame
import SealedPost.Gateway
import SealedPost.Identity
import SealedPost.KeyCache
import SealedPost.KeyDirectory
import SealedPost.KeyPair
import SealedPost.LocalGateway
import SealedPost.Material
import SealedPost.Message
import SealedPost.Message.Payload
import SealedPost.Message.Sealed
import SealedPost.Number.Binary64
import SealedPost.Number.Numeral
import SealedPost.Number.Quantity
import SealedPost.Number.Real
import SealedPost.Number.Shortest
import SealedPost.Number.Whole
import SealedPost.RandomSource
import SealedPost.SecretMemory
import SealedPost.Session
import SealedPost.Text.Characters
import SealedPost.Text.Hex
import SealedPost.Text.Quoted
import SealedPost.Text.Utf8
import SealedPost.Proofs.Action
import SealedPost.Proofs.AttachmentSend.InOrder
import SealedPost.Proofs.AttachmentSend.Secrets
import SealedPost.Proofs.AttachmentSend.Shared
import SealedPost.Proofs.AttachmentSend.Stages
import SealedPost.Proofs.AttachmentSend.Steps
import SealedPost.Proofs.AttachmentSend.Watched
import SealedPost.Proofs.BlobStore
import SealedPost.Proofs.Box
import SealedPost.Proofs.Box.Authentic
import SealedPost.Proofs.Cipher.SecretBox
import SealedPost.Proofs.Client
import SealedPost.Proofs.Client.Dispatch
import SealedPost.Proofs.Client.Pinned
import SealedPost.Proofs.Config.Copies
import SealedPost.Proofs.Connection
import SealedPost.Proofs.Connection.Credentials
import SealedPost.Proofs.Connection.Endpoints
import SealedPost.Proofs.Dealings
import SealedPost.Proofs.Envelope
import SealedPost.Proofs.Frame
import SealedPost.Proofs.Frame.Reading
import SealedPost.Proofs.Identity
import SealedPost.Proofs.KeyCache.History
import SealedPost.Proofs.KeyCache.Pruning
import SealedPost.Proofs.Message.Arrival
import SealedPost.Proofs.Message.Canonical
import SealedPost.Proofs.Message.Faults
import SealedPost.Proofs.Message.Grammar
import SealedPost.Proofs.Message.Length
import SealedPost.Proofs.Message.Opening
import SealedPost.Proofs.Message.Randomness
import SealedPost.Proofs.Message.ReadBack
import SealedPost.Proofs.Message.Resolving
import SealedPost.Proofs.Message.RoundTrip
import SealedPost.Proofs.Message.Sealing
import SealedPost.Proofs.Network
import SealedPost.Proofs.Network.Delivery
import SealedPost.Proofs.Octets
import SealedPost.Proofs.Payload
import SealedPost.Proofs.SecretMemory
import SealedPost.Proofs.Text.Hex
import SealedPost.Proofs.Text.Readers
import SealedPost.Proofs.Text.Trimming
import SealedPost.Proofs.Text.Utf8
