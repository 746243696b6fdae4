import SealedPost.Config
import SealedPost.Gateway
import SealedPost.Message.Payload
import SealedPost.Session

/-!
# Connections

A connection speaks to the gateway by requests over a session. Each endpoint makes at most one
request and none when its own argument is at fault. An answer with another status than 200 stands
for a failure; what a status of 400 stands for depends on the endpoint.
-/

namespace SealedPost

/-! ### Statuses -/

/-- Does the status of an answer stand for success, and for which failure otherwise? -/
def checkStatus (status : Int) (badRequest : Option Failure) : Except Failure Unit :=
  if status = 200 then .ok ()
  else if status = 400 then .error (badRequest.getD (.unknownStatus status))
  else if status = 401 then .error .credentials
  else if status = 402 then .error .credits
  else if status = 404 then .error .notFound
  else if status = 413 then .error .tooLongForGateway
  else if status = 500 then .error .serverFault
  else .error (.unknownStatus status)

/-! ### Arguments -/

/-- How the recipient of a simple message is named. -/
inductive RecipientKind where
  | id
  | phone
  | email
  deriving DecidableEq, Repr

/-- The name of the field that names a recipient. -/
def RecipientKind.field : RecipientKind → String
  | .id    => "to"
  | .phone => "phone"
  | .email => "email"

/-- By what an identity is looked up. -/
inductive LookupCriterion where
  | phone
  | phoneHash
  | email
  | emailHash
  deriving DecidableEq, Repr

namespace LookupCriterion

def name : LookupCriterion → String
  | .phone     => "phone"
  | .phoneHash => "phone_hash"
  | .email     => "email"
  | .emailHash => "email_hash"

def ofName (s : String) : Except Failure LookupCriterion :=
  match [phone, phoneHash, email, emailHash].find? (·.name = s) with
  | some criterion => .ok criterion
  | none           => .error (.unknownCriterion s)

end LookupCriterion

/-! ### Requests -/

/-- A configuration and the session that its requests go over. -/
structure Connection (ω : Type) where
  config : Config
  session : Session ω

namespace Connection

variable {ω : Type}

/-- The identity and the secret, as fields of a query or a form. -/
def credentialForm (c : Connection ω) : Form :=
  [("from", c.config.identity), ("secret", c.config.secret)]

/-- The failure of a request; one that failed on its way is told with its path. -/
def requestFailure (path : String) (cause : Failure) : Failure :=
  if cause.kind.isRequest then .requestFailed path cause else cause

/-- Makes a request for a path and checks the status of the answer. -/
def request (c : Connection ω) (method : Method) (path : String) (query form headers : Option Form)
    (file : Option FilePart) (badRequest : Option Failure) : Action ω Response := fun w =>
  match c.session.request ⟨method, c.config.apiUrl ++ path, c.config.timeout, query, form, headers,
      file⟩ w with
  | .error e w  => .error (requestFailure path e) w
  | .ok r w =>
    match checkStatus r.status badRequest with
    | .error e => .error e w
    | .ok ()   => .ok r w

/-- Posts a form and gives the text of the answer without the white space around it. -/
def post (c : Connection ω) (path : String) (form : Form) : Action ω String := do
  let r ← c.request .post path none (some form) (some [("Accept", "application/json")]) none
    (some .badRecipient)
  pure (strip r.text)

/-- Gets what is under a path. -/
def get (c : Connection ω) (path : String) (badRequest : Option Failure) : Action ω Response :=
  c.request .get path (some c.credentialForm) none none none badRequest

/-- Wraps the failures of the library's own kinds. -/
def wrapping {α : Type} (wrap : Failure → Failure) (x : Action ω α) : Action ω α := fun w =>
  match x w with
  | .ok a w    => .ok a w
  | .error e w => .error (if e.kind.isGateway then wrap e else e) w

/-! ### Sending -/

/-- Sends a text that the gateway seals; gives the id of the message. -/
def sendSimple (c : Connection ω) (kind : RecipientKind) (recipient text : String) :
    Action ω String :=
  if maxTextSize < (Utf8.encode text).length then throw .simpleTextTooLong
  else c.post "/send_simple" ((c.credentialForm.set "text" text).set kind.field recipient)

/-- The names that further parameters of a delivery may not have: those of what is sent, to whom
and over what. -/
def reservedNames : List String := ["self", "to", "envelope"]

/-- Refuses the first parameter that has a reserved name. -/
def checkParameters (parameters : Form) : Except Failure Unit :=
  match parameters.find? fun p => reservedNames.contains p.1 with
  | some (name, _) => .error (.reservedParameter name)
  | none           => .ok ()

/-- Sends an envelope; gives the id of the message. Further parameters are looked at before
anything else; they cannot take the place of the fields that say from whom, to whom and what is
sent. -/
def sendEnvelope (c : Connection ω) (recipient : Identity.Candidate) (envelope : Envelope)
    (parameters : Form) : Action ω String := do
  Action.ofExcept (checkParameters parameters)
  let recipient ← Action.ofExcept (Identity.validate recipient)
  let (nonce, box) := envelope.toHex
  c.post "/send_e2e" ((parameters.update c.credentialForm).update
    [("to", recipient), ("nonce", nonce), ("box", box)])

/-! ### Blobs -/

/-- Uploads a blob; gives its id. -/
def uploadBlob (c : Connection ω) (bs : Bytes) : Action ω BlobId :=
  wrapping .uploadFailed do
    let r ← c.request .post "/upload_blob" (some c.credentialForm) none
      (some [("Accept", "text/plain")]) (some ⟨"blob", bs, "application/octet-stream"⟩)
      (some .badBlob)
    Action.ofExcept (BlobId.ofHex (strip r.text))

/-- Downloads a blob. An id that is missing is asked for like any other. -/
def downloadBlob (c : Connection ω) (id : Option BlobId) : Action ω (Option Bytes) := do
  let r ← wrapping (.downloadFailed (BlobId.shown id)) (c.get ("/blobs/" ++ BlobId.shown id) none)
  pure r.content

/-! ### Lookups -/

/-- The public key of an identity. -/
def lookupPublicKey (c : Connection ω) (identity : Identity.Candidate) : Action ω Bytes := do
  let identity ← Action.ofExcept (Identity.validate identity)
  let r ← c.get ("/pubkeys/" ++ identity) none
  Action.ofExcept (Key.ofHex r.text)

/-- The identity that belongs to a phone number, an address or the hash of one. -/
def lookupIdentity (c : Connection ω) (criterion : LookupCriterion) (value : String) :
    Action ω String := do
  let r ← c.get ("/lookup/" ++ criterion.name ++ "/" ++ value) (some (.badCriterion criterion.name))
  pure (strip r.text)

/-- The credits that are left. -/
def credits (c : Connection ω) : Action ω Int := do
  let r ← c.get "/credits" none
  Action.ofExcept ((Whole.read (strip r.text)).mapError fun _ => .creditsUnreadable r.text)

/-! ### As a gateway -/

/-- What a connection is to a client. -/
def gateway (c : Connection ω) : Gateway ω where
  blobs := {
    upload   := fun bs => some <$> c.uploadBlob bs
    download := fun id => c.downloadBlob id }
  deliver recipient envelope := c.sendEnvelope recipient envelope []
  keys := ⟨fun identity => Material.octets <$> c.lookupPublicKey identity⟩

end Connection

end SealedPost
