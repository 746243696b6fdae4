import SealedPost.Proofs.Connection
import SealedPost.Proofs.Text.Readers

/-!
# One request for each call

All endpoints of a connection are called in the same way: a check of the arguments, one request, a
look at the status of its answer, and what is read from the answer. What a call asks for and what it
makes of an answer is said here for each endpoint; that nothing else happens is said for all of them
at once.
-/

namespace SealedPost

variable {ω : Type}

/-- The kind of failure that a status other than 200 stands for; what 400 stands for is up to the
endpoint. -/
def statusKind (badRequest : Kind) (status : Int) : Kind :=
  match status with
  | 400 => badRequest
  | 401 => .badCredentials
  | 402 => .noCredits
  | 404 => .idNotFound
  | 413 => .messageTooLong
  | 500 => .server
  | _   => .gatewayApi

/-- A text that is offered as an identity; empty if it is none. -/
def Identity.Candidate.spelled : Candidate → String
  | .text s => s
  | _       => ""

theorem Identity.kind_of_validate {offered : Candidate} {e : Failure}
    (h : validate offered = .error e) : e.kind = .invalidIdentity := by
  cases offered with
  | text s =>
    rw [validate] at h
    split_ifs at h
    cases h
    rfl
  | _ =>
    cases h
    rfl

theorem statusKind_isGateway {badRequest : Kind} (h : badRequest.isGateway = true) (status : Int) :
    (statusKind badRequest status).isGateway = true := by
  unfold statusKind
  split
  case h_1 => exact h
  all_goals rfl

/-- The failure of a status is of the kind that the status stands for. -/
theorem kind_of_checkStatus {badRequest : Option Failure} {status : Int} {e : Failure}
    (h : checkStatus status badRequest = .error e) :
    e.kind = statusKind ((badRequest.map Failure.kind).getD .gatewayApi) status := by
  unfold checkStatus at h
  split_ifs at h <;> cases h
  any_goals
    subst_vars
    rfl
  case pos.refl h =>
    subst h
    cases badRequest <;> rfl
  case neg.refl =>
    unfold statusKind
    split <;> first | contradiction | rfl

namespace Connection

theorem wrapping_eq {α : Type} (wrap : Failure → Failure) (x : Action ω α) :
    wrapping wrap x =
      EStateM.adaptExcept (fun e => if e.kind.isGateway then wrap e else e) x := by
  funext w
  rw [wrapping, EStateM.adaptExcept]
  cases x w <;> rfl

/-! ### Calls -/

/-- A call of an endpoint with its arguments. -/
inductive Call where
  | sendSimple (kind : RecipientKind) (recipient text : String)
  | sendEnvelope (recipient : Identity.Candidate) (envelope : Envelope) (parameters : Form)
  | uploadBlob (bs : Bytes)
  | downloadBlob (id : Option BlobId)
  | lookupPublicKey (identity : Identity.Candidate)
  | lookupIdentity (criterion : LookupCriterion) (value : String)
  | credits

/-- What an endpoint gives. -/
inductive Value where
  | text (s : String)
  | blobId (id : BlobId)
  | content (bs : Option Bytes)
  | key (bs : Bytes)
  | number (n : Int)

namespace Call

def perform (c : Connection ω) : Call → Action ω Value
  | .sendSimple kind recipient text => .text <$> c.sendSimple kind recipient text
  | .sendEnvelope recipient envelope parameters =>
    .text <$> c.sendEnvelope recipient envelope parameters
  | .uploadBlob bs                  => .blobId <$> c.uploadBlob bs
  | .downloadBlob id                => .content <$> c.downloadBlob id
  | .lookupPublicKey identity       => .key <$> c.lookupPublicKey identity
  | .lookupIdentity criterion value => .text <$> c.lookupIdentity criterion value
  | .credits                        => .number <$> c.credits

/-! ### What is asked for -/

/-- What the arguments of a call are looked at for before anything is asked for. -/
def check : Call → Except Failure Unit
  | .sendSimple _ _ text =>
    if maxTextSize < (Utf8.encode text).length then .error .simpleTextTooLong else .ok ()
  | .sendEnvelope recipient _ parameters => do
    checkParameters parameters
    let _ ← Identity.validate recipient
  | .lookupPublicKey identity => do
    let _ ← Identity.validate identity
  | _ => .ok ()

@[simp] def method : Call → Method
  | .sendSimple .. | .sendEnvelope .. | .uploadBlob _ => .post
  | _ => .get

@[simp] def path : Call → String
  | .sendSimple ..                  => "/send_simple"
  | .sendEnvelope ..                => "/send_e2e"
  | .uploadBlob _                   => "/upload_blob"
  | .downloadBlob id                => "/blobs/" ++ BlobId.shown id
  | .lookupPublicKey identity       => "/pubkeys/" ++ identity.spelled
  | .lookupIdentity criterion value => "/lookup/" ++ criterion.name ++ "/" ++ value
  | .credits                        => "/credits"

/-- What is sent has the credentials in its form, everything else in its query. -/
@[simp] def query (c : Connection ω) : Call → Option Form
  | .sendSimple .. | .sendEnvelope .. => none
  | _ => some c.credentialForm

@[simp] def form (c : Connection ω) : Call → Option Form
  | .sendSimple kind recipient text =>
    some ((c.credentialForm.set "text" text).set kind.field recipient)
  | .sendEnvelope recipient envelope parameters =>
    some ((parameters.update c.credentialForm).update
      [("to", recipient.spelled), ("nonce", envelope.toHex.1), ("box", envelope.toHex.2)])
  | _ => none

@[simp] def headers : Call → Option Form
  | .sendSimple .. | .sendEnvelope .. => some [("Accept", "application/json")]
  | .uploadBlob _ => some [("Accept", "text/plain")]
  | _ => none

@[simp] def file : Call → Option FilePart
  | .uploadBlob bs => some ⟨"blob", bs, "application/octet-stream"⟩
  | _ => none

/-- The one request of a call. -/
def request (c : Connection ω) (call : Call) : Request :=
  c.requestOf call.method call.path (call.query c) (call.form c) call.headers call.file

/-! ### What is made of the answer -/

/-- What a status of 400 stands for, if not for the status alone. -/
@[simp] def badRequest : Call → Option Failure
  | .sendSimple .. | .sendEnvelope .. => some .badRecipient
  | .uploadBlob _ => some .badBlob
  | .lookupIdentity criterion _ => some (.badCriterion criterion.name)
  | _ => none

/-- What is read from an answer with the status 200. -/
@[simp] def read (r : Response) : Call → Except Failure Value
  | .sendSimple .. | .sendEnvelope .. | .lookupIdentity .. => .ok (.text (strip r.text))
  | .uploadBlob _ => .blobId <$> BlobId.ofHex (strip r.text)
  | .downloadBlob _ => .ok (.content r.content)
  | .lookupPublicKey _ => .key <$> Key.ofHex r.text
  | .credits => .number <$> (Whole.read (strip r.text)).mapError fun _ => .creditsUnreadable r.text

/-- A failure as the caller is told of it. -/
@[simp] def tell (e : Failure) : Call → Failure
  | .uploadBlob _    => if e.kind.isGateway then .uploadFailed e else e
  | .downloadBlob id => if e.kind.isGateway then .downloadFailed (BlobId.shown id) e else e
  | _                => e

/-- The kind of failure that a call tells of one of the library's own kinds: uploads and downloads
have one for all of them. -/
def kindOf (kind : Kind) : Call → Kind
  | .uploadBlob _   => .blobUploadFailed
  | .downloadBlob _ => .blobFetchFailed
  | _               => kind

/-- The kind of failure that a status of 400 stands for. -/
def badRequestKind : Call → Kind
  | .sendSimple .. | .sendEnvelope .. => .badSenderOrRecipient
  | _ => .gatewayApi

/-- What is to come of the answer to a request: a value only with the status 200, and otherwise a
failure of the kind that the status stands for; with the status 400 it is the failure of the
endpoint, if it has one. A request without an answer fails too. -/
def Gives (call : Call) (answer : Except Failure Response) (outcome : Except Failure Value) :
    Prop :=
  match answer with
  | .ok r =>
    if r.status = 200 then
      (∀ v, call.read r = .ok v → outcome = .ok v) ∧
        ∀ e, call.read r = .error e → FailsAs outcome (call.kindOf e.kind)
    else
      FailsAs outcome (call.kindOf (statusKind call.badRequestKind r.status)) ∧
        (r.status = 400 →
          outcome = .error (call.tell (call.badRequest.getD (.unknownStatus 400))))
  | .error cause => ∃ e, outcome = .error e ∧
      (cause.kind.isRequest = true → e.kind = call.kindOf .gatewayApi)

variable {c : Connection ω} {call : Call} {w w' : ω} {e : Failure}

/-! ### The calls are alike -/

theorem perform_of_check_error (h : call.check = .error e) : call.perform c w = .error e w := by
  cases call with
  | sendSimple kind recipient text =>
    rw [check] at h
    split at h
    · cases h
      rw [perform, Connection.sendSimple, if_pos ‹_›]
      rfl
    · cases h
  | sendEnvelope recipient envelope parameters =>
    rw [perform, Connection.sendEnvelope]
    rcases Check.bind_eq_error_iff.mp h with h | ⟨_, hp, h⟩
    · rw [h]
      rfl
    · rcases Check.bind_eq_error_iff.mp h with h | ⟨_, -, h⟩
      · rw [hp, h]
        rfl
      · cases h
  | lookupPublicKey identity =>
    rcases Check.bind_eq_error_iff.mp h with h | ⟨_, -, h⟩
    · rw [perform, Connection.lookupPublicKey, h]
      rfl
    · cases h
  | _ => cases h

/-- A request and what is read from its answer, as the caller is told of it. -/
def exchange (c : Connection ω) (call : Call) : Action ω Value :=
  EStateM.adaptExcept call.tell do
    let r ← c.request call.method call.path (call.query c) (call.form c) call.headers call.file
      call.badRequest
    Action.ofExcept (call.read r)

/-- A call whose arguments are in order is an exchange and nothing else. -/
theorem perform_eq_exchange (h : call.check = .ok ()) : call.perform c = call.exchange c := by
  cases call with
  | sendSimple kind recipient text =>
    have hl : ¬ maxTextSize < (Utf8.encode text).length := by
      intro hl
      rw [check, if_pos hl] at h
      cases h
    simp [perform, Connection.sendSimple, hl, post, exchange, Action.adaptExcept_id,
      Action.ofExcept_ok_eq_pure]
  | sendEnvelope recipient envelope parameters =>
    obtain ⟨_, hp, h⟩ := Check.bind_eq_ok_iff.mp h
    obtain ⟨s, hs, -⟩ := Check.bind_eq_ok_iff.mp h
    obtain ⟨rfl, -⟩ := Identity.validate_eq_ok_iff.mp hs
    simp [perform, Connection.sendEnvelope, hp, hs, post, exchange, Action.adaptExcept_id,
      Action.ofExcept_ok_eq_pure, Identity.Candidate.spelled]
  | uploadBlob bs =>
    simp [perform, Connection.uploadBlob, wrapping_eq, exchange, Action.map_adaptExcept,
      Action.map_ofExcept]
  | downloadBlob id =>
    simp [perform, Connection.downloadBlob, get, wrapping_eq, exchange, Action.map_adaptExcept,
      Action.ofExcept_ok_eq_pure]
  | lookupPublicKey identity =>
    obtain ⟨s, hs, -⟩ := Check.bind_eq_ok_iff.mp h
    obtain ⟨rfl, -⟩ := Identity.validate_eq_ok_iff.mp hs
    simp [perform, Connection.lookupPublicKey, hs, get, exchange, Action.adaptExcept_id,
      Action.map_ofExcept, Identity.Candidate.spelled]
  | lookupIdentity criterion value =>
    simp [perform, Connection.lookupIdentity, get, exchange, Action.adaptExcept_id,
      Action.ofExcept_ok_eq_pure]
  | credits =>
    simp [perform, Connection.credits, get, exchange, Action.adaptExcept_id, Action.map_ofExcept]

/-- What is made of an answer: a failure that its status stands for, or what is read from it. -/
def reading (call : Call) (r : Response) : Except Failure Value :=
  (checkStatus r.status call.badRequest >>= fun _ => call.read r).mapError call.tell

theorem perform_of_answer {r : Response} (h : call.check = .ok ())
    (hs : c.session.request (call.request c) w = .ok r w') :
    call.perform c w = Action.ofExcept (call.reading r) w' := by
  rw [request, requestOf] at hs
  rw [perform_eq_exchange h, exchange, EStateM.adaptExcept]
  simp only [bind, EStateM.bind, Connection.request, hs, reading]
  cases hc : checkStatus r.status call.badRequest with
  | error e => rfl
  | ok _ =>
    simp only [Except.bind]
    cases call.read r <;> rfl

theorem perform_of_no_answer {cause : Failure} (h : call.check = .ok ())
    (hs : c.session.request (call.request c) w = .error cause w') :
    call.perform c w = .error (call.tell (requestFailure call.path cause)) w' := by
  rw [request, requestOf] at hs
  rw [perform_eq_exchange h, exchange, EStateM.adaptExcept]
  simp only [bind, EStateM.bind, Connection.request, hs]

/-! ### Kinds of failures -/

theorem badRequest_kind (call : Call) :
    (call.badRequest.map Failure.kind).getD .gatewayApi = call.badRequestKind := by
  cases call <;> rfl

theorem badRequestKind_isGateway (call : Call) : call.badRequestKind.isGateway = true := by
  cases call <;> rfl

theorem kindOf_isGateway {kind : Kind} (h : kind.isGateway = true) :
    (call.kindOf kind).isGateway = true := by
  cases call with
  | uploadBlob _ => rfl
  | downloadBlob _ => rfl
  | _ => exact h

theorem tell_kind (h : e.kind.isGateway = true) : (call.tell e).kind = call.kindOf e.kind := by
  cases call with
  | uploadBlob _ =>
    rw [tell, if_pos h]
    rfl
  | downloadBlob _ =>
    rw [tell, if_pos h]
    rfl
  | _ => rfl

/-- A request that failed on its way is told as a failure of the gateway. -/
theorem tell_kind_of_requestFailure {path : String} (h : e.kind.isRequest = true) :
    (call.tell (requestFailure path e)).kind = call.kindOf .gatewayApi := by
  have hkind : (requestFailure path e).kind = .gatewayApi := by
    rw [requestFailure, if_pos h]
    rfl
  exact hkind ▸ tell_kind (hkind ▸ rfl)

/-- What cannot be read is told as a failure of its kind. -/
theorem tell_kind_of_read {r : Response} (h : call.read r = .error e) :
    (call.tell e).kind = call.kindOf e.kind := by
  cases call with
  | uploadBlob _ =>
    have hkind := BlobId.kind_of_ofHex (Check.map_eq_error_iff.mp h)
    exact tell_kind (hkind ▸ rfl)
  | downloadBlob _ => cases h
  | _ => rfl

/-! ### One request for each call -/

theorem reading_of_status {r : Response} (h : r.status = 200) :
    call.reading r = (call.read r).mapError call.tell := by
  rw [reading, checkStatus_eq_ok_iff.mpr h]
  rfl

/-- A status of 400 is told as the failure of the endpoint, and by its number where there is
none. -/
theorem reading_of_badRequest {r : Response} (h : r.status = 400) :
    call.reading r = .error (call.tell (call.badRequest.getD (.unknownStatus 400))) := by
  have hcheck : checkStatus r.status call.badRequest =
      .error (call.badRequest.getD (.unknownStatus 400)) := by
    rw [h, checkStatus, if_neg (by decide), if_pos rfl]
  rw [reading, hcheck]
  rfl

theorem gives_reading (call : Call) (r : Response) : call.Gives (.ok r) (call.reading r) := by
  rw [Gives]
  split_ifs with hstatus
  · rw [reading_of_status hstatus]
    constructor
    · intro v hv
      rw [hv]
      rfl
    · intro e he
      rw [he]
      exact ⟨_, rfl, tell_kind_of_read he⟩
  · refine ⟨?_, reading_of_badRequest⟩
    rw [reading]
    cases hc : checkStatus r.status call.badRequest with
    | ok _ => exact absurd (checkStatus_eq_ok_iff.mp hc) hstatus
    | error e =>
      have hkind := kind_of_checkStatus hc
      rw [badRequest_kind] at hkind
      have hgateway := statusKind_isGateway call.badRequestKind_isGateway r.status
      rw [← hkind] at hgateway
      exact ⟨_, rfl, hkind ▸ tell_kind hgateway⟩

/-- A call whose arguments are refused asks for nothing. Every other call makes its one request,
whatever comes of it, and gives what the answer stands for: a value only with the status 200. -/
theorem asks_once (c : Connection ω) (call : Call) (w : ω) (log : List Exchange) :
    match call.check with
    | .error e => call.perform c.observed (w, log) = .error e (w, log)
    | .ok () =>
      let answer := (c.session.request (call.request c)).outcome w
      (call.perform c.observed).after (w, log) =
          ((c.session.request (call.request c)).after w, log ++ [⟨call.request c, answer⟩]) ∧
        call.Gives answer ((call.perform c.observed).outcome (w, log)) := by
  cases hcheck : call.check with
  | error e => exact perform_of_check_error hcheck
  | ok _ =>
    cases hs : c.session.request (call.request c) w with
    | error cause w' =>
      have hobserved : c.observed.session.request (call.request c) (w, log) =
          .error cause (w', log ++ [⟨call.request c, .error cause⟩]) := by
        simp only [observed, Session.observed, hs]
      have hperform := perform_of_no_answer hcheck hobserved
      simp only [Action.outcome, Action.after, hs, hperform]
      exact ⟨trivial, _, rfl, tell_kind_of_requestFailure⟩
    | ok r w' =>
      have hobserved : c.observed.session.request (call.request c) (w, log) =
          .ok r (w', log ++ [⟨call.request c, .ok r⟩]) := by
        simp only [observed, Session.observed, hs]
      have hperform := perform_of_answer hcheck hobserved
      have hgives := gives_reading call r
      simp only [Action.outcome, Action.after, hs, hperform]
      cases hr : call.reading r with
      | ok v =>
        rw [hr] at hgives
        exact ⟨rfl, hgives⟩
      | error e =>
        rw [hr] at hgives
        exact ⟨rfl, hgives⟩

/-! ### Failures that are not of the library -/

/-- Does an endpoint take the arguments of a call at all? Parameters with a reserved name are no
arguments of a delivery. -/
def IsAccepted : Call → Prop
  | .sendEnvelope _ _ parameters => checkParameters parameters = .ok ()
  | _ => True

theorem isGateway_of_check_error (ha : call.IsAccepted) (h : call.check = .error e) :
    e.kind.isGateway = true := by
  cases call with
  | sendSimple kind recipient text =>
    rw [check] at h
    split_ifs at h
    cases h
    rfl
  | sendEnvelope recipient envelope parameters =>
    rw [IsAccepted] at ha
    obtain hp | ⟨_, -, h⟩ := Check.bind_eq_error_iff.mp h
    · cases ha.symm.trans hp
    · obtain hv | ⟨_, -, h⟩ := Check.bind_eq_error_iff.mp h
      · rw [Identity.kind_of_validate hv]
        rfl
      · cases h
  | lookupPublicKey identity =>
    obtain hv | ⟨_, -, h⟩ := Check.bind_eq_error_iff.mp h
    · rw [Identity.kind_of_validate hv]
      rfl
    · cases h
  | _ => cases h

/-- What cannot be read from an answer is a failure of the library, but for a key whose text is not
hexadecimal. -/
theorem isGateway_of_read_error {r : Response} (h : call.read r = .error e) :
    e.kind.isGateway = true ∨
      ∃ identity place, call = .lookupPublicKey identity ∧
        Hex.decode (strip r.text) = .error place := by
  cases call with
  | uploadBlob bs =>
    have hkind := BlobId.kind_of_ofHex (Check.map_eq_error_iff.mp h)
    exact .inl (hkind ▸ rfl)
  | lookupPublicKey identity =>
    have h := Check.map_eq_error_iff.mp h
    rw [Key.ofHex] at h
    cases hd : Hex.decode (strip r.text) with
    | error place => exact .inr ⟨identity, place, rfl, rfl⟩
    | ok bs =>
      rw [hd] at h
      simp only [Key.check] at h
      split_ifs at h
      cases h
      exact .inl rfl
  | credits =>
    have h := Check.map_eq_error_iff.mp h
    cases hw : Whole.read (strip r.text) with
    | error fault =>
      rw [hw] at h
      cases h
      exact .inl rfl
    | ok n =>
      rw [hw] at h
      cases h
  | _ => cases h

/-- What is told of an answer is a failure of the library, but for such a key with the status
200. -/
theorem isGateway_of_reading_error {r : Response} (h : call.reading r = .error e) :
    e.kind.isGateway = true ∨
      r.status = 200 ∧ ∃ identity place, call = .lookupPublicKey identity ∧
        Hex.decode (strip r.text) = .error place := by
  by_cases hstatus : r.status = 200
  · rw [reading_of_status hstatus] at h
    cases hread : call.read r with
    | ok v =>
      rw [hread] at h
      cases h
    | error cause =>
      rw [hread] at h
      cases h
      refine (isGateway_of_read_error hread).imp (fun hcause => ?_) (And.intro hstatus)
      rw [tell_kind_of_read hread]
      exact kindOf_isGateway hcause
  · have hgives := gives_reading call r
    rw [Gives, if_neg hstatus, h] at hgives
    left
    rw [hgives.1.kind_eq]
    exact kindOf_isGateway (statusKind_isGateway call.badRequestKind_isGateway _)

/-- The only failures of other kinds than the library's own come of lookups of a key: that the text
of an answer with the status 200 is not hexadecimal is not told as a failure of the gateway. -/
theorem escapes_iff (c : Connection ω) (call : Call) (w : ω) (ha : call.IsAccepted)
    (hs : ∀ cause w', c.session.request (call.request c) w = .error cause w' →
      cause.kind.isRequest = true) :
    (∃ e w', call.perform c w = .error e w' ∧ e.kind.isGateway = false) ↔
      ∃ identity r w' place, call = .lookupPublicKey identity ∧ call.check = .ok () ∧
        c.session.request (call.request c) w = .ok r w' ∧ r.status = 200 ∧
          Hex.decode (strip r.text) = .error place := by
  constructor
  · rintro ⟨e, w', he, hkind⟩
    cases hcheck : call.check with
    | error cause =>
      cases (perform_of_check_error hcheck).symm.trans he
      rw [isGateway_of_check_error ha hcheck] at hkind
      cases hkind
    | ok _ =>
      -- a request without an answer is told as a failure of the gateway
      cases hr : c.session.request (call.request c) w with
      | error cause w₁ =>
        cases (perform_of_no_answer hcheck hr).symm.trans he
        rw [tell_kind_of_requestFailure (hs cause w' hr), kindOf_isGateway rfl] at hkind
        cases hkind
      | ok r w₁ =>
        rw [perform_of_answer hcheck hr] at he
        cases hreading : call.reading r with
        | ok v =>
          rw [hreading] at he
          cases he
        | error cause =>
          rw [hreading] at he
          cases he
          rcases isGateway_of_reading_error hreading with h | ⟨hstatus, identity, place, hcall, hd⟩
          · cases h.symm.trans hkind
          · exact ⟨identity, r, w', place, hcall, rfl, rfl, hstatus, hd⟩
  · rintro ⟨identity, r, w', place, rfl, hcheck, hr, hstatus, hd⟩
    rw [perform_of_answer hcheck hr, reading_of_status hstatus]
    simp only [read, Key.ofHex, hd]
    exact ⟨_, _, rfl, rfl⟩

/-- A public key is looked up and the answer is no number in hexadecimal digits. -/
theorem escapes_iff_not_hex :
    ∃ (c : Connection (List (Except Failure Response))) (answers : List (Except Failure Response)),
      (lookupPublicKey (.text "ECHOECHO")).IsAccepted ∧
      (∀ cause w', c.session.request ((lookupPublicKey (.text "ECHOECHO")).request c) answers =
        .error cause w' → cause.kind.isRequest = true) ∧
      ∃ e w', (lookupPublicKey (.text "ECHOECHO")).perform c answers = .error e w' ∧
        e.kind.isGateway = false := by
  refine ⟨⟨⟨"*GATEWAY", "s3cret", Config.defaultApiUrl, 0, none⟩, Session.scripted⟩,
    [.ok ⟨200, "zz", none⟩], trivial, nofun, ?_⟩
  have hcheck : (lookupPublicKey (.text "ECHOECHO")).check = .ok () := by
    rw [check, Identity.validate_text (by decide)]
    rfl
  have hd : Hex.decode (strip "zz") = .error 0 := by decide
  exact (escapes_iff _ (lookupPublicKey (.text "ECHOECHO")) _ trivial nofun).mpr
    ⟨_, _, _, 0, rfl, hcheck, rfl, rfl, hd⟩

end Call

end Connection

end SealedPost
