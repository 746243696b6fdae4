import SealedPost.Connection
import SealedPost.Proofs.Config

/-!
# What a connection says and hears

The exchanges of a session are its requests with what came of each. An endpoint of a connection
makes its one request, and succeeds only if the answer has the status 200 and can be read.
-/

namespace SealedPost

/-! ### Exchanges -/

/-- A request and what came of it. -/
structure Exchange where
  request : Request
  answer : Except Failure Response

namespace Exchange

/-- The method and the address. -/
def line (e : Exchange) : Method × String := (e.request.method, e.request.url)

end Exchange

variable {ω : Type}

/-- The session with a record of its exchanges. -/
def Session.observed (s : Session ω) : Session (ω × List Exchange) :=
  ⟨fun request (w, log) =>
    match s.request request w with
    | .ok r w    => .ok r (w, log ++ [⟨request, .ok r⟩])
    | .error e w => .error e (w, log ++ [⟨request, .error e⟩])⟩

theorem Session.observed_endsIn (s : Session ω) (request : Request) (w : ω) (log : List Exchange) :
    (s.observed.request request).EndsIn (w, log)
      (fun r w' => w'.2 = log ++ [⟨request, .ok r⟩])
      fun w' => ∃ e, w'.2 = log ++ [⟨request, .error e⟩] := by
  cases hr : s.request request w with
  | ok r w' =>
    have hrun : s.observed.request request (w, log) = .ok r (w', log ++ [⟨request, .ok r⟩]) := by
      simp only [observed, hr]
    rw [Action.endsIn_of_ok hrun]
  | error e w' =>
    have hrun : s.observed.request request (w, log) =
        .error e (w', log ++ [⟨request, .error e⟩]) := by
      simp only [observed, hr]
    rw [Action.endsIn_of_error hrun]
    exact ⟨e, rfl⟩

theorem Session.after_observed (s : Session ω) (request : Request) (w : ω) (log : List Exchange) :
    (s.observed.request request).after (w, log) =
      ((s.request request).after w, log ++ [⟨request, (s.request request).outcome w⟩]) := by
  cases hr : s.request request w <;> simp [observed, Action.after, Action.outcome, hr]

theorem checkStatus_eq_ok_iff {status : Int} {badRequest : Option Failure} :
    checkStatus status badRequest = .ok () ↔ status = 200 := by
  unfold checkStatus
  split
  case isTrue h => simp [h]
  case isFalse h =>
    simp only [h, iff_false]
    split_ifs <;> exact nofun

namespace Connection

variable {α : Type} {c : Connection ω} {w : ω} {log : List Exchange}

/-- The connection over the observed session. -/
def observed (c : Connection ω) : Connection (ω × List Exchange) := ⟨c.config, c.session.observed⟩

/-! ### Requests of the endpoints -/

/-- The request that a connection makes of its arguments. -/
def requestOf (c : Connection ω) (method : Method) (path : String)
    (query form headers : Option Form) (file : Option FilePart) : Request :=
  ⟨method, c.config.apiUrl ++ path, c.config.timeout, query, form, headers, file⟩

def lookupRequest (c : Connection ω) (identity : String) : Request :=
  c.requestOf .get ("/pubkeys/" ++ identity) (some c.credentialForm) none none none

def uploadRequest (c : Connection ω) (bs : Bytes) : Request :=
  c.requestOf .post "/upload_blob" (some c.credentialForm) none (some [("Accept", "text/plain")])
    (some ⟨"blob", bs, "application/octet-stream"⟩)

def deliveryRequest (c : Connection ω) (recipient : String) (envelope : Envelope) : Request :=
  c.requestOf .post "/send_e2e" none
    (some (c.credentialForm ++
      [("to", recipient), ("nonce", envelope.toHex.1), ("box", envelope.toHex.2)]))
    (some [("Accept", "application/json")]) none

/-! ### One request -/

/-- A request is made once, and succeeds exactly if its answer has the status 200. -/
theorem request_endsIn (c : Connection ω) (method : Method) (path : String)
    (query form headers : Option Form) (file : Option FilePart) (badRequest : Option Failure)
    (w : ω) (log : List Exchange) :
    (c.observed.request method path query form headers file badRequest).EndsIn (w, log)
      (fun r w' => r.status = 200 ∧
        w'.2 = log ++ [⟨c.requestOf method path query form headers file, .ok r⟩])
      fun w' => ∃ answer, (∀ r, answer = .ok r → r.status ≠ 200) ∧
        w'.2 = log ++ [⟨c.requestOf method path query form headers file, answer⟩] := by
  have hsession := c.session.observed_endsIn (c.requestOf method path query form headers file) w log
  constructor
  · intro r w' hr
    rw [request] at hr
    split at hr
    case h_1 => cases hr
    case h_2 answered w₁ hx =>
      split at hr <;> cases hr
      exact ⟨checkStatus_eq_ok_iff.mp ‹_›, hsession.ok hx⟩
  · intro e w' he
    rw [request] at he
    split at he
    case h_1 cause w₁ hx =>
      cases he
      obtain ⟨cause, hlog⟩ := hsession.error hx
      exact ⟨.error cause, nofun, hlog⟩
    case h_2 answered w₁ hx =>
      split at he <;> cases he
      refine ⟨.ok answered, ?_, hsession.ok hx⟩
      rintro _ ⟨⟩ hstatus
      cases (checkStatus_eq_ok_iff.mpr hstatus).symm.trans ‹_›

/-- Wrapped failures are failures. -/
theorem wrapping_endsIn {x : Action ω α} {Q : α → ω → Prop} {E : ω → Prop} (h : x.EndsIn w Q E)
    (wrap : Failure → Failure) : (wrapping wrap x).EndsIn w Q E := by
  cases hx : x w with
  | ok a w' =>
    have hrun : wrapping wrap x w = .ok a w' := by rw [wrapping, hx]
    rw [Action.endsIn_of_ok hrun]
    exact h.ok hx
  | error e w' =>
    have hrun : wrapping wrap x w = .error (if e.kind.isGateway then wrap e else e) w' := by
      rw [wrapping, hx]
    rw [Action.endsIn_of_error hrun]
    exact h.error hx

/-! ### Endpoints -/

/-- A lookup succeeds if its answer spells a key. -/
theorem lookupPublicKey_endsIn (c : Connection ω) {identity : String}
    (hi : Identity.isWellFormed identity = true) (w : ω) (log : List Exchange) :
    (c.observed.lookupPublicKey (.text identity)).EndsIn (w, log)
      (fun key w' => ∃ r, r.status = 200 ∧ Key.ofHex r.text = .ok key ∧
        w'.2 = log ++ [⟨c.lookupRequest identity, .ok r⟩])
      fun w' => ∃ answer, w'.2 = log ++ [⟨c.lookupRequest identity, answer⟩] := by
  rw [lookupPublicKey, Identity.validate_text hi, Action.ofExcept_ok_bind]
  have hrequest := request_endsIn c .get ("/pubkeys/" ++ identity) (some c.credentialForm) none none
    none none w log
  apply (hrequest.mono (fun _ _ => id) fun w₁ h => ?_).bind
  · rintro r w₁ ⟨hstatus, hlog⟩
    apply Action.EndsIn.ofExcept ⟨_, hlog⟩
    intro key hkey
    exact ⟨r, hstatus, hkey, hlog⟩
  · obtain ⟨answer, -, hlog⟩ := h
    exact ⟨answer, hlog⟩

/-- An upload succeeds if its answer spells an id. -/
theorem uploadBlob_endsIn (c : Connection ω) (bs : Bytes) (w : ω) (log : List Exchange) :
    (c.observed.uploadBlob bs).EndsIn (w, log)
      (fun id w' => ∃ r, r.status = 200 ∧ BlobId.ofHex (strip r.text) = .ok id ∧
        w'.2 = log ++ [⟨c.uploadRequest bs, .ok r⟩])
      fun w' => ∃ answer, w'.2 = log ++ [⟨c.uploadRequest bs, answer⟩] := by
  rw [uploadBlob]
  apply wrapping_endsIn
  have hrequest := request_endsIn c .post "/upload_blob" (some c.credentialForm) none
    (some [("Accept", "text/plain")]) (some ⟨"blob", bs, "application/octet-stream"⟩)
    (some .badBlob) w log
  apply (hrequest.mono (fun _ _ => id) fun w₁ h => ?_).bind
  · rintro r w₁ ⟨hstatus, hlog⟩
    apply Action.EndsIn.ofExcept ⟨_, hlog⟩
    intro id hid
    exact ⟨r, hstatus, hid, hlog⟩
  · obtain ⟨answer, -, hlog⟩ := h
    exact ⟨answer, hlog⟩

/-- A delivery succeeds exactly if its answer has the status 200, and its text is the id. -/
theorem sendEnvelope_endsIn (c : Connection ω) {recipient : String}
    (hr : Identity.isWellFormed recipient = true) (envelope : Envelope) (w : ω)
    (log : List Exchange) :
    (c.observed.sendEnvelope (.text recipient) envelope []).EndsIn (w, log)
      (fun id w' => ∃ r, r.status = 200 ∧ id = strip r.text ∧
        w'.2 = log ++ [⟨c.deliveryRequest recipient envelope, .ok r⟩])
      fun w' => ∃ answer, (∀ r, answer = .ok r → r.status ≠ 200) ∧
        w'.2 = log ++ [⟨c.deliveryRequest recipient envelope, answer⟩] := by
  rw [sendEnvelope, show checkParameters [] = .ok () from rfl, Action.ofExcept_ok_bind,
    Identity.validate_text hr, Action.ofExcept_ok_bind]
  apply (request_endsIn c .post "/send_e2e" none _ _ none (some .badRecipient) w log).bind
  rintro r w₁ ⟨hstatus, hlog⟩
  exact Action.EndsIn.pure ⟨r, hstatus, rfl, hlog⟩

end Connection

end SealedPost
