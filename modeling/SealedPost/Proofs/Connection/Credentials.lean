import SealedPost.Proofs.Connection.Endpoints
import SealedPost.Proofs.Envelope

/-!
# Credentials stay in their place

A connection shows its secret to the gateway, in the one field that is meant for it, and to nobody
else: two connections that differ in nothing but their secrets cannot be told apart by their
requests without this field, nor by what their calls come to. No parameter of a delivery takes the
place of a field that says from whom, to whom and what is sent.
-/

namespace SealedPost

variable {ω : Type}

/-! ### Forms -/

namespace Form

variable {f : Form}

theorem lookup_cons (f : Form) (name value other : String) :
    List.lookup other ((name, value) :: f) =
      if other = name then some value else f.lookup other := by
  rw [List.lookup_cons]
  by_cases h : other = name
  · rw [if_pos h, beq_iff_eq.mpr h]
  · rw [if_neg h, beq_eq_false_iff_ne.mpr h]

theorem lookup_set (f : Form) (name value other : String) :
    (f.set name value).lookup other = if other = name then some value else f.lookup other := by
  induction f with
  | nil => rw [set, lookup_cons]
  | cons nv f ih =>
    obtain ⟨n, v⟩ := nv
    by_cases hn : n = name
    · rw [set, if_pos hn, hn, lookup_cons, lookup_cons]
      split_ifs <;> rfl
    · rw [set, if_neg hn, lookup_cons, lookup_cons, ih]
      split_ifs with h h'
      · exact absurd (h.symm.trans h') hn
      all_goals rfl

theorem names_set (f : Form) (name value : String) :
    (f.set name value).map Prod.fst =
      if name ∈ f.map Prod.fst then f.map Prod.fst else f.map Prod.fst ++ [name] := by
  induction f with
  | nil => rfl
  | cons nv f ih =>
    obtain ⟨n, v⟩ := nv
    by_cases hn : n = name
    · rw [set, if_pos hn, List.map_cons, List.map_cons, if_pos (by simp [hn])]
    · have hn' : name ≠ n := Ne.symm hn
      simp only [set, if_neg hn, List.map_cons, ih, List.mem_cons, hn', false_or]
      split_ifs <;> rfl

/-- No name comes to have two values. -/
theorem nodup_update (h : (f.map Prod.fst).Nodup) (g : Form) :
    ((f.update g).map Prod.fst).Nodup := by
  induction g generalizing f with
  | nil => exact h
  | cons nv g ih =>
    apply ih
    rw [names_set]
    split_ifs with hname
    · exact h
    · exact List.nodup_append'.mpr ⟨h, List.nodup_singleton _, by simpa using hname⟩

/-- A form without the value of a secret. -/
def masked (f : Form) : Form := f.map fun nv => (nv.1, if nv.1 = "secret" then "" else nv.2)

theorem masked_set (f : Form) (name value : String) :
    (f.set name value).masked = f.masked.set name (if name = "secret" then "" else value) := by
  induction f with
  | nil => rfl
  | cons nv f ih =>
    obtain ⟨n, v⟩ := nv
    simp only [masked, List.map_cons, set] at ih ⊢
    split
    · rw [List.map_cons]
      subst_vars
      rfl
    · rw [List.map_cons, ih]

theorem masked_update (f g : Form) : (f.update g).masked = f.masked.update g.masked := by
  induction g generalizing f with
  | nil => rfl
  | cons nv g ih =>
    simp only [update, List.foldl_cons] at ih ⊢
    rw [ih, masked_set]
    rfl

end Form

/-- A request without the value of a secret. -/
def Request.masked (r : Request) : Request :=
  { r with query := r.query.map Form.masked, form := r.form.map Form.masked }

/-! ### Sessions -/

/-- The answers of a session do not depend on what is asked for. -/
def Session.IsScripted (s : Session ω) : Prop := ∀ r r', s.request r = s.request r'

theorem Session.isScripted_scripted : scripted.IsScripted := fun _ _ => rfl

/-- The same session under a configuration with another secret. -/
def Connection.withSecret (secret : String) (c : Connection ω) : Connection ω :=
  { c with config := { c.config with secret := secret } }

namespace Connection.Call

/-! ### Runs -/

/-- A call with its exchanges and what came of it. -/
structure Record where
  call : Call
  exchanges : List Exchange
  outcome : Except Failure Value

/-- A record without the value of a secret in its requests. -/
def Record.masked (r : Record) : Record :=
  { r with exchanges := r.exchanges.map fun x => { x with request := x.request.masked } }

/-- What comes of a call in a world. -/
def record (c : Connection ω) (call : Call) (w : ω) : Record :=
  ⟨call, ((call.perform c.observed).after (w, [])).2, (call.perform c).outcome w⟩

/-- The records of a run, one for each call. Calls that failed are among them. -/
def run (c : Connection ω) : List Call → ω → List Record
  | [], _            => []
  | call :: calls, w => call.record c w :: run c calls ((call.perform c).after w)

variable {c : Connection ω} {call : Call} {w : ω} {e : Failure}

/-- What the answer to its request comes to for a call. -/
def result (call : Call) : Except Failure Response → Except Failure Value
  | .ok r        => call.reading r
  | .error cause => .error (call.tell (requestFailure call.path cause))

theorem record_of_check_error (h : call.check = .error e) :
    call.record c w = ⟨call, [], .error e⟩ ∧ (call.perform c).after w = w := by
  rw [record, Action.after, Action.after, Action.outcome, perform_of_check_error h,
    perform_of_check_error h]
  exact ⟨rfl, rfl⟩

/-- A call whose arguments are in order leaves what its request leaves, and comes to what the answer
comes to. -/
theorem perform_of_check_ok (h : call.check = .ok ()) :
    (call.perform c).after w = (c.session.request (call.request c)).after w ∧
      (call.perform c).outcome w =
        call.result ((c.session.request (call.request c)).outcome w) := by
  cases hs : c.session.request (call.request c) w with
  | ok r w' =>
    simp only [Action.after, Action.outcome, perform_of_answer h hs, hs, result]
    cases call.reading r <;> exact ⟨rfl, rfl⟩
  | error cause w' =>
    simp only [Action.after, Action.outcome, perform_of_no_answer h hs, hs, result, and_self]

theorem record_of_check_ok (h : call.check = .ok ()) :
    let answer := (c.session.request (call.request c)).outcome w
    call.record c w = ⟨call, [⟨call.request c, answer⟩], call.result answer⟩ := by
  have hobserved := (perform_of_check_ok (c := c.observed) (w := (w, [])) h).1
  rw [record, hobserved, (perform_of_check_ok h).2, observed, Session.after_observed]
  rfl

/-! ### Two secrets -/

theorem masked_credentialForm (c : Connection ω) (secret : String) :
    (c.withSecret secret).credentialForm.masked = c.credentialForm.masked := rfl

theorem masked_query (c : Connection ω) (secret : String) (call : Call) :
    (call.query (c.withSecret secret)).map Form.masked = (call.query c).map Form.masked := by
  cases call <;> simp [masked_credentialForm]

/-- Whatever is put into a form besides the credentials is the same for both secrets. -/
theorem masked_form (c : Connection ω) (secret : String) (call : Call) :
    (call.form (c.withSecret secret)).map Form.masked = (call.form c).map Form.masked := by
  cases call <;> simp [Form.masked_set, Form.masked_update, masked_credentialForm]

theorem masked_request (c : Connection ω) (secret : String) (call : Call) :
    (call.request (c.withSecret secret)).masked = (call.request c).masked := by
  simp only [request, requestOf, Request.masked, masked_query, masked_form]
  rfl

/-- A call cannot tell two secrets apart. -/
theorem masked_record (hs : c.session.IsScripted) (secret : String) (call : Call) (w : ω) :
    (call.record (c.withSecret secret) w).masked = (call.record c w).masked ∧
      (call.perform (c.withSecret secret)).after w = (call.perform c).after w := by
  cases h : call.check with
  | error e =>
    rw [(record_of_check_error h).1, (record_of_check_error h).1, (record_of_check_error h).2,
      (record_of_check_error h).2]
    exact ⟨rfl, rfl⟩
  | ok _ =>
    have hanswer : (c.withSecret secret).session.request (call.request (c.withSecret secret)) =
        c.session.request (call.request c) := hs _ _
    rw [record_of_check_ok h, record_of_check_ok h, (perform_of_check_ok h).1,
      (perform_of_check_ok h).1, hanswer]
    simp only [Record.masked, List.map_cons, List.map_nil, masked_request, and_self]

theorem masked_run (hs : c.session.IsScripted) (secret : String) (calls : List Call) (w : ω) :
    (run (c.withSecret secret) calls w).map Record.masked = (run c calls w).map Record.masked := by
  induction calls generalizing w with
  | nil => rfl
  | cons call calls ih =>
    obtain ⟨hrecord, hafter⟩ := masked_record hs secret call w
    rw [run, run, List.map_cons, List.map_cons, hrecord, hafter, ih]

/-! ### The place of the credentials -/

/-- The part of a request that has the credentials: the form of what is sent, and the query of
everything else. -/
def credentialPart (r : Request) : Call → Option Form
  | .sendSimple .. | .sendEnvelope .. => r.form
  | _ => r.query

/-- What a request of a call says of who asks, and of what is sent. -/
structure KeepsPlaces (config : Config) (call : Call) (r : Request) : Prop where
  credentials : ∃ f, call.credentialPart r = some f ∧ f.lookup "from" = some config.identity ∧
    f.lookup "secret" = some config.secret
  /-- A delivery says to whom it is and what is in it. All other names have the values that were
  given for them, and none has two. -/
  delivery : ∀ recipient envelope parameters, call = .sendEnvelope recipient envelope parameters →
    ∃ identity nonce box f, recipient = .text identity ∧ r.form = some f ∧
      f.lookup "to" = some identity ∧ f.lookup "nonce" = some nonce ∧ f.lookup "box" = some box ∧
      envelope.toHex = (nonce, box) ∧ Envelope.ofHex nonce box = .ok envelope ∧
      (∀ name ∉ ["from", "secret", "to", "nonce", "box"],
        f.lookup name = parameters.lookup name) ∧
      ((parameters.map Prod.fst).Nodup → (f.map Prod.fst).Nodup)

theorem lookup_credentialForm (c : Connection ω) (name : String) :
    c.credentialForm.lookup name =
      if name = "from" then some c.config.identity
      else if name = "secret" then some c.config.secret else none := by
  rw [credentialForm, Form.lookup_cons, Form.lookup_cons, List.lookup_nil]

/-- The fields of a delivery are put over its parameters. -/
theorem lookup_delivery (c : Connection ω) (recipient nonce box name : String) (parameters : Form) :
    ((parameters.update c.credentialForm).update
      [("to", recipient), ("nonce", nonce), ("box", box)]).lookup name =
      if name = "box" then some box
      else if name = "nonce" then some nonce
      else if name = "to" then some recipient
      else if name = "secret" then some c.config.secret
      else if name = "from" then some c.config.identity
      else parameters.lookup name := by
  simp only [Form.update, credentialForm, List.foldl_cons, List.foldl_nil, Form.lookup_set]

theorem credentials_of_request (c : Connection ω) (call : Call) :
    ∃ f, call.credentialPart (call.request c) = some f ∧
      f.lookup "from" = some c.config.identity ∧ f.lookup "secret" = some c.config.secret := by
  cases call with
  | sendSimple kind recipient text =>
    refine ⟨_, rfl, ?_⟩
    cases kind <;> simp [Form.lookup_set, lookup_credentialForm, RecipientKind.field]
  | sendEnvelope recipient envelope parameters =>
    exact ⟨_, rfl, by simp [lookup_delivery], by simp [lookup_delivery]⟩
  | _ => exact ⟨_, rfl, by simp [lookup_credentialForm], by simp [lookup_credentialForm]⟩

theorem keepsPlaces_of_check (c : Connection ω) (h : call.check = .ok ()) :
    call.KeepsPlaces c.config (call.request c) where
  credentials := credentials_of_request c call
  delivery := by
    rintro recipient envelope parameters rfl
    obtain ⟨_, -, h⟩ := Check.bind_eq_ok_iff.mp h
    obtain ⟨identity, hvalid, -⟩ := Check.bind_eq_ok_iff.mp h
    obtain ⟨rfl, -⟩ := Identity.validate_eq_ok_iff.mp hvalid
    refine ⟨identity, envelope.toHex.1, envelope.toHex.2, _, rfl, rfl, ?_, ?_, ?_, rfl,
      envelope.ofHex_toHex, fun name hname => ?_,
      fun hnames => Form.nodup_update (Form.nodup_update hnames _) _⟩
    · simp [lookup_delivery, Identity.Candidate.spelled]
    · simp [lookup_delivery]
    · simp [lookup_delivery]
    · simp only [List.mem_cons, List.not_mem_nil, or_false, not_or] at hname
      obtain ⟨hfrom, hsecret, hto, hnonce, hbox⟩ := hname
      rw [lookup_delivery, if_neg hbox, if_neg hnonce, if_neg hto, if_neg hsecret, if_neg hfrom]

theorem keepsPlaces_of_mem_run {calls : List Call} {record : Record} (h : record ∈ run c calls w) :
    ∀ x ∈ record.exchanges, record.call.KeepsPlaces c.config x.request := by
  induction calls generalizing w with
  | nil => cases h
  | cons call calls ih =>
    rcases List.mem_cons.mp h with rfl | h
    · cases hcheck : call.check with
      | error e =>
        rw [(record_of_check_error hcheck).1]
        exact fun _ hx => absurd hx List.not_mem_nil
      | ok _ =>
        rw [record_of_check_ok hcheck]
        exact List.forall_mem_singleton.mpr (keepsPlaces_of_check c hcheck)
    · exact ih h

/-- Over a session whose answers do not depend on the requests, any calls come to the same under two
secrets, failures included, and by the same requests but for the secret in its field. Every request
has the credentials in their place, and the configuration is shown without the secret. -/
theorem credentials_in_place (c : Connection ω) (hs : c.session.IsScripted) (secret : String)
    (calls : List Call) (w : ω) :
    (run (c.withSecret secret) calls w).map Record.masked = (run c calls w).map Record.masked ∧
      (∀ record ∈ run c calls w, ∀ x ∈ record.exchanges,
        record.call.KeepsPlaces c.config x.request) ∧
      (∀ record ∈ run (c.withSecret secret) calls w, ∀ x ∈ record.exchanges,
        record.call.KeepsPlaces (c.withSecret secret).config x.request) ∧
      (c.withSecret secret).config.redacted = c.config.redacted :=
  ⟨masked_run hs secret calls w, fun _ => keepsPlaces_of_mem_run, fun _ => keepsPlaces_of_mem_run,
    c.config.redacted_withSecret secret⟩

/-- Parameters of a delivery that have the names of its own fields. -/
theorem credentials_in_place_delivery :
    ∃ (c : Connection (List (Except Failure Response))) (envelope : Envelope)
      (parameters : Form) (calls : List Call) (answers : List (Except Failure Response)),
      c.session.IsScripted ∧ c.config.secret ≠ "another" ∧
      parameters = [("from", "*SOMEONE"), ("secret", "guess"), ("nonce", "00"), ("box", "00")] ∧
      calls = [.sendEnvelope (.text "ECHOECHO") envelope parameters, .credits] ∧
      (run c calls answers).map (fun record => record.exchanges.length) = [1, 1] ∧
      (run (c.withSecret "another") calls answers).map Record.masked =
        (run c calls answers).map Record.masked ∧
      (∀ record ∈ run c calls answers, ∀ x ∈ record.exchanges,
        record.call.KeepsPlaces c.config x.request) ∧
      (c.withSecret "another").config.redacted = c.config.redacted := by
  let c : Connection (List (Except Failure Response)) :=
    ⟨⟨"*GATEWAY", "s3cret", Config.defaultApiUrl, 0, none⟩, Session.scripted⟩
  let envelope : Envelope := ⟨List.replicate 24 0x11, List.replicate 16 0x22, rfl⟩
  let parameters : Form :=
    [("from", "*SOMEONE"), ("secret", "guess"), ("nonce", "00"), ("box", "00")]
  let calls : List Call := [.sendEnvelope (.text "ECHOECHO") envelope parameters, .credits]
  let answers : List (Except Failure Response) :=
    [.ok ⟨200, "0102030405060708", none⟩, .ok ⟨401, "", none⟩]
  have hs : c.session.IsScripted := Session.isScripted_scripted
  have hasked : (run c calls answers).map (fun record => record.exchanges.length) = [1, 1] := by
    decide +kernel
  have hsecret : c.config.secret ≠ "another" := by decide
  obtain ⟨hmasked, hplaces, -, hredacted⟩ := credentials_in_place c hs "another" calls answers
  exact ⟨c, envelope, parameters, calls, answers, hs, hsecret, rfl, rfl, hasked, hmasked, hplaces,
    hredacted⟩

end Connection.Call

end SealedPost
