import SealedPost.Proofs.Client
import SealedPost.Proofs.Message.Opening
import SealedPost.Proofs.Message.Sealing

/-!
# Pinned keys in the course of time

A directory may lie, or change its mind. Once the key of an identity is pinned it has no say any
more: until the identity is pinned anew, invalidated or cleared with all others, whatever is sent to
it is sealed under the pinned key, nothing is received from it that does not open under this key,
and the directory is not asked. Clocks may go on or back, keys may expire and be pruned, and
anything may be done about other identities.
-/

namespace SealedPost

variable {ω τ : Type}

/-! ### Records of a gateway -/

/-- What a gateway is asked for. -/
inductive GatewayCall where
  | lookup (identity : String)
  | blob (call : BlobCall)
  | delivery (recipient : String) (envelope : Envelope)

/-- The gateway with a record of its calls. -/
def Gateway.recorded (g : Gateway ω) : Gateway (ω × List GatewayCall) where
  blobs := {
    upload := fun bs => Action.noting (.blob (.upload bs)) (g.blobs.upload bs)
    download := fun id => Action.noting (.blob (.download id)) (g.blobs.download id) }
  deliver recipient envelope :=
    Action.noting (.delivery recipient envelope) (g.deliver recipient envelope)
  keys := ⟨fun identity => Action.noting (.lookup identity) (g.keys.publicKeyFor identity)⟩

/-- An identity is not looked up, and what is delivered to it is sealed with these keys. -/
def GatewayCall.Respects (identity : String) (key privateKey : Bytes) : GatewayCall → Prop
  | .lookup asked                => asked ≠ identity
  | .blob _                      => True
  | .delivery recipient envelope =>
    recipient = identity → ∃ carried, envelope.Holds key privateKey carried

/-- The record goes on with calls for blobs. -/
def MovesBlobs (log log' : List GatewayCall) : Prop :=
  ∃ calls : List BlobCall, log' = log ++ calls.map .blob

/-- The record goes on with calls for blobs and then a delivery. Its envelope is sealed, with the
keys of the recipient and of the sender, around the message, with a reference for the data of an
attachment. -/
def Posts (recipient : String) (recipientPublic senderPrivate : Bytes) (m : Message)
    (log log' : List GatewayCall) : Prop :=
  ∃ before envelope carried, MovesBlobs log before ∧
    log' = before ++ [.delivery recipient envelope] ∧
    envelope.Holds recipientPublic senderPrivate carried ∧
    m.ComesAs false carried fun _ _ => True

section Records

variable {log log' : List GatewayCall}

theorem MovesBlobs.refl (log : List GatewayCall) : MovesBlobs log log := ⟨[], by simp⟩

theorem MovesBlobs.snoc (h : MovesBlobs log log') (call : BlobCall) :
    MovesBlobs log (log' ++ [.blob call]) := by
  obtain ⟨calls, rfl⟩ := h
  exact ⟨calls ++ [call], by simp⟩

theorem MovesBlobs.respects {identity : String} {key privateKey : Bytes} (h : MovesBlobs log log')
    (hlog : ∀ call ∈ log, call.Respects identity key privateKey) :
    ∀ call ∈ log', call.Respects identity key privateKey := by
  obtain ⟨calls, rfl⟩ := h
  exact List.forall_mem_append.mpr ⟨hlog, List.forall_mem_map.mpr fun _ _ => trivial⟩

theorem MovesBlobs.noting {α : Type} (x : Action ω α) (call : BlobCall)
    {w : ω × List GatewayCall} (h : MovesBlobs log w.2) :
    (Action.noting (.blob call) x).EndsIn w (fun _ w' => MovesBlobs log w'.2)
      fun w' => MovesBlobs log w'.2 := by
  apply (Action.EndsIn.noting x (.blob call) w.1 w.2).mono
  · intro a w' hlog
    rw [hlog]
    exact h.snoc call
  · intro w' hlog
    rw [hlog]
    exact h.snoc call

theorem Gateway.uploads_recorded (g : Gateway ω) (source : RandomSource ω)
    (log : List GatewayCall) :
    g.recorded.blobs.Uploads source.onFirst (fun w => MovesBlobs log w.2)
      (fun _ _ w => MovesBlobs log w.2) fun _ w => MovesBlobs log w.2 where
  before := source.leaves_onFirst (MovesBlobs log)
  upload bs _ h := h.noting (g.blobs.upload bs) (.upload bs)
  after _ _ := source.leaves_onFirst (MovesBlobs log)
  weaken _ _ _ h := h

end Records

namespace Client

/-! ### Clients that keep to a pinned key -/

/-- A client that has pinned the key of an identity, and a record in which it has kept to that. -/
structure Keeps (identity : String) (key privateKey : Bytes) (s : Client τ × ω × List GatewayCall) :
    Prop where
  pins : s.1.cache.Pins identity key
  privateKey_eq : s.1.keys.privateKey = privateKey
  calls : ∀ call ∈ s.2.2, call.Respects identity key privateKey

section Keeps

variable {identity other : String} {key privateKey : Bytes} {c : Client τ}
  {w w' : ω × List GatewayCall}

theorem Keeps.moves (h : Keeps identity key privateKey (c, w)) (hmoves : MovesBlobs w.2 w'.2) :
    Keeps identity key privateKey (c, w') where
  pins := h.pins
  privateKey_eq := h.privateKey_eq
  calls := hmoves.respects h.calls

theorem Keeps.posts {found : Bytes} {m : Message}
    (h : Keeps identity key privateKey (c, w)) (hfound : other = identity → found = key)
    (hposts : Posts other found c.keys.privateKey m w.2 w'.2) :
    Keeps identity key privateKey (c, w') where
  pins := h.pins
  privateKey_eq := h.privateKey_eq
  calls := by
    obtain ⟨before, envelope, carried, hmoves, hlog, hholds, -⟩ := hposts
    have hdelivery : GatewayCall.Respects identity key privateKey (.delivery other envelope) := by
      intro hother
      rw [← hfound hother, ← h.privateKey_eq]
      exact ⟨carried, hholds⟩
    rw [hlog, List.forall_mem_append, List.forall_mem_singleton]
    exact ⟨hmoves.respects h.calls, hdelivery⟩

end Keeps

variable [PartialAdd τ] [LE τ] [DecidableLE τ]

/-! ### Any key -/

section AnyKey

variable {source : RandomSource ω} {g : Gateway ω} {clock : ω × List GatewayCall → τ}
  {identity : String} {s : Client τ × ω × List GatewayCall}
  {K : Bytes → Client τ × ω × List GatewayCall → Prop} {E : Client τ × ω × List GatewayCall → Prop}

/-- Whatever key is found, the envelope that is delivered is sealed under it. -/
theorem send_recorded_endsIn {m : Message} (hi : Identity.isWellFormed identity = true)
    (hkey : Action.EndsIn (publicKeyFor g.recorded clock (.text identity)) s K E)
    (hE : ∀ key c w w', K key (c, w) → (MovesBlobs w.2 w'.2 ∨
      Posts identity key c.keys.privateKey m w.2 w'.2) → E (c, w')) :
    Action.EndsIn (send source.onFirst g.recorded clock (.text identity) m) s
      (fun _ s' => ∃ key w, K key (s'.1, w) ∧
        Posts identity key s'.1.keys.privateKey m w.2 s'.2.2) E := by
  apply (send_endsIn
    (S := fun envelope s' => ∃ key w carried, K key (s'.1, w) ∧ MovesBlobs w.2 s'.2.2 ∧
      envelope.Holds key s'.1.keys.privateKey carried ∧ m.ComesAs false carried fun _ _ => True)
    (D := fun _ s' => ∃ key w, K key (s'.1, w) ∧
      Posts identity key s'.1.keys.privateKey m w.2 s'.2.2) hi hkey ?sealed ?delivered).mono
    ?sent fun _ => id
  case sealed =>
    intro key c w hk
    apply (Message.encrypt_endsIn (g.uploads_recorded source w.2) (.refl w.2) m c.keys).mono
    · rintro envelope w' ⟨hplain, carried, hholds, hcomes⟩
      have hmoves : MovesBlobs w.2 w'.2 := by
        rcases hcomes.plain_or_attachment with ⟨hm, -⟩ | ⟨_, _, _, -, -, ⟨_, _, _, -, hmoves⟩, -⟩
        · exact hplain hm
        · exact hmoves
      exact ⟨key, w, carried, hk, hmoves, hholds, hcomes.mono fun _ _ _ => trivial⟩
    · rintro w' (hmoves | ⟨_, _, _, _, -, -, hmoves⟩)
      · exact hE key c w w' hk (.inl hmoves)
      · exact hE key c w w' hk (.inl hmoves)
  case delivered =>
    rintro envelope c w' ⟨key, w, carried, hk, hmoves, hholds, hcomes⟩
    apply (Action.EndsIn.noting (g.deliver identity envelope) _ w'.1 w'.2).mono
    · intro id w'' hlog
      exact ⟨key, w, hk, _, envelope, carried, hmoves, hlog, hholds, hcomes⟩
    · intro w'' hlog
      exact hE key c w w'' hk (.inr ⟨_, envelope, carried, hmoves, hlog, hholds, hcomes⟩)
  case sent =>
    rintro sent s' ⟨id, -, hposts⟩
    exact hposts

/-- Whatever key is found, the message comes out of an envelope that opens under it. -/
theorem receive_recorded_endsIn {nonce box : String} {envelope : Envelope}
    (hi : Identity.isWellFormed identity = true) (he : Envelope.ofHex nonce box = .ok envelope)
    (hkey : Action.EndsIn (publicKeyFor g.recorded clock (.text identity)) s K E)
    (hE : ∀ key c w w', K key (c, w) → MovesBlobs w.2 w'.2 → E (c, w'))
    (messageId : Option String) (resolve : Bool) :
    Action.EndsIn (receive g.recorded clock (.text identity) nonce box messageId resolve) s
      (fun _ s' => ∃ key w, K key (s'.1, w) ∧ MovesBlobs w.2 s'.2.2 ∧ ∃ opened,
        Message.open envelope key s'.1.keys.privateKey = .ok opened) E := by
  apply (receive_endsIn (D := fun _ s' => ∃ key w, K key (s'.1, w) ∧ MovesBlobs w.2 s'.2.2 ∧
    ∃ opened, Message.open envelope key s'.1.keys.privateKey = .ok opened) hi he hkey ?opened).mono
    ?received fun _ => id
  case opened =>
    intro key c w hk
    have hdownloads : ∀ t, (if resolve then some g.recorded.blobs else none) = some t →
        ∀ id w', MovesBlobs w.2 w'.2 →
          (t.download id).EndsIn w' (fun _ w'' => MovesBlobs w.2 w''.2)
            fun w'' => MovesBlobs w.2 w''.2 := by
      intro t ht id w' h
      obtain rfl : g.recorded.blobs = t := by
        cases resolve <;> cases ht
        rfl
      exact h.noting (g.blobs.download id) (.download id)
    apply (Message.decrypt_endsIn hdownloads (.refl w.2) envelope key c.keys.privateKey).mono
    · rintro m w' ⟨⟨opened, ho⟩, hmoves⟩
      exact ⟨key, w, hk, hmoves, opened, ho⟩
    · exact fun w' => hE key c w w' hk
  case received =>
    rintro incoming s' ⟨m, -, hopens⟩
    exact hopens

end AnyKey

/-! ### Runs of a client -/

/-- What is done with a client. Between two events the world may become another one. -/
inductive Event (ω : Type) where
  | send (offered : Identity.Candidate) (m : Message)
  | receive (offered : Identity.Candidate) (nonce box : String) (messageId : Option String)
      (resolve : Bool)
  | ask (offered : Identity.Candidate)
  | pin (offered : Identity.Candidate) (key : Material)
  | invalidate (offered : Identity.Candidate)
  | clear
  | prune
  | elapse (world : ω)

/-- Is an identity neither pinned nor forgotten by the event? A pin fails without a key of the right
length. -/
def Event.Spares (identity : String) : Event ω → Prop
  | .pin offered key    =>
    offered = .text identity → ∃ e, Key.check "Public key" Key.size key = .error e
  | .invalidate offered => offered ≠ .text identity
  | .clear              => False
  | _                   => True

section Runs

variable (source : RandomSource ω) (g : Gateway ω) (clock : ω → τ)

/-- A client with its world and the record of its gateway after an event, whether it fails or
not. -/
def Event.after (s : Client τ × ω × List GatewayCall) : Event ω → Client τ × ω × List GatewayCall
  | .send offered m =>
    Action.after (Client.send source.onFirst g.recorded (clock ∘ Prod.fst) offered m) s
  | .receive offered nonce box messageId resolve =>
    Action.after
      (Client.receive g.recorded (clock ∘ Prod.fst) offered nonce box messageId resolve) s
  | .ask offered => Action.after (publicKeyFor g.recorded (clock ∘ Prod.fst) offered) s
  | .pin offered key =>
    match s.1.pin offered key with
    | .ok c    => (c, s.2)
    | .error _ => s
  | .invalidate offered => (s.1.invalidate offered, s.2)
  | .clear              => ({ s.1 with cache := s.1.cache.clear }, s.2)
  | .prune              => ({ s.1 with cache := (s.1.cache.prune (clock s.2.1)).2 }, s.2)
  | .elapse world       => (s.1, world, s.2.2)

/-- All events one after another. -/
def run (events : List (Event ω)) (s : Client τ × ω × List GatewayCall) :
    Client τ × ω × List GatewayCall :=
  events.foldl (fun s e => e.after source g clock s) s

end Runs

/-! ### Pinned keys through a run -/

theorem publicKeyFor_of_pins {g : Gateway ω} {clock : ω → τ} {s : Client τ × ω} {identity : String}
    {key : Bytes} (hi : Identity.isWellFormed identity = true)
    (h : s.1.cache.Pins identity key) : publicKeyFor g clock (.text identity) s = .ok key s :=
  publicKeyFor_of_fresh hi (h.fresh?_eq (clock s.2))

section Runs

variable {source : RandomSource ω} {g : Gateway ω} {clock : ω × List GatewayCall → τ}
  {identity other : String} {key privateKey : Bytes} {s : Client τ × ω × List GatewayCall}

/-- Asked for the key of the identity, the client answers with the pinned one; asked for another, it
may look that one up. -/
theorem publicKeyFor_keeps (h : Keeps identity key privateKey s)
    (hi : Identity.isWellFormed other = true) :
    Action.EndsIn (publicKeyFor g.recorded clock (.text other)) s
      (fun found s' => Keeps identity key privateKey s' ∧ (other = identity → found = key))
      (Keeps identity key privateKey) := by
  -- Only what is asked of another identity may reach the directory or change the cache.
  by_cases hother : other = identity
  · subst hother
    rw [Action.endsIn_of_ok (publicKeyFor_of_pins hi h.pins)]
    exact ⟨h, fun _ => rfl⟩
  obtain ⟨c, w⟩ := s
  cases hf : c.cache.fresh? (clock w) other with
  | some found =>
    rw [Action.endsIn_of_ok (publicKeyFor_of_fresh hi hf)]
    exact ⟨h, fun he => (hother he).elim⟩
  | none =>
    have hcalls : ∀ call ∈ w.2 ++ [.lookup other], call.Respects identity key privateKey :=
      List.forall_mem_append.mpr ⟨h.calls, List.forall_mem_singleton.mpr hother⟩
    have hlookup := Action.EndsIn.noting (g.keys.publicKeyFor other) (.lookup other) w.1 w.2
    apply (publicKeyFor_endsIn (KeyCache.publicKeyFor_endsIn hi hf hlookup)).mono
    · rintro found ⟨_, w'⟩ ⟨_, rfl, hlog, t, rfl⟩
      exact ⟨⟨h.pins.insert_of_ne hother _, h.privateKey_eq, hlog ▸ hcalls⟩,
        fun he => (hother he).elim⟩
    · rintro ⟨_, w'⟩ ⟨_, rfl, rfl, hlog | ⟨_, hlog⟩⟩
      · exact ⟨h.pins, h.privateKey_eq, hlog ▸ hcalls⟩
      · exact ⟨h.pins, h.privateKey_eq, hlog ▸ hcalls⟩

theorem send_keeps (h : Keeps identity key privateKey s) (offered : Identity.Candidate)
    (m : Message) :
    Action.EndsIn (send source.onFirst g.recorded clock offered m) s
      (fun _ => Keeps identity key privateKey) (Keeps identity key privateKey) := by
  cases hv : Identity.validate offered with
  | error e =>
    rw [send, hv]
    exact Action.EndsIn.throw h e
  | ok other =>
    obtain ⟨rfl, hi⟩ := Identity.validate_eq_ok_iff.mp hv
    apply (send_recorded_endsIn hi (publicKeyFor_keeps h hi) ?kept).mono ?sent fun _ => id
    case kept =>
      rintro found c w w' ⟨hk, hfound⟩ (hmoves | hposts)
      · exact hk.moves hmoves
      · exact hk.posts hfound hposts
    case sent =>
      rintro sent s' ⟨found, w, ⟨hk, hfound⟩, hposts⟩
      exact hk.posts hfound hposts

theorem receive_keeps (h : Keeps identity key privateKey s) (offered : Identity.Candidate)
    (nonce box : String) (messageId : Option String) (resolve : Bool) :
    Action.EndsIn (receive g.recorded clock offered nonce box messageId resolve) s
      (fun _ => Keeps identity key privateKey) (Keeps identity key privateKey) := by
  cases he : Envelope.ofHex nonce box with
  | error e =>
    rw [receive, he]
    exact Action.EndsIn.throw h e
  | ok envelope =>
    cases hv : Identity.validate offered with
    | error e =>
      rw [receive, he, hv]
      exact Action.EndsIn.throw h e
    | ok other =>
      obtain ⟨rfl, hi⟩ := Identity.validate_eq_ok_iff.mp hv
      apply (receive_recorded_endsIn hi he (publicKeyFor_keeps h hi) ?kept messageId resolve).mono
        ?received fun _ => id
      case kept =>
        rintro found c w w' ⟨hk, _⟩ hmoves
        exact hk.moves hmoves
      case received =>
        rintro incoming s' ⟨found, w, ⟨hk, _⟩, hmoves, _⟩
        exact hk.moves hmoves

/-- No event that spares an identity touches its pinned key. -/
theorem Keeps.after {clock : ω → τ} (h : Keeps identity key privateKey s) {e : Event ω}
    (he : e.Spares identity) : Keeps identity key privateKey (e.after source g clock s) := by
  cases e with
  | send offered m => exact (send_keeps h offered m).after
  | receive offered nonce box messageId resolve =>
    exact (receive_keeps h offered nonce box messageId resolve).after
  | ask offered =>
    cases hv : Identity.validate offered with
    | error e =>
      have hrun : Client.publicKeyFor g.recorded (clock ∘ Prod.fst) offered s = .error e s := by
        simp only [publicKeyFor, KeyCache.publicKeyFor, hv]
      rw [Event.after, Action.after, hrun]
      exact h
    | ok other =>
      obtain ⟨rfl, hi⟩ := Identity.validate_eq_ok_iff.mp hv
      exact ((publicKeyFor_keeps h hi).mono (fun _ _ hk => hk.1) fun _ => id).after
  | pin offered found =>
    cases hp : s.1.pin offered found with
    | error e =>
      simp only [Event.after, hp]
      exact h
    | ok c =>
      simp only [Event.after, hp]
      obtain ⟨cache, hcache, hc⟩ := Check.bind_eq_ok_iff.mp hp
      cases hc
      exact ⟨h.pins.pin hcache he, h.privateKey_eq, h.calls⟩
  | invalidate offered => exact ⟨h.pins.invalidate_of_ne he, h.privateKey_eq, h.calls⟩
  | clear => exact he.elim
  | prune => exact ⟨h.pins.prune _, h.privateKey_eq, h.calls⟩
  | elapse world => exact ⟨h.pins, h.privateKey_eq, h.calls⟩

theorem Keeps.run {clock : ω → τ} (h : Keeps identity key privateKey s) {events : List (Event ω)}
    (he : ∀ e ∈ events, e.Spares identity) :
    Keeps identity key privateKey (run source g clock events s) := by
  induction events generalizing s with
  | nil => exact h
  | cons e events ih =>
    rw [List.forall_mem_cons] at he
    exact ih (h.after he.1) he.2

end Runs

/-! ### What a pinned key is used for -/

/-- The key of an identity, and none else, is used for what is sent to it and received from it. None
of this takes a lookup, and so far there was none, nor a delivery to the identity that was sealed
with other keys. -/
structure Trusts (source : RandomSource ω) (g : Gateway ω) (clock : ω → τ) (identity : String)
    (key privateKey : Bytes) (s : Client τ × ω × List GatewayCall) : Prop where
  calls : ∀ call ∈ s.2.2, call.Respects identity key privateKey
  publicKeyFor_eq : publicKeyFor g.recorded (clock ∘ Prod.fst) (.text identity) s = .ok key s
  sends : ∀ m, Action.EndsIn
    (send source.onFirst g.recorded (clock ∘ Prod.fst) (.text identity) m) s
    (fun _ s' => Posts identity key privateKey m s.2.2 s'.2.2)
    fun s' => MovesBlobs s.2.2 s'.2.2 ∨ Posts identity key privateKey m s.2.2 s'.2.2
  receives : ∀ nonce box messageId resolve, Action.EndsIn
    (receive g.recorded (clock ∘ Prod.fst) (.text identity) nonce box messageId resolve) s
    (fun _ s' => MovesBlobs s.2.2 s'.2.2 ∧ ∃ envelope frame,
      Envelope.ofHex nonce box = .ok envelope ∧ Box.open envelope key privateKey = .ok frame)
    fun s' => MovesBlobs s.2.2 s'.2.2

theorem Keeps.trusts {identity : String} {key privateKey : Bytes}
    {s : Client τ × ω × List GatewayCall} (h : Keeps identity key privateKey s)
    (hi : Identity.isWellFormed identity = true) (source : RandomSource ω) (g : Gateway ω)
    (clock : ω → τ) : Trusts source g clock identity key privateKey s := by
  obtain ⟨c, w⟩ := s
  obtain rfl := h.privateKey_eq
  have heq : Client.publicKeyFor g.recorded (clock ∘ Prod.fst) (.text identity) (c, w) =
      .ok key (c, w) := publicKeyFor_of_pins hi h.pins
  -- Failures of the lookup are not among the outcomes, so all that can fail comes after it.
  have hkey : ∀ E : Client τ × ω × List GatewayCall → Prop, Action.EndsIn
      (Client.publicKeyFor g.recorded (clock ∘ Prod.fst) (.text identity)) (c, w)
      (fun found s' => found = key ∧ s' = (c, w)) E :=
    fun E => (Action.endsIn_of_ok heq).mpr ⟨rfl, rfl⟩
  refine ⟨h.calls, heq, fun m => ?sends, fun nonce box messageId resolve => ?receives⟩
  case sends =>
    apply (send_recorded_endsIn hi (hkey _) ?failed).mono ?sent fun _ => id
    case failed =>
      rintro found c' w' w'' ⟨rfl, hs⟩ hcalls
      cases hs
      exact hcalls
    case sent =>
      rintro sent ⟨c', w''⟩ ⟨found, w', ⟨rfl, hs⟩, hposts⟩
      cases hs
      exact hposts
  case receives =>
    cases he : Envelope.ofHex nonce box with
    | error e =>
      rw [Client.receive, he]
      exact Action.EndsIn.throw (.refl w.2) e
    | ok envelope =>
      apply (receive_recorded_endsIn hi he (hkey _) ?failed messageId resolve).mono ?received
        fun _ => id
      case failed =>
        rintro found c' w' w'' ⟨rfl, hs⟩ hmoves
        cases hs
        exact hmoves
      case received =>
        rintro incoming ⟨c', w''⟩ ⟨found, w', ⟨rfl, hs⟩, hmoves, opened, ho⟩
        cases hs
        obtain ⟨frame, hframe, -⟩ := Check.bind_eq_ok_iff.mp ho
        exact ⟨hmoves, envelope, frame, rfl, hframe⟩

/-- Once the key of an identity is pinned, and until it is pinned anew, invalidated or cleared, the
client trusts it and no other: whatever is sent, received and asked for, whatever the directory
answers and the clock says, and whatever is pinned, invalidated and pruned besides. -/
theorem trusts_of_pin {c c' : Client τ} {identity : String} {key : Bytes}
    (hp : c.pin (.text identity) (.octets key) = .ok c') {events : List (Event ω)}
    (he : ∀ e ∈ events, e.Spares identity) (source : RandomSource ω) (g : Gateway ω)
    (clock : ω → τ) (w : ω) :
    Trusts source g clock identity key c.keys.privateKey
      (run source g clock events (c', w, [])) := by
  obtain ⟨cache, hcache, hc⟩ := Check.bind_eq_ok_iff.mp hp
  cases hc
  obtain ⟨other, hv, -⟩ := Check.bind_eq_ok_iff.mp hcache
  obtain ⟨ht, hi⟩ := Identity.validate_eq_ok_iff.mp hv
  cases ht
  have hkeeps : Keeps identity key c.keys.privateKey
      (({ c with cache := cache }, w, []) : Client τ × ω × List GatewayCall) :=
    ⟨KeyCache.pins_of_pin hcache, rfl, nofun⟩
  exact (hkeeps.run he).trusts hi source g clock

/-- A message is sent, a day passes in which the directory comes to answer with a forged key, and
the cache is pruned and asked for others. -/
theorem trusts_of_pin_forged :
    ∃ (c c' : Client Nat) (events : List (Event (Nat × LocalGateway))) (forged : LocalGateway),
      c.pin (.text "BOBBOB42") (.octets (List.replicate 32 2)) = .ok c' ∧
      forged.book.keys.lookup "BOBBOB42" = some (.octets (List.replicate 32 3)) ∧
      Event.elapse (86400, forged) ∈ events ∧ (∀ e ∈ events, e.Spares "BOBBOB42") ∧
      Trusts RandomSource.numbered.onFirst LocalGateway.gateway.onSecond Prod.fst "BOBBOB42"
        (List.replicate 32 2) c.keys.privateKey
        (run RandomSource.numbered.onFirst LocalGateway.gateway.onSecond Prod.fst events
          (c', (0, .empty), [])) := by
  let c : Client Nat :=
    ⟨⟨"*ALICE01", "", Config.defaultApiUrl, 0, none⟩, KeyPair.uniform 1, .empty 60⟩
  let forged : LocalGateway :=
    { LocalGateway.empty with book := ⟨[("BOBBOB42", .octets (List.replicate 32 3))], 0⟩ }
  let events : List (Event (Nat × LocalGateway)) :=
    [.send (.text "BOBBOB42") (.text "hi"), .elapse (86400, forged), .prune,
      .pin (.text "BOBBOB42") (.octets []), .invalidate (.text "CAROL042"),
      .ask (.text "CAROL042")]
  have hp : c.pin (.text "BOBBOB42") (.octets (List.replicate 32 2)) =
      .ok { c with cache := c.cache.insert "BOBBOB42" ⟨List.replicate 32 2, none⟩ } := rfl
  have he : ∀ e ∈ events, e.Spares "BOBBOB42" := by
    simp only [events, List.forall_mem_cons, Event.Spares]
    exact ⟨trivial, trivial, trivial, fun _ => ⟨_, rfl⟩, by simp, trivial, nofun⟩
  exact ⟨c, _, events, forged, hp, by decide, by simp [events], he,
    trusts_of_pin hp he _ _ _ _⟩

end Client

end SealedPost
