import SealedPost.Proofs.AttachmentSend.Steps

/-!
# The order of the stages

Whatever is called on a send, in whatever order and with whatever collaborators, the steps that
succeed are the first ones of a fixed order, each of them once. A call out of its stage changes
nothing, a call in its stage moves on by one stage or abandons the send, and nothing leaves the last
stage or an abandoned send.
-/

namespace SealedPost.AttachmentSend

variable {ω α : Type}

/-! ### Passages -/

/-- The steps that take a send from one stage to the next. -/
inductive Passage where
  | encryptBlob
  | upload
  | buildFrame
  | sealFrame
  | markSent
  deriving DecidableEq

namespace Passage

def origin : Passage → Stage
  | .encryptBlob => .composed
  | .upload      => .blobEncrypted
  | .buildFrame  => .blobUploaded
  | .sealFrame   => .frameBuilt
  | .markSent    => .sealed

def target : Passage → Stage
  | .encryptBlob => .blobEncrypted
  | .upload      => .blobUploaded
  | .buildFrame  => .frameBuilt
  | .sealFrame   => .sealed
  | .markSent    => .sent

/-- All passages, in the order of the stages. -/
def inOrder : List Passage := [.encryptBlob, .upload, .buildFrame, .sealFrame, .markSent]

/-- The passages behind a send in a stage; of an abandoned one the stage does not tell. -/
def behind : Stage → List Passage
  | .composed      => inOrder.take 0
  | .blobEncrypted => inOrder.take 1
  | .blobUploaded  => inOrder.take 2
  | .frameBuilt    => inOrder.take 3
  | .sealed        => inOrder.take 4
  | .sent          => inOrder.take 5
  | .aborted       => inOrder.take 0

theorem behind_prefix (stage : Stage) : behind stage <+: inOrder := by
  cases stage <;> exact List.take_prefix _ _

theorem behind_target (p : Passage) : behind p.target = behind p.origin ++ [p] := by
  cases p <;> rfl

end Passage

/-! ### Calls -/

/-- A call of a step with its arguments. -/
inductive Call (ω : Type) where
  | encryptBlob
  | upload (t : BlobTransport ω)
  | buildFrame (floor : Int)
  | sealFrame (recipientPublic senderPrivate : Material)
  | markSent
  | abort

/-- A step without its result. -/
def quietly (x : Action ω α) : Action ω Unit := fun w =>
  match x w with
  | .ok _ w    => .ok () w
  | .error e w => .error e w

theorem quietly_of_ok {x : Action ω α} {w w' : ω} {a : α} (h : x w = .ok a w') :
    quietly x w = .ok () w' := by
  rw [quietly, h]

theorem quietly_eq_error_iff {x : Action ω α} {w w' : ω} {e : Failure} :
    quietly x w = .error e w' ↔ x w = .error e w' := by
  unfold quietly
  cases x w <;> simp

namespace Call

/-- The passage that a call is for; abandoning is for none. -/
def passage? : Call ω → Option Passage
  | .encryptBlob    => some .encryptBlob
  | .upload _       => some .upload
  | .buildFrame _   => some .buildFrame
  | .sealFrame _ _  => some .sealFrame
  | .markSent       => some .markSent
  | .abort          => none

def perform (source : RandomSource ω) : Call ω → Step ω Unit
  | .encryptBlob      => quietly (AttachmentSend.encryptBlob source)
  | .upload t         => quietly (AttachmentSend.upload t)
  | .buildFrame floor => quietly (AttachmentSend.buildFrame source floor)
  | .sealFrame p q    => quietly (AttachmentSend.sealFrame source p q)
  | .markSent         => AttachmentSend.markSent
  | .abort            => AttachmentSend.abort

/-- What a call asks of checks, of the random source and of the transport, the send left aside. -/
def dealings (source : RandomSource ω) (s : AttachmentSend) : Call ω → Action ω Unit
  | .encryptBlob      => quietly (Blob.prepare source s.data)
  | .upload t         => quietly (t.upload (s.encrypted.getD []))
  | .buildFrame floor => quietly (frameBytes source floor s)
  | .sealFrame p q    => quietly (Box.seal source (s.memory.read (s.frame.getD 0)) p q)
  | .markSent         => pure ()
  | .abort            => pure ()

/-- Is a failure what the caller is to see of a cause? Only an upload wraps causes, and only those
that are not failed uploads already. -/
def Reraises (cause e : Failure) : Call ω → Prop
  | .upload _ =>
    (cause.kind = .blobUploadFailed → e = cause) ∧
      (cause.kind ≠ .blobUploadFailed → e = .uploadFailed cause)
  | _ => e = cause

variable {source : RandomSource ω} {c : Call ω} {p : Passage} {s s' : AttachmentSend} {w w' : ω}

/-! ### One call -/

theorem perform_of_ne (source : RandomSource ω) (w : ω) (hp : c.passage? = some p)
    (h : s.stage ≠ p.origin) :
    c.perform source (s, w) = .error (.wrongStage p.target s.stage p.origin) (s, w) := by
  cases c <;> cases hp
  case encryptBlob => exact quietly_eq_error_iff.mpr (step_of_ne h)
  case upload => exact quietly_eq_error_iff.mpr (step_of_ne h)
  case buildFrame => exact quietly_eq_error_iff.mpr (step_of_ne h)
  case sealFrame => exact quietly_eq_error_iff.mpr (step_of_ne h)
  case markSent => exact advance_of_ne h

/-- In its own stage a call does what its dealings come to. When they fail, the failure is not lost
to the abandoning of the send. -/
theorem perform_of_eq (source : RandomSource ω) (w : ω) (hp : c.passage? = some p)
    (h : s.stage = p.origin) :
    match c.dealings source s w with
    | .ok () w' => ∃ s', c.perform source (s, w) = .ok () (s', w') ∧ s'.stage = p.target ∧
        (s'.envelope.isSome ↔ p = .sealFrame ∨ s.envelope.isSome)
    | .error cause w' => ∃ s' e, c.perform source (s, w) = .error e (s', w') ∧
        s'.stage = .aborted ∧ s'.envelope = s.envelope ∧ c.Reraises cause e := by
  cases c <;> cases hp
  case encryptBlob =>
    simp only [dealings, perform, quietly, encryptBlob_of_composed h]
    cases Blob.prepare source s.data w with
    | ok r w' => exact ⟨_, rfl, rfl, by simp⟩
    | error e w' => exact ⟨_, e, rfl, rfl, rfl, rfl⟩
  case upload t =>
    simp only [dealings, perform, quietly, upload_of_blobEncrypted h]
    cases t.upload (s.encrypted.getD []) w with
    | ok id w' => exact ⟨_, rfl, rfl, by simp⟩
    | error e w' =>
      refine ⟨_, _, rfl, rfl, rfl, ?_, ?_⟩
      · intro hk
        rw [uploadFailure, if_pos hk]
      · intro hk
        rw [uploadFailure, if_neg hk]
  case buildFrame floor =>
    simp only [dealings, perform, quietly, buildFrame_of_blobUploaded h]
    cases frameBytes source floor s w with
    | ok frame w' => exact ⟨_, rfl, rfl, by simp⟩
    | error e w' => exact ⟨_, e, rfl, rfl, rfl, rfl⟩
  case sealFrame recipientPublic senderPrivate =>
    simp only [dealings, perform, quietly, sealFrame_of_frameBuilt h]
    cases Box.seal source (s.memory.read (s.frame.getD 0)) recipientPublic senderPrivate w with
    | ok envelope w' => exact ⟨_, rfl, rfl, by simp⟩
    | error e w' => exact ⟨_, e, rfl, rfl, rfl, rfl⟩
  case markSent =>
    exact ⟨_, advance_of_eq h, rfl, by simp⟩

theorem perform_abort_of_ne_sent (hp : c.passage? = none) (h : s.stage ≠ .sent) :
    c.perform source (s, w) = .ok () (s.abandoned, w) := by
  cases c <;> cases hp
  exact abort_of_ne_sent h

theorem perform_abort_of_sent (hp : c.passage? = none) (h : s.stage = .sent) :
    c.perform source (s, w) = .error .alreadySent (s, w) := by
  cases c <;> cases hp
  exact abort_of_sent h

/-- A passage that succeeds was called in its own stage and leads to the next. -/
theorem of_perform_eq_ok (hp : c.passage? = some p)
    (h : c.perform source (s, w) = .ok () (s', w')) :
    s.stage = p.origin ∧ s'.stage = p.target ∧
      (s'.envelope.isSome ↔ p = .sealFrame ∨ s.envelope.isSome) := by
  by_cases ho : s.stage = p.origin
  · have hown := perform_of_eq source w hp ho
    split at hown
    · obtain ⟨s₁, hs₁, ht, he⟩ := hown
      rw [h] at hs₁
      cases hs₁
      exact ⟨ho, ht, he⟩
    · obtain ⟨s₁, e, hs₁, -⟩ := hown
      rw [h] at hs₁
      cases hs₁
  · rw [perform_of_ne source w hp ho] at h
    cases h

/-- A call that fails changes nothing or abandons the send. -/
theorem of_perform_eq_error {e : Failure} (h : c.perform source (s, w) = .error e (s', w')) :
    (s' = s ∨ s'.stage = .aborted) ∧ s'.envelope = s.envelope := by
  cases hp : c.passage? with
  | none =>
    by_cases hs : s.stage = .sent
    · rw [perform_abort_of_sent hp hs] at h
      cases h
      exact ⟨.inl rfl, rfl⟩
    · rw [perform_abort_of_ne_sent hp hs] at h
      cases h
  | some p =>
    by_cases ho : s.stage = p.origin
    · have hown := perform_of_eq source w hp ho
      split at hown
      · obtain ⟨s₁, hs₁, -⟩ := hown
        rw [h] at hs₁
        cases hs₁
      · obtain ⟨s₁, e, hs₁, ha, he, -⟩ := hown
        rw [h] at hs₁
        cases hs₁
        exact ⟨.inr ha, he⟩
    · rw [perform_of_ne source w hp ho] at h
      cases h
      exact ⟨.inl rfl, rfl⟩

end Call

/-! ### Histories -/

/-- What can have been called on a send so far, with the passages that succeeded, latest last.
Between two calls others may do to the world what they like. -/
inductive History (source : RandomSource ω) (s₀ : AttachmentSend) (w₀ : ω) :
    List Passage → AttachmentSend → ω → Prop where
  | start : History source s₀ w₀ [] s₀ w₀
  | succeeded {ps : List Passage} {s s' : AttachmentSend} {w w' : ω} (c : Call ω)
      (h : History source s₀ w₀ ps s w) (hc : c.perform source (s, w) = .ok () (s', w')) :
      History source s₀ w₀ (ps ++ c.passage?.toList) s' w'
  | failed {ps : List Passage} {s s' : AttachmentSend} {w w' : ω} {e : Failure} (c : Call ω)
      (h : History source s₀ w₀ ps s w) (hc : c.perform source (s, w) = .error e (s', w')) :
      History source s₀ w₀ ps s' w'
  | elsewhere {ps : List Passage} {s : AttachmentSend} {w : ω} (w' : ω)
      (h : History source s₀ w₀ ps s w) : History source s₀ w₀ ps s w'

/-- What the passages that succeeded say of a send. -/
structure Accounts (ps : List Passage) (s : AttachmentSend) : Prop where
  inOrder : ps <+: Passage.inOrder
  behind : s.stage ≠ .aborted → ps = Passage.behind s.stage
  envelope : s.envelope.isSome ↔ .sealFrame ∈ ps

namespace Accounts

variable {source : RandomSource ω} {ps : List Passage} {s s' : AttachmentSend} {w w' : ω}
  {c : Call ω}

theorem of_ok (ha : Accounts ps s) (h : c.perform source (s, w) = .ok () (s', w')) :
    Accounts (ps ++ c.passage?.toList) s' := by
  cases hp : c.passage? with
  | none =>
    rw [Option.toList_none, List.append_nil]
    by_cases hs : s.stage = .sent
    · rw [Call.perform_abort_of_sent hp hs] at h
      cases h
    · rw [Call.perform_abort_of_ne_sent hp hs] at h
      cases h
      exact ⟨ha.inOrder, fun hne => absurd rfl hne, ha.envelope⟩
  | some p =>
    obtain ⟨horigin, htarget, henvelope⟩ := Call.of_perform_eq_ok hp h
    have hbehind : ps = Passage.behind p.origin := by
      rw [← horigin]
      exact ha.behind (by rw [horigin]; cases p <;> decide)
    have hps : ps ++ [p] = Passage.behind s'.stage := by
      rw [htarget, Passage.behind_target, hbehind]
    refine ⟨?_, fun _ => hps, ?_⟩
    · rw [Option.toList_some, hps]
      exact Passage.behind_prefix _
    · rw [henvelope, ha.envelope, Option.toList_some, List.mem_append, List.mem_singleton, or_comm,
        eq_comm]

theorem of_error {e : Failure} (ha : Accounts ps s)
    (h : c.perform source (s, w) = .error e (s', w')) : Accounts ps s' := by
  obtain ⟨hs, he⟩ := Call.of_perform_eq_error h
  refine ⟨ha.inOrder, ?_, by rw [he, ha.envelope]⟩
  intro hne
  rcases hs with rfl | hs
  · exact ha.behind hne
  · exact absurd hs hne

theorem of_history {a : Attachment} {s₀ : AttachmentSend} {w₀ : ω} (h₀ : start a = .ok s₀)
    (h : History source s₀ w₀ ps s w) : Accounts ps s := by
  induction h with
  | start =>
    rw [AttachmentSend.start] at h₀
    split at h₀ <;> cases h₀
    exact ⟨List.nil_prefix, fun _ => rfl, by simp⟩
  | succeeded c _ hc ih => exact ih.of_ok hc
  | failed c _ hc ih => exact ih.of_error hc
  | elsewhere w' _ ih => exact ih

end Accounts

/-! ### The next call -/

/-- Is a call refused before anything is asked of its collaborators? Whatever the random source is,
and whatever its other arguments are, it fails alike and leaves send and world as they were. -/
def Call.IsRefused (s : AttachmentSend) (w : ω) (c : Call ω) : Prop :=
  ∃ e : Failure, e.kind = .invalidState ∧ ∀ (source : RandomSource ω) (c' : Call ω),
    c'.passage? = c.passage? → c'.perform source (s, w) = .error e (s, w)

/-- What the rules of the stages say of one call. -/
def Call.Obeys (source : RandomSource ω) (s : AttachmentSend) (w : ω) (c : Call ω) : Prop :=
  match c.passage? with
  | none =>
    (s.stage = .sent → c.IsRefused s w) ∧
    (s.stage ≠ .sent → ∃ s', c.perform source (s, w) = .ok () (s', w) ∧ s'.stage = .aborted)
  | some p =>
    (s.stage ≠ p.origin → c.IsRefused s w) ∧
    (s.stage = p.origin →
      match c.dealings source s w with
      | .ok () w' => ∃ s', c.perform source (s, w) = .ok () (s', w') ∧ s'.stage = p.target
      | .error cause w' => ∃ s' e, c.perform source (s, w) = .error e (s', w') ∧
          s'.stage = .aborted ∧ c.Reraises cause e)

theorem Call.obeys (source : RandomSource ω) (s : AttachmentSend) (w : ω) (c : Call ω) :
    c.Obeys source s w := by
  unfold Obeys
  cases hp : c.passage? with
  | none =>
    constructor
    · intro hs
      refine ⟨.alreadySent, rfl, ?_⟩
      intro source' c' hc'
      exact perform_abort_of_sent (hc'.trans hp) hs
    · intro hs
      exact ⟨_, perform_abort_of_ne_sent hp hs, rfl⟩
  | some p =>
    constructor
    · intro hs
      refine ⟨.wrongStage p.target s.stage p.origin, rfl, ?_⟩
      intro source' c' hc'
      exact perform_of_ne source' w (hc'.trans hp) hs
    · intro hs
      have hown := perform_of_eq source w hp hs
      cases hd : c.dealings source s w with
      | ok _ w' =>
        rw [hd] at hown
        obtain ⟨s', h, ht, -⟩ := hown
        exact ⟨s', h, ht⟩
      | error cause w' =>
        rw [hd] at hown
        obtain ⟨s', e, h, ha, -, hr⟩ := hown
        exact ⟨s', e, h, ha, hr⟩

/-- The send and the world after a call, whether it succeeded or not. -/
def Call.after (source : RandomSource ω) (s : AttachmentSend) (w : ω) (c : Call ω) :
    AttachmentSend × ω :=
  match c.perform source (s, w) with
  | .ok () sw   => sw
  | .error _ sw => sw

/-- No call leaves the last stage or an abandoned send. -/
theorem Call.stage_after (source : RandomSource ω) {s : AttachmentSend} (w : ω) (c : Call ω)
    (h : s.stage = .sent ∨ s.stage = .aborted) : (c.after source s w).1.stage = s.stage := by
  unfold after
  cases hp : c.passage? with
  | none =>
    rcases h with h | h
    · rw [perform_abort_of_sent hp h]
    · rw [perform_abort_of_ne_sent hp (by rw [h]; decide), h]
      rfl
  | some p =>
    have hne : s.stage ≠ p.origin := by
      rcases h with h | h <;> rw [h] <;> cases p <;> decide
    rw [perform_of_ne source w hp hne]

/-- After any history of a send the passages that succeeded are the first ones in their order, there
is an envelope exactly if the frame has been sealed, and the next call keeps to the rules of the
stages, which lead nowhere from a send that is sent or abandoned. -/
theorem history_in_order {source : RandomSource ω} {a : Attachment} {s₀ s : AttachmentSend}
    {w₀ w : ω} {ps : List Passage} (h₀ : start a = .ok s₀) (h : History source s₀ w₀ ps s w) :
    ps <+: Passage.inOrder ∧ ps.Nodup ∧ (s.envelope.isSome ↔ .sealFrame ∈ ps) ∧
      ∀ c : Call ω, c.Obeys source s w ∧
        (s.stage = .sent ∨ s.stage = .aborted → (c.after source s w).1.stage = s.stage) := by
  have ha := Accounts.of_history h₀ h
  have hnodup : Passage.inOrder.Nodup := by decide
  refine ⟨ha.inOrder, hnodup.sublist ha.inOrder.sublist, ha.envelope, ?_⟩
  intro c
  exact ⟨c.obeys source s w, c.stage_after source w⟩

/-- An image is encrypted, its upload fails, and the upload is called again in vain. -/
theorem history_in_order_failed_upload :
    ∃ s₀ s w, start ⟨.image, some [1, 2, 3], none⟩ = .ok s₀ ∧
      History Tape.source s₀ (.counting 0) [.encryptBlob] s w ∧ s.stage = .aborted ∧
      [Passage.encryptBlob] <+: Passage.inOrder ∧ [Passage.encryptBlob].Nodup ∧
      (s.envelope.isSome ↔ .sealFrame ∈ [Passage.encryptBlob]) ∧
      ∀ c : Call Tape, c.Obeys Tape.source s w ∧
        (s.stage = .sent ∨ s.stage = .aborted →
          (c.after Tape.source s w).1.stage = s.stage) := by
  let t : BlobTransport Tape := .answering (.error .serverFault) (.ok none)
  let s₀ : AttachmentSend :=
    ⟨⟨.image, some [1, 2, 3], none⟩, [1, 2, 3], .composed, none, none, none, none, none, .empty⟩
  have hs : start ⟨.image, some [1, 2, 3], none⟩ = .ok s₀ := rfl
  have h₀ : History Tape.source s₀ (.counting 0) [] s₀ (.counting 0) := .start
  have h₁ := h₀.succeeded .encryptBlob rfl
  have h₂ := h₁.failed (.upload t) rfl
  have h₃ := h₂.failed (.upload t) rfl
  exact ⟨s₀, _, _, hs, h₃, rfl, history_in_order hs h₃⟩

end SealedPost.AttachmentSend
