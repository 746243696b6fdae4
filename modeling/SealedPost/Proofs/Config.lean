import SealedPost.Config
import SealedPost.Proofs.Action

/-!
# Valid configurations

Every configuration that passes the checks of a new one is valid.
-/

namespace SealedPost

theorem Identity.validate_eq_ok_iff {offered : Candidate} {s : String} :
    validate offered = .ok s ↔ offered = .text s ∧ isWellFormed s = true := by
  cases offered with
  | text t =>
    by_cases h : isWellFormed t = true
    · simp only [validate, h, if_true, Except.ok.injEq, Candidate.text.injEq]
      exact ⟨fun hs => ⟨hs, hs ▸ h⟩, And.left⟩
    · simp only [validate, h, Candidate.text.injEq, Bool.false_eq_true, if_false, reduceCtorEq,
        false_iff]
      rintro ⟨rfl, hs⟩
      exact h hs
  | absent => simp [validate]
  | flag b => simp [validate]
  | number n => simp [validate]
  | other s => simp [validate]

theorem Identity.validate_text {s : String} (h : isWellFormed s = true) :
    validate (.text s) = .ok s :=
  validate_eq_ok_iff.mpr ⟨rfl, h⟩

namespace Config

/-- Is the identity one, and can frames be padded to the floor? -/
def IsValid (c : Config) : Prop :=
  Identity.isWellFormed c.identity = true ∧
    0 ≤ c.minFrameLength ∧ c.minFrameLength ≤ Frame.maxFloor

theorem isValid_of_create {identity : Identity.Candidate} {secret apiUrl : String}
    {minFrameLength : Int} {timeout : Option Quantity} {c : Config}
    (h : create identity secret apiUrl minFrameLength timeout = .ok c) : c.IsValid := by
  obtain ⟨s, hs, h⟩ := Check.bind_eq_ok_iff.mp h
  obtain ⟨length, hl, h⟩ := Check.bind_eq_ok_iff.mp h
  cases h
  refine ⟨(Identity.validate_eq_ok_iff.mp hs).2, ?_⟩
  rw [Frame.paddingLength] at hl
  split at hl
  · assumption
  · cases hl

/-- A configuration is shown as it is with any other secret. -/
theorem redacted_withSecret (c : Config) (secret : String) :
    redacted { c with secret := secret } = c.redacted := by
  unfold redacted
  with_reducible rfl

end Config

end SealedPost
