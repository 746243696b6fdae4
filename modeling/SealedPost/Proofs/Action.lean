import Mathlib
import SealedPost.Action

/-!
# Outcomes of checks and actions

What a sequence of checks, or of actions on a world, comes to. `Action.Yields` says that an action
does not fail and what holds of its result and of the world after it. `Action.Ensures` leaves open
whether it fails, and says what holds of the world in any case and of the result if there is one.
`Action.EndsIn` tells the two outcomes apart.
-/

namespace SealedPost

variable {ω α β : Type}

/-! ### Checks -/

theorem Check.bind_eq_ok_iff {x : Except Failure α} {f : α → Except Failure β} {b : β} :
    (x >>= f) = .ok b ↔ ∃ a, x = .ok a ∧ f a = .ok b := by
  cases x <;> simp [bind, Except.bind]

theorem Check.bind_eq_error_iff {x : Except Failure α} {f : α → Except Failure β} {e : Failure} :
    (x >>= f) = .error e ↔ x = .error e ∨ ∃ a, x = .ok a ∧ f a = .error e := by
  cases x <;> simp [bind, Except.bind]

theorem Check.toOption_eq_some_iff {x : Except Failure α} {a : α} :
    x.toOption = some a ↔ x = .ok a := by
  cases x <;> simp [Except.toOption]

theorem Check.map_eq_error_iff {f : α → β} {x : Except Failure α} {e : Failure} :
    f <$> x = .error e ↔ x = .error e := by
  cases x <;> simp [Functor.map, Except.map]

/-- Is the outcome a failure of a kind? -/
def FailsAs {α : Type} (outcome : Except Failure α) (kind : Kind) : Prop :=
  ∃ e, outcome = .error e ∧ e.kind = kind

theorem FailsAs.kind_eq {α : Type} {e : Failure} {kind : Kind}
    (h : FailsAs (.error e : Except Failure α) kind) : e.kind = kind := by
  obtain ⟨_, ⟨⟩, h⟩ := h
  exact h

namespace Action

/-! ### Sequences -/

variable {x : Action ω α} {f : α → Action ω β} {w w' : ω} {a : α} {b : β} {e : Failure}

theorem bind_of_ok (h : x w = .ok a w') : (x >>= f) w = f a w' := by
  show EStateM.bind x f w = _
  rw [EStateM.bind, h]

theorem bind_of_error (h : x w = .error e w') : (x >>= f) w = .error e w' := by
  show EStateM.bind x f w = _
  rw [EStateM.bind, h]

theorem map_of_ok {g : α → β} (h : x w = .ok a w') : (g <$> x) w = .ok (g a) w' := by
  show EStateM.map g x w = _
  rw [EStateM.map, h]

@[simp] theorem pure_apply (a : α) (w : ω) : (pure a : Action ω α) w = .ok a w := rfl

@[simp] theorem ofExcept_ok_bind (a : α) (f : α → Action ω β) :
    (ofExcept (.ok a) >>= f) = f a := rfl

theorem ofExcept_ok_eq_pure (a : α) : (ofExcept (.ok a) : Action ω α) = pure a := rfl

theorem map_ofExcept (g : α → β) (r : Except Failure α) :
    g <$> (ofExcept r : Action ω α) = ofExcept (g <$> r) := by
  cases r <;> rfl

@[simp] theorem throw_apply (e : Failure) (w : ω) : (throw e : Action ω α) w = .error e w := rfl

theorem adaptExcept_id (x : Action ω α) : EStateM.adaptExcept (fun e => e) x = x := by
  funext w
  rw [EStateM.adaptExcept]
  cases x w <;> rfl

theorem map_adaptExcept (g : α → β) (h : Failure → Failure) (x : Action ω α) :
    g <$> EStateM.adaptExcept h x = EStateM.adaptExcept h (g <$> x) := by
  funext w
  simp only [Functor.map, EStateM.map, EStateM.adaptExcept]
  cases x w <;> rfl

/-! ### Actions that do not fail -/

/-- The action succeeds in a world, and `Q` holds of its result and of the world after it. -/
def Yields (x : Action ω α) (w : ω) (Q : α → ω → Prop) : Prop :=
  ∃ a w', x w = .ok a w' ∧ Q a w'

theorem Yields.pure {a : α} {w : ω} {Q : α → ω → Prop} (h : Q a w) :
    Yields (Pure.pure a) w Q :=
  ⟨a, w, rfl, h⟩

theorem Yields.ofExcept {r : Except Failure α} {Q : α → ω → Prop} (h : r = .ok a) (hq : Q a w) :
    Yields (Action.ofExcept r) w Q :=
  ⟨a, w, by rw [h, ofExcept_ok], hq⟩

theorem Yields.bind {Q : α → ω → Prop} {R : β → ω → Prop} (h : Yields x w Q)
    (hf : ∀ a w', Q a w' → Yields (f a) w' R) : Yields (x >>= f) w R := by
  obtain ⟨a, w', hx, hq⟩ := h
  obtain ⟨b, w'', hb, hr⟩ := hf a w' hq
  exact ⟨b, w'', (bind_of_ok hx).trans hb, hr⟩

theorem Yields.mono {Q R : α → ω → Prop} (h : Yields x w Q) (hqr : ∀ a w', Q a w' → R a w') :
    Yields x w R := by
  obtain ⟨a, w', hx, hq⟩ := h
  exact ⟨a, w', hx, hqr a w' hq⟩

theorem Yields.get_bind {f : ω → Action ω β} {R : β → ω → Prop} (h : Yields (f w) w R) :
    Yields (get >>= f) w R :=
  h

/-- What an action yields on the second part of a world leaves the first part alone. -/
theorem Yields.onSecond {ρ : Type} {Q : α → ω → Prop} (h : Yields x w Q) (r : ρ) :
    Yields (Action.onSecond x) (r, w) fun a w' => w'.1 = r ∧ Q a w'.2 := by
  obtain ⟨a, w', hx, hq⟩ := h
  refine ⟨a, (r, w'), ?_, rfl, hq⟩
  simp only [Action.onSecond, hx]

/-! ### Actions that may fail -/

/-- `P` holds of the world after the action, whether it fails or not, and `Q` of its result if it
does not. -/
def Ensures (x : Action ω α) (w : ω) (P : ω → Prop) (Q : α → Prop) : Prop :=
  match x w with
  | .ok a w'    => P w' ∧ Q a
  | .error _ w' => P w'

variable {P : ω → Prop} {Q : α → Prop}

theorem Ensures.pure (hw : P w) (h : Q a) : Ensures (Pure.pure a) w P Q := ⟨hw, h⟩

theorem Ensures.throw (hw : P w) (e : Failure) : Ensures (MonadExcept.throw e) w P Q := hw

theorem Ensures.ofExcept {r : Except Failure α} (hw : P w) (h : ∀ a, r = .ok a → Q a) :
    Ensures (Action.ofExcept r) w P Q := by
  cases r with
  | ok a => exact ⟨hw, h a rfl⟩
  | error e => exact hw

theorem Ensures.bind {R : β → Prop} (h : Ensures x w P Q)
    (hf : ∀ a w', P w' → Q a → Ensures (f a) w' P R) : Ensures (x >>= f) w P R := by
  unfold Ensures at h ⊢
  cases hx : x w with
  | ok a w' =>
    rw [hx] at h
    rw [bind_of_ok hx]
    exact hf a w' h.1 h.2
  | error e w' =>
    rw [hx] at h
    rw [bind_of_error hx]
    exact h

theorem Ensures.mono {R : α → Prop} (h : Ensures x w P Q) (hqr : ∀ a, Q a → R a) :
    Ensures x w P R := by
  unfold Ensures at h ⊢
  cases hx : x w with
  | ok a w' =>
    rw [hx] at h
    exact ⟨h.1, hqr a h.2⟩
  | error e w' =>
    rw [hx] at h
    exact h

theorem ensures_true (x : Action ω α) (w : ω) : Ensures x w (fun _ => True) fun _ => True := by
  unfold Ensures
  cases x w <;> simp

theorem Ensures.of_ok (h : Ensures x w P Q) (hx : x w = .ok a w') : P w' ∧ Q a := by
  rwa [Ensures, hx] at h

theorem Ensures.of_error (h : Ensures x w P Q) (hx : x w = .error e w') : P w' := by
  rwa [Ensures, hx] at h

/-! ### Both outcomes -/

/-- `Q` holds of the result and of the world after the action if it does not fail, and `E` of the
world after it if it does. -/
structure EndsIn (x : Action ω α) (w : ω) (Q : α → ω → Prop) (E : ω → Prop) : Prop where
  ok : ∀ {a w'}, x w = .ok a w' → Q a w'
  error : ∀ {e w'}, x w = .error e w' → E w'

section EndsIn

variable {Q : α → ω → Prop} {R : β → ω → Prop} {E F : ω → Prop}

theorem endsIn_of_ok (h : x w = .ok a w') : EndsIn x w Q E ↔ Q a w' := by
  refine ⟨fun he => he.ok h, fun hq => ⟨?_, ?_⟩⟩
  · intro b w'' hb
    cases h.symm.trans hb
    exact hq
  · intro e w'' he
    cases h.symm.trans he

theorem endsIn_of_error (h : x w = .error e w') : EndsIn x w Q E ↔ E w' := by
  refine ⟨fun hx => hx.error h, fun he => ⟨?_, ?_⟩⟩
  · intro b w'' hb
    cases h.symm.trans hb
  · intro e' w'' he'
    cases h.symm.trans he'
    exact he

theorem EndsIn.pure (h : Q a w) : EndsIn (Pure.pure a) w Q E :=
  (endsIn_of_ok rfl).mpr h

theorem EndsIn.throw (h : E w) (e : Failure) : EndsIn (MonadExcept.throw e) w Q E :=
  (endsIn_of_error rfl).mpr h

theorem EndsIn.ofExcept {r : Except Failure α} (he : E w) (h : ∀ a, r = .ok a → Q a w) :
    EndsIn (Action.ofExcept r) w Q E := by
  cases r with
  | ok a => exact .pure (h a rfl)
  | error e => exact .throw he e

theorem EndsIn.bind (h : EndsIn x w Q E) (hf : ∀ a w', Q a w' → EndsIn (f a) w' R E) :
    EndsIn (x >>= f) w R E := by
  cases hx : x w with
  | ok a w' =>
    have hfa := hf a w' (h.ok hx)
    exact ⟨fun hb => hfa.ok ((bind_of_ok hx).symm.trans hb),
      fun he => hfa.error ((bind_of_ok hx).symm.trans he)⟩
  | error e w' =>
    rw [endsIn_of_error (bind_of_error hx)]
    exact h.error hx

theorem EndsIn.mono {R : α → ω → Prop} (h : EndsIn x w Q E) (hqr : ∀ a w', Q a w' → R a w')
    (hef : ∀ w', E w' → F w') : EndsIn x w R F where
  ok hx := hqr _ _ (h.ok hx)
  error hx := hef _ (h.error hx)

theorem EndsIn.map (h : EndsIn x w Q E) (g : α → β) :
    EndsIn (g <$> x) w (fun b w' => ∃ a, b = g a ∧ Q a w') E := by
  cases hx : x w with
  | ok a w' =>
    rw [endsIn_of_ok (map_of_ok hx)]
    exact ⟨a, rfl, h.ok hx⟩
  | error e w' =>
    have hmap : (g <$> x) w = .error e w' := by
      show EStateM.map g x w = _
      rw [EStateM.map, hx]
    rw [endsIn_of_error hmap]
    exact h.error hx

/-- A failure that is told in other words is a failure. -/
theorem EndsIn.adaptExcept (h : EndsIn x w Q E) (g : Failure → Failure) :
    EndsIn (EStateM.adaptExcept g x) w Q E := by
  cases hx : x w with
  | ok a w' =>
    have hadapt : EStateM.adaptExcept g x w = .ok a w' := by rw [EStateM.adaptExcept, hx]
    rw [endsIn_of_ok hadapt]
    exact h.ok hx
  | error e w' =>
    have hadapt : EStateM.adaptExcept g x w = .error (g e) w' := by rw [EStateM.adaptExcept, hx]
    rw [endsIn_of_error hadapt]
    exact h.error hx

theorem EndsIn.get_bind {f : ω → Action ω β} (h : EndsIn (f w) w R E) :
    EndsIn (get >>= f) w R E :=
  ⟨h.ok, h.error⟩

theorem EndsIn.onSecond {ρ : Type} {r : ρ} {Q : α → ρ × ω → Prop} {E : ρ × ω → Prop}
    (h : EndsIn x w (fun a w' => Q a (r, w')) fun w' => E (r, w')) :
    EndsIn (Action.onSecond x) (r, w) Q E := by
  cases hx : x w with
  | ok a w' =>
    have hrun : Action.onSecond x (r, w) = .ok a (r, w') := by simp only [Action.onSecond, hx]
    rw [endsIn_of_ok hrun]
    exact h.ok hx
  | error e w' =>
    have hrun : Action.onSecond x (r, w) = .error e (r, w') := by simp only [Action.onSecond, hx]
    rw [endsIn_of_error hrun]
    exact h.error hx

theorem EndsIn.noting (x : Action ω α) {γ : Type} (note : γ) (w : ω) (notes : List γ) :
    EndsIn (Action.noting note x) (w, notes) (fun _ w' => w'.2 = notes ++ [note])
      fun w' => w'.2 = notes ++ [note] := by
  cases hx : x w with
  | ok a w' =>
    have hrun : Action.noting note x (w, notes) = .ok a (w', notes ++ [note]) := by
      simp only [Action.noting, hx]
    rw [endsIn_of_ok hrun]
  | error e w' =>
    have hrun : Action.noting note x (w, notes) = .error e (w', notes ++ [note]) := by
      simp only [Action.noting, hx]
    rw [endsIn_of_error hrun]

/-- What an action comes to, the world left aside. -/
def outcome (x : Action ω α) (w : ω) : Except Failure α :=
  match x w with
  | .ok a _    => .ok a
  | .error e _ => .error e

theorem outcome_eq_ok_iff : outcome x w = .ok a ↔ ∃ w', x w = .ok a w' := by
  cases hx : x w <;> simp [outcome, hx]

/-- The world after an action, whether it fails or not. -/
def after (x : Action ω α) (w : ω) : ω :=
  match x w with
  | .ok _ w'    => w'
  | .error _ w' => w'

theorem EndsIn.after {P : ω → Prop} (h : EndsIn x w (fun _ => P) P) : P (Action.after x w) := by
  cases hx : x w with
  | ok a w' =>
    rw [Action.after, hx]
    exact h.ok hx
  | error e w' =>
    rw [Action.after, hx]
    exact h.error hx

theorem Ensures.endsIn {S : α → Prop} (h : Ensures x w P S) :
    EndsIn x w (fun a w' => P w' ∧ S a) P :=
  ⟨h.of_ok, h.of_error⟩

end EndsIn

end Action

end SealedPost
