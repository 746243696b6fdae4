import SealedPost.Failure

/-!
# Actions on the world of collaborators

Random sources, stores, directories and sessions are parts of a world `ω`, and what is done with
them is an action: a function that takes the world to a result and a new world, or to a failure and
a new world. What a collaborator did before a failure is not undone.
-/

namespace SealedPost

/-- A computation that acts on a world and may fail. -/
abbrev Action (ω : Type) := EStateM Failure ω

namespace Action

variable {ω ρ ν α : Type}

/-- The outcome of a check, as an action that leaves the world alone. -/
def ofExcept : Except Failure α → Action ω α
  | .ok a    => fun w => .ok a w
  | .error e => fun w => .error e w

@[simp] theorem ofExcept_ok (a : α) (w : ω) : ofExcept (.ok a) w = .ok a w := rfl

@[simp] theorem ofExcept_error (e : Failure) (w : ω) :
    (ofExcept (.error e) : Action ω α) w = .error e w := rfl

/-- An action on the first part of a world. -/
def onFirst (x : Action ρ α) : Action (ρ × ν) α := fun (r, n) =>
  match x r with
  | .ok a r    => .ok a (r, n)
  | .error e r => .error e (r, n)

/-- An action on the second part of a world. -/
def onSecond (x : Action ν α) : Action (ρ × ν) α := fun (r, n) =>
  match x n with
  | .ok a n    => .ok a (r, n)
  | .error e n => .error e (r, n)

/-- An action with a note of what was asked, taken whether it fails or not. -/
def noting {β : Type} (note : β) (x : Action ω α) : Action (ω × List β) α := fun (w, notes) =>
  match x w with
  | .ok a w    => .ok a (w, notes ++ [note])
  | .error e w => .error e (w, notes ++ [note])

end Action

end SealedPost
