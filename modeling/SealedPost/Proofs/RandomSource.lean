import SealedPost.Proofs.Action
import SealedPost.RandomSource

/-!
# Reliable random sources

A reliable source hands over as many octets as it is asked for, at every call. `Keeps` says that
drawing from a source does not touch what is said of the world. `Supplies` says both of a source
that may fail, and `Leaves` only the second.
-/

namespace SealedPost.RandomSource

variable {ω ρ ν : Type}

/-- Does the source answer every call with as many octets as it is asked for? -/
def IsReliable (source : RandomSource ω) : Prop :=
  ∀ size w, ∃ (bs : Bytes) (w' : ω), source.draw size w = .ok (.octets bs) w' ∧ bs.length = size

/-- Does a property of the world stay true when something is drawn? -/
def Keeps (source : RandomSource ω) (P : ω → Prop) : Prop :=
  ∀ size w m w', source.draw size w = .ok m w' → P w → P w'

theorem draw_yields {source : RandomSource ω} {P : ω → Prop} {w : ω} (hs : source.IsReliable)
    (hk : source.Keeps P) (hw : P w) (size : Nat) :
    (source.draw size).Yields w fun m w' =>
      ∃ bs : Bytes, m = .octets bs ∧ bs.length = size ∧ P w' := by
  obtain ⟨bs, w', hd, hl⟩ := hs size w
  exact ⟨.octets bs, w', hd, bs, rfl, hl, hk size w _ w' hd hw⟩

theorem IsReliable.isExact {source : RandomSource ω} (hs : source.IsReliable) :
    source.IsExact := by
  intro size w m w' hd
  obtain ⟨bs, w'', hd', hl⟩ := hs size w
  rw [hd] at hd'
  cases hd'
  exact ⟨bs, rfl, hl⟩

/-- The source whose draws are numbered: each one spells its number. -/
def numbered : RandomSource Nat := ⟨fun size n => .ok (.octets (Bytes.ofNatLE size n)) (n + 1)⟩

theorem isReliable_numbered : numbered.IsReliable := fun size n =>
  ⟨Bytes.ofNatLE size n, n + 1, rfl, Bytes.length_ofNatLE size n⟩

/-- The source hands over as many octets as it is asked for unless it fails, and what `P` says of
the world stays true either way. -/
def Supplies (source : RandomSource ω) (P : ω → Prop) : Prop :=
  ∀ size w, P w → (source.draw size).Ensures w P fun m =>
    ∃ bs : Bytes, m = .octets bs ∧ bs.length = size

/-- What `P` says of the world stays true when something is drawn, whatever it is and whether the
source fails or not. -/
def Leaves (source : RandomSource ω) (P : ω → Prop) : Prop :=
  ∀ size w, P w → (source.draw size).Ensures w P fun _ => True

theorem Supplies.leaves {source : RandomSource ω} {P : ω → Prop} (hs : source.Supplies P) :
    source.Leaves P :=
  fun size w hw => (hs size w hw).mono fun _ _ => trivial

/-- What holds of every world is not changed by a draw. -/
theorem leaves_true (source : RandomSource ω) : source.Leaves fun _ => True :=
  fun size w _ => (source.draw size).ensures_true w

theorem IsExact.supplies {source : RandomSource ω} (hs : source.IsExact) :
    source.Supplies fun _ => True := by
  intro size w _
  unfold Action.Ensures
  cases hd : source.draw size w with
  | ok m w' => exact ⟨trivial, hs size w m w' hd⟩
  | error e w' => trivial

/-! ### Sources on a part of the world -/

theorem IsReliable.onFirst {source : RandomSource ρ} (hs : source.IsReliable) :
    (source.onFirst : RandomSource (ρ × ν)).IsReliable := by
  intro size ⟨r, n⟩
  obtain ⟨bs, r', hd, hl⟩ := hs size r
  refine ⟨bs, (r', n), ?_, hl⟩
  simp only [RandomSource.onFirst, Action.onFirst, hd]

theorem keeps_onFirst (source : RandomSource ρ) (P : ν → Prop) :
    (source.onFirst : RandomSource (ρ × ν)).Keeps fun w => P w.2 := by
  intro size ⟨r, n⟩ m ⟨r', n'⟩ hd hP
  simp only [RandomSource.onFirst, Action.onFirst] at hd
  split at hd
  · cases hd
    exact hP
  · cases hd

/-- A source has nothing to do with the rest of the world. -/
theorem leaves_onFirst (source : RandomSource ρ) (P : ν → Prop) :
    (source.onFirst : RandomSource (ρ × ν)).Leaves fun w => P w.2 := by
  intro size ⟨r, n⟩ hP
  simp only [Action.Ensures, RandomSource.onFirst, Action.onFirst]
  cases source.draw size r with
  | ok m r' => exact ⟨hP, trivial⟩
  | error e r' => exact hP

/-- An exact source has nothing to do with the rest of the world. -/
theorem IsExact.supplies_onFirst {source : RandomSource ρ} (hs : source.IsExact) (P : ν → Prop) :
    (source.onFirst : RandomSource (ρ × ν)).Supplies fun w => P w.2 := by
  intro size ⟨r, n⟩ hP
  simp only [Action.Ensures, RandomSource.onFirst, Action.onFirst]
  cases hd : source.draw size r with
  | ok m r' => exact ⟨hP, hs size r m r' hd⟩
  | error e r' => exact hP

end SealedPost.RandomSource
