import SealedPost.Proofs.Box

/-!
# Nothing opens but what was sealed

With the keys and the nonce fixed, sealing gives each plaintext one box, and opening takes the box
back to the plaintext. No other octets open: neither a changed box nor a shortened one, so there is
only one failure for everything else.
-/

namespace SealedPost

variable {ω : Type} {source : RandomSource ω} {w : ω} {nonce : Nonce}

/-! ### What is sealed with a nonce -/

theorem Nonce.fresh_of_draw {w' : ω} (h : source.draw nonceSize w = .ok (.octets nonce) w') :
    Nonce.fresh source w = .ok nonce w' := by
  rw [Nonce.fresh, Action.bind_of_ok h, Nonce.check_octets nonce.property]
  rfl

namespace Box

theorem sealSymmetric_of_draw (h : (source.draw nonceSize).outcome w = .ok (.octets nonce))
    {key : Bytes} (hk : key.length = Key.size) (plaintext : Bytes) :
    (sealSymmetric source plaintext key).outcome w =
      .ok (nonce.val, SecretBox.seal key nonce plaintext) := by
  obtain ⟨w', hd⟩ := Action.outcome_eq_ok_iff.mp h
  refine Action.outcome_eq_ok_iff.mpr ⟨w', ?_⟩
  rw [sealSymmetric, Key.check_octets hk, Action.ofExcept_ok_bind,
    Action.bind_of_ok (Nonce.fresh_of_draw hd)]
  rfl

theorem seal_of_draw (h : (source.draw nonceSize).outcome w = .ok (.octets nonce))
    {publicKey privateKey shared : Bytes} (hpublic : publicKey.length = Key.size)
    (hprivate : privateKey.length = Key.size)
    (hshared : X25519.agree? privateKey publicKey = some shared) (plaintext : Bytes) :
    (Box.seal source plaintext publicKey privateKey).outcome w =
      .ok ⟨nonce, SecretBox.seal shared nonce plaintext, nonce.property⟩ := by
  obtain ⟨w', hd⟩ := Action.outcome_eq_ok_iff.mp h
  refine Action.outcome_eq_ok_iff.mpr ⟨w', ?_⟩
  rw [Box.seal, Key.check_octets hpublic, Action.ofExcept_ok_bind, Key.check_octets hprivate,
    Action.ofExcept_ok_bind, Action.bind_of_ok (Nonce.fresh_of_draw hd), hshared]
  rfl

/-! ### What opens -/

/-- Opens a box under a key and a nonce of their lengths. -/
def opened (key nonce box : Bytes) : Except Failure Bytes :=
  match SecretBox.open? key nonce box with
  | none           => .error .authentication
  | some plaintext => .ok plaintext

theorem openSymmetric_eq_opened (nonce : Nonce) {key : Bytes} (hk : key.length = Key.size)
    (box : Bytes) : openSymmetric nonce.val box key = opened key nonce box := by
  rw [openSymmetric, Key.check_octets hk, Nonce.check_octets nonce.property]
  rfl

theorem open_eq_opened (nonce : Nonce) {publicKey privateKey shared : Bytes}
    (hpublic : publicKey.length = Key.size) (hprivate : privateKey.length = Key.size)
    (hshared : X25519.agree? privateKey publicKey = some shared) (box : Bytes) :
    Box.open ⟨nonce, box, nonce.property⟩ publicKey privateKey = opened shared nonce box := by
  rw [Box.open, Key.check_octets hpublic, Key.check_octets hprivate]
  simp only [bind, Except.bind, hshared]
  rfl

theorem opened_eq_ok_iff {key nonce box plaintext : Bytes} :
    opened key nonce box = .ok plaintext ↔ box = SecretBox.seal key nonce plaintext := by
  rw [← SecretBox.open?_eq_some_iff, opened]
  split <;> simp_all

theorem opened_eq_error_iff {key nonce box : Bytes} :
    opened key nonce box = .error .authentication ↔
      ∀ plaintext, box ≠ SecretBox.seal key nonce plaintext := by
  simp only [ne_eq, ← SecretBox.open?_eq_some_iff, opened]
  split <;> simp_all

/-! ### Both together -/

/-- Does every box open to the plaintext that it was sealed around, and nothing else open? -/
structure IsAuthentic (seals : Bytes → Bytes → Prop) (opens : Bytes → Except Failure Bytes) :
    Prop where
  opens_iff : ∀ box plaintext, opens box = .ok plaintext ↔ seals plaintext box
  /-- There is no other failure than this one. -/
  refuses_iff : ∀ box, opens box = .error .authentication ↔ ∀ plaintext, ¬ seals plaintext box
  length_eq : ∀ box plaintext, opens box = .ok plaintext → box.length = plaintext.length + 16
  refuses_short : ∀ box : Bytes, box.length < 16 → opens box = .error .authentication
  injective : ∀ box box' plaintext,
    opens box = .ok plaintext → opens box' = .ok plaintext → box = box'

theorem isAuthentic_opened {key nonce : Bytes} {seals : Bytes → Bytes → Prop}
    (h : ∀ box plaintext, seals plaintext box ↔ box = SecretBox.seal key nonce plaintext) :
    IsAuthentic seals (opened key nonce) where
  opens_iff box plaintext := by rw [opened_eq_ok_iff, h]
  refuses_iff box := by simp only [opened_eq_error_iff, h, ne_eq]
  length_eq box plaintext ho := by rw [opened_eq_ok_iff.mp ho, SecretBox.length_seal]
  refuses_short box hshort := by
    rw [opened_eq_error_iff]
    rintro plaintext rfl
    rw [SecretBox.length_seal] at hshort
    omega
  injective box box' plaintext ho ho' := by
    rw [opened_eq_ok_iff.mp ho, opened_eq_ok_iff.mp ho']

/-- What opens under a key and a nonce is what is sealed with them, and so between two parties with
the keys of which the nonce and the box came. -/
theorem opens_what_was_sealed (h : (source.draw nonceSize).outcome w = .ok (.octets nonce)) :
    (∀ key : Bytes, key.length = Key.size → IsAuthentic
      (fun plaintext box =>
        (sealSymmetric source plaintext key).outcome w = .ok (nonce.val, box))
      fun box => openSymmetric nonce.val box key) ∧
    ∀ publicKey privateKey : Bytes, publicKey.length = Key.size → privateKey.length = Key.size →
      (X25519.agree? privateKey publicKey).isSome → IsAuthentic
        (fun plaintext box => (Box.seal source plaintext publicKey privateKey).outcome w =
          .ok ⟨nonce, box, nonce.property⟩)
        fun box => Box.open ⟨nonce, box, nonce.property⟩ publicKey privateKey := by
  constructor
  · intro key hk
    simp only [openSymmetric_eq_opened nonce hk]
    apply isAuthentic_opened
    intro box plaintext
    rw [sealSymmetric_of_draw h hk]
    simp [eq_comm]
  · intro publicKey privateKey hpublic hprivate hsome
    obtain ⟨shared, hshared⟩ := Option.isSome_iff_exists.mp hsome
    simp only [open_eq_opened nonce hpublic hprivate hshared]
    apply isAuthentic_opened
    intro box plaintext
    rw [seal_of_draw h hpublic hprivate hshared]
    simp [eq_comm]

/-- With the nonce of a numbered draw and the keys of two parties. -/
theorem opens_what_was_sealed_numbered :
    ∃ (source : RandomSource Nat) (nonce : Nonce) (key publicKey privateKey : Bytes),
      (source.draw nonceSize).outcome 7 = .ok (.octets nonce) ∧ key.length = Key.size ∧
      publicKey.length = Key.size ∧ privateKey.length = Key.size ∧
      (X25519.agree? privateKey publicKey).isSome ∧
      IsAuthentic
        (fun plaintext box =>
          (sealSymmetric source plaintext key).outcome 7 = .ok (nonce.val, box))
        (fun box => openSymmetric nonce.val box key) ∧
      IsAuthentic
        (fun plaintext box => (Box.seal source plaintext publicKey privateKey).outcome 7 =
          .ok ⟨nonce, box, nonce.property⟩)
        fun box => Box.open ⟨nonce, box, nonce.property⟩ publicKey privateKey := by
  let nonce : Nonce := ⟨Bytes.ofNatLE nonceSize 7, Bytes.length_ofNatLE _ _⟩
  have hdraw : (RandomSource.numbered.draw nonceSize).outcome 7 = .ok (.octets nonce) := rfl
  have hkey : (List.replicate 32 5 : Bytes).length = Key.size := rfl
  have hpublic := (KeyPair.uniform 2).length_publicKey
  have hprivate := (KeyPair.uniform 1).length_privateKey
  obtain ⟨shared, hshared, -⟩ := KeyPair.agrees_uniform
  have hsome := Option.isSome_iff_exists.mpr ⟨shared, hshared⟩
  have hauthentic := opens_what_was_sealed hdraw
  exact ⟨_, nonce, _, _, _, hdraw, hkey, hpublic, hprivate, hsome, hauthentic.1 _ hkey,
    hauthentic.2 _ _ hpublic hprivate hsome⟩

end Box

end SealedPost
