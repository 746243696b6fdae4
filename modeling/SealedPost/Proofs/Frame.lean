import SealedPost.Frame
import SealedPost.Proofs.RandomSource

/-!
# Frames are read back

The last octet of a frame says how much of its end is padding, and the floor is small enough for
that octet to hold it.
-/

namespace SealedPost.Frame

variable {ω : Type}

theorem decode_append (tag : UInt8) (payload : Bytes) {filler : Bytes} (h : filler.length < 255) :
    decode (tag :: payload ++ filler ++ [UInt8.ofNat (filler.length + 1)]) =
      .ok (tag, payload) := by
  have hn : (UInt8.ofNat (filler.length + 1)).toNat = filler.length + 1 := by
    simp only [UInt8.toNat_ofNat']
    omega
  have hz : UInt8.ofNat (filler.length + 1) ≠ 0 := by
    intro h0
    rw [h0] at hn
    simp at hn
  rw [List.cons_append, List.cons_append]
  simp only [decode, List.getLast?_append, List.getLast?_singleton, Option.some_or, hz, hn,
    List.length_append, List.length_cons, List.length_nil, if_false]
  rw [if_neg (by omega)]
  congr 2
  rw [List.append_assoc, List.take_left' (by omega)]

/-- What is no frame is told as a malformed one. -/
theorem kind_of_decode {frame : Bytes} {e : Failure} (h : decode frame = .error e) :
    e.kind = .malformedFrame := by
  rw [decode.eq_def] at h
  split at h
  · split at h
    · cases h; rfl
    · split at h
      · cases h; rfl
      · split at h <;> cases h
        rfl
  · cases h; rfl

theorem paddingLength_eq (payloadLength : Int) {floor : Int}
    (hf : 0 ≤ floor ∧ floor ≤ maxFloor) :
    paddingLength payloadLength floor = .ok ((floor - 2 - payloadLength).toNat + 1) := by
  simp only [paddingLength, if_pos hf]
  congr 1
  omega

theorem filler_yields {source : RandomSource ω} {P : ω → Prop} {w : ω} (hs : source.IsReliable)
    (hk : source.Keeps P) (hw : P w) (n : Nat) :
    (filler source (n + 1)).Yields w fun random w' => random.length = n ∧ P w' := by
  rw [filler]
  split
  case isTrue =>
    apply (source.draw_yields hs hk hw _).bind
    rintro _ w' ⟨bs, rfl, hl, hw'⟩
    exact Action.Yields.ofExcept (Material.joined_eq_ok_iff.mpr rfl) ⟨by omega, hw'⟩
  case isFalse h =>
    exact Action.Yields.pure ⟨by simp; omega, hw⟩

/-- A payload is framed under every floor in range, with as much filler as brings it there. -/
theorem encode_yields_filled {source : RandomSource ω} {P : ω → Prop} {w : ω}
    (hs : source.IsReliable) (hk : source.Keeps P) (hw : P w) (tag : UInt8) (payload : Bytes)
    {floor : Int} (hf : 0 ≤ floor ∧ floor ≤ maxFloor) :
    (encode source tag.toNat payload floor).Yields w fun frame w' => ∃ filler : Bytes,
      filler.length = (floor - 2 - payload.length).toNat ∧
      frame = tag :: payload ++ filler ++ [UInt8.ofNat (filler.length + 1)] ∧ P w' := by
  have ht : (0 : Int) ≤ tag.toNat ∧ (tag.toNat : Int) ≤ 255 := by
    have := tag.toNat_lt
    omega
  rw [encode, if_pos ht, paddingLength_eq payload.length hf,
    Action.ofExcept_ok_bind]
  apply (filler_yields hs hk hw _).bind
  rintro random w' ⟨hl, hw'⟩
  exact Action.Yields.pure ⟨random, hl, by simp [hl], hw'⟩

/-- The frame of a payload is read back. -/
theorem encode_yields {source : RandomSource ω} {P : ω → Prop} {w : ω} (hs : source.IsReliable)
    (hk : source.Keeps P) (hw : P w) (tag : UInt8) (payload : Bytes) {floor : Int}
    (hf : 0 ≤ floor ∧ floor ≤ maxFloor) :
    (encode source tag.toNat payload floor).Yields w fun frame w' =>
      decode frame = .ok (tag, payload) ∧ P w' := by
  apply (encode_yields_filled hs hk hw tag payload hf).mono
  rintro _ w' ⟨filler, hl, rfl, hw'⟩
  simp only [maxFloor] at hf
  exact ⟨decode_append tag payload (by omega), hw'⟩

/-! ### Sources that may fail -/

theorem filler_ensures {source : RandomSource ω} {P : ω → Prop} {w : ω} (hs : source.Supplies P)
    (hw : P w) (n : Nat) :
    (filler source (n + 1)).Ensures w P fun random => random.length = n := by
  rw [filler]
  split
  case isTrue =>
    apply (hs _ w hw).bind
    rintro _ w' hw' ⟨bs, rfl, hl⟩
    refine Action.Ensures.ofExcept hw' fun random hr => ?_
    cases Material.joined_eq_ok_iff.mp hr
    omega
  case isFalse h =>
    exact Action.Ensures.pure hw (by simp; omega)

/-- A payload that is framed at all is framed under a floor in range, with as much filler as brings
it there. -/
theorem encode_ensures_filled {source : RandomSource ω} {P : ω → Prop} {w : ω}
    (hs : source.Supplies P) (hw : P w) (tag : UInt8) (payload : Bytes) (floor : Int) :
    (encode source tag.toNat payload floor).Ensures w P fun frame => floor ≤ maxFloor ∧
      ∃ filler : Bytes, filler.length = (floor - 2 - payload.length).toNat ∧
        frame = tag :: payload ++ filler ++ [UInt8.ofNat (filler.length + 1)] := by
  have ht : (0 : Int) ≤ tag.toNat ∧ (tag.toNat : Int) ≤ 255 := by
    have := tag.toNat_lt
    omega
  rw [encode, if_pos ht]
  by_cases hf : 0 ≤ floor ∧ floor ≤ maxFloor
  · rw [paddingLength_eq payload.length hf, Action.ofExcept_ok_bind]
    apply (filler_ensures hs hw _).bind
    intro random w' hw' hl
    exact Action.Ensures.pure hw' ⟨hf.2, random, hl, by simp [hl]⟩
  · refine (Action.Ensures.ofExcept hw fun _ hl => ?_).bind fun _ _ _ hfalse => False.elim hfalse
    rw [paddingLength, if_neg hf] at hl
    cases hl

/-- A frame that is made at all is read back. -/
theorem encode_ensures {source : RandomSource ω} {P : ω → Prop} {w : ω} (hs : source.Supplies P)
    (hw : P w) (tag : UInt8) (payload : Bytes) (floor : Int) :
    (encode source tag.toNat payload floor).Ensures w P fun frame =>
      decode frame = .ok (tag, payload) := by
  apply (encode_ensures_filled hs hw tag payload floor).mono
  rintro _ ⟨hf, filler, hl, rfl⟩
  simp only [maxFloor] at hf
  exact decode_append tag payload (by omega)

/-- Is the frame made of a tag, a payload and a padding for a floor? A padding of one octet has no
filler; the filler of a longer one is what the source hands over. -/
def Pads (tag : UInt8) (payload : Bytes) (floor : Int) (frame : Bytes) : Prop :=
  ∃ (length : Int) (random : Bytes), paddingLength payload.length floor = .ok length ∧
    (length ≤ 1 → random = []) ∧ frame = tag :: payload ++ random ++ [UInt8.ofNat length.toNat]

/-- Whatever the source hands over, a frame is padded for its floor. -/
theorem encode_ensures_pads {source : RandomSource ω} {P : ω → Prop} {w : ω}
    (hs : source.Leaves P) (hw : P w) (tag : UInt8) (payload : Bytes) (floor : Int) :
    (encode source tag.toNat payload floor).Ensures w P (Pads tag payload floor) := by
  rw [encode]
  split
  case isFalse => exact Action.Ensures.throw hw _
  case isTrue =>
    refine (Action.Ensures.ofExcept hw fun _ => id).bind fun length w₁ hw₁ hlength => ?_
    have hfiller : (filler source length).Ensures w₁ P fun random => length ≤ 1 → random = [] := by
      rw [filler]
      split
      case isTrue hlt =>
        refine (hs _ w₁ hw₁).bind fun m w₂ hw₂ _ => Action.Ensures.ofExcept hw₂ fun _ _ hle => ?_
        omega
      case isFalse => exact Action.Ensures.pure hw₁ fun _ => rfl
    refine hfiller.bind fun random w₂ hw₂ hrandom => Action.Ensures.pure hw₂ ?_
    exact ⟨length, random, hlength, hrandom, by simp⟩

/-- Whatever the source hands over, a frame begins with its tag and its payload. -/
theorem encode_ensures_begins {source : RandomSource ω} {P : ω → Prop} {w : ω}
    (hs : source.Leaves P) (hw : P w) (tag : UInt8) (payload : Bytes) (floor : Int) :
    (encode source tag.toNat payload floor).Ensures w P fun frame =>
      ∃ padding, frame = tag :: payload ++ padding := by
  apply (encode_ensures_pads hs hw tag payload floor).mono
  rintro _ ⟨length, random, -, -, rfl⟩
  exact ⟨random ++ [UInt8.ofNat length.toNat], by simp⟩

end SealedPost.Frame
