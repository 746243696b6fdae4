import SealedPost.Proofs.Frame

/-!
# A frame has one reading

The count at the end of a frame says how much of it is padding, whatever the octets before it are.
So octets are a frame of one tag and one payload or of none at all, which is said here without a
reader. Under every floor in range a payload has a frame, and the frame is no longer than it has to
be.
-/

namespace SealedPost.Frame

variable {ω : Type} {frame payload filler : Bytes} {tag count : UInt8}

/-! ### What is read -/

/-- The frames of a tag and a payload: both are followed by a filler of at most 254 octets, and this
by one octet that counts itself and the filler. -/
inductive Spells : Bytes → UInt8 → Bytes → Prop where
  | parts (tag : UInt8) (payload : Bytes) {filler : Bytes} {count : UInt8}
      (hl : filler.length ≤ 254) (hc : count.toNat = filler.length + 1) :
    Spells (tag :: payload ++ filler ++ [count]) tag payload

theorem decode_eq_ok_iff : decode frame = .ok (tag, payload) ↔ Spells frame tag payload := by
  constructor
  · intro h
    rw [decode.eq_def] at h
    split at h
    case h_2 => cases h
    case h_1 body =>
      split at h
      · cases h
      split at h
      · cases h
      split at h
      · cases h
      rename_i count hlast hzero hshort
      cases h
      obtain ⟨front, rfl⟩ := List.getLast?_eq_some_iff.mp hlast
      have hpos : count.toNat ≠ 0 := fun h => hzero (UInt8.toNat_inj.mp h)
      simp only [List.length_append, List.length_singleton] at hshort ⊢
      rw [List.take_append_of_le_length (by omega)]
      -- what is left of the front is the filler
      have hfront : tag :: (front ++ [count]) =
          tag :: front.take (front.length + 1 - count.toNat) ++
            front.drop (front.length + 1 - count.toNat) ++ [count] := by
        rw [List.cons_append, List.cons_append, List.take_append_drop]
      have hlt := count.toNat_lt
      rw [hfront]
      apply Spells.parts
      · rw [List.length_drop]
        omega
      · rw [List.length_drop]
        omega
  · intro h
    cases h with
    | @parts _ _ filler count hl hc =>
      obtain rfl : count = UInt8.ofNat (filler.length + 1) := by rw [← hc, UInt8.ofNat_toNat]
      exact decode_append tag payload (by omega)

/-- Octets are no frames of two tags or two payloads. -/
theorem Spells.unique {tag' : UInt8} {payload' : Bytes} (h : Spells frame tag payload)
    (h' : Spells frame tag' payload') : tag = tag' ∧ payload = payload' := by
  rw [← decode_eq_ok_iff] at h h'
  cases h.symm.trans h'
  exact ⟨rfl, rfl⟩

theorem exists_error_of_not_spells (h : ∀ tag payload, ¬ Spells frame tag payload) :
    ∃ e, decode frame = .error e ∧ e.kind = .malformedFrame := by
  cases hd : decode frame with
  | ok r => exact absurd (decode_eq_ok_iff.mp hd) (h r.1 r.2)
  | error e => exact ⟨e, rfl, kind_of_decode hd⟩

/-- The count is taken at its word: whatever the filler is, the payload that is read and the padding
that is cut off have the length of what was framed. -/
theorem length_eq_of_decode {tag' : UInt8} {payload' : Bytes}
    (h : decode (tag :: payload ++ filler ++ [count]) = .ok (tag', payload')) :
    payload'.length + count.toNat = payload.length + filler.length + 1 := by
  generalize hframe : tag :: payload ++ filler ++ [count] = frame at h
  cases decode_eq_ok_iff.mp h with
  | @parts _ _ filler' count' hl hc =>
    obtain ⟨hfront, hlast⟩ := List.append_inj' hframe rfl
    cases hlast
    have hlength := congrArg List.length hfront
    simp only [List.length_append, List.length_cons] at hlength
    omega

/-- A filler that the count is right about is cut off. -/
theorem decode_filled (tag : UInt8) (payload : Bytes) (h : count.toNat = filler.length + 1) :
    decode (tag :: payload ++ filler ++ [count]) = .ok (tag, payload) := by
  have hlt := count.toNat_lt
  exact decode_eq_ok_iff.mpr (.parts tag payload (by omega) h)

-- the count at the end is read first, and the octets before it are not looked at
example : decode [0x01, 0x68, 0x02, 0x02] = .ok (0x01, [0x68]) := rfl

/-! ### What is framed -/

/-- Is a payload framed as it should be for a floor? -/
structure IsFramed (floor : Int) (tag : UInt8) (payload frame : Bytes) : Prop where
  length_eq : (frame.length : Int) = max floor (payload.length + 2)
  count : ∃ count : UInt8, frame.getLast? = some count ∧ 1 ≤ count.toNat ∧ count.toNat ≤ 255
  decode_eq : decode frame = .ok (tag, payload)

theorem isFramed_of_filler {floor : Int} (hf : floor ≤ maxFloor)
    (hl : filler.length = (floor - 2 - payload.length).toNat) :
    IsFramed floor tag payload (tag :: payload ++ filler ++ [UInt8.ofNat (filler.length + 1)]) := by
  have hlt : filler.length < 255 := by
    simp only [maxFloor] at hf
    omega
  constructor
  · simp only [List.length_append, List.length_cons, List.length_nil]
    omega
  · refine ⟨_, List.getLast?_concat, ?_⟩
    simp only [UInt8.toNat_ofNat']
    omega
  · exact decode_append tag payload hlt

/-- Whatever is framed over a source that hands over what it is asked for is framed as it should
be. -/
theorem encode_ensures_isFramed {source : RandomSource ω} {P : ω → Prop} {w : ω}
    (hs : source.Supplies P) (hw : P w) (tag : UInt8) (payload : Bytes) (floor : Int) :
    (encode source tag.toNat payload floor).Ensures w P (IsFramed floor tag payload) := by
  apply (encode_ensures_filled hs hw tag payload floor).mono
  rintro _ ⟨hf, filler, hl, rfl⟩
  exact isFramed_of_filler hf hl

/-- Over a reliable source every payload is framed under every floor in range. -/
theorem encode_yields_isFramed {source : RandomSource ω} (hs : source.IsReliable) (tag : UInt8)
    (payload : Bytes) {floor : Int} (hf : 0 ≤ floor ∧ floor ≤ maxFloor) (w : ω) :
    (encode source tag.toNat payload floor).Yields w
      fun frame _ => IsFramed floor tag payload frame := by
  apply (encode_yields_filled (P := fun _ => True) hs (fun _ _ _ _ _ _ => trivial) trivial tag
    payload hf).mono
  rintro _ _ ⟨filler, hl, rfl, -⟩
  exact isFramed_of_filler hf.2 hl

theorem encode_of_floor_out_of_range (source : RandomSource ω) (tag : UInt8) (payload : Bytes)
    {floor : Int} (hf : ¬ (0 ≤ floor ∧ floor ≤ maxFloor)) (w : ω) :
    encode source tag.toNat payload floor w = .error (.floorOutOfRange floor) w := by
  have ht : (0 : Int) ≤ tag.toNat ∧ (tag.toNat : Int) ≤ 255 := by
    have := tag.toNat_lt
    omega
  rw [encode, if_pos ht, paddingLength, if_neg hf]
  rfl

/-- Octets are read exactly if they are a frame, and as the one tag and the one payload that it is
made of. Over a reliable source a payload is framed under every floor in range and under no
other. -/
theorem reads_what_is_framed {source : RandomSource ω} (hs : source.IsReliable) :
    (∀ frame tag payload, decode frame = .ok (tag, payload) ↔ Spells frame tag payload) ∧
    (∀ frame, (∀ tag payload, ¬ Spells frame tag payload) →
      ∃ e, decode frame = .error e ∧ e.kind = .malformedFrame) ∧
    (∀ frame tag payload tag' payload', Spells frame tag payload → Spells frame tag' payload' →
      tag = tag' ∧ payload = payload') ∧
    ∀ (tag : UInt8) (payload : Bytes) (floor : Int) (w : ω),
      ((∃ e w', encode source tag.toNat payload floor w = .error e w' ∧ e.kind = .value) ↔
        ¬ (0 ≤ floor ∧ floor ≤ 256)) ∧
      (0 ≤ floor ∧ floor ≤ 256 → (encode source tag.toNat payload floor).Yields w
        fun frame _ => IsFramed floor tag payload frame) := by
  refine ⟨fun _ _ _ => decode_eq_ok_iff, fun _ => exists_error_of_not_spells,
    fun _ _ _ _ _ => Spells.unique, ?_⟩
  intro tag payload floor w
  have hframed (hf : 0 ≤ floor ∧ floor ≤ maxFloor) :
      (encode source tag.toNat payload floor).Yields w
        fun frame _ => IsFramed floor tag payload frame :=
    encode_yields_isFramed hs tag payload hf w
  refine ⟨⟨?_, ?_⟩, hframed⟩
  · rintro ⟨e, w', he, -⟩ hf
    obtain ⟨frame, w'', hok, -⟩ := hframed hf
    cases he.symm.trans hok
  · intro hf
    exact ⟨_, w, encode_of_floor_out_of_range source tag payload hf w, rfl⟩

/-- Over a source that numbers its draws. -/
theorem reads_what_is_framed_numbered :
    ∃ source : RandomSource Nat, source.IsReliable ∧
      Spells [0x01, 0x68, 0x69, 0x02, 0x02] 0x01 [0x68, 0x69] ∧
      decode [0x01, 0x68, 0x69, 0x02, 0x02] = .ok (0x01, [0x68, 0x69]) ∧
      (encode source (0x01 : UInt8).toNat [0x68, 0x69] 256).Yields 0
        (fun frame _ => IsFramed 256 0x01 [0x68, 0x69] frame) ∧
      ∃ e w', encode source (0x01 : UInt8).toNat [0x68, 0x69] 257 0 = .error e w' ∧
        e.kind = .value := by
  have hs := RandomSource.isReliable_numbered
  obtain ⟨hdecode, -, -, hencode⟩ := reads_what_is_framed hs
  have hfiller : ([0x02] : Bytes).length ≤ 254 := by decide
  have hspells : Spells [0x01, 0x68, 0x69, 0x02, 0x02] 0x01 [0x68, 0x69] :=
    .parts 0x01 [0x68, 0x69] hfiller (by decide)
  exact ⟨_, hs, hspells, (hdecode _ _ _).mpr hspells, (hencode _ _ 256 0).2 (by decide),
    (hencode _ _ 257 0).1.mpr (by decide)⟩

end SealedPost.Frame
