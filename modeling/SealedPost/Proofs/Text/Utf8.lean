import Mathlib
import SealedPost.Text.Utf8

/-!
# Reading and writing UTF-8

Each of the four lengths of a character has an equation for the reader, and the octets that the
writer gives for a character meet the conditions of one of them. So every text is read back. The
conditions let through nothing else: what is read as a character is what is written for it. So a
text is read from its own octets only, which are those that a string has in memory.
-/

namespace SealedPost.Utf8

/-! ### Reading one character -/

variable {place : Nat} {done : List Char} {rest : Bytes} {a b c d : UInt8}

theorem decodeFrom_one (ha : a.toNat < 0x80) :
    decodeFrom place done (a :: rest) =
      decodeFrom (place + 1) (charOf a.toNat [] :: done) rest := by
  rw [decodeFrom.eq_def]
  simp only [UInt8.lt_iff_toNat_lt]
  rw [if_pos (by simpa using ha)]

theorem decodeFrom_two (ha : 0xc2 ≤ a.toNat) (ha' : a.toNat < 0xe0) (hb : isContinuation b = true) :
    decodeFrom place done (a :: b :: rest) =
      decodeFrom (place + 2) (charOf (a.toNat % 0x20) [b] :: done) rest := by
  rw [decodeFrom.eq_def]
  simp only [UInt8.lt_iff_toNat_lt, UInt8.reduceToNat]
  rw [if_neg (by omega), if_neg (by omega), if_pos (by omega), if_pos hb]

theorem decodeFrom_three (ha : 0xe0 ≤ a.toNat) (ha' : a.toNat < 0xf0)
    (hb : isSecondOfThree a b = true) (hc : isContinuation c = true) :
    decodeFrom place done (a :: b :: c :: rest) =
      decodeFrom (place + 3) (charOf (a.toNat % 0x10) [b, c] :: done) rest := by
  rw [decodeFrom.eq_def]
  simp only [UInt8.lt_iff_toNat_lt, UInt8.reduceToNat, hb, hc]
  rw [if_neg (by omega), if_neg (by omega), if_neg (by omega), if_pos (by omega)]
  rfl

theorem decodeFrom_four (ha : 0xf0 ≤ a.toNat) (ha' : a.toNat < 0xf5)
    (hb : isSecondOfFour a b = true) (hc : isContinuation c = true) (hd : isContinuation d = true) :
    decodeFrom place done (a :: b :: c :: d :: rest) =
      decodeFrom (place + 4) (charOf (a.toNat % 0x08) [b, c, d] :: done) rest := by
  rw [decodeFrom.eq_def]
  simp only [UInt8.lt_iff_toNat_lt, UInt8.reduceToNat, hb, hc, hd]
  rw [if_neg (by omega), if_neg (by omega), if_neg (by omega), if_neg (by omega), if_pos (by omega)]
  rfl

/-! ### Writing, then reading -/

theorem toNat_continuation (n : Nat) : (continuation n).toNat = 0x80 + n % 0x40 := by
  simp only [continuation, UInt8.toNat_ofNat']
  omega

theorem isContinuation_iff : isContinuation a = true ↔ 0x80 ≤ a.toNat ∧ a.toNat < 0xc0 := by
  simp [isContinuation, UInt8.le_iff_toNat_le, UInt8.lt_iff_toNat_lt]

theorem isSecondOfThree_iff :
    isSecondOfThree a b = true ↔ isContinuation b = true ∧
      (if b.toNat < 0xa0 then a.toNat ≠ 0xe0 else a.toNat ≠ 0xed) := by
  simp only [isSecondOfThree, UInt8.lt_iff_toNat_lt, UInt8.reduceToNat, Bool.and_eq_true,
    and_congr_right_iff]
  intro _
  split <;> simp [← UInt8.toNat_inj]

theorem isSecondOfFour_iff :
    isSecondOfFour a b = true ↔ isContinuation b = true ∧
      (if b.toNat < 0x90 then a.toNat ≠ 0xf0 else a.toNat ≠ 0xf4) := by
  simp only [isSecondOfFour, UInt8.lt_iff_toNat_lt, UInt8.reduceToNat, Bool.and_eq_true,
    and_congr_right_iff]
  intro _
  split <;> simp [← UInt8.toNat_inj]

theorem isContinuation_continuation (n : Nat) : isContinuation (continuation n) = true := by
  rw [isContinuation_iff, toNat_continuation]
  omega

/-- A character is spelled by the bits of its octets. -/
theorem charOf_eq {lead : Nat} {octets : List UInt8} {c : Char}
    (h : octets.foldl (fun n b => n * 0x40 + b.toNat % 0x40) lead = c.toNat) :
    charOf lead octets = c := by
  rw [charOf, h, Char.ofNat_toNat]

theorem decodeFrom_encodeChar (place : Nat) (done : List Char) (c : Char) (rest : Bytes) :
    decodeFrom place done (encodeChar c ++ rest) =
      decodeFrom (place + (encodeChar c).length) (c :: done) rest := by
  have hv : c.toNat < 0xd800 ∨ 0xdfff < c.toNat ∧ c.toNat < 0x110000 := c.valid
  simp only [encodeChar]
  split_ifs with h₁ h₂ h₃
  · have ha : (UInt8.ofNat c.toNat).toNat = c.toNat := by simp; omega
    simp only [List.cons_append, List.nil_append, List.length_cons, List.length_nil]
    rw [decodeFrom_one (by omega), charOf_eq (c := c) (by simpa using ha)]
  · have ha : (UInt8.ofNat (0xc0 + c.toNat / 0x40)).toNat = 0xc0 + c.toNat / 0x40 := by
      simp; omega
    simp only [List.cons_append, List.nil_append, List.length_cons, List.length_nil]
    rw [decodeFrom_two (by omega) (by omega) (isContinuation_continuation _),
      charOf_eq (c := c) ?_]
    simp only [List.foldl_cons, List.foldl_nil, toNat_continuation]
    omega
  · have ha : (UInt8.ofNat (0xe0 + c.toNat / 0x1000)).toNat = 0xe0 + c.toNat / 0x1000 := by
      simp; omega
    simp only [List.cons_append, List.nil_append, List.length_cons, List.length_nil]
    have hsecond : isSecondOfThree (UInt8.ofNat (0xe0 + c.toNat / 0x1000))
        (continuation (c.toNat / 0x40)) = true := by
      rw [isSecondOfThree_iff, ha, toNat_continuation]
      refine ⟨isContinuation_continuation _, ?_⟩
      split_ifs <;> omega
    rw [decodeFrom_three (by omega) (by omega) hsecond (isContinuation_continuation _),
      charOf_eq (c := c) ?_]
    simp only [List.foldl_cons, List.foldl_nil, toNat_continuation]
    omega
  · have ha : (UInt8.ofNat (0xf0 + c.toNat / 0x40000)).toNat = 0xf0 + c.toNat / 0x40000 := by
      simp; omega
    simp only [List.cons_append, List.nil_append, List.length_cons, List.length_nil]
    have hsecond : isSecondOfFour (UInt8.ofNat (0xf0 + c.toNat / 0x40000))
        (continuation (c.toNat / 0x1000)) = true := by
      rw [isSecondOfFour_iff, ha, toNat_continuation]
      refine ⟨isContinuation_continuation _, ?_⟩
      split_ifs <;> omega
    rw [decodeFrom_four (by omega) (by omega) hsecond (isContinuation_continuation _)
      (isContinuation_continuation _), charOf_eq (c := c) ?_]
    simp only [List.foldl_cons, List.foldl_nil, toNat_continuation]
    omega

theorem decodeFrom_flatMap_encodeChar (place : Nat) (done cs : List Char) :
    decodeFrom place done (cs.flatMap encodeChar) = .ok (String.ofList (done.reverse ++ cs)) := by
  induction cs generalizing place done with
  | nil => simp [decodeFrom]
  | cons c cs ih =>
    rw [List.flatMap_cons, decodeFrom_encodeChar, ih]
    simp

/-- Every text is read back. -/
@[simp] theorem decode_encode (s : String) : decode (encode s) = .ok s := by
  simp [decode, encode, decodeFrom_flatMap_encodeChar]

/-! ### Reading, then writing -/

theorem toNat_charOf {lead n : Nat} {octets : List UInt8}
    (h : octets.foldl (fun n b => n * 0x40 + b.toNat % 0x40) lead = n) (hv : n.isValidChar) :
    (charOf lead octets).toNat = n := by
  rw [charOf, h, Char.ofNat, dif_pos hv]
  rfl

theorem encodeChar_one (ha : a.toNat < 0x80) : encodeChar (charOf a.toNat []) = [a] := by
  have hn : (charOf a.toNat []).toNat = a.toNat := toNat_charOf rfl (.inl (by omega))
  simp only [encodeChar, hn, if_pos ha, UInt8.ofNat_toNat]

theorem encodeChar_two (ha : 0xc2 ≤ a.toNat) (ha' : a.toNat < 0xe0) (hb : isContinuation b = true) :
    encodeChar (charOf (a.toNat % 0x20) [b]) = [a, b] := by
  rw [isContinuation_iff] at hb
  have hn : (charOf (a.toNat % 0x20) [b]).toNat = a.toNat % 0x20 * 0x40 + b.toNat % 0x40 :=
    toNat_charOf rfl (.inl (by omega))
  simp only [encodeChar, hn]
  rw [if_neg (by omega), if_pos (by omega)]
  simp only [List.cons.injEq, ← UInt8.toNat_inj, toNat_continuation, UInt8.toNat_ofNat', and_true]
  omega

theorem encodeChar_three (ha : 0xe0 ≤ a.toNat) (ha' : a.toNat < 0xf0)
    (hb : isSecondOfThree a b = true) (hc : isContinuation c = true) :
    encodeChar (charOf (a.toNat % 0x10) [b, c]) = [a, b, c] := by
  obtain ⟨hb, hab⟩ := isSecondOfThree_iff.mp hb
  rw [isContinuation_iff] at hb hc
  -- the second octet keeps the number off the surrogates and above those of two octets
  have hn : (charOf (a.toNat % 0x10) [b, c]).toNat =
      (a.toNat % 0x10 * 0x40 + b.toNat % 0x40) * 0x40 + c.toNat % 0x40 := by
    refine toNat_charOf rfl ?_
    simp only [Nat.isValidChar]
    split at hab <;> omega
  have hlow : 0x800 ≤ (charOf (a.toNat % 0x10) [b, c]).toNat := by
    split at hab <;> omega
  simp only [encodeChar]
  rw [if_neg (by omega), if_neg (by omega), if_pos (by omega)]
  simp only [List.cons.injEq, ← UInt8.toNat_inj, toNat_continuation, UInt8.toNat_ofNat', and_true]
  omega

theorem encodeChar_four (ha : 0xf0 ≤ a.toNat) (ha' : a.toNat < 0xf5)
    (hb : isSecondOfFour a b = true) (hc : isContinuation c = true) (hd : isContinuation d = true) :
    encodeChar (charOf (a.toNat % 0x08) [b, c, d]) = [a, b, c, d] := by
  obtain ⟨hb, hab⟩ := isSecondOfFour_iff.mp hb
  rw [isContinuation_iff] at hb hc hd
  have hn : (charOf (a.toNat % 0x08) [b, c, d]).toNat =
      ((a.toNat % 0x08 * 0x40 + b.toNat % 0x40) * 0x40 + c.toNat % 0x40) * 0x40 +
        d.toNat % 0x40 := by
    refine toNat_charOf rfl ?_
    simp only [Nat.isValidChar]
    split at hab <;> omega
  have hlow : 0x10000 ≤ (charOf (a.toNat % 0x08) [b, c, d]).toNat := by
    split at hab <;> omega
  simp only [encodeChar]
  rw [if_neg (by omega), if_neg (by omega), if_neg (by omega)]
  simp only [List.cons.injEq, ← UInt8.toNat_inj, toNat_continuation, UInt8.toNat_ofNat', and_true]
  omega

/-- Characters read after a first one are read after it in the whole, too. -/
theorem exists_flatMap_cons {ch : Char} {octets : Bytes} {s : String} (hch : encodeChar ch = octets)
    (h : ∃ cs, s = String.ofList ((ch :: done).reverse ++ cs) ∧ rest = cs.flatMap encodeChar) :
    ∃ cs, s = String.ofList (done.reverse ++ cs) ∧ octets ++ rest = cs.flatMap encodeChar := by
  obtain ⟨cs, rfl, rfl⟩ := h
  exact ⟨ch :: cs, by simp, by rw [List.flatMap_cons, hch]⟩

/-- Of the ways through the reader only those that read a character, or come to the end, succeed. -/
theorem exists_of_decodeFrom {bs : Bytes} {s : String} (h : decodeFrom place done bs = .ok s) :
    ∃ cs, s = String.ofList (done.reverse ++ cs) ∧ bs = cs.flatMap encodeChar := by
  fun_induction decodeFrom place done bs
  case case1 =>
    cases h
    exact ⟨[], by simp⟩
  case case2 ha ih =>
    rw [UInt8.lt_iff_toNat_lt] at ha
    exact exists_flatMap_cons (encodeChar_one ha) (ih h)
  case case5 ha ha' _ _ hb ih =>
    rw [UInt8.lt_iff_toNat_lt] at ha ha'
    exact exists_flatMap_cons (encodeChar_two (Nat.not_lt.mp ha) ha' hb) (ih h)
  case case10 ha ha' _ hb _ _ hc ih =>
    rw [UInt8.lt_iff_toNat_lt] at ha ha'
    exact exists_flatMap_cons
      (encodeChar_three (Nat.not_lt.mp ha) ha' (by simpa using hb) hc) (ih h)
  case case17 ha ha' _ hb _ hc _ _ hd ih =>
    rw [UInt8.lt_iff_toNat_lt] at ha ha'
    exact exists_flatMap_cons
      (encodeChar_four (Nat.not_lt.mp ha) ha' (by simpa using hb) (by simpa using hc) hd) (ih h)
  all_goals cases h

/-- A text is read from what is written for it, and from nothing else. -/
theorem decode_eq_ok_iff {bs : Bytes} {s : String} : decode bs = .ok s ↔ bs = encode s := by
  constructor
  · intro h
    obtain ⟨cs, rfl, rfl⟩ := exists_of_decodeFrom h
    simp [encode]
  · rintro rfl
    exact decode_encode s

/-! ### Strings in memory -/

theorem encodeChar_eq_utf8EncodeChar (ch : Char) : encodeChar ch = String.utf8EncodeChar ch := by
  have hv : ch.toNat < 0xd800 ∨ 0xdfff < ch.toNat ∧ ch.toNat < 0x110000 := ch.valid
  simp only [encodeChar, String.utf8EncodeChar, show ch.val.toNat = ch.toNat from rfl]
  by_cases h₁ : ch.toNat < 0x80
  · rw [if_pos h₁, if_pos (by omega)]
  by_cases h₂ : ch.toNat < 0x800
  · rw [if_neg h₁, if_pos h₂, if_neg (by omega), if_pos (by omega)]
    simp only [List.cons.injEq, ← UInt8.toNat_inj, toNat_continuation, UInt8.toNat_ofNat', and_true]
    omega
  by_cases h₃ : ch.toNat < 0x10000
  · rw [if_neg h₁, if_neg h₂, if_pos h₃, if_neg (by omega), if_neg (by omega), if_pos (by omega)]
    simp only [List.cons.injEq, ← UInt8.toNat_inj, toNat_continuation, UInt8.toNat_ofNat', and_true]
    omega
  · rw [if_neg h₁, if_neg h₂, if_neg h₃, if_neg (by omega), if_neg (by omega), if_neg (by omega)]
    simp only [List.cons.injEq, ← UInt8.toNat_inj, toNat_continuation, UInt8.toNat_ofNat', and_true]
    omega

/-- The octets of a text are those of the string. -/
theorem toByteArray_encode (s : String) : (encode s).toByteArray = s.toByteArray := by
  conv_rhs => rw [← String.ofList_toList (s := s), String.toByteArray_ofList, List.utf8Encode]
  rw [encode, show encodeChar = String.utf8EncodeChar from funext encodeChar_eq_utf8EncodeChar]

/-- Are the octets those of a string in memory? Octets of no string are no well-formed UTF-8. -/
def Spells (bs : Bytes) (s : String) : Prop := bs.toByteArray = s.toByteArray

theorem spells_iff {bs : Bytes} {s : String} : Spells bs s ↔ bs = encode s := by
  rw [Spells, ← toByteArray_encode]
  refine ⟨fun h => ?_, congrArg List.toByteArray⟩
  simpa using congrArg (fun b : ByteArray => b.data.toList) h

end SealedPost.Utf8
