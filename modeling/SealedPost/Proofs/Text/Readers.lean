import SealedPost.Blob
import SealedPost.Proofs.Action
import SealedPost.Proofs.Text.Hex
import SealedPost.Proofs.Text.Trimming

/-!
# Ids and keys in hexadecimal

The text of a blob id is read digit by digit and with nothing between the digits, though the reader
under it would pass over blanks: they take the place of digits in a text of that length. The text of
a public key may have blanks of any kind around it and ASCII blanks between its octets. Whatever is
no such text is refused.
-/

namespace SealedPost

namespace Hex

variable {cs : List Char} {bs : Bytes}

/-! ### Digits alone -/

/-- A digit of base sixteen, in either case. -/
def IsDigit (c : Char) : Prop :=
  '0' ≤ c ∧ c ≤ '9' ∨ 'A' ≤ c ∧ c ≤ 'F' ∨ 'a' ≤ c ∧ c ≤ 'f'

theorem isDigit_iff_toNat {c : Char} :
    IsDigit c ↔ 0x30 ≤ c.toNat ∧ c.toNat ≤ 0x39 ∨ 0x41 ≤ c.toNat ∧ c.toNat ≤ 0x46 ∨
      0x61 ≤ c.toNat ∧ c.toNat ≤ 0x66 := by
  simp only [IsDigit, Char.le_def, UInt32.le_iff_toNat_le]
  rfl

theorem exists_value?_iff {c : Char} : (∃ n, value? c = some n) ↔ IsDigit c := by
  simp only [isDigit_iff_toNat, value?, Bool.and_eq_true, decide_eq_true_eq]
  split_ifs <;> simp <;> omega

theorem IsDigit.not_mem_blanks {c : Char} (h : IsDigit c) : c ∉ blanks := by
  obtain ⟨n, hn⟩ := exists_value?_iff.mpr h
  exact not_mem_blanks_of_value? hn

theorem isDigit_of_toLower_eq {high low : Char} {b : UInt8}
    (h : [high.toLower, low.toLower] = encodeOctet b) : IsDigit high ∧ IsDigit low := by
  obtain ⟨hhigh, hlow⟩ := values_of_toLower_eq h
  exact ⟨exists_value?_iff.mp ⟨_, hhigh⟩, exists_value?_iff.mp ⟨_, hlow⟩⟩

/-- What is no blank in a text that spells octets is a digit. -/
theorem Spells.isDigit (h : Spells cs bs) : ∀ c ∈ cs, c ∉ blanks → IsDigit c := by
  induction h with
  | nil => exact nofun
  | blank hc _ ih => exact List.forall_mem_cons.mpr ⟨fun hn => absurd hc hn, ih⟩
  | octet hb _ ih =>
    obtain ⟨hhigh, hlow⟩ := isDigit_of_toLower_eq hb
    exact List.forall_mem_cons.mpr ⟨fun _ => hhigh, List.forall_mem_cons.mpr ⟨fun _ => hlow, ih⟩⟩

/-- Two characters for each octet, and the blanks. -/
theorem Spells.length_eq (h : Spells cs bs) :
    cs.length = 2 * bs.length + cs.countP fun c => c ∈ blanks := by
  induction h with
  | nil => rfl
  | blank hc _ ih =>
    rw [List.countP_cons_of_pos (by simpa using hc), List.length_cons, ih]
    omega
  | octet hb _ ih =>
    obtain ⟨hhigh, hlow⟩ := isDigit_of_toLower_eq hb
    rw [List.countP_cons_of_neg (by simpa using hhigh.not_mem_blanks),
      List.countP_cons_of_neg (by simpa using hlow.not_mem_blanks)]
    simp only [List.length_cons, ih]
    omega

/-- A text that has no characters but those of its octets is made of digits. -/
theorem Spells.forall_isDigit (h : Spells cs bs) (hl : cs.length = 2 * bs.length) :
    ∀ c ∈ cs, IsDigit c := by
  have hcount : (cs.countP fun c => c ∈ blanks) = 0 := by
    have := h.length_eq
    omega
  intro c hc
  exact h.isDigit c hc (by simpa using List.countP_eq_zero.mp hcount c hc)

/-- An even number of digits spells octets. -/
theorem exists_spells_of_isDigit {n : Nat} (hd : ∀ c ∈ cs, IsDigit c) (hl : cs.length = 2 * n) :
    ∃ bs, bs.length = n ∧ Spells cs bs := by
  induction n generalizing cs with
  | zero =>
    cases List.eq_nil_of_length_eq_zero hl
    exact ⟨[], rfl, .nil⟩
  | succ n ih =>
    -- an octet is made of the first two digits
    match cs, hl with
    | high :: low :: cs, hl =>
      obtain ⟨hhigh, hd⟩ := List.forall_mem_cons.mp hd
      obtain ⟨hlow, hd⟩ := List.forall_mem_cons.mp hd
      obtain ⟨a, ha⟩ := exists_value?_iff.mpr hhigh
      obtain ⟨b, hb⟩ := exists_value?_iff.mpr hlow
      obtain ⟨ha, hdigit⟩ := value?_eq_some_iff.mp ha
      obtain ⟨hb, hdigit'⟩ := value?_eq_some_iff.mp hb
      obtain ⟨bs, hlength, hspells⟩ := ih hd (by simpa [Nat.mul_succ] using hl)
      refine ⟨UInt8.ofNat (16 * a + b) :: bs, by rw [List.length_cons, hlength], .octet ?_ hspells⟩
      rw [encodeOctet_ofNat ha hb, hdigit, hdigit']

theorem normal_of_isDigit {s : String} (hd : ∀ c ∈ s.toList, IsDigit c) : normal s = s.toLower := by
  have hfilter : (s.toList.filter fun c => c ∉ blanks) = s.toList :=
    List.filter_eq_self.mpr fun c hc => by simpa using (hd c hc).not_mem_blanks
  rw [normal, hfilter, ← String.toList_inj, String.toList_ofList, String.toLower,
    String.toList_map]

theorem length_encode (bs : Bytes) : (encode bs).length = 2 * bs.length := by
  simp [encode, encodeOctet, Nat.mul_comm]

/-! ### Blanks around octets -/

theorem isBlank_of_mem_blanks : ∀ c ∈ blanks, SealedPost.isBlank c = true := by
  simp [blanks, SealedPost.isBlank]

theorem IsDigit.isBlank_eq_false {c : Char} (h : IsDigit c) : SealedPost.isBlank c = false := by
  rw [isDigit_iff_toNat] at h
  rw [Bool.eq_false_iff]
  intro hblank
  simp only [SealedPost.isBlank, Bool.or_eq_true, Bool.and_eq_true, decide_eq_true_eq,
    beq_iff_eq] at hblank
  omega

theorem Spells.dropWhile (h : Spells cs bs) : Spells (cs.dropWhile SealedPost.isBlank) bs := by
  induction h with
  | nil => exact .nil
  | blank hc _ ih => rwa [List.dropWhile_cons_of_pos (isBlank_of_mem_blanks _ hc)]
  | octet hb h _ =>
    have hhigh := (isDigit_of_toLower_eq hb).1.isBlank_eq_false
    rw [List.dropWhile_cons_of_neg (by simp [hhigh])]
    exact .octet hb h

theorem Spells.rdropWhile (h : Spells cs bs) : Spells (cs.rdropWhile SealedPost.isBlank) bs := by
  induction h with
  | nil => exact .nil
  | blank hc _ ih =>
    rw [rdropWhile_cons]
    split
    case isTrue hempty => exact hempty.1 ▸ ih
    case isFalse => exact .blank hc ih
  | octet hb _ ih =>
    obtain ⟨hhigh, hlow⟩ := isDigit_of_toLower_eq hb
    rw [rdropWhile_cons, if_neg (by simp [hhigh.isBlank_eq_false]), rdropWhile_cons,
      if_neg (by simp [hlow.isBlank_eq_false])]
    exact .octet hb ih

end Hex

/-! ### Ids -/

namespace BlobId

/-- The texts of ids: 32 digits and nothing else. -/
def IsText (s : String) : Prop := s.length = 32 ∧ ∀ c ∈ s.toList, Hex.IsDigit c

variable {s : String} {id : BlobId}

theorem ofHex_eq_ok_iff : ofHex s = .ok id ↔ s.length = 32 ∧ Hex.Spells s.toList id.octets := by
  rw [← Hex.decode_eq_ok_iff]
  by_cases hl : s.length = 32
  · rw [ofHex, if_neg (show ¬ s.length ≠ 2 * size from not_not_intro hl)]
    cases hd : Hex.decode s with
    | error place => simp
    | ok bs =>
      simp only [ofBytes, hl, true_and, Except.ok.injEq]
      have hlength := id.length_octets
      constructor
      · intro h
        split at h <;> cases h
        rfl
      · rintro rfl
        rw [dif_pos hlength]
  · rw [ofHex, if_pos (show s.length ≠ 2 * size from hl)]
    simp [hl]

theorem exists_ofHex_eq_ok_iff : (∃ id, ofHex s = .ok id) ↔ IsText s := by
  constructor
  · rintro ⟨id, h⟩
    obtain ⟨hl, hs⟩ := ofHex_eq_ok_iff.mp h
    exact ⟨hl, hs.forall_isDigit (by rw [String.length_toList, hl, id.length_octets])⟩
  · rintro ⟨hl, hd⟩
    obtain ⟨bs, hlength, hs⟩ :=
      Hex.exists_spells_of_isDigit (n := 16) hd (by rw [String.length_toList, hl])
    exact ⟨⟨bs, hlength⟩, ofHex_eq_ok_iff.mpr ⟨hl, hs⟩⟩

theorem toHex_eq_of_ofHex (h : ofHex s = .ok id) : id.toHex = s.toLower := by
  rw [toHex, (ofHex_eq_ok_iff.mp h).2.encode_eq]
  exact Hex.normal_of_isDigit (exists_ofHex_eq_ok_iff.mp ⟨id, h⟩).2

/-- An id is read back from its text. -/
theorem ofHex_toHex (id : BlobId) : ofHex id.toHex = .ok id := by
  have hs := Hex.spells_encode id.octets
  refine ofHex_eq_ok_iff.mpr ⟨?_, hs⟩
  rw [toHex, Hex.length_encode, id.length_octets]

theorem kind_of_ofHex {e : Failure} (h : ofHex s = .error e) : e.kind = .badBlobId := by
  rw [ofHex] at h
  split at h
  · cases h
    rfl
  · split at h
    · cases h
      rfl
    · rw [ofBytes] at h
      split at h <;> cases h
      rfl

theorem ofHex_failsAs_iff : FailsAs (ofHex s) .badBlobId ↔ ¬ IsText s := by
  rw [← exists_ofHex_eq_ok_iff]
  cases h : ofHex s with
  | ok id => simp [FailsAs]
  | error e => simp [FailsAs, kind_of_ofHex h]

-- two blanks and 30 digits are as long as an id, and spell 15 octets
example : (ofHex "  000000000000000000000000000000").toOption = none ∧
    Hex.decode "  000000000000000000000000000000" = .ok (List.replicate 15 0) := by
  decide +kernel

end BlobId

/-! ### Keys -/

namespace Key

/-- The texts that spell octets between white space of any kind. -/
def Spells (s : String) (bs : Bytes) : Prop :=
  ∃ before cs after, s.toList = before ++ cs ++ after ∧ (∀ c ∈ before, isBlank c = true) ∧
    (∀ c ∈ after, isBlank c = true) ∧ Hex.Spells cs bs

variable {s : String} {bs key : Bytes}

theorem spells_iff : Spells s bs ↔ Hex.Spells (strip s).toList bs := by
  rw [strip, String.toList_ofList]
  constructor
  · rintro ⟨before, cs, after, hs, hbefore, hafter, hcs⟩
    rw [hs, trimBoth_append hbefore hafter, trimBoth_eq]
    exact hcs.dropWhile.rdropWhile
  · intro h
    obtain ⟨before, after, hs, hbefore, hafter⟩ := exists_trimBoth isBlank s.toList
    exact ⟨before, _, after, hs, hbefore, hafter, h⟩

theorem ofHex_of_length_eq (h : Spells s bs) (hl : bs.length = 32) : ofHex s = .ok bs := by
  rw [ofHex, Hex.decode_eq_ok_iff.mpr (spells_iff.mp h)]
  exact if_pos (congrArg Nat.cast hl)

theorem ofHex_of_length_ne (h : Spells s bs) (hl : bs.length ≠ 32) :
    ofHex s = .error (.keyLength "Public key" 32 bs.length) := by
  rw [ofHex, Hex.decode_eq_ok_iff.mpr (spells_iff.mp h)]
  exact if_neg fun hcast => hl (Int.ofNat_inj.mp hcast)

theorem ofHex_of_not_spells (h : ¬ ∃ bs, Spells s bs) : ofHex s = .error (.keyNotHex s) := by
  have hhex : ¬ Hex.IsHex (strip s) := fun ⟨bs, hs⟩ => h ⟨bs, spells_iff.mpr hs⟩
  obtain ⟨place, hplace⟩ := Hex.exists_decode_eq_error hhex
  rw [ofHex, hplace]

/-- What is read is a key or has the wrong length; where nothing can be read the text is at fault. -/
theorem ofHex_cases (s : String) :
    (∃ bs, Spells s bs ∧ bs.length = 32 ∧ ofHex s = .ok bs) ∨
    (∃ bs, Spells s bs ∧ bs.length ≠ 32 ∧ ofHex s = .error (.keyLength "Public key" 32 bs.length)) ∨
    (¬ ∃ bs, Spells s bs) ∧ ofHex s = .error (.keyNotHex s) := by
  by_cases h : ∃ bs, Spells s bs
  · obtain ⟨bs, hs⟩ := h
    by_cases hl : bs.length = 32
    · exact .inl ⟨bs, hs, hl, ofHex_of_length_eq hs hl⟩
    · exact .inr (.inl ⟨bs, hs, hl, ofHex_of_length_ne hs hl⟩)
  · exact .inr (.inr ⟨h, ofHex_of_not_spells h⟩)

theorem ofHex_eq_ok_iff : ofHex s = .ok key ↔ Spells s key ∧ key.length = 32 := by
  refine ⟨fun h => ?_, fun h => ofHex_of_length_eq h.1 h.2⟩
  rcases ofHex_cases s with ⟨bs, hs, hl, hok⟩ | ⟨bs, -, -, herror⟩ | ⟨-, herror⟩
  · cases hok.symm.trans h
    exact ⟨hs, hl⟩
  · cases herror.symm.trans h
  · cases herror.symm.trans h

theorem ofHex_failsAs_invalidKeyLength_iff :
    FailsAs (ofHex s) .invalidKeyLength ↔ ∃ bs, Spells s bs ∧ bs.length ≠ 32 := by
  refine ⟨?_, fun ⟨bs, hs, hl⟩ => ⟨_, ofHex_of_length_ne hs hl, rfl⟩⟩
  rintro ⟨e, he, hkind⟩
  rcases ofHex_cases s with ⟨bs, -, -, hok⟩ | ⟨bs, hs, hl, -⟩ | ⟨-, herror⟩
  · cases hok.symm.trans he
  · exact ⟨bs, hs, hl⟩
  · cases herror.symm.trans he
    cases hkind

theorem ofHex_failsAs_value_iff : FailsAs (ofHex s) .value ↔ ¬ ∃ bs, Spells s bs := by
  refine ⟨?_, fun h => ⟨_, ofHex_of_not_spells h, rfl⟩⟩
  rintro ⟨e, he, hkind⟩
  rcases ofHex_cases s with ⟨bs, -, -, hok⟩ | ⟨bs, -, -, herror⟩ | ⟨h, -⟩
  · cases hok.symm.trans he
  · cases herror.symm.trans he
    cases hkind
  · exact h

/-- A key is read back from its text. -/
theorem ofHex_encode (h : key.length = 32) : ofHex (Hex.encode key) = .ok key := by
  refine ofHex_of_length_eq ⟨[], _, [], ?_, nofun, nofun, Hex.spells_encode key⟩ h
  rw [List.nil_append, List.append_nil]

end Key

/-! ### Both readers -/

/-- A text is the text of a blob id exactly if it consists of 32 digits of either case, and then it
is the text of the id that is read but for the case of its letters. A public key is read exactly
from the texts that spell its 32 octets between white space; another number of octets is a key of
the wrong length, and what spells no octets is no key. Both read what is written for them. -/
theorem Hex.reads_ids_and_keys :
    (∀ s : String,
      ((∃ id, BlobId.ofHex s = .ok id) ↔ BlobId.IsText s) ∧
      (∀ id, BlobId.ofHex s = .ok id → id.toHex = s.toLower) ∧
      (FailsAs (BlobId.ofHex s) .badBlobId ↔ ¬ BlobId.IsText s)) ∧
    (∀ id : BlobId, BlobId.ofHex id.toHex = .ok id) ∧
    (∀ s : String,
      (∀ key, Key.ofHex s = .ok key ↔ Key.Spells s key ∧ key.length = 32) ∧
      (FailsAs (Key.ofHex s) .invalidKeyLength ↔ ∃ bs, Key.Spells s bs ∧ bs.length ≠ 32) ∧
      (FailsAs (Key.ofHex s) .value ↔ ¬ ∃ bs, Key.Spells s bs)) ∧
    ∀ key : Bytes, key.length = 32 → Key.ofHex (Hex.encode key) = .ok key := by
  refine ⟨fun s => ⟨BlobId.exists_ofHex_eq_ok_iff, fun id => BlobId.toHex_eq_of_ofHex,
    BlobId.ofHex_failsAs_iff⟩, BlobId.ofHex_toHex, fun s => ⟨fun key => Key.ofHex_eq_ok_iff,
    Key.ofHex_failsAs_invalidKeyLength_iff, Key.ofHex_failsAs_value_iff⟩, fun key => Key.ofHex_encode⟩

end SealedPost
