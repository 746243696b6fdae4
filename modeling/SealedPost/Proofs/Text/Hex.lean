import Mathlib
import SealedPost.Text.Hex

/-!
# Reading hexadecimal

Two digits of either case spell an octet, and blanks may stand around each pair. This is said here
without a reader. A text is read exactly if it spells octets, and as these; what is written for them
is the text in lower case and without its blanks.
-/

namespace SealedPost

namespace Hex

/-! ### Digits -/

theorem toNat_digit {n : Nat} (h : n < 16) :
    (digit n).toNat = if n < 10 then 0x30 + n else 0x57 + n := by
  interval_cases n <;> rfl

theorem toLower_digit {n : Nat} (h : n < 16) : (digit n).toLower = digit n := by
  interval_cases n <;> rfl

/-- A digit is read back. -/
theorem value?_digit {n : Nat} (h : n < 16) : value? (digit n) = some n := by
  interval_cases n <;> rfl

theorem toNat_toLower (c : Char) :
    c.toLower.toNat = if 0x41 ≤ c.toNat ∧ c.toNat ≤ 0x5a then c.toNat + 0x20 else c.toNat := by
  have hupper : (c.val ≥ 'A'.val ∧ c.val ≤ 'Z'.val) = (0x41 ≤ c.toNat ∧ c.toNat ≤ 0x5a) := by
    simp only [ge_iff_le, UInt32.le_iff_toNat_le]
    rfl
  simp only [Char.toLower, hupper]
  split
  · show (c.val + ('a'.val - 'A'.val)).toNat = c.val.toNat + 0x20
    rename_i h
    have hlt : c.val.toNat ≤ 0x5a := h.2
    rw [UInt32.toNat_add, show ('a'.val - 'A'.val).toNat = 0x20 by decide]
    omega
  · rfl

/-- A digit has the same value in either case. -/
theorem value?_toLower (c : Char) : value? c.toLower = value? c := by
  simp only [value?, toNat_toLower, Bool.and_eq_true, decide_eq_true_eq]
  grind

theorem value?_eq_some_iff {c : Char} {n : Nat} :
    value? c = some n ↔ n < 16 ∧ c.toLower = digit n := by
  constructor
  · intro h
    rw [← value?_toLower] at h
    have hlower : ¬ (0x41 ≤ c.toLower.toNat ∧ c.toLower.toNat ≤ 0x5a) := by
      rw [toNat_toLower]
      split <;> omega
    simp only [value?, Bool.and_eq_true, decide_eq_true_eq] at h
    have hn : n < 16 := by
      split_ifs at h <;> simp only [Option.some.injEq] at h <;> omega
    refine ⟨hn, Char.toNat_inj.mp ?_⟩
    rw [toNat_digit hn]
    split_ifs at h ⊢ <;> simp only [Option.some.injEq] at h <;> omega
  · rintro ⟨hn, hc⟩
    rw [← value?_toLower, hc, value?_digit hn]

/-- A digit of each octet. -/
theorem encodeOctet_ofNat {high low : Nat} (hh : high < 16) (hl : low < 16) :
    encodeOctet (UInt8.ofNat (16 * high + low)) = [digit high, digit low] := by
  have hn : (UInt8.ofNat (16 * high + low)).toNat = 16 * high + low := by
    simp only [UInt8.toNat_ofNat']
    omega
  rw [encodeOctet, hn, show (16 * high + low) / 16 = high by omega,
    show (16 * high + low) % 16 = low by omega]

/-! ### Blanks -/

/-- The white space of ASCII. -/
def blanks : List Char := [' ', '\t', '\n', '\x0b', '\x0c', '\r']

theorem isBlank_iff {c : Char} : isBlank c = true ↔ c ∈ blanks := by
  simp only [isBlank, blanks, List.mem_cons, List.not_mem_nil, or_false, Bool.or_eq_true,
    beq_iff_eq, Bool.and_eq_true, decide_eq_true_eq, ← Char.toNat_inj, Char.reduceToNat]
  omega

theorem value?_of_mem_blanks : ∀ c ∈ blanks, value? c = none := by
  simp [blanks, value?]

theorem not_mem_blanks_of_value? {c : Char} {n : Nat} (h : value? c = some n) : c ∉ blanks := by
  intro hc
  rw [value?_of_mem_blanks c hc] at h
  cases h

/-! ### Texts -/

/-- The texts that spell octets: for each octet the characters that are written for it, in either
case, and blanks around these pairs. -/
inductive Spells : List Char → Bytes → Prop where
  | nil : Spells [] []
  | blank {c : Char} {cs : List Char} {bs : Bytes} (hc : c ∈ blanks) (h : Spells cs bs) :
    Spells (c :: cs) bs
  | octet {high low : Char} {b : UInt8} {cs : List Char} {bs : Bytes}
    (hb : [high.toLower, low.toLower] = encodeOctet b) (h : Spells cs bs) :
    Spells (high :: low :: cs) (b :: bs)

variable {cs : List Char} {bs : Bytes} {place : Nat} {done : Bytes}

theorem values_of_toLower_eq {high low : Char} {b : UInt8}
    (h : [high.toLower, low.toLower] = encodeOctet b) :
    value? high = some (b.toNat / 16) ∧ value? low = some (b.toNat % 16) := by
  have hb : b.toNat < 256 := b.toNat_lt
  simp only [encodeOctet, List.cons.injEq, and_true] at h
  exact ⟨value?_eq_some_iff.mpr ⟨by omega, h.1⟩, value?_eq_some_iff.mpr ⟨by omega, h.2⟩⟩

theorem exists_of_decodeFrom (h : decodeFrom place done cs = .ok bs) :
    ∃ rest, bs = done.reverse ++ rest ∧ Spells cs rest := by
  fun_induction decodeFrom place done cs with
  | case1 =>
    cases h
    exact ⟨[], by simp, .nil⟩
  | case2 _ _ _ _ hc ih =>
    obtain ⟨rest, hbs, hrest⟩ := ih h
    exact ⟨rest, hbs, .blank (isBlank_iff.mp hc) hrest⟩
  | case6 _ _ _ _ high hhigh _ _ low hlow ih =>
    obtain ⟨rest, rfl, hrest⟩ := ih h
    obtain ⟨hh, hdigit⟩ := value?_eq_some_iff.mp hhigh
    obtain ⟨hl, hdigit'⟩ := value?_eq_some_iff.mp hlow
    refine ⟨UInt8.ofNat (16 * high + low) :: rest, by simp, .octet ?_ hrest⟩
    rw [encodeOctet_ofNat hh hl, hdigit, hdigit']
  | _ => cases h

theorem Spells.decodeFrom_eq (h : Spells cs bs) (place : Nat) (done : Bytes) :
    decodeFrom place done cs = .ok (done.reverse ++ bs) := by
  induction h generalizing place done with
  | nil => simp [decodeFrom]
  | blank hc _ ih => rw [decodeFrom, if_pos (isBlank_iff.mpr hc), ih]
  | @octet high low b cs bs hb _ ih =>
    obtain ⟨hhigh, hlow⟩ := values_of_toLower_eq hb
    have hblank : ¬ isBlank high = true := by
      rw [isBlank_iff]
      exact not_mem_blanks_of_value? hhigh
    rw [decodeFrom, if_neg hblank]
    simp only [hhigh, hlow, Nat.div_add_mod, UInt8.ofNat_toNat, ih]
    simp

theorem ascii_of_value? {c : Char} {n : Nat} (h : value? c = some n) : c.toNat < 0x80 := by
  simp only [value?, Bool.and_eq_true, decide_eq_true_eq] at h
  split_ifs at h <;> omega

theorem ascii_of_mem_blanks : ∀ c ∈ blanks, c.toNat < 0x80 := by
  simp [blanks]

theorem Spells.ascii (h : Spells cs bs) : ∀ c ∈ cs, c.toNat < 0x80 := by
  induction h with
  | nil => exact nofun
  | blank hc _ ih => exact List.forall_mem_cons.mpr ⟨ascii_of_mem_blanks _ hc, ih⟩
  | octet hb _ ih =>
    obtain ⟨hhigh, hlow⟩ := values_of_toLower_eq hb
    exact List.forall_mem_cons.mpr ⟨ascii_of_value? hhigh,
      List.forall_mem_cons.mpr ⟨ascii_of_value? hlow, ih⟩⟩

/-- A text is read exactly if it spells octets. -/
theorem decode_eq_ok_iff {s : String} : decode s = .ok bs ↔ Spells s.toList bs := by
  constructor
  · intro h
    rw [decode] at h
    split at h
    · cases h
    · obtain ⟨rest, rfl, hrest⟩ := exists_of_decodeFrom h
      exact hrest
  · intro h
    have hascii : s.toList.findIdx? (fun c => 0x80 ≤ c.toNat) = none := by
      rw [List.findIdx?_eq_none_iff]
      intro c hc
      simpa using h.ascii c hc
    simp [decode, hascii, h.decodeFrom_eq]

-- Blanks stand around the pairs, and not inside them.
example : decode " 0A\tfF\n" = .ok [0x0a, 0xff] ∧ decode "0 A" = .error 1 := by
  decide +kernel

/-- Does a text spell octets? -/
def IsHex (s : String) : Prop := ∃ bs, Spells s.toList bs

theorem exists_decode_eq_error {s : String} (h : ¬ IsHex s) : ∃ place, decode s = .error place := by
  cases hs : decode s with
  | ok bs => exact absurd ⟨bs, decode_eq_ok_iff.mp hs⟩ h
  | error place => exact ⟨place, rfl⟩

theorem spells_encode (bs : Bytes) : Spells (encode bs).toList bs := by
  rw [encode, String.toList_ofList]
  induction bs with
  | nil => exact .nil
  | cons b bs ih =>
    have hb : b.toNat < 256 := b.toNat_lt
    refine .octet ?_ ih
    rw [toLower_digit (by omega), toLower_digit (by omega), encodeOctet]

/-- A text in lower case and without its blanks. -/
def normal (s : String) : String :=
  String.ofList ((s.toList.filter fun c => c ∉ blanks).map Char.toLower)

theorem Spells.map_toLower_filter (h : Spells cs bs) :
    (cs.filter fun c => c ∉ blanks).map Char.toLower = bs.flatMap encodeOctet := by
  induction h with
  | nil => rfl
  | blank hc _ ih => rw [List.filter_cons_of_neg (by simpa using hc), ih]
  | octet hb _ ih =>
    obtain ⟨hhigh, hlow⟩ := values_of_toLower_eq hb
    have hhigh := not_mem_blanks_of_value? hhigh
    have hlow := not_mem_blanks_of_value? hlow
    rw [List.filter_cons_of_pos (by simpa using hhigh),
      List.filter_cons_of_pos (by simpa using hlow), List.flatMap_cons, ← hb, ← ih]
    rfl

/-- What is written for octets is the normal form of every text that spells them. -/
theorem Spells.encode_eq {s : String} (h : Spells s.toList bs) : encode bs = normal s := by
  rw [encode, normal, h.map_toLower_filter]

end Hex

end SealedPost
