import Mathlib
import SealedPost.Bytes

/-!
# Laws of octet strings

A number is read back from enough octets, pieces of one size are found again in their
concatenation, and a pad taken twice cancels.
-/

namespace SealedPost.Bytes

/-! ### Numbers -/

theorem toNatLE_ofNatLE {k n : Nat} (h : n < 256 ^ k) : toNatLE (ofNatLE k n) = n := by
  induction k generalizing n with
  | zero => simp_all [ofNatLE, toNatLE]
  | succ k ih =>
    have hn : n / 256 < 256 ^ k := by
      rw [Nat.div_lt_iff_lt_mul (by decide), ← pow_succ]
      exact h
    simp only [ofNatLE, toNatLE, ih hn, UInt8.toNat_ofNat']
    omega

theorem toNatBE_ofNatBE {k n : Nat} (h : n < 256 ^ k) : toNatBE (ofNatBE k n) = n := by
  rw [toNatBE, ofNatBE, List.reverse_reverse, toNatLE_ofNatLE h]

theorem toNatBE_pair (hi lo : UInt8) : toNatBE [hi, lo] = 256 * hi.toNat + lo.toNat := by
  simp only [toNatBE, List.reverse_cons, List.reverse_nil, List.nil_append, List.cons_append,
    toNatLE]
  omega

/-! ### Pieces -/

theorem pieces_append {size count : Nat} {part rest : Bytes} (hs : 0 < size)
    (hp : part.length = size) :
    pieces size (count + 1) (part ++ rest) = part :: pieces size count rest := by
  obtain ⟨b, bs, rfl⟩ := List.exists_cons_of_length_pos (hp ▸ hs)
  rw [List.cons_append, pieces.eq_3 _ _ _ (by simp), ← List.cons_append, List.take_left' hp,
    List.drop_left' hp]

theorem pieces_flatten {size count : Nat} {parts : List Bytes} (hs : 0 < size)
    (hp : ∀ part ∈ parts, part.length = size) (hc : parts.length ≤ count) :
    pieces size count parts.flatten = parts := by
  induction parts generalizing count with
  | nil => cases count <;> rfl
  | cons part parts ih =>
    cases count with
    | zero => simp at hc
    | succ count =>
      rw [List.flatten_cons, pieces_append hs (hp part List.mem_cons_self),
        ih (fun p hmem => hp p (List.mem_cons_of_mem _ hmem)) (by simpa using hc)]

theorem length_flatten_of_size {size : Nat} {parts : List Bytes}
    (hp : ∀ part ∈ parts, part.length = size) : parts.flatten.length = size * parts.length := by
  induction parts with
  | nil => simp
  | cons part parts ih =>
    rw [List.flatten_cons, List.length_append, hp part List.mem_cons_self,
      ih fun p hmem => hp p (List.mem_cons_of_mem _ hmem), List.length_cons, Nat.mul_succ,
      Nat.add_comm]

/-- Parts of one size are the blocks of their concatenation. -/
theorem blocks_flatten {size : Nat} {parts : List Bytes} (hs : 0 < size)
    (hp : ∀ part ∈ parts, part.length = size) : blocks size parts.flatten = parts := by
  refine pieces_flatten hs hp ?_
  rw [length_flatten_of_size hp]
  exact Nat.le_mul_of_pos_left _ hs

/-- Octets can be cut into parts of one size if their number is a multiple of it. -/
theorem exists_parts {size n : Nat} {bs : Bytes} (h : bs.length = size * n) :
    ∃ parts : List Bytes, bs = parts.flatten ∧ ∀ part ∈ parts, part.length = size := by
  induction n generalizing bs with
  | zero =>
    rw [Nat.mul_zero, List.length_eq_zero_iff] at h
    exact ⟨[], h, nofun⟩
  | succ n ih =>
    rw [Nat.mul_succ] at h
    have hdrop : (bs.drop size).length = size * n := by
      rw [List.length_drop]
      omega
    obtain ⟨parts, hp, hl⟩ := ih hdrop
    refine ⟨bs.take size :: parts, ?_, ?_⟩
    · rw [List.flatten_cons, ← hp, List.take_append_drop]
    · rintro part (_ | ⟨_, hmem⟩)
      · rw [List.length_take]
        omega
      · exact hl part hmem

/-! ### Pads -/

/-- A pad that is long enough cancels when it is taken twice. -/
theorem xor_cancel {as bs : Bytes} (h : as.length ≤ bs.length) : xor (xor as bs) bs = as := by
  induction as generalizing bs with
  | nil => simp [xor]
  | cons a as ih =>
    cases bs with
    | nil => simp at h
    | cons b bs =>
      have ih : xor (xor as bs) bs = as := ih (by simpa using h)
      simp only [xor, List.zipWith_cons_cons, List.cons.injEq] at ih ⊢
      exact ⟨by rw [UInt8.xor_assoc, UInt8.xor_self, UInt8.xor_zero], ih⟩

end SealedPost.Bytes
