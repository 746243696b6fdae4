import Mathlib
import SealedPost.Text.Characters

/-!
# Texts without what is at their ends

What is cut off at the ends of a text may be there or not, and what is left has none of it.
-/

namespace SealedPost

variable {p : Char → Bool} {before cs after : List Char}

theorem trimBoth_eq (p : Char → Bool) (cs : List Char) :
    trimBoth p cs = (cs.dropWhile p).rdropWhile p := rfl

theorem rdropWhile_append_of_forall (cs : List Char) (h : ∀ c ∈ after, p c = true) :
    (cs ++ after).rdropWhile p = cs.rdropWhile p := by
  rw [List.rdropWhile, List.reverse_append,
    List.dropWhile_append_of_pos fun c hc => h c (List.mem_reverse.mp hc), List.rdropWhile]

theorem rdropWhile_cons (p : Char → Bool) (c : Char) (cs : List Char) :
    (c :: cs).rdropWhile p =
      if cs.rdropWhile p = [] ∧ p c = true then [] else c :: cs.rdropWhile p := by
  rw [List.rdropWhile, List.reverse_cons, List.dropWhile_append, List.rdropWhile]
  cases hd : cs.reverse.dropWhile p with
  | nil => cases hc : p c <;> simp [hc]
  | cons d ds => simp

/-- Whatever is cut off at both ends may be there or not. -/
theorem trimBoth_append (hb : ∀ c ∈ before, p c = true) (ha : ∀ c ∈ after, p c = true) :
    trimBoth p (before ++ cs ++ after) = trimBoth p cs := by
  rw [List.append_assoc, trimBoth_eq, List.dropWhile_append_of_pos hb, List.dropWhile_append,
    trimBoth_eq]
  split
  case isTrue h =>
    rw [List.isEmpty_iff.mp h, List.rdropWhile_nil, List.rdropWhile_eq_nil_iff]
    exact fun c hc => ha c ((List.dropWhile_sublist p).subset hc)
  case isFalse => exact rdropWhile_append_of_forall _ ha

/-- What trimming leaves, and what it cuts off. -/
theorem exists_trimBoth (p : Char → Bool) (cs : List Char) :
    ∃ before after, cs = before ++ trimBoth p cs ++ after ∧
      (∀ c ∈ before, p c = true) ∧ ∀ c ∈ after, p c = true := by
  refine ⟨cs.takeWhile p, (cs.dropWhile p).rtakeWhile p, ?_, fun _ => List.mem_takeWhile_imp,
    fun _ => List.mem_rtakeWhile_imp⟩
  rw [trimBoth_eq, List.append_assoc, List.rdropWhile_append_rtakeWhile,
    List.takeWhile_append_dropWhile]

end SealedPost
