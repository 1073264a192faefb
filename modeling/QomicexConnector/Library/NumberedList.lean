import Mathlib.Algebra.GroupWithZero.Nat
import Mathlib.Data.List.Basic

namespace QomicexConnector
namespace Library

universe u

/-!
# Lists whose entries have numbers

Tasks, connections and calls are numbered by their places in a list.  Entries are replaced
and new ones come last; none is taken out, so a number keeps its meaning.
-/

section Numbered

variable {Entry : Type u} {entries : List Entry}

/-- Replacing one entry of a list. -/
theorem getElem?_set_listed {i : Nat} {before : Entry} (listed : entries[i]? = some before)
    (after : Entry) (j : Nat) :
    (entries.set i after)[j]? = if j = i then some after else entries[j]? := by
  rcases List.getElem?_eq_some_iff.mp listed with ⟨inside, _⟩
  rw [List.getElem?_set]
  by_cases same : i = j
  · rw [if_pos same, if_pos inside, if_pos same.symm]
  · rw [if_neg same, if_neg fun equal => same equal.symm]

/-- Adding one entry to a list. -/
theorem getElem?_concat {last entry : Entry} {j : Nat}
    (listed : (entries ++ [last])[j]? = some entry) :
    entries[j]? = some entry ∨ j = entries.length ∧ entry = last := by
  rw [List.getElem?_append] at listed
  split at listed
  · exact Or.inl listed
  · next beyond =>
      rw [List.getElem?_singleton] at listed
      split at listed
      · next first =>
          cases listed
          exact Or.inr ⟨by omega, rfl⟩
      · cases listed

/-- Lowering the weight of one entry lowers the total. -/
theorem sum_map_set_lt {i : Nat} {before after : Entry} {weight : Entry → Nat}
    (listed : entries[i]? = some before) (less : weight after < weight before) :
    ((entries.set i after).map weight).sum < (entries.map weight).sum := by
  induction entries generalizing i with
  | nil => cases listed
  | cons first later inductionHypothesis =>
      cases i with
      | zero =>
          cases listed
          exact Nat.add_lt_add_right less _
      | succ i => exact Nat.add_lt_add_left (inductionHypothesis listed) _

end Numbered

end Library
end QomicexConnector
