import Mathlib.Data.List.Find
import Mathlib.Data.List.Pairwise
import Mathlib.Order.Defs.LinearOrder

namespace QomicexConnector
namespace Library

universe u v

/-!
# Sorting by a key

`sort_by_key` of the Rust standard library: a stable sort.  Entries with one key stay in the
order in which they stood, so the first entry of the sorted list is the first of all those that no
entry has a smaller key than.
-/

section SortByKey

variable {Entry : Type u} {Key : Type v} [LinearOrder Key] (key : Entry → Key)

def keyLe (first second : Entry) : Bool := decide (key first ≤ key second)

/-- `sort_by_key`. -/
def sortByKey (entries : List Entry) : List Entry := entries.mergeSort (keyLe key)

theorem keyLe_trans (first second third : Entry) (earlier : keyLe key first second = true)
    (later : keyLe key second third = true) : keyLe key first third = true :=
  decide_eq_true (le_trans (of_decide_eq_true earlier) (of_decide_eq_true later))

theorem keyLe_total (first second : Entry) :
    (keyLe key first second || keyLe key second first) = true := by
  rw [Bool.or_eq_true, keyLe, keyLe, decide_eq_true_eq, decide_eq_true_eq]
  exact le_total _ _

theorem sortByKey_perm (entries : List Entry) : (sortByKey key entries).Perm entries :=
  List.mergeSort_perm _ _

theorem pairwise_sortByKey (entries : List Entry) :
    (sortByKey key entries).Pairwise fun first second => key first ≤ key second := by
  have sorted := List.pairwise_mergeSort (keyLe_trans key) (keyLe_total key) entries
  exact sorted.imp of_decide_eq_true

/-- Entries with one key keep their order. -/
theorem filter_sortByKey (entries : List Entry) (common : Key) :
    (sortByKey key entries).filter (fun entry => key entry = common) =
      entries.filter fun entry => key entry = common := by
  have tied : (entries.filter fun entry => key entry = common).Pairwise
      fun first second => keyLe key first second = true := by
    refine List.pairwise_of_forall_mem_list fun first isFirst second isSecond => ?_
    have same := of_decide_eq_true (List.mem_filter.mp isFirst).2
    have other := of_decide_eq_true (List.mem_filter.mp isSecond).2
    exact decide_eq_true (le_of_eq (same.trans other.symm))
  have kept := List.sublist_mergeSort (keyLe_trans key) (keyLe_total key) tied List.filter_sublist
  have inside := kept.filter fun entry => key entry = common
  rw [List.filter_filter] at inside
  simp only [Bool.and_self] at inside
  exact (inside.eq_of_length ((sortByKey_perm key entries).filter _).length_eq.symm).symm

/-- The first entry of the sorted list is the first that no entry comes before. -/
theorem head?_sortByKey (entries : List Entry) :
    (sortByKey key entries).head? =
      entries.find? fun entry => decide (∀ other ∈ entries, key entry ≤ key other) := by
  have perm := sortByKey_perm key entries
  have ordered := pairwise_sortByKey key entries
  have stable := filter_sortByKey key entries
  cases sorted : sortByKey key entries with
  | nil =>
      rw [sorted] at perm
      rw [List.nil_perm.mp perm]
      rfl
  | cons least later =>
      rw [sorted] at perm ordered stable
      have smallest : ∀ other ∈ entries, key least ≤ key other := by
        intro other listed
        rcases List.mem_cons.mp (perm.mem_iff.mpr listed) with rfl | behind
        · exact le_refl _
        · exact List.rel_of_pairwise_cons ordered behind
      have present : least ∈ entries := perm.mem_iff.mp List.mem_cons_self
      calc
        some least = ((least :: later).filter fun entry => key entry = key least).head? := by
          rw [List.filter_cons_of_pos (by simp), List.head?_cons]
        _ = entries.find? fun entry => key entry = key least := by
          rw [stable, List.head?_filter]
        _ = _ := by
          refine List.find?_congr fun entry listed => ?_
          refine decide_eq_decide.mpr ⟨?_, ?_⟩
          · exact fun same => same ▸ smallest
          · exact fun minimal => le_antisymm (minimal least present) (smallest entry listed)

end SortByKey

end Library
end QomicexConnector
