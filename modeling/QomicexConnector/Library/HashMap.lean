import Mathlib.Data.List.AList

namespace QomicexConnector
namespace Library

universe u v

/-!
# Hash maps

A hash map is an association list without repeated keys.  The order of the list
stands for the order in which the map happens to iterate; code that iterates is
given the order it sees as an argument, so that a theorem about it covers every
order.
-/

abbrev HashMap (Key : Type u) (Value : Type v) := AList (fun _ : Key => Value)

namespace HashMap

variable {Key : Type u} {Value : Type v}

/-- `order` is a sequence of entries in which the map can be iterated. -/
def Iterates (map : HashMap Key Value) (order : List (Key × Value)) : Prop :=
  order.Perm (map.entries.map fun entry => (entry.1, entry.2))

variable [DecidableEq Key]

instance [DecidableEq Value] (map : HashMap Key Value) (order : List (Key × Value)) :
    Decidable (map.Iterates order) :=
  inferInstanceAs (Decidable (List.Perm _ _))

theorem Iterates.mem_iff {map : HashMap Key Value} {order : List (Key × Value)}
    (iterates : map.Iterates order) {key : Key} {value : Value} :
    (key, value) ∈ order ↔ map.lookup key = some value := by
  rw [List.Perm.mem_iff iterates, List.mem_map, ← Option.mem_def, AList.mem_lookup_iff]
  constructor
  · rintro ⟨⟨entryKey, entryValue⟩, listed, same⟩
    rw [Prod.mk.injEq] at same
    rcases same with ⟨rfl, rfl⟩
    exact listed
  · intro listed
    exact ⟨⟨key, value⟩, listed, rfl⟩

/-- Inserting one entry, at any key. -/
theorem lookup_insert (map : HashMap Key Value) (key other : Key) (value : Value) :
    (map.insert key value).lookup other = if other = key then some value else map.lookup other := by
  by_cases same : other = key
  · rw [if_pos same, same, AList.lookup_insert]
  · rw [if_neg same, AList.lookup_insert_ne same]

/-- Removing one entry, at any key. -/
theorem lookup_erase (map : HashMap Key Value) (key other : Key) :
    (map.erase key).lookup other = if other = key then none else map.lookup other := by
  by_cases same : other = key
  · rw [if_pos same, same, AList.lookup_erase]
  · rw [if_neg same, AList.lookup_erase_ne same]

/-- `collect` of pairs into a map: a later pair replaces an earlier one. -/
def collect (pairs : List (Key × Value)) : HashMap Key Value :=
  pairs.foldl (fun map pair => map.insert pair.1 pair.2) ∅

private theorem lookup_foldl_insert (pairs : List (Key × Value)) (map : HashMap Key Value)
    (distinct : (pairs.map Prod.fst).Nodup) (key : Key) (value : Value) :
    (pairs.foldl (fun map pair => map.insert pair.1 pair.2) map).lookup key = some value ↔
      (key, value) ∈ pairs ∨ key ∉ pairs.map Prod.fst ∧ map.lookup key = some value := by
  induction pairs generalizing map with
  | nil => simp
  | cons pair rest inductionHypothesis =>
      rw [List.map_cons, List.nodup_cons] at distinct
      rw [List.foldl_cons, inductionHypothesis _ distinct.2, lookup_insert, List.mem_cons,
        List.map_cons, List.mem_cons, not_or]
      by_cases same : key = pair.1
      · have absent : key ∉ rest.map Prod.fst := same ▸ distinct.1
        have notLater : (key, value) ∉ rest := fun listed =>
          absent (List.mem_map.mpr ⟨_, listed, rfl⟩)
        rw [if_pos same, Option.some.injEq]
        constructor
        · rintro (listed | ⟨_, inserted⟩)
          · exact absurd listed notLater
          · exact Or.inl (Or.inl (Prod.ext same inserted.symm))
        · rintro ((equal | listed) | ⟨⟨different, _⟩, _⟩)
          · exact Or.inr ⟨absent, (congrArg Prod.snd equal).symm⟩
          · exact absurd listed notLater
          · exact absurd same different
      · have different : (key, value) ≠ pair := fun equal => same (congrArg Prod.fst equal)
        rw [if_neg same]
        constructor
        · rintro (listed | ⟨absent, found⟩)
          · exact Or.inl (Or.inr listed)
          · exact Or.inr ⟨⟨same, absent⟩, found⟩
        · rintro ((equal | listed) | ⟨⟨_, absent⟩, found⟩)
          · exact absurd equal different
          · exact Or.inl listed
          · exact Or.inr ⟨absent, found⟩

/-- With distinct keys nothing is replaced: the map has exactly the pairs. -/
theorem lookup_collect {pairs : List (Key × Value)} (distinct : (pairs.map Prod.fst).Nodup)
    {key : Key} {value : Value} :
    (collect pairs).lookup key = some value ↔ (key, value) ∈ pairs := by
  rw [collect, lookup_foldl_insert pairs ∅ distinct]
  simp

private theorem keys_foldl_insert (pairs : List (Key × Value)) (map : HashMap Key Value)
    (distinct : (pairs.map Prod.fst).Nodup) (new : ∀ pair ∈ pairs, pair.1 ∉ map.keys) :
    (pairs.foldl (fun map pair => map.insert pair.1 pair.2) map).keys =
      (pairs.map Prod.fst).reverse ++ map.keys := by
  induction pairs generalizing map with
  | nil => rfl
  | cons pair rest inductionHypothesis =>
      rw [List.map_cons, List.nodup_cons] at distinct
      have keys : (map.insert pair.1 pair.2).keys = pair.1 :: map.keys := by
        rw [AList.keys_insert, List.erase_of_not_mem (new pair List.mem_cons_self)]
      have newLater : ∀ other ∈ rest, other.1 ∉ (map.insert pair.1 pair.2).keys := by
        intro other listed old
        rw [keys] at old
        rcases List.mem_cons.mp old with same | old
        · exact distinct.1 (same ▸ List.mem_map_of_mem listed)
        · exact new other (List.mem_cons_of_mem pair listed) old
      rw [List.foldl_cons, inductionHypothesis _ distinct.2 newLater, keys, List.map_cons,
        List.reverse_cons, List.append_assoc, List.singleton_append]

/-- The map has one entry for each pair. -/
theorem keys_collect {pairs : List (Key × Value)} (distinct : (pairs.map Prod.fst).Nodup) :
    (collect pairs).keys = (pairs.map Prod.fst).reverse := by
  rw [collect, keys_foldl_insert pairs ∅ distinct (fun _ _ => List.not_mem_nil)]
  exact List.append_nil _

end HashMap

end Library
end QomicexConnector
