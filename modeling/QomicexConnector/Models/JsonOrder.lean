import Mathlib.Data.List.Forall2
import QomicexConnector.Models

namespace QomicexConnector

/-!
# JSON values up to the order of members

A printed value is read back with the members of its objects in another order, that of the map
that holds them.  The accessors do not tell the two apart.
-/

namespace Json

/-- `as_str`. -/
def asStr : Json → Option String
  | .string value => some value
  | _ => none

/-- `as_array`. -/
def asArray : Json → Option (List Json)
  | .array items => some items
  | _ => none

/-- `as_object`. -/
def asObject : Json → Option (List (String × Json))
  | .object members => some members
  | _ => none

/-- The two values differ at most in the order of members. -/
inductive Reordered : Json → Json → Prop
  | refl (value : Json) : Reordered value value
  | array {items others : List Json} (same : List.Forall₂ Reordered items others) :
      Reordered (.array items) (.array others)
  | object {members others : List (String × Json)}
      (same : ∀ key, Option.Rel Reordered (members.lookup key) (others.lookup key)) :
      Reordered (.object members) (.object others)

/-- Where no key occurs twice, the order of the pairs does not matter to a lookup. -/
theorem lookup_eq_of_perm {Value : Type} {pairs others : List (String × Value)}
    (perm : pairs.Perm others) (distinct : (pairs.map Prod.fst).Nodup) (key : String) :
    pairs.lookup key = others.lookup key := by
  induction perm with
  | nil => rfl
  | cons pair _ inductionHypothesis =>
      rw [List.map_cons, List.nodup_cons] at distinct
      rw [List.lookup_cons, List.lookup_cons, inductionHypothesis distinct.2]
  | swap first second later =>
      have different : second.1 ≠ first.1 := by
        rw [List.map_cons, List.nodup_cons, List.map_cons, List.mem_cons] at distinct
        exact fun same => distinct.1 (Or.inl same)
      rcases first with ⟨firstKey, first⟩
      rcases second with ⟨secondKey, second⟩
      rw [List.lookup_cons, List.lookup_cons, List.lookup_cons, List.lookup_cons]
      by_cases isFirst : key = firstKey
      · have notSecond : key ≠ secondKey := fun same => different (same.symm.trans isFirst)
        rw [beq_eq_false_iff_ne.mpr notSecond, beq_iff_eq.mpr isFirst]
      · rw [beq_eq_false_iff_ne.mpr isFirst]
  | trans first _ firstHypothesis secondHypothesis =>
      rw [firstHypothesis distinct, secondHypothesis ((first.map Prod.fst).nodup_iff.mp distinct)]

/-- A map that holds the members in an order of its own reorders the object. -/
theorem Reordered.of_perm {members others : List (String × Json)} (perm : members.Perm others)
    (distinct : (members.map Prod.fst).Nodup) :
    Reordered (.object members) (.object others) := by
  refine .object fun key => ?_
  rw [lookup_eq_of_perm perm distinct key]
  cases others.lookup key with
  | none => exact .none
  | some value => exact .some (.refl value)

theorem bind_eq_of_rel {α β : Type} {related : α → α → Prop} {read : α → Option β}
    (agrees : ∀ first second, related first second → read first = read second)
    {first second : Option α} (same : Option.Rel related first second) :
    first.bind read = second.bind read := by
  cases same with
  | none => rfl
  | some same => exact agrees _ _ same

section Accessors

variable {value other : Json}

theorem Reordered.valueToString_eq (same : Reordered value other) :
    valueToString value = valueToString other := by
  cases same <;> rfl

theorem Reordered.asStr_eq (same : Reordered value other) : value.asStr = other.asStr := by
  cases same <;> rfl

/-- Each accessor finds the same. -/
theorem Reordered.lookup_bind {β : Type} {members others : List (String × Json)}
    (same : Reordered (.object members) (.object others)) {read : Json → Option β}
    (agrees : ∀ first second, Reordered first second → read first = read second) (key : String) :
    (members.lookup key).bind read = (others.lookup key).bind read := by
  cases same with
  | refl => rfl
  | object same => exact bind_eq_of_rel agrees (same key)

theorem Reordered.get_bind {β : Type} (same : Reordered value other) {read : Json → Option β}
    (agrees : ∀ first second, Reordered first second → read first = read second) (key : String) :
    (value.get key).bind read = (other.get key).bind read := by
  cases same with
  | refl => rfl
  | array => rfl
  | object same => exact bind_eq_of_rel agrees (same key)

theorem Reordered.array_inv {items : List Json} (same : Reordered value (.array items)) :
    ∃ others, value = .array others ∧ List.Forall₂ Reordered others items := by
  cases same with
  | refl => exact ⟨items, rfl, List.forall₂_same.mpr fun item _ => .refl item⟩
  | array same => exact ⟨_, rfl, same⟩

theorem Reordered.object_inv {members : List (String × Json)}
    (same : Reordered value (.object members)) :
    ∃ others, value = .object others ∧ Reordered (.object others) (.object members) := by
  cases same with
  | refl => exact ⟨members, rfl, .refl _⟩
  | object same => exact ⟨_, rfl, .object same⟩

end Accessors

/-- `to_vec` prints the value and `from_slice` reads it back, up to the order of members. -/
def PrintsBack (toVec : Json → Except String (List UInt8))
    (fromSlice : List UInt8 → Except String Json) (value : Json) : Prop :=
  ∃ body parsed, toVec value = .ok body ∧ fromSlice body = .ok parsed ∧ Reordered parsed value

end Json

end QomicexConnector
