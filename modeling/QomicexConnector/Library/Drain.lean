import QomicexConnector.Library.LabelledRun
import QomicexConnector.Library.NumberedList
import Mathlib.Algebra.Order.Group.Multiset

namespace QomicexConnector
namespace Library

universe u v w

/-!
# Lists that are taken over whole

Items are put on a shared list; somebody who wants to deal with them takes the list over whole,
leaves an empty one behind and then works off what was taken, item by item.  Takers are numbered
and may be at work at the same time; one that is abandoned loses what it still holds.

No item is lost otherwise and none is dealt with twice, whatever the order of the steps:
`items_of_run` says so for every component that has such a list in its state.
-/

/-- The items on the list, and what each taker still holds. -/
structure Drain (Item : Type u) where
  waiting : List Item
  held : List (List Item)

inductive DrainOp (Item : Type u) where
  | put (item : Item)
  | enter
  | take (k : Nat)
  | finish (k : Nat)
  | abandon (k : Nat)

namespace Drain

variable {Item : Type u}

/-- What taker `k` holds. -/
def holding (drain : Drain Item) (k : Nat) : List Item := (drain.held[k]?).getD []

def apply (drain : Drain Item) : DrainOp Item → Drain Item
  | .put item => { drain with waiting := drain.waiting ++ [item] }
  | .enter => { drain with held := drain.held ++ [[]] }
  | .take k => ⟨[], drain.held.set k (drain.holding k ++ drain.waiting)⟩
  | .finish k => { drain with held := drain.held.set k (drain.holding k).tail }
  | .abandon k => { drain with held := drain.held.set k [] }

/-- The operation names a taker that is there. -/
def Enabled (drain : Drain Item) : DrainOp Item → Prop
  | .take k | .finish k | .abandon k => k < drain.held.length
  | _ => True

/-- All items of which nobody has disposed. -/
def items (drain : Drain Item) : List Item := drain.waiting ++ drain.held.flatten

def added : DrainOp Item → List Item
  | .put item => [item]
  | .enter | .take _ | .finish _ | .abandon _ => []

/-- The item that the operation deals with. -/
def finished (drain : Drain Item) : DrainOp Item → List Item
  | .finish k => (drain.holding k).head?.toList
  | .put _ | .enter | .take _ | .abandon _ => []

/-- The items that go with an abandoned taker. -/
def lost (drain : Drain Item) : DrainOp Item → List Item
  | .abandon k => drain.holding k
  | .put _ | .enter | .take _ | .finish _ => []

/-- The taker's part of what is held, brought to the front. -/
theorem flatten_perm {held : List (List Item)} {k : Nat} (inside : k < held.length) :
    held.flatten.Perm ((held[k]?).getD [] ++ (held.set k []).flatten) := by
  induction held generalizing k with
  | nil => cases inside
  | cons first later inductionHypothesis =>
      cases k with
      | zero => exact .refl _
      | succ k =>
          have rest := inductionHypothesis (Nat.lt_of_succ_lt_succ inside)
          rw [List.set_cons_succ, List.flatten_cons, List.flatten_cons, List.getElem?_cons_succ]
          refine (rest.append_left first).trans ?_
          rw [← List.append_assoc, ← List.append_assoc]
          exact List.perm_append_comm.append_right _

theorem flatten_set_perm {held : List (List Item)} {k : Nat} (inside : k < held.length)
    (now : List Item) : (held.set k now).flatten.Perm (now ++ (held.set k []).flatten) := by
  have replaced : k < (held.set k now).length := by rwa [List.length_set]
  have front := flatten_perm replaced
  rwa [List.getElem?_set_self inside, Option.getD_some, List.set_set] at front

/-- An operation disposes of what it deals with and of what it loses, and adds what it puts. -/
theorem items_apply {drain : Drain Item} {op : DrainOp Item} (enabled : drain.Enabled op) :
    ((drain.apply op).items ++ (drain.finished op ++ drain.lost op)).Perm
      (drain.items ++ added op) := by
  cases op with
  | put item =>
      rw [items, items, apply, finished, lost, added, List.append_nil, List.append_nil,
        List.append_assoc, List.append_assoc]
      exact List.perm_append_comm.append_left _
  | enter => simp [items, apply, finished, lost, added]
  | take k =>
      rw [items, items, apply, finished, lost, added, List.append_nil, List.append_nil,
        List.append_nil, List.nil_append]
      refine (flatten_set_perm enabled _).trans ?_
      refine .trans ?_ ((flatten_perm enabled).append_left _).symm
      rw [holding, ← List.append_assoc]
      exact List.perm_append_comm.append_right _
  | finish k =>
      rw [items, items, apply, finished, lost, added, List.append_nil, List.append_nil,
        List.append_assoc]
      refine List.Perm.append_left _ ?_
      refine .trans ?_ (flatten_perm enabled).symm
      refine ((flatten_set_perm enabled _).append_right _).trans ?_
      rw [← holding]
      cases drain.holding k with
      | nil => simp
      | cons item later =>
          rw [List.tail_cons, List.head?_cons, Option.toList_some, List.append_assoc]
          exact (List.perm_append_comm.append_left later).trans List.perm_middle
  | abandon k =>
      rw [items, items, apply, finished, lost, added, List.append_nil, List.nil_append,
        List.append_assoc]
      exact (List.perm_append_comm.trans (flatten_perm enabled).symm).append_left _

end Drain

/-! ## Components that have such a list -/

section Runs

variable {State : Type u} {Label : Type v} {Item : Type w}
  (step : State → Label → Option State) (drainOf : State → Drain Item)
  (opOf : State → Label → Option (DrainOp Item))

/-- The steps of the component change its list by these operations and by nothing else. -/
def DrivesDrain : Prop :=
  ∀ state label next, step state label = some next →
    (∀ op ∈ opOf state label, (drainOf state).Enabled op) ∧
      drainOf next = ((opOf state label).map (drainOf state).apply).getD (drainOf state)

/-- The items that a step puts on the list. -/
def addedAt (state : State) (label : Label) : List Item :=
  ((opOf state label).map Drain.added).getD []

/-- The item that a step deals with. -/
def finishedAt (state : State) (label : Label) : List Item :=
  ((opOf state label).map (drainOf state).finished).getD []

/-- The items that are lost with an abandoned taker. -/
def lostAt (state : State) (label : Label) : List Item :=
  ((opOf state label).map (drainOf state).lost).getD []

variable {step drainOf opOf}

theorem items_of_step (drives : DrivesDrain step drainOf opOf) {state next : State} {label : Label}
    (taken : step state label = some next) :
    ((drainOf next).items ++ (finishedAt drainOf opOf state label ++ lostAt drainOf opOf state label)
      ).Perm ((drainOf state).items ++ addedAt opOf state label) := by
  rcases drives state label next taken with ⟨enabled, same⟩
  rw [same, finishedAt, lostAt, addedAt]
  cases performed : opOf state label with
  | none => exact .refl _
  | some op => exact Drain.items_apply (enabled op performed)

/-- In every run each item that was there or was put on the list is still there, or it was dealt
with once, or it was lost with an abandoned taker. -/
theorem items_of_run (drives : DrivesDrain step drainOf opOf) {start final : State}
    {labels : List Label} (reached : run step start labels = some final) :
    ((drainOf final).items ++ (emitted step (finishedAt drainOf opOf) start labels ++
        emitted step (lostAt drainOf opOf) start labels)).Perm
      ((drainOf start).items ++ emitted step (addedAt opOf) start labels) := by
  refine history_invariant (fun past state =>
    ((drainOf state).items ++ (emitted step (finishedAt drainOf opOf) start past ++
        emitted step (lostAt drainOf opOf) start past)).Perm
      ((drainOf start).items ++ emitted step (addedAt opOf) start past)) (.refl _) ?_ reached
  intro past state label next arrived before taken
  have after := items_of_step drives taken
  rw [emitted_concat arrived, emitted_concat arrived, emitted_concat arrived]
  generalize emitted step (finishedAt drainOf opOf) start past = finished at before ⊢
  generalize emitted step (lostAt drainOf opOf) start past = lost at before ⊢
  generalize emitted step (addedAt opOf) start past = added at before ⊢
  rw [← Multiset.coe_eq_coe] at before after ⊢
  simp only [← Multiset.coe_add] at before after ⊢
  rw [add_add_add_comm, add_comm (finished + lost : Multiset Item), ← add_assoc, after,
    add_right_comm, before, add_assoc]

end Runs

end Library
end QomicexConnector
