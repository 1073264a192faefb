import Mathlib.Data.List.Basic

namespace QomicexConnector
namespace Library

/-!
# Waking those who wait

A `Notify` hands out futures, and `notifyWaiters` wakes the futures handed out so far, whether
or not anybody has begun to wait for them.  It keeps nothing for the futures to come.

The law says this about a history of calls: a future is woken exactly if `notifyWaiters` is
among the calls made after it was handed out.
-/

/-- The operations, and whether a future is woken. -/
structure Notify (State Future : Type) where
  new : State
  notified : State → State × Future
  notifyWaiters : State → State
  woken : State → Future → Bool

inductive NotifyCall where
  | notified
  | notifyWaiters
  deriving DecidableEq

namespace Notify

variable {State Future : Type} (notify : Notify State Future)

def call (state : State) : NotifyCall → State
  | .notified => (notify.notified state).1
  | .notifyWaiters => notify.notifyWaiters state

/-- The state after these calls. -/
def after (calls : List NotifyCall) : State := calls.foldl notify.call notify.new

theorem after_concat (calls : List NotifyCall) (last : NotifyCall) :
    notify.after (calls ++ [last]) = notify.call (notify.after calls) last := by
  rw [after, List.foldl_append, List.foldl_cons, List.foldl_nil, after]

/-- The future was handed out in the course of these calls, and then came the later ones. -/
def HandedOut (calls : List NotifyCall) (future : Future) (later : List NotifyCall) : Prop :=
  ∃ past, calls = past ++ .notified :: later ∧ future = (notify.notified (notify.after past)).2

/-- The futures that are woken are those after which `notifyWaiters` was called. -/
structure WakesEarlier : Prop where
  woken_iff : ∀ past later,
    notify.woken (notify.after (past ++ .notified :: later))
        (notify.notified (notify.after past)).2 = true ↔
      .notifyWaiters ∈ later

section History

variable {notify} {calls later : List NotifyCall} {future : Future}

theorem WakesEarlier.woken_iff_of_handedOut (laws : notify.WakesEarlier)
    (handed : notify.HandedOut calls future later) :
    notify.woken (notify.after calls) future = true ↔ .notifyWaiters ∈ later := by
  rcases handed with ⟨past, rfl, rfl⟩
  exact laws.woken_iff past later

theorem HandedOut.append (handed : notify.HandedOut calls future later)
    (more : List NotifyCall) : notify.HandedOut (calls ++ more) future (later ++ more) := by
  rcases handed with ⟨past, rfl, rfl⟩
  refine ⟨past, ?_, rfl⟩
  rw [List.append_assoc, List.cons_append]

/-- A future that is handed out by the last call. -/
theorem handedOut_last (calls : List NotifyCall) :
    notify.HandedOut (calls ++ [.notified]) (notify.notified (notify.after calls)).2 [] :=
  ⟨calls, rfl, rfl⟩

theorem HandedOut.mem (handed : notify.HandedOut calls future later) {call : NotifyCall}
    (made : call ∈ later) : call ∈ calls := by
  rcases handed with ⟨past, rfl, _⟩
  apply List.mem_append_right
  exact List.mem_cons_of_mem _ made

end History

/-! ## Counting the calls -/

/-- A future remembers how often `notifyWaiters` had been called, and is woken when that number
is no longer right. -/
def counting : Notify Nat Nat where
  new := 0
  notified calls := (calls, calls)
  notifyWaiters calls := calls + 1
  woken calls future := calls != future

theorem foldl_counting (start : Nat) (calls : List NotifyCall) :
    calls.foldl counting.call start = start + calls.count .notifyWaiters := by
  induction calls generalizing start with
  | nil => rfl
  | cons first later inductionHypothesis =>
      rw [List.foldl_cons, inductionHypothesis]
      cases first with
      | notified => simp [call, counting]
      | notifyWaiters =>
          simp only [call, counting, List.count_cons_self]
          omega

theorem counting_wakesEarlier : counting.WakesEarlier where
  woken_iff := by
    intro past later
    have whole : counting.after (past ++ .notified :: later) =
        counting.after past + later.count .notifyWaiters := by
      rw [after, List.foldl_append, List.foldl_cons, foldl_counting]
      rfl
    change (counting.after (past ++ .notified :: later) != counting.after past) = true ↔ _
    rw [whole, bne_iff_ne, ← List.count_pos_iff]
    omega

end Notify

end Library
end QomicexConnector
