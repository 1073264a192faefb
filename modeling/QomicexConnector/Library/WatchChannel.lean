import QomicexConnector.Library.LabelledRun

namespace QomicexConnector
namespace Library

universe u v w

/-!
# Watch channels

A watch channel keeps the last value sent to it, and each receiver shows the value
kept.  Sending to a channel without a receiver fails and keeps the old value; a
receiver obtained later shows that old value.

What a channel shows is therefore the last value that was sent while there was a
receiver.  `value_of_run` states this for every component that has a channel in its
state, whatever else its steps do.
-/

/-- The value kept, and how many receivers there are. -/
structure Watch (Value : Type u) where
  value : Value
  receivers : Nat
  deriving DecidableEq

namespace Watch

variable {Value : Type u}

/-- The sending half of a new channel, whose first receiver is dropped. -/
def sender (value : Value) : Watch Value := ⟨value, 0⟩

/-- Send a value; without a receiver it is lost. -/
def send (value : Value) (watch : Watch Value) : Watch Value :=
  if 0 < watch.receivers then { watch with value := value } else watch

def subscribe (watch : Watch Value) : Watch Value :=
  { watch with receivers := watch.receivers + 1 }

def dropReceiver (watch : Watch Value) : Watch Value :=
  { watch with receivers := watch.receivers - 1 }

end Watch

/-- What can be done to a channel. -/
inductive WatchOp (Value : Type u) where
  | send (value : Value)
  | subscribe
  | dropReceiver

namespace WatchOp

variable {Value : Type u}

def apply (watch : Watch Value) : WatchOp Value → Watch Value
  | send value => watch.send value
  | subscribe => watch.subscribe
  | dropReceiver => watch.dropReceiver

/-- The value that the operation brings to a receiver. -/
def heard (watch : Watch Value) : WatchOp Value → Option Value
  | send value => if 0 < watch.receivers then some value else none
  | subscribe => none
  | dropReceiver => none

theorem value_apply (watch : Watch Value) (op : WatchOp Value) :
    (op.apply watch).value = (op.heard watch).getD watch.value := by
  cases op with
  | send value =>
      rw [apply, heard, Watch.send]
      split <;> rfl
  | subscribe => rfl
  | dropReceiver => rfl

end WatchOp

section Runs

variable {State : Type u} {Label : Type v} {Value : Type w}
  (step : State → Label → Option State) (channelOf : State → Watch Value)
  (opOf : State → Label → Option (WatchOp Value))

/-- The steps of the component change its channel by these operations and by nothing else. -/
def DrivesChannel : Prop :=
  ∀ state label next, step state label = some next →
    channelOf next = ((opOf state label).map (WatchOp.apply (channelOf state))).getD
      (channelOf state)

/-- The value that a step brings to a receiver. -/
def heardAt (state : State) (label : Label) : List Value :=
  ((opOf state label).bind (WatchOp.heard (channelOf state))).toList

/-- The last value that found a receiver, or else the one the channel began with. -/
def lastHeard (start : State) (labels : List Label) : Value :=
  (emitted step (heardAt channelOf opOf) start labels).getLast?.getD (channelOf start).value

variable {step channelOf opOf}

theorem value_of_step (drives : DrivesChannel step channelOf opOf) {state next : State}
    {label : Label} (taken : step state label = some next) :
    (channelOf next).value =
      (heardAt channelOf opOf state label).getLast?.getD (channelOf state).value := by
  rw [drives state label next taken, heardAt]
  cases opOf state label with
  | none => rfl
  | some op =>
      rw [Option.map_some, Option.getD_some, Option.bind_some, WatchOp.value_apply]
      cases op.heard (channelOf state) <;> rfl

theorem lastHeard_concat {start middle : State} {labels : List Label}
    (reached : run step start labels = some middle) (label : Label) :
    lastHeard step channelOf opOf start (labels ++ [label]) =
      (heardAt channelOf opOf middle label).getLast?.getD
        (lastHeard step channelOf opOf start labels) := by
  rw [lastHeard, emitted_concat reached, List.getLast?_append]
  cases (heardAt channelOf opOf middle label).getLast? <;> rfl

/-- After a run the channel shows the last value that found a receiver. -/
theorem value_of_run (drives : DrivesChannel step channelOf opOf) {start final : State}
    {labels : List Label} (reached : run step start labels = some final) :
    (channelOf final).value = lastHeard step channelOf opOf start labels := by
  refine history_invariant (fun past state =>
    (channelOf state).value = lastHeard step channelOf opOf start past) rfl ?_ reached
  intro past state label next arrived holds taken
  rw [value_of_step drives taken, lastHeard_concat arrived, holds]

/-- If only one value is ever sent, the channel shows it exactly when it did so at the
start or some sending found a receiver. -/
theorem value_of_run_single (drives : DrivesChannel step channelOf opOf) {value : Value}
    (single : ∀ state label sent, opOf state label = some (.send sent) → sent = value)
    {start final : State} {labels : List Label}
    (reached : run step start labels = some final) :
    (channelOf final).value = value ↔
      (channelOf start).value = value ∨
        emitted step (heardAt channelOf opOf) start labels ≠ [] := by
  have constant : ∀ heard ∈ emitted step (heardAt channelOf opOf) start labels,
      heard = value := by
    intro heard listed
    rcases mem_emitted.mp listed with ⟨past, label, later, state, _, _, shown⟩
    rcases Option.bind_eq_some_iff.mp (Option.mem_toList.mp shown) with ⟨op, performed, result⟩
    cases op with
    | send sent =>
        rw [WatchOp.heard] at result
        split at result <;> cases result
        exact single state label _ performed
    | subscribe => cases result
    | dropReceiver => cases result
  rw [value_of_run drives reached, lastHeard]
  generalize emitted step (heardAt channelOf opOf) start labels = heard at constant
  cases heard with
  | nil => simp
  | cons first later =>
      have told := constant _ (List.getLast_mem (List.cons_ne_nil first later))
      rw [List.getLast?_eq_some_getLast (List.cons_ne_nil first later), Option.getD_some]
      exact ⟨fun _ => Or.inr (List.cons_ne_nil _ _), fun _ => told⟩

end Runs

end Library
end QomicexConnector
