import QomicexConnector.Library.WatchChannel
import QomicexConnector.Center.PlayerList

namespace QomicexConnector
namespace Center

open Library

/-!
# Notifying the subscribers of the player list

Every call that changes the list ends with `notify_players_changed`: it takes a
snapshot of the list and sends it to the channel of `players_changed_rx`.  The
change, the snapshot and the sending are three critical sections, and connections,
the consumer of disconnect events and the caller run such calls at the same time.

A snapshot may be sent before anyone has subscribed, after the list has changed
again, or when the lock could not be read; a receiver may then show another list
after all calls have returned.  Where the calls keep clear of this it never does.
-/

/-- A call that changes the list and then notifies: `handle_player_ping`, a
`player_ping` request, a disconnect event or `remove_player`, or the end of `start`. -/
inductive NotifyingCall where
  | update (update : PlayerUpdate)
  | enlistHost (entry : PlayerInfo)

def NotifyingCall.change : NotifyingCall → List PlayerInfo → List PlayerInfo
  | .update made, players => made.apply players
  | .enlistHost entry, players => players ++ [entry]

/-- Where a call stands. -/
inductive CallPhase where
  | changing (call : NotifyingCall)
  | reading
  | sending (snapshot : List PlayerInfo)
  | returned

/-- The list, the channel and the calls made so far. -/
structure Notifications where
  players : List PlayerInfo
  playersChanged : Watch (List PlayerInfo)
  calls : List CallPhase

/-- `ScaffoldingCenter::new` drops the receiver the channel comes with. -/
def Notifications.new : Notifications := ⟨[], Watch.sender [], []⟩

/-- The snapshot of `notify_players_changed`. -/
def snapshotPlayers (attempts : Nat → Bool) (players : List PlayerInfo) : List PlayerInfo :=
  (withPlayersRead attempts players).getD []

inductive NotifyStep where
  | call (call : NotifyingCall)
  | change (i : Nat)
  | read (i : Nat) (attempts : Nat → Bool)
  | send (i : Nat)
  | playersChangedRx
  | dropReceiver

def notifyStep (state : Notifications) : NotifyStep → Option Notifications
  | .call call => some { state with calls := state.calls ++ [.changing call] }
  | .change i =>
      match state.calls[i]? with
      | some (.changing call) =>
          some { state with
            players := call.change state.players
            calls := state.calls.set i .reading }
      | _ => none
  | .read i attempts =>
      match state.calls[i]? with
      | some .reading =>
          some { state with
            calls := state.calls.set i (.sending (snapshotPlayers attempts state.players)) }
      | _ => none
  | .send i =>
      match state.calls[i]? with
      | some (.sending snapshot) =>
          some { state with
            playersChanged := state.playersChanged.send snapshot
            calls := state.calls.set i .returned }
      | _ => none
  | .playersChangedRx =>
      some { state with playersChanged := state.playersChanged.subscribe }
  | .dropReceiver =>
      if 0 < state.playersChanged.receivers then
        some { state with playersChanged := state.playersChanged.dropReceiver }
      else none

/-- The steps, one constructor for each way to take one. -/
inductive NotifyMove (state : Notifications) : NotifyStep → Notifications → Prop
  | call (call : NotifyingCall) :
      NotifyMove state (.call call) { state with calls := state.calls ++ [.changing call] }
  | change {i : Nat} {call : NotifyingCall} (listed : state.calls[i]? = some (.changing call)) :
      NotifyMove state (.change i)
        { state with
          players := call.change state.players
          calls := state.calls.set i .reading }
  | read {i : Nat} (listed : state.calls[i]? = some .reading) (attempts : Nat → Bool) :
      NotifyMove state (.read i attempts)
        { state with
          calls := state.calls.set i (.sending (snapshotPlayers attempts state.players)) }
  | send {i : Nat} {snapshot : List PlayerInfo}
      (listed : state.calls[i]? = some (.sending snapshot)) :
      NotifyMove state (.send i)
        { state with
          playersChanged := state.playersChanged.send snapshot
          calls := state.calls.set i .returned }
  | playersChangedRx :
      NotifyMove state .playersChangedRx
        { state with playersChanged := state.playersChanged.subscribe }
  | dropReceiver :
      NotifyMove state .dropReceiver
        { state with playersChanged := state.playersChanged.dropReceiver }

theorem notifyStep_eq_some {state next : Notifications} {label : NotifyStep}
    (taken : notifyStep state label = some next) : NotifyMove state label next := by
  unfold notifyStep at taken
  split at taken
  case h_1 call => cases taken; exact .call call
  case h_5 => cases taken; exact .playersChangedRx
  all_goals split at taken <;> cases taken
  · exact .change ‹_›
  · exact .read ‹_› _
  · exact .send ‹_›
  · exact .dropReceiver

/-! ## Convergence -/

/-- No call is in progress. -/
def Notifications.Quiescent (state : Notifications) : Prop :=
  ∀ phase ∈ state.calls, phase = .returned

/-- If no call is in progress, receivers show the list: those obtained earlier, and one
that is obtained now. -/
def Notifications.Converged (state : Notifications) : Prop :=
  state.Quiescent →
    state.playersChanged.value = state.players ∧
      state.playersChanged.subscribe.value = state.players

/-- A call that begins, or goes on without having sent, is in progress. -/
theorem not_quiescent_set {calls : List CallPhase} {i : Nat} {before phase : CallPhase}
    (listed : calls[i]? = some before) (inProgress : phase ≠ .returned) :
    ¬∀ other ∈ calls.set i phase, other = .returned := by
  intro ended
  rcases List.getElem?_eq_some_iff.mp listed with ⟨inside, _⟩
  exact inProgress (ended phase (List.mem_set inside phase))

/-- A ping of a new player that obtains the lock. -/
def sampleCall (machineId : String) : NotifyingCall :=
  .update (.ping (fun _ => true) ⟨"Guest", machineId, none, "qml", .guest⟩)

/-- A change is not shown by a receiver obtained after it, and of two changes the
earlier snapshot is shown if it is sent last. -/
theorem notifications_lost_and_overtaken :
    (∃ state, run notifyStep Notifications.new
        [.call (sampleCall "g1"), .change 0, .read 0 fun _ => true, .send 0,
          .playersChangedRx] = some state ∧ ¬state.Converged) ∧
      ∃ state, run notifyStep Notifications.new
        [.playersChangedRx, .call (sampleCall "g1"), .call (sampleCall "g2"), .change 0,
          .read 0 fun _ => true, .change 1, .read 1 fun _ => true, .send 1,
          .send 0] = some state ∧ ¬state.Converged := by
  have ended : ∀ calls : List CallPhase, calls = [.returned] ∨ calls = [.returned, .returned] →
      ∀ phase ∈ calls, phase = .returned := by
    rintro calls (rfl | rfl) phase listed <;> simpa using listed
  constructor
  · refine ⟨_, rfl, fun converged => ?_⟩
    have shown := (converged (ended _ (Or.inl rfl))).1
    exact absurd (congrArg List.length shown) (by decide)
  · refine ⟨_, rfl, fun converged => ?_⟩
    have shown := (converged (ended _ (Or.inr rfl))).1
    exact absurd (congrArg List.length shown) (by decide)

/-! ## Calls that do not overtake each other -/

/-- The call has a snapshot that it has not sent. -/
def CallPhase.waiting : CallPhase → Bool
  | .sending _ => true
  | _ => false

/-- While a snapshot waits to be sent the list does not change, a snapshot obtains the
lock, and whoever sends finds a receiver. -/
def Orderly (state : Notifications) : NotifyStep → Prop
  | .change _ => ∀ phase ∈ state.calls, phase.waiting = false
  | .read _ attempts => acquires lockRetryLimit attempts = true
  | .send _ => 0 < state.playersChanged.receivers
  | _ => True

instance (state : Notifications) (label : NotifyStep) : Decidable (Orderly state label) :=
  match label with
  | .change _ => inferInstanceAs (Decidable (∀ phase ∈ state.calls, phase.waiting = false))
  | .read _ attempts => inferInstanceAs (Decidable (acquires lockRetryLimit attempts = true))
  | .send _ => inferInstanceAs (Decidable (0 < state.playersChanged.receivers))
  | .call _ | .playersChangedRx | .dropReceiver => isTrue trivial

/-- A snapshot that waits to be sent is of the current list. -/
def Notifications.Fresh (state : Notifications) : Prop :=
  ∀ snapshot, .sending snapshot ∈ state.calls → snapshot = state.players

theorem fresh_step {state next : Notifications} {label : NotifyStep} (fresh : state.Fresh)
    (orderly : Orderly state label) (taken : notifyStep state label = some next) :
    next.Fresh := by
  intro snapshot waiting
  cases notifyStep_eq_some taken with
  | call call =>
      rcases List.mem_append.mp waiting with old | new
      · exact fresh snapshot old
      · rw [List.mem_singleton] at new
        cases new
  | change listed =>
      rcases List.mem_or_eq_of_mem_set waiting with old | new
      · cases orderly (.sending snapshot) old
      · cases new
  | read listed attempts =>
      have acquired : acquires lockRetryLimit attempts = true := orderly
      rcases List.mem_or_eq_of_mem_set waiting with old | new
      · exact fresh snapshot old
      · cases new
        rw [snapshotPlayers, withPlayersRead, if_pos acquired, Option.getD_some]
  | send listed =>
      rcases List.mem_or_eq_of_mem_set waiting with old | new
      · exact fresh snapshot old
      · cases new
  | playersChangedRx => exact fresh snapshot waiting
  | dropReceiver => exact fresh snapshot waiting

/-- A step in order leaves the current list with the receivers when it is the last. -/
theorem shown_step {state next : Notifications} {label : NotifyStep} (fresh : state.Fresh)
    (shown : state.Quiescent → state.playersChanged.value = state.players)
    (orderly : Orderly state label) (taken : notifyStep state label = some next)
    (quiescent : next.Quiescent) : next.playersChanged.value = next.players := by
  cases notifyStep_eq_some taken with
  | call call =>
      have inProgress := quiescent (.changing call) (List.mem_append_right _ List.mem_cons_self)
      cases inProgress
  | change listed => exact absurd quiescent (not_quiescent_set listed CallPhase.noConfusion)
  | read listed attempts =>
      exact absurd quiescent (not_quiescent_set listed CallPhase.noConfusion)
  | @send i snapshot listed =>
      have receiver : 0 < state.playersChanged.receivers := orderly
      have current : snapshot = state.players := fresh snapshot (List.mem_of_getElem? listed)
      rw [Watch.send, if_pos receiver]
      exact current
  | playersChangedRx => exact shown quiescent
  | dropReceiver => exact shown quiescent

/-- In orderly runs receivers show the list whenever no call is in progress. -/
theorem notifications_converge_orderly {labels : List NotifyStep}
    (orderly : EveryStep notifyStep Notifications.new (fun _ => Orderly) labels) :
    EveryState notifyStep Notifications.new Notifications.Converged labels := by
  intro past later final split reached
  rw [split] at orderly
  suffices holds : final.Quiescent → final.playersChanged.value = final.players from
    fun quiescent => ⟨holds quiescent, holds quiescent⟩
  have invariant : final.Fresh ∧
      (final.Quiescent → final.playersChanged.value = final.players) := by
    refine run_invariant (fun _ state => state.Fresh ∧
      (state.Quiescent → state.playersChanged.value = state.players)) ⟨?_, fun _ => rfl⟩ ?_
      orderly.before reached
    · intro snapshot waiting
      cases waiting
    · rintro before state label next _ ⟨fresh, shown⟩ allowed taken
      exact ⟨fresh_step fresh allowed taken, shown_step fresh shown allowed taken⟩
  exact invariant.2

/-- Two changes overlap, and neither comes between the snapshot of the other and its sending. -/
def orderlyCalls : List NotifyStep :=
  [.playersChangedRx, .call (sampleCall "g1"), .call (sampleCall "g2"), .change 0, .change 1,
    .read 1 fun _ => true, .send 1, .read 0 fun _ => true, .send 0]

theorem notifications_converge_orderlyCalls :
    (run notifyStep Notifications.new orderlyCalls).isSome = true ∧
      EveryState notifyStep Notifications.new Notifications.Converged orderlyCalls :=
  ⟨by decide, notifications_converge_orderly (by decide +kernel)⟩

end Center
end QomicexConnector
