import QomicexConnector.Library.Drain
import Mathlib.Tactic.Abel

namespace QomicexConnector
namespace Client

open Library

/-!
# Closing all rooms

`create_room` and `join_room` put what they made on the lists of the client, each with a lock of
its own; `close_all` takes each list over under its lock and then closes or leaves room by room,
with no lock held.  Rooms may be made while a `close_all` is under way, several calls of it may
run at once, and a caller may drop one before it returns.

Rooms are numbered in the order in which they are put on a list.
-/

/-- Where a call of `close_all` stands, with the rooms it has taken over and not yet ended. -/
inductive CloseAllPhase where
  | started
  | closing (centers : List Nat)
  | leaving (guests : List Nat)
  | returned
  | dropped
  deriving DecidableEq

namespace CloseAllPhase

def running : CloseAllPhase → Bool
  | started | closing _ | leaving _ => true
  | returned | dropped => false

def centersHeld : CloseAllPhase → List Nat
  | closing centers => centers
  | started | leaving _ | returned | dropped => []

def guestsHeld : CloseAllPhase → List Nat
  | leaving guests => guests
  | started | closing _ | returned | dropped => []

def tookCenters : CloseAllPhase → Bool
  | closing _ | leaving _ | returned => true
  | started | dropped => false

def tookGuests : CloseAllPhase → Bool
  | leaving _ | returned => true
  | started | closing _ | dropped => false

theorem held_of_not_running {phase : CloseAllPhase} (ended : phase.running = false) :
    phase.centersHeld = [] ∧ phase.guestsHeld = [] := by
  cases phase with
  | started | closing _ | leaving _ => cases ended
  | returned | dropped => exact ⟨rfl, rfl⟩

end CloseAllPhase

/-- `rooms` counts those made so far. -/
structure RoomLists where
  rooms : Nat
  centers : List Nat
  guests : List Nat
  calls : List CloseAllPhase

/-- `createRoom` and `joinRoom` stand for the last step of a call that succeeds. -/
inductive RoomListStep where
  | createRoom
  | joinRoom
  | closeAll
  | takeCenters (k : Nat)
  | close (k : Nat)
  | takeGuests (k : Nat)
  | leave (k : Nat)
  | finish (k : Nat)
  | dropCall (k : Nat)

namespace RoomLists

def new : RoomLists := ⟨0, [], [], []⟩

/-- An error of `close` is written to the log and the loop goes on. -/
def step (lists : RoomLists) : RoomListStep → Option RoomLists
  | .createRoom =>
      some { lists with rooms := lists.rooms + 1, centers := lists.centers ++ [lists.rooms] }
  | .joinRoom =>
      some { lists with rooms := lists.rooms + 1, guests := lists.guests ++ [lists.rooms] }
  | .closeAll => some { lists with calls := lists.calls ++ [.started] }
  | .takeCenters k =>
      match lists.calls[k]? with
      | some .started =>
          some { lists with centers := [], calls := lists.calls.set k (.closing lists.centers) }
      | _ => none
  | .close k =>
      match lists.calls[k]? with
      | some (.closing (_ :: later)) =>
          some { lists with calls := lists.calls.set k (.closing later) }
      | _ => none
  | .takeGuests k =>
      match lists.calls[k]? with
      | some (.closing []) =>
          some { lists with guests := [], calls := lists.calls.set k (.leaving lists.guests) }
      | _ => none
  | .leave k =>
      match lists.calls[k]? with
      | some (.leaving (_ :: later)) =>
          some { lists with calls := lists.calls.set k (.leaving later) }
      | _ => none
  | .finish k =>
      match lists.calls[k]? with
      | some (.leaving []) => some { lists with calls := lists.calls.set k .returned }
      | _ => none
  | .dropCall k =>
      match lists.calls[k]? with
      | some phase =>
          if phase.running then some { lists with calls := lists.calls.set k .dropped } else none
      | none => none

/-- The steps, one constructor for each way to take one. -/
inductive Move (lists : RoomLists) : RoomListStep → RoomLists → Prop
  | createRoom :
      Move lists .createRoom
        { lists with rooms := lists.rooms + 1, centers := lists.centers ++ [lists.rooms] }
  | joinRoom :
      Move lists .joinRoom
        { lists with rooms := lists.rooms + 1, guests := lists.guests ++ [lists.rooms] }
  | closeAll : Move lists .closeAll { lists with calls := lists.calls ++ [.started] }
  | takeCenters {k : Nat} (phase : lists.calls[k]? = some .started) :
      Move lists (.takeCenters k)
        { lists with centers := [], calls := lists.calls.set k (.closing lists.centers) }
  | close {k center : Nat} {later : List Nat}
      (phase : lists.calls[k]? = some (.closing (center :: later))) :
      Move lists (.close k) { lists with calls := lists.calls.set k (.closing later) }
  | takeGuests {k : Nat} (phase : lists.calls[k]? = some (.closing [])) :
      Move lists (.takeGuests k)
        { lists with guests := [], calls := lists.calls.set k (.leaving lists.guests) }
  | leave {k guest : Nat} {later : List Nat}
      (phase : lists.calls[k]? = some (.leaving (guest :: later))) :
      Move lists (.leave k) { lists with calls := lists.calls.set k (.leaving later) }
  | finish {k : Nat} (phase : lists.calls[k]? = some (.leaving [])) :
      Move lists (.finish k) { lists with calls := lists.calls.set k .returned }
  | dropCall {k : Nat} {phase : CloseAllPhase} (listed : lists.calls[k]? = some phase)
      (running : phase.running = true) :
      Move lists (.dropCall k) { lists with calls := lists.calls.set k .dropped }

theorem step_eq_some {lists next : RoomLists} {label : RoomListStep}
    (taken : lists.step label = some next) : Move lists label next := by
  cases label with
  | createRoom => cases taken; exact .createRoom
  | joinRoom => cases taken; exact .joinRoom
  | closeAll => cases taken; exact .closeAll
  | takeCenters k =>
      rw [step] at taken
      split at taken <;> cases taken
      exact .takeCenters ‹_›
  | close k =>
      rw [step] at taken
      split at taken <;> cases taken
      exact .close ‹_›
  | takeGuests k =>
      rw [step] at taken
      split at taken <;> cases taken
      exact .takeGuests ‹_›
  | leave k =>
      rw [step] at taken
      split at taken <;> cases taken
      exact .leave ‹_›
  | finish k =>
      rw [step] at taken
      split at taken <;> cases taken
      exact .finish ‹_›
  | dropCall k =>
      rw [step] at taken
      split at taken
      · split at taken <;> cases taken
        exact .dropCall ‹_› ‹_›
      · cases taken

/-! ## Both lists are taken over whole -/

def centerDrain (lists : RoomLists) : Drain Nat :=
  ⟨lists.centers, lists.calls.map CloseAllPhase.centersHeld⟩

def guestDrain (lists : RoomLists) : Drain Nat :=
  ⟨lists.guests, lists.calls.map CloseAllPhase.guestsHeld⟩

def centerOp (lists : RoomLists) : RoomListStep → Option (DrainOp Nat)
  | .createRoom => some (.put lists.rooms)
  | .closeAll => some .enter
  | .takeCenters k => some (.take k)
  | .close k => some (.finish k)
  | .dropCall k => some (.abandon k)
  | .joinRoom | .takeGuests _ | .leave _ | .finish _ => none

def guestOp (lists : RoomLists) : RoomListStep → Option (DrainOp Nat)
  | .joinRoom => some (.put lists.rooms)
  | .closeAll => some .enter
  | .takeGuests k => some (.take k)
  | .leave k => some (.finish k)
  | .dropCall k => some (.abandon k)
  | .createRoom | .takeCenters _ | .close _ | .finish _ => none

section Drives

variable {lists : RoomLists} {k : Nat} {phase : CloseAllPhase} {held : CloseAllPhase → List Nat}

theorem holding_map (listed : lists.calls[k]? = some phase) (waiting : List Nat) :
    (Drain.mk waiting (lists.calls.map held)).holding k = held phase := by
  rw [Drain.holding, List.getElem?_map, listed]
  rfl

theorem enabled_map (listed : lists.calls[k]? = some phase) :
    k < (lists.calls.map held).length := by
  rw [List.length_map]
  exact (List.getElem?_eq_some_iff.mp listed).1

theorem map_set_unchanged (listed : lists.calls[k]? = some phase) {after : CloseAllPhase}
    (same : held after = held phase) : (lists.calls.set k after).map held = lists.calls.map held := by
  apply List.ext_getElem?
  intro j
  rw [List.getElem?_map, List.getElem?_map, getElem?_set_listed listed]
  split
  · next here => rw [here, listed, Option.map_some, Option.map_some, same]
  · rfl

end Drives

theorem drives_centers : DrivesDrain step centerDrain centerOp := by
  intro lists label next taken
  cases step_eq_some taken with
  | createRoom => exact ⟨fun op same => by cases same; trivial, rfl⟩
  | closeAll =>
      refine ⟨fun op same => by cases same; trivial, ?_⟩
      simp [centerDrain, centerOp, Drain.apply, CloseAllPhase.centersHeld]
  | takeCenters phase =>
      refine ⟨fun op same => by cases same; exact enabled_map phase, ?_⟩
      simp only [centerOp, Option.map_some, Option.getD_some, Drain.apply, centerDrain,
        holding_map phase, List.map_set]
      rfl
  | close phase =>
      refine ⟨fun op same => by cases same; exact enabled_map phase, ?_⟩
      simp only [centerOp, Option.map_some, Option.getD_some, Drain.apply, centerDrain,
        holding_map phase, List.map_set]
      rfl
  | dropCall listed running =>
      refine ⟨fun op same => by cases same; exact enabled_map listed, ?_⟩
      simp only [centerOp, Option.map_some, Option.getD_some, Drain.apply, centerDrain,
        List.map_set]
      rfl
  | joinRoom => exact ⟨fun op same => (by cases same), rfl⟩
  | takeGuests phase | leave phase | finish phase =>
      exact ⟨fun op same => (by cases same),
        congrArg (Drain.mk _) (map_set_unchanged phase rfl)⟩

theorem drives_guests : DrivesDrain step guestDrain guestOp := by
  intro lists label next taken
  cases step_eq_some taken with
  | joinRoom => exact ⟨fun op same => by cases same; trivial, rfl⟩
  | closeAll =>
      refine ⟨fun op same => by cases same; trivial, ?_⟩
      simp [guestDrain, guestOp, Drain.apply, CloseAllPhase.guestsHeld]
  | takeGuests phase =>
      refine ⟨fun op same => by cases same; exact enabled_map phase, ?_⟩
      simp only [guestOp, Option.map_some, Option.getD_some, Drain.apply, guestDrain,
        holding_map phase, List.map_set]
      rfl
  | leave phase =>
      refine ⟨fun op same => by cases same; exact enabled_map phase, ?_⟩
      simp only [guestOp, Option.map_some, Option.getD_some, Drain.apply, guestDrain,
        holding_map phase, List.map_set]
      rfl
  | dropCall listed running =>
      refine ⟨fun op same => by cases same; exact enabled_map listed, ?_⟩
      simp only [guestOp, Option.map_some, Option.getD_some, Drain.apply, guestDrain,
        List.map_set]
      rfl
  | createRoom => exact ⟨fun op same => (by cases same), rfl⟩
  | takeCenters phase | close phase | finish phase =>
      exact ⟨fun op same => (by cases same),
        congrArg (Drain.mk _) (map_set_unchanged phase rfl)⟩

/-! ## What becomes of the rooms -/

/-- The rooms whose `close` was called, in order. -/
def closedRooms (events : List RoomListStep) : List Nat :=
  emitted step (finishedAt centerDrain centerOp) new events

/-- The rooms whose `leave` was called, in order. -/
def leftRooms (events : List RoomListStep) : List Nat :=
  emitted step (finishedAt guestDrain guestOp) new events

/-- The rooms that a dropped call had taken over and not yet ended. -/
def lostRooms (events : List RoomListStep) : List Nat :=
  emitted step (lostAt centerDrain centerOp) new events ++
    emitted step (lostAt guestDrain guestOp) new events

/-- The rooms on the lists, and those that calls have taken over and not yet ended. -/
def inHand (lists : RoomLists) : List Nat :=
  lists.centerDrain.items ++ lists.guestDrain.items

/-- Every room was put on one of the lists once. -/
theorem added_rooms {events : List RoomListStep} {lists : RoomLists}
    (reached : run step new events = some lists) :
    (emitted step (addedAt centerOp) new events ++ emitted step (addedAt guestOp) new events).Perm
      (List.range lists.rooms) := by
  refine history_invariant (fun past lists =>
    (emitted step (addedAt centerOp) new past ++ emitted step (addedAt guestOp) new past).Perm
      (List.range lists.rooms)) (.refl _) ?_ reached
  intro past lists label next arrived before taken
  rw [emitted_concat arrived, emitted_concat arrived]
  cases step_eq_some taken with
  | createRoom =>
      change ((_ ++ [lists.rooms]) ++ (_ ++ [])).Perm (List.range (lists.rooms + 1))
      rw [List.append_nil, List.range_succ, List.append_assoc]
      refine .trans ?_ (before.append_right [lists.rooms])
      rw [List.append_assoc]
      exact List.perm_append_comm.append_left _
  | joinRoom =>
      change ((_ ++ []) ++ (_ ++ [lists.rooms])).Perm (List.range (lists.rooms + 1))
      rw [List.append_nil, List.range_succ, ← List.append_assoc]
      exact before.append_right [lists.rooms]
  | _ =>
      change ((_ ++ []) ++ (_ ++ [])).Perm (List.range lists.rooms)
      rw [List.append_nil, List.append_nil]
      exact before

/-- Each room is in hand, or it was ended, or it was lost, and only one of these. -/
theorem rooms_accounted {events : List RoomListStep} {lists : RoomLists}
    (reached : run step new events = some lists) :
    (lists.inHand ++ (closedRooms events ++ leftRooms events) ++ lostRooms events).Perm
      (List.range lists.rooms) := by
  have centers := items_of_run drives_centers reached
  have guests := items_of_run drives_guests reached
  refine .trans ?_ (added_rooms reached)
  rw [inHand, closedRooms, leftRooms, lostRooms]
  generalize emitted step (finishedAt centerDrain centerOp) new events = closed at centers ⊢
  generalize emitted step (lostAt centerDrain centerOp) new events = lostCenters at centers ⊢
  generalize emitted step (finishedAt guestDrain guestOp) new events = left at guests ⊢
  generalize emitted step (lostAt guestDrain guestOp) new events = lostGuests at guests ⊢
  rw [← Multiset.coe_eq_coe] at centers guests ⊢
  simp only [← Multiset.coe_add] at centers guests ⊢
  calc
    _ = (lists.centerDrain.items + (closed + lostCenters) : Multiset Nat) +
        (lists.guestDrain.items + (left + lostGuests)) := by abel
    _ = _ := by
      rw [centers, guests]
      exact congrArg₂ _ (zero_add _) (zero_add _)

/-! ## A call that returns -/

/-- No call of `close_all` is under way. -/
def Idle (lists : RoomLists) : Prop := ∀ phase ∈ lists.calls, phase.running = false

instance (lists : RoomLists) : Decidable lists.Idle :=
  inferInstanceAs (Decidable (∀ _ ∈ _, _))

theorem held_of_idle {lists : RoomLists} (idle : lists.Idle) :
    lists.inHand = lists.centers ++ lists.guests := by
  have none {held : CloseAllPhase → List Nat} (nothing : ∀ phase ∈ lists.calls, held phase = []) :
      (lists.calls.map held).flatten = [] := by
    rw [List.flatten_eq_nil_iff]
    rintro items listed
    rcases List.mem_map.mp listed with ⟨phase, member, rfl⟩
    exact nothing phase member
  rw [inHand, Drain.items, Drain.items, centerDrain, guestDrain,
    none fun phase member => (CloseAllPhase.held_of_not_running (idle phase member)).1,
    none fun phase member => (CloseAllPhase.held_of_not_running (idle phase member)).2,
    List.append_nil, List.append_nil]

/-- Where a list changes it is emptied or a new room is put on it. -/
theorem Move.younger {lists next : RoomLists} {label : RoomListStep}
    (move : Move lists label next) :
    lists.rooms ≤ next.rooms ∧
      (∀ room ∈ next.centers, room ∈ lists.centers ∨ lists.rooms ≤ room) ∧
      ∀ room ∈ next.guests, room ∈ lists.guests ∨ lists.rooms ≤ room := by
  have put {rooms : List Nat} :
      ∀ room ∈ rooms ++ [lists.rooms], room ∈ rooms ∨ lists.rooms ≤ room := by
    intro room listed
    exact (List.mem_append.mp listed).imp_right fun new =>
      Nat.le_of_eq (List.mem_singleton.mp new).symm
  cases move with
  | createRoom => exact ⟨Nat.le_succ _, put, fun _ => Or.inl⟩
  | joinRoom => exact ⟨Nat.le_succ _, fun _ => Or.inl, put⟩
  | takeCenters phase => exact ⟨Nat.le_refl _, nofun, fun _ => Or.inl⟩
  | takeGuests phase => exact ⟨Nat.le_refl _, fun _ => Or.inl, nofun⟩
  | _ => exact ⟨Nat.le_refl _, fun _ => Or.inl, fun _ => Or.inl⟩

/-- A call comes past the taking of a list only by taking it. -/
theorem Move.call {lists next : RoomLists} {label : RoomListStep} (move : Move lists label next)
    {k : Nat} {before : CloseAllPhase} (listed : lists.calls[k]? = some before) :
    ∃ after, next.calls[k]? = some after ∧
      (after.tookCenters = true → before.tookCenters = true ∨ next.centers = []) ∧
      (after.tookGuests = true → before.tookGuests = true ∨ next.guests = []) := by
  have goesOn {j : Nat} {phase after : CloseAllPhase} {calls : List CloseAllPhase}
      {centers guests : List Nat} (here : lists.calls[j]? = some phase)
      (set : calls = lists.calls.set j after)
      (takesCenters : after.tookCenters = true → phase.tookCenters = true ∨ centers = [])
      (takesGuests : after.tookGuests = true → phase.tookGuests = true ∨ guests = []) :
      ∃ now, calls[k]? = some now ∧
        (now.tookCenters = true → before.tookCenters = true ∨ centers = []) ∧
        (now.tookGuests = true → before.tookGuests = true ∨ guests = []) := by
    rw [set, getElem?_set_listed here]
    by_cases own : k = j
    · subst own
      cases listed.symm.trans here
      exact ⟨after, if_pos rfl, takesCenters, takesGuests⟩
    · exact ⟨before, (if_neg own).trans listed, Or.inl, Or.inl⟩
  cases move with
  | createRoom | joinRoom => exact ⟨before, listed, Or.inl, Or.inl⟩
  | closeAll =>
      rcases List.getElem?_eq_some_iff.mp listed with ⟨inside, _⟩
      exact ⟨before, (List.getElem?_append_left inside).trans listed, Or.inl, Or.inl⟩
  | takeCenters phase => exact goesOn phase rfl (fun _ => Or.inr rfl) nofun
  | close phase => exact goesOn phase rfl (fun _ => Or.inl rfl) nofun
  | takeGuests phase => exact goesOn phase rfl (fun _ => Or.inl rfl) fun _ => Or.inr rfl
  | leave phase | finish phase => exact goesOn phase rfl (fun _ => Or.inl rfl) fun _ => Or.inl rfl
  | dropCall here running => exact goesOn here rfl nofun nofun

/-- On a list that call `k` has taken over there are only rooms from number `first` on. -/
structure TakenOver (k first : Nat) (lists : RoomLists) : Prop where
  young : first ≤ lists.rooms
  call : ∃ phase, lists.calls[k]? = some phase ∧
    (phase.tookCenters = true → ∀ room ∈ lists.centers, first ≤ room) ∧
    (phase.tookGuests = true → ∀ room ∈ lists.guests, first ≤ room)

theorem TakenOver.step {k first : Nat} {lists next : RoomLists} {label : RoomListStep}
    (since : TakenOver k first lists) (taken : lists.step label = some next) :
    TakenOver k first next := by
  have move := step_eq_some taken
  rcases move.younger with ⟨grows, centers, guests⟩
  rcases since.call with ⟨before, listed, centersYoung, guestsYoung⟩
  rcases move.call listed with ⟨after, found, tookCenters, tookGuests⟩
  refine ⟨Nat.le_trans since.young grows, after, found, ?_, ?_⟩
  · intro took room member
    rcases tookCenters took with already | empty
    · rcases centers room member with old | new
      · exact centersYoung already room old
      · exact Nat.le_trans since.young new
    · rw [empty] at member
      cases member
  · intro took room member
    rcases tookGuests took with already | empty
    · rcases guests room member with old | new
      · exact guestsYoung already room old
      · exact Nat.le_trans since.young new
    · rw [empty] at member
      cases member

/-- The rooms that were there when a call began are on no list after it has returned. -/
theorem takenOver_of_returned {later : List RoomListStep} {before final : RoomLists}
    (went : run step before (.closeAll :: later) = some final)
    (returned : final.calls[before.calls.length]? = some .returned) :
    (∀ room ∈ final.centers, before.rooms ≤ room) ∧ ∀ room ∈ final.guests, before.rooms ≤ room := by
  rcases run_cons_eq_some.mp went with ⟨begun, taken, arrived⟩
  cases taken
  have since : TakenOver before.calls.length before.rooms final := by
    refine reachable_invariant ?_ (fun _ _ _ since taken => since.step taken) arrived
    exact ⟨Nat.le_refl _, .started, List.getElem?_concat_length, nofun, nofun⟩
  rcases since.call with ⟨phase, listed, centers, guests⟩
  cases returned.symm.trans listed
  exact ⟨centers rfl, guests rfl⟩

/-- Whatever the order of the steps, a room is closed or left at most once, and no room is ended
that is still on a list or still to be ended.  Where no call is dropped with rooms in its hands
and none is under way, every room that was there when a call began that has returned was ended. -/
theorem close_all_ends_rooms {events : List RoomListStep} {final : RoomLists}
    (reached : run step new events = some final) :
    (closedRooms events ++ leftRooms events).Nodup ∧
      (∀ room ∈ closedRooms events ++ leftRooms events,
        room < final.rooms ∧ room ∉ final.inHand ∧ room ∉ lostRooms events) ∧
      ∀ past later before, events = past ++ .closeAll :: later →
        run step new past = some before →
        final.calls[before.calls.length]? = some .returned → final.Idle → lostRooms events = [] →
          ∀ room < before.rooms, room ∈ closedRooms events ++ leftRooms events := by
  have accounted := rooms_accounted reached
  have distinct := accounted.nodup_iff.mpr List.nodup_range
  rcases List.nodup_append'.mp distinct with ⟨others, _, fromLost⟩
  rcases List.nodup_append'.mp others with ⟨_, once, fromHand⟩
  refine ⟨once, ?_, ?_⟩
  · intro room ended
    have inside : room ∈ final.inHand ++ (closedRooms events ++ leftRooms events) :=
      List.mem_append_right _ ended
    have made := accounted.mem_iff.mp (List.mem_append_left _ inside)
    exact ⟨List.mem_range.mp made, fun held => fromHand held ended, fromLost inside⟩
  · rintro past later before split arrived returned idle unlost room older
    rw [split] at reached
    rcases run_append_eq_some.mp reached with ⟨middle, first, went⟩
    cases arrived.symm.trans first
    rcases takenOver_of_returned went returned with ⟨centers, guests⟩
    have made : room < final.rooms := by
      rcases run_cons_eq_some.mp went with ⟨begun, taken, later⟩
      cases taken
      refine history_invariant (fun _ lists => room < lists.rooms) older ?_ later
      exact fun _ _ _ _ _ inside taken => Nat.lt_of_lt_of_le inside (step_eq_some taken).younger.1
    have listed := accounted.mem_iff.mpr (List.mem_range.mpr made)
    rw [unlost, List.append_nil, held_of_idle idle] at listed
    rcases List.mem_append.mp listed with waiting | ended
    · rcases List.mem_append.mp waiting with center | guest
      · exact absurd (centers room center) (Nat.not_le.mpr older)
      · exact absurd (guests room guest) (Nat.not_le.mpr older)
    · exact ended

/-- Two calls at once, with a room made in between: the first call takes the center and is slow,
the second finds the guest and the new room, which stays on the list. -/
def overlappingCloses : List RoomListStep :=
  [.createRoom, .joinRoom, .closeAll, .takeCenters 0, .closeAll, .takeCenters 1, .takeGuests 1,
    .createRoom, .leave 1, .finish 1, .close 0, .takeGuests 0, .finish 0]

theorem close_all_ends_rooms_overlapping :
    closedRooms overlappingCloses = [0] ∧ leftRooms overlappingCloses = [1] ∧
      ∀ room < 2, room ∈ closedRooms overlappingCloses ++ leftRooms overlappingCloses := by
  have reached := run_eq_getD
    (by decide : (run step new overlappingCloses).isSome = true)
  refine ⟨by decide, by decide, ?_⟩
  exact (close_all_ends_rooms reached).2.2 [.createRoom, .joinRoom] _ _ rfl rfl (by decide)
    (by decide) (by decide)

end RoomLists

end Client
end QomicexConnector
