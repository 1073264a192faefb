import QomicexConnector.Client.Rendezvous
import QomicexConnector.Guest.SessionIsolation
import QomicexConnector.Guest.ConnectAttempt

namespace QomicexConnector
namespace Client

open Library Easytier Guest
open QomicexConnector.Models

/-!
# What a joining guest leaves behind

`join_room` makes a guest of its own and lets it `connect`.  An error may come at any point: the
text of the code, the configuration, the start of EasyTier or its 30 s, the discovery, the patch
of the port forward, the last of its ten attempts.  The guest is made to leave then; one that is
in its room leaves when the caller says so, whatever it was used for in between.
-/

section Join

variable {Inet Uri Addr : Type} (parsers : AddressParsers Inet Uri Addr) (setup : GuestConfig)

/-- A guest whose `connect` has failed is made to leave; `deleted` is what the deletion of its
instance comes to. -/
def leaveIfFailed (deleted : Except String Unit) :
    Except ScaffoldingError Unit × ScaffoldingGuest → Except ScaffoldingError Unit × ScaffoldingGuest
  | (.error error, guest) => (.error error, guest.leave deleted)
  | (.ok _, guest) => (.ok (), guest)

/-- `join_room` behind the relay nodes, and the guest that it made. -/
def joinRoom (roomCode : String) (ct : HeartbeatCt) (outcome : JoinOutcome)
    (deleted : Except String Unit) : Except ScaffoldingError Unit × ScaffoldingGuest :=
  match RoomCode.parse roomCode with
  | .error error => (.error error, .new)
  | .ok code =>
      leaveIfFailed deleted
        (ScaffoldingGuest.new.connect parsers setup (guestIdentity code) ct outcome)

variable {parsers} {setup}

/-- The cleaning up makes no difference to what the caller gets. -/
theorem joinRoom_result (roomCode : String) (ct : HeartbeatCt) (outcome : JoinOutcome)
    (deleted : Except String Unit) :
    Guest.joinRoom parsers setup ((RoomCode.parse roomCode).map guestIdentity) ct outcome =
      match joinRoom parsers setup roomCode ct outcome deleted with
      | (.error error, _) => .error error
      | (.ok _, guest) => .ok guest := by
  rw [Guest.joinRoom.eq_def, joinRoom]
  cases RoomCode.parse roomCode with
  | error error => rfl
  | ok code =>
      simp only [Except.map]
      rcases ScaffoldingGuest.new.connect parsers setup (guestIdentity code) ct outcome with
        ⟨_ | _, guest⟩ <;> rfl

end Join

/-- The guest runs nothing: no network instance, no connection, no heartbeat. -/
structure Gone (guest : ScaffoldingGuest) : Prop where
  instances : ∀ id, guest.easyTier.instances.lookup id = none
  unnamed : guest.easyTier.instanceId = none
  tcp : guest.tcp = ⟨none⟩
  heartbeat : guest.heartbeatCt = none

/-- The guest runs the network instance `id` and no other, and its heartbeat on the token. -/
structure Runs (id : InstanceId) (ct : HeartbeatCt) (guest : ScaffoldingGuest) : Prop where
  instances : ∀ other, (guest.easyTier.instances.lookup other).isSome = true ↔ other = id
  named : guest.easyTier.instanceId = some id
  heartbeat : guest.heartbeatCt = some ct

/-- A call that a guest in a room gets, other than `leave` and another `connect`. -/
def InRoom : GuestCall → Prop
  | .connect _ _ _ | .leave _ => False
  | _ => True

/-- Every instance is the one the manager names. -/
def OnlyNamed (manager : EasyTierManager) : Prop :=
  ∀ id, (manager.instances.lookup id).isSome = true → manager.instanceId = some id

theorem isSome_launched (config : NetworkConfig) (id other : InstanceId) (inst : Instance) :
    ((EasyTierManager.new.launched config id inst).instances.lookup other).isSome = true ↔
      other = id := by
  change (((∅ : HashMap InstanceId Instance).insert id inst).lookup other).isSome = true ↔ _
  rw [HashMap.lookup_insert]
  split
  · next same => exact ⟨fun _ => same, fun _ => rfl⟩
  · next different => exact ⟨nofun, fun same => absurd same different⟩

theorem onlyNamed_launched (config : NetworkConfig) (id : InstanceId) (inst : Instance) :
    OnlyNamed (EasyTierManager.new.launched config id inst) := fun other present =>
  congrArg some ((isSome_launched config id other inst).mp present).symm

theorem gone_of_onlyNamed {guest : ScaffoldingGuest} (only : OnlyNamed guest.easyTier) :
    Gone (guest.leave (.ok ())) where
  instances := by
    intro id
    rcases guest with ⟨⟨instances, instanceId, _, _⟩, _⟩
    have unlisted (other : some id ≠ instanceId) : instances.lookup id = none :=
      Option.not_isSome_iff_eq_none.mp fun present => other (only id present).symm
    cases instanceId with
    | none => exact unlisted (by simp)
    | some named =>
        change (instances.erase named).lookup id = none
        rw [HashMap.lookup_erase]
        split
        · rfl
        · next different => exact unlisted fun same => different (Option.some.inj same)
  unnamed := rfl
  tcp := rfl
  heartbeat := rfl

section Connect

variable {Inet Uri Addr : Type} (parsers : AddressParsers Inet Uri Addr) (setup : GuestConfig)

/-- However a first `start` ends, at most the instance is there that the manager names. -/
theorem onlyNamed_start (config : NetworkConfig) (outcome : StartOutcome) :
    OnlyNamed (EasyTierManager.new.start parsers config outcome).2 := by
  cases created : EasyTierManager.new.creates parsers config outcome with
  | none =>
      intro id present
      rw [(EasyTierManager.start_of_creates_none created).2] at present
      cases present
  | some pair =>
      rw [EasyTierManager.start_of_creates created]
      split
      · exact onlyNamed_launched config pair.1 pair.2
      · exact onlyNamed_launched config pair.1 pair.2

/-- So does a first `connect`. -/
theorem onlyNamed_connect (identity : String × String) (ct : HeartbeatCt) (outcome : JoinOutcome) :
    OnlyNamed (ScaffoldingGuest.new.connect parsers setup identity ct outcome).2.easyTier := by
  have startOnly := onlyNamed_start parsers
    (ScaffoldingGuest.networkConfig setup identity outcome) outcome.easyTier
  cases started : (EasyTierManager.new.start parsers
    (ScaffoldingGuest.networkConfig setup identity outcome) outcome.easyTier).1 with
  | error error =>
      rw [ScaffoldingGuest.connect_of_start_error started]
      exact startOnly
  | ok _ =>
      have ⟨inTime, id, inst, created⟩ := EasyTierManager.creates_of_start_ok started
      cases discovered : outcome.discovered with
      | error error =>
          rw [ScaffoldingGuest.connect_of_undiscovered started discovered]
          exact startOnly
      | ok center =>
          rw [ScaffoldingGuest.connect_of_found created inTime discovered]
          have launched := onlyNamed_launched
            (ScaffoldingGuest.networkConfig setup identity outcome) id inst
          split
          · exact launched
          · rw [ScaffoldingGuest.connectForwarded_eq]
            dsimp only
            split
            · exact launched
            · split <;> exact launched

end Connect

/-! ## In the room -/

/-- A call leaves EasyTier and the heartbeat as they are. -/
structure Undisturbed (before after : ScaffoldingGuest) : Prop where
  easyTier : after.easyTier = before.easyTier
  heartbeat : after.heartbeatCt = before.heartbeatCt

section Calls

variable {Inet Uri Addr : Type} {parsers : AddressParsers Inet Uri Addr} {setup : GuestConfig}
  {guest : ScaffoldingGuest}

theorem undisturbed_mapAsking (center : CenterDiscoveryResult) (outcome : MapOutcome) :
    Undisturbed guest (guest.mapAsking parsers center outcome).2 := by
  have asked : Undisturbed guest (guest.getServerPort outcome.serverPort).2 := ⟨rfl, rfl⟩
  rw [ScaffoldingGuest.mapAsking]
  split
  · next error after same =>
      rw [same] at asked
      exact asked
  · next mcPort after same =>
      rw [same] at asked
      split
      · rw [ScaffoldingGuest.mapForwarded]
        split <;> exact ⟨asked.easyTier, asked.heartbeat⟩
      · exact ⟨asked.easyTier, asked.heartbeat⟩

theorem undisturbed_mapMinecraftPort (outcome : MapOutcome) :
    Undisturbed guest (guest.mapMinecraftPort parsers outcome).2 := by
  rw [ScaffoldingGuest.mapMinecraftPort]
  split
  · split
    · exact ⟨rfl, rfl⟩
    · exact undisturbed_mapAsking _ outcome
  · exact ⟨rfl, rfl⟩

theorem undisturbed_sendJson (key : String) (payload : Except String (List UInt8))
    (delivery : Delivery) : Undisturbed guest (guest.sendJson key payload delivery).2 := by
  rw [ScaffoldingGuest.sendJson]
  split <;> exact ⟨rfl, rfl⟩

/-- A call in a room at most sees the instance in another state. -/
theorem runs_call {id : InstanceId} {ct : HeartbeatCt} (runs : Runs id ct guest)
    {call : GuestCall} (inRoom : InRoom call) :
    Runs id ct (guestCall parsers setup guest call).2 := by
  have kept {after : ScaffoldingGuest} (same : Undisturbed guest after) : Runs id ct after :=
    ⟨by rw [same.easyTier]; exact runs.instances, by rw [same.easyTier]; exact runs.named,
      same.heartbeat.trans runs.heartbeat⟩
  cases call with
  | connect networkIdentity other outcome => exact False.elim inRoom
  | leave deleted => exact False.elim inRoom
  | mapMinecraftPort outcome => exact kept (undisturbed_mapMinecraftPort outcome)
  | sendJson key payload delivery => exact kept (undisturbed_sendJson key payload delivery)
  | send request delivery => exact kept ⟨rfl, rfl⟩
  | observe seen inst =>
      refine ⟨?_, ?_, runs.heartbeat⟩
      · intro other
        change ((guest.easyTier.observe seen inst).instances.lookup other).isSome = true ↔ _
        rw [← runs.instances other, EasyTierManager.observe]
        split
        · next present =>
            rw [HashMap.lookup_insert]
            split
            · next same => exact ⟨fun _ => same ▸ present, fun _ => rfl⟩
            · rfl
        · rfl
      · change (guest.easyTier.observe seen inst).instanceId = some id
        rw [EasyTierManager.observe]
        split <;> exact runs.named
  | _ => exact kept ⟨rfl, rfl⟩

end Calls

theorem runs_calls {Inet Uri Addr : Type} (parsers : AddressParsers Inet Uri Addr)
    (setup : GuestConfig) {guest : ScaffoldingGuest} {id : InstanceId} {ct : HeartbeatCt}
    (runs : Runs id ct guest) {calls : List GuestCall} (inRoom : ∀ call ∈ calls, InRoom call) :
    Runs id ct (afterCalls (guestCall parsers setup) guest calls) := by
  induction calls generalizing guest with
  | nil => exact runs
  | cons call later inductionHypothesis =>
      exact inductionHypothesis (runs_call runs (inRoom call List.mem_cons_self))
        fun other listed => inRoom other (List.mem_cons_of_mem _ listed)

/-- A failed `connect` is cleaned up, and one that has not failed runs its instance. -/
theorem leaveIfFailed_cases {Inet Uri Addr : Type} {parsers : AddressParsers Inet Uri Addr}
    {setup : GuestConfig} {identity : String × String} {ct : HeartbeatCt} {outcome : JoinOutcome}
    {result : Except ScaffoldingError Unit × ScaffoldingGuest}
    (move : ScaffoldingGuest.ConnectMove parsers setup .new identity ct outcome result)
    (only : OnlyNamed result.2.easyTier) :
    (∃ error guest, leaveIfFailed (.ok ()) result = (.error error, guest) ∧ Gone guest) ∨
      ∃ guest id, leaveIfFailed (.ok ()) result = (.ok (), guest) ∧ Runs id ct guest := by
  cases move with
  | refused error manager => exact Or.inl ⟨_, _, rfl, gone_of_onlyNamed only⟩
  | unreached error id inst center => exact Or.inl ⟨_, _, rfl, gone_of_onlyNamed only⟩
  | joined join idle joins =>
      refine Or.inr ⟨_, join.id, rfl, ⟨?_, rfl, rfl⟩⟩
      exact fun other => isSome_launched _ _ _ _

theorem joinRoom_cases {Inet Uri Addr : Type} (parsers : AddressParsers Inet Uri Addr)
    (setup : GuestConfig) (roomCode : String) (ct : HeartbeatCt) (outcome : JoinOutcome) :
    (∃ error guest, joinRoom parsers setup roomCode ct outcome (.ok ()) = (.error error, guest) ∧
        Gone guest) ∨
      ∃ guest id, joinRoom parsers setup roomCode ct outcome (.ok ()) = (.ok (), guest) ∧
        Runs id ct guest := by
  rw [joinRoom]
  cases RoomCode.parse roomCode with
  | error error => exact Or.inl ⟨error, .new, rfl, fun _ => rfl, rfl, rfl, rfl⟩
  | ok code =>
      exact leaveIfFailed_cases ScaffoldingGuest.connect_move
        (onlyNamed_connect parsers setup (guestIdentity code) ct outcome)

/-- A call of `join_room` that fails, wherever it does, leaves no network instance, no connection
and no heartbeat.  A guest that is in its room runs one instance and one heartbeat, whatever calls
but another `connect` come, until it leaves, and then nothing. -/
theorem join_room_leaves_nothing {Inet Uri Addr : Type} (parsers : AddressParsers Inet Uri Addr)
    (setup : GuestConfig) (roomCode : String) (ct : HeartbeatCt) (outcome : JoinOutcome) :
    (∃ error guest, joinRoom parsers setup roomCode ct outcome (.ok ()) = (.error error, guest) ∧
        Gone guest) ∨
      ∃ guest id, joinRoom parsers setup roomCode ct outcome (.ok ()) = (.ok (), guest) ∧
        ∀ calls, (∀ call ∈ calls, InRoom call) →
          Runs id ct (afterCalls (guestCall parsers setup) guest calls) ∧
            Gone ((afterCalls (guestCall parsers setup) guest calls).leave (.ok ())) := by
  rcases joinRoom_cases parsers setup roomCode ct outcome with failed | ⟨guest, id, result, begins⟩
  · exact Or.inl failed
  · refine Or.inr ⟨guest, id, result, fun calls inRoom => ?_⟩
    have runs := runs_calls parsers setup begins inRoom
    refine ⟨runs, gone_of_onlyNamed fun other present => ?_⟩
    rw [(runs.instances other).mp present]
    exact runs.named

end Client
end QomicexConnector
