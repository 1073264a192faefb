import QomicexConnector.Center.ClientConn

namespace QomicexConnector
namespace Center

open Library
open QomicexConnector.Core

/-!
# Disconnecting a player by machine id

A player who has joined again is connected twice for a while, and the heartbeat loop may
have taken one of the connections out of `active_clients` already.  `disconnect_machine`
stops at the first entry of `client_machine` with the machine id, in whatever order the map
is iterated.  The main result says when this disconnects the player, by the order at hand
and for every order.
-/

namespace ClientRegistry

variable {Token : Type} (registry : ClientRegistry Token)

/-- The connection is active with this token and mapped to the machine id. -/
structure Connected (machineId clientId : String) (token : Token) : Prop where
  mapped : registry.clientMachine.lookup clientId = some machineId
  active : registry.activeClients.lookup clientId = some token

/-- `disconnect_machine` reports whether the player was connected, disconnects every
connection of the player and cancels nobody else. -/
structure Disconnects (order : List (String × String)) (machineId : String) : Prop where
  found : (registry.disconnectMachine order machineId).1.isSome = true ↔
    ∃ clientId token, registry.Connected machineId clientId token
  cancelled : ∀ clientId token, registry.Connected machineId clientId token →
    (registry.disconnectMachine order machineId).1 = some token
  removed : ∀ clientId token, registry.Connected machineId clientId token →
    (registry.disconnectMachine order machineId).2.activeClients.lookup clientId = none
  spared : ∀ clientId token, registry.activeClients.lookup clientId = some token →
    ¬ registry.Connected machineId clientId token →
      (registry.disconnectMachine order machineId).1 ≠ some token

/-- No other connection is active with the token. -/
def OwnToken (clientId : String) (token : Token) : Prop :=
  ∀ other, registry.activeClients.lookup other = some token → other = clientId

/-- The player is not connected, or the first entry of the player is that of the player's
only connection. -/
def FirstIsOnly (order : List (String × String)) (machineId : String) : Prop :=
  (∀ clientId token, ¬ registry.Connected machineId clientId token) ∨
    ∃ clientId token, (order.find? fun entry => entry.2 == machineId) = some (clientId, machineId) ∧
      registry.Connected machineId clientId token ∧ registry.OwnToken clientId token ∧
      ∀ other otherToken, registry.Connected machineId other otherToken → other = clientId

/-- The player is not connected, or only one entry is that of the player. -/
def MappedOnce (machineId : String) : Prop :=
  (∀ clientId token, ¬ registry.Connected machineId clientId token) ∨
    ∃ clientId token, registry.Connected machineId clientId token ∧
      registry.OwnToken clientId token ∧
      ∀ other, registry.clientMachine.lookup other = some machineId → other = clientId

variable {registry} {order : List (String × String)} {machineId : String}

theorem disconnectMachine_of_find {clientId : String}
    (first : (order.find? fun entry => entry.2 == machineId) = some (clientId, machineId)) :
    registry.disconnectMachine order machineId =
      (registry.activeClients.lookup clientId, registry.removeActive clientId) := by
  rw [disconnectMachine, first]

/-- The first entry of the player is some entry of the player. -/
theorem find_eq_none_or_mapped (iterates : registry.clientMachine.Iterates order) :
    (order.find? fun entry => entry.2 == machineId) = none ∧
        (∀ clientId, registry.clientMachine.lookup clientId ≠ some machineId) ∨
      ∃ clientId, (order.find? fun entry => entry.2 == machineId) = some (clientId, machineId) ∧
        registry.clientMachine.lookup clientId = some machineId := by
  cases first : order.find? fun entry => entry.2 == machineId with
  | none =>
      refine Or.inl ⟨rfl, ?_⟩
      intro clientId mapped
      have listed := iterates.mem_iff.mpr mapped
      exact List.find?_eq_none.mp first _ listed (beq_self_eq_true machineId)
  | some entry =>
      rcases entry with ⟨clientId, mappedId⟩
      have passes := List.find?_some first
      have same : mappedId = machineId := eq_of_beq passes
      subst same
      exact Or.inr ⟨clientId, rfl, iterates.mem_iff.mp (List.mem_of_find?_eq_some first)⟩

/-- A player who is not connected is not found, and nobody is cancelled. -/
theorem disconnects_of_unconnected (iterates : registry.clientMachine.Iterates order)
    (unconnected : ∀ clientId token, ¬ registry.Connected machineId clientId token) :
    registry.Disconnects order machineId := by
  have nothing : (registry.disconnectMachine order machineId).1 = none := by
    rcases find_eq_none_or_mapped iterates with ⟨missing, _⟩ | ⟨clientId, first, mapped⟩
    · rw [disconnectMachine, missing]
    · rw [disconnectMachine_of_find first]
      cases active : registry.activeClients.lookup clientId with
      | none => rfl
      | some token => exact absurd ⟨mapped, active⟩ (unconnected clientId token)
  refine ⟨?_, ?_, ?_, ?_⟩
  · rw [nothing]
    refine iff_of_false Bool.false_ne_true ?_
    rintro ⟨clientId, token, connected⟩
    exact unconnected clientId token connected
  · intro clientId token connected
    exact absurd connected (unconnected clientId token)
  · intro clientId token connected
    exact absurd connected (unconnected clientId token)
  · intro clientId token _ _
    rw [nothing]
    exact Option.some_ne_none token ∘ Eq.symm

/-- What is cancelled and removed is the first entry of the player. -/
theorem disconnects_iff (iterates : registry.clientMachine.Iterates order) :
    registry.Disconnects order machineId ↔ registry.FirstIsOnly order machineId := by
  by_cases unconnected : ∀ clientId token, ¬ registry.Connected machineId clientId token
  · exact iff_of_true (disconnects_of_unconnected iterates unconnected) (Or.inl unconnected)
  push Not at unconnected
  rcases unconnected with ⟨someId, someToken, someConnected⟩
  rcases find_eq_none_or_mapped iterates with ⟨_, unmapped⟩ | ⟨clientId, first, mapped⟩
  · exact absurd someConnected.mapped (unmapped someId)
  have taken : registry.disconnectMachine order machineId = _ := disconnectMachine_of_find first
  constructor
  · intro disconnects
    have reported := disconnects.cancelled someId someToken someConnected
    have active : registry.activeClients.lookup clientId = some someToken := by
      rw [taken] at reported
      exact reported
    have connected : registry.Connected machineId clientId someToken := ⟨mapped, active⟩
    have only : ∀ other token, registry.Connected machineId other token → other = clientId := by
      intro other token otherConnected
      have removed := disconnects.removed other token otherConnected
      rw [taken, removeActive, HashMap.lookup_erase] at removed
      by_contra different
      rw [if_neg different, otherConnected.active] at removed
      cases removed
    refine Or.inr ⟨clientId, someToken, first, connected, ?_, only⟩
    intro other otherActive
    apply only other someToken
    by_contra unmapped
    exact disconnects.spared other someToken otherActive unmapped reported
  · rintro (unconnected | ⟨firstId, token, isFirst, connected, own, only⟩)
    · exact absurd someConnected (unconnected someId someToken)
    cases first.symm.trans isFirst
    have cancels : (registry.disconnectMachine order machineId).1 = some token := by
      rw [taken]
      exact connected.active
    refine ⟨?_, ?_, ?_, ?_⟩
    · rw [cancels]
      exact iff_of_true rfl ⟨clientId, token, connected⟩
    · intro other otherToken otherConnected
      have same := only other otherToken otherConnected
      subst same
      exact cancels.trans (connected.active.symm.trans otherConnected.active)
    · intro other otherToken otherConnected
      rw [only other otherToken otherConnected, taken]
      exact AList.lookup_erase _ _
    · intro other otherToken active unmapped isCancelled
      cases cancels.symm.trans isCancelled
      have same := own other active
      subst same
      exact unmapped connected

/-- Any entry of the player may come first. -/
theorem exists_order_first {clientId : String}
    (mapped : registry.clientMachine.lookup clientId = some machineId) :
    ∃ order, registry.clientMachine.Iterates order ∧
      (order.find? fun entry => entry.2 == machineId) = some (clientId, machineId) := by
  let entries := registry.clientMachine.entries.map fun entry => (entry.1, entry.2)
  have iterates : registry.clientMachine.Iterates entries := List.Perm.refl _
  have listed : (clientId, machineId) ∈ entries := iterates.mem_iff.mpr mapped
  refine ⟨(clientId, machineId) :: entries.erase (clientId, machineId), ?_, ?_⟩
  · exact (List.perm_cons_erase listed).symm
  · rw [List.find?_cons]
    simp

/-- In the order at hand a player is disconnected exactly if the first entry of the player is
that of the only connection of the player, or there is none; and in every order exactly if
the player has only one entry, or no connection. -/
theorem disconnectMachine_disconnects_iff (registry : ClientRegistry Token) (machineId : String) :
    (∀ order, registry.clientMachine.Iterates order →
      (registry.Disconnects order machineId ↔ registry.FirstIsOnly order machineId)) ∧
    ((∀ order, registry.clientMachine.Iterates order → registry.Disconnects order machineId) ↔
      registry.MappedOnce machineId) := by
  refine ⟨fun order iterates => disconnects_iff iterates, ?_⟩
  constructor
  · intro always
    by_cases unconnected : ∀ clientId token, ¬ registry.Connected machineId clientId token
    · exact Or.inl unconnected
    push Not at unconnected
    rcases unconnected with ⟨clientId, token, connected⟩
    have firstOf : ∀ other, registry.clientMachine.lookup other = some machineId →
        ∃ otherToken, registry.Connected machineId other otherToken ∧
          registry.OwnToken other otherToken ∧
          ∀ third thirdToken, registry.Connected machineId third thirdToken → third = other := by
      intro other mapped
      rcases exists_order_first mapped with ⟨order, iterates, first⟩
      rcases (disconnects_iff iterates).mp (always order iterates) with
        nobody | ⟨firstId, firstToken, isFirst, firstConnected, own, only⟩
      · exact absurd connected (nobody clientId token)
      · cases first.symm.trans isFirst
        exact ⟨firstToken, firstConnected, own, only⟩
    rcases firstOf clientId connected.mapped with ⟨ownToken, ownConnected, own, _⟩
    refine Or.inr ⟨clientId, ownToken, ownConnected, own, ?_⟩
    intro other mapped
    rcases firstOf other mapped with ⟨_, _, _, only⟩
    exact (only clientId token connected).symm
  · rintro (unconnected | ⟨clientId, token, connected, own, once⟩) order iterates
    · exact disconnects_of_unconnected iterates unconnected
    apply (disconnects_iff iterates).mpr
    rcases find_eq_none_or_mapped iterates with ⟨_, unmapped⟩ | ⟨firstId, first, mapped⟩
    · exact absurd connected.mapped (unmapped clientId)
    have same := once firstId mapped
    subst same
    refine Or.inr ⟨firstId, token, first, connected, own, ?_⟩
    intro other otherToken otherConnected
    exact once other otherConnected.mapped

end ClientRegistry

/-- A player who has joined again: the first connection has lost its entry in
`active_clients` or not, the second one is active. -/
def sampleRejoined (firstActive : Bool) : ClientRegistry Nat :=
  let registered := (ClientRegistry.new.insertMachine "10.144.144.5:54321" "g1").insertMachine
    "10.144.144.5:54322" "g1"
  let active := registered.insertActive "10.144.144.5:54322" 1
  if firstActive then active.insertActive "10.144.144.5:54321" 0 else active

/-- The first connection comes first: of two active connections only that one is cut, and
with a connection that has timed out nobody is found. -/
theorem disconnectMachine_stops_at_first :
    (sampleRejoined true).clientMachine.Iterates
        [("10.144.144.5:54321", "g1"), ("10.144.144.5:54322", "g1")] ∧
      ¬ (sampleRejoined true).Disconnects
        [("10.144.144.5:54321", "g1"), ("10.144.144.5:54322", "g1")] "g1" ∧
      (sampleRejoined false).clientMachine.Iterates
        [("10.144.144.5:54321", "g1"), ("10.144.144.5:54322", "g1")] ∧
      ((sampleRejoined false).disconnectMachine
        [("10.144.144.5:54321", "g1"), ("10.144.144.5:54322", "g1")] "g1").1 = none ∧
      (sampleRejoined false).Connected "g1" "10.144.144.5:54322" 1 := by
  refine ⟨by decide +kernel, ?_, by decide +kernel, by decide +kernel,
    ⟨by decide +kernel, by decide +kernel⟩⟩
  intro disconnects
  have kept : ((sampleRejoined true).disconnectMachine
      [("10.144.144.5:54321", "g1"), ("10.144.144.5:54322", "g1")] "g1").2.activeClients.lookup
        "10.144.144.5:54322" = some 1 := by decide +kernel
  have removed := disconnects.removed "10.144.144.5:54322" 1
    ⟨by decide +kernel, by decide +kernel⟩
  cases kept.symm.trans removed

end Center
end QomicexConnector
