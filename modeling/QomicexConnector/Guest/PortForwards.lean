import QomicexConnector.Guest.SessionIsolation

namespace QomicexConnector
namespace Guest

open Library Easytier
open QomicexConnector.Core

/-!
# The port forwards that a guest stores

A rule is noted in the stored configuration first and then sent to the running instance in a
patch.  The patch may fail, and the rule is not taken back.  Beside the guest stand here the
rules whose patch has succeeded on the instance that the guest names.
-/

/-- A rule, and what `apply_port_forward_patch` returns for it. -/
abbrev Patch := String × Except ScaffoldingError Unit

namespace ScaffoldingGuest

/-- `config.port_forwards`; there is no configuration before a room has been found. -/
def storedForwards (guest : ScaffoldingGuest) : List String :=
  (guest.config.map NetworkConfig.portForwards).getD []

section Patches

variable {Inet Uri Addr : Type} (parsers : AddressParsers Inet Uri Addr) (setup : GuestConfig)

/-- The patch that a call of `connect` comes to. -/
def connectPatch (guest : ScaffoldingGuest) (networkIdentity : String × String)
    (outcome : JoinOutcome) : Option Patch :=
  match guest.startEasyTier parsers setup networkIdentity outcome, outcome.discovered with
  | (.ok _, started), .ok center =>
      let found := { started with
        center := some center
        config := some (networkConfig setup networkIdentity outcome) }
      match found.tryConnectOnce setup outcome.direct with
      | (true, _) => none
      | (false, failed) =>
          let forward := forwardRule outcome.localPort center.virtualIp center.port
          some (forward, (failed.pushForward forward).applyPortForwardPatch parsers forward
            outcome.patched)
  | _, _ => none

/-- The patch that `map_minecraft_port` comes to when it asks the host. -/
def askingPatch (guest : ScaffoldingGuest) (center : CenterDiscoveryResult)
    (outcome : MapOutcome) : Option Patch :=
  match guest.getServerPort outcome.serverPort with
  | (.error _, _) => none
  | (.ok mcPort, after) =>
      if after.usePortForward then
        let forward := forwardRule outcome.localPort center.virtualIp mcPort
        some (forward, (after.pushForward forward).applyPortForwardPatch parsers forward
          outcome.patched)
      else none

/-- The patch that a call of `map_minecraft_port` comes to. -/
def mapPatch (guest : ScaffoldingGuest) (outcome : MapOutcome) : Option Patch :=
  match guest.config, guest.center with
  | some _, some center =>
      match guest.minecraftHost, guest.minecraftPort with
      | some _, some _ => none
      | _, _ => guest.askingPatch parsers center outcome
  | _, _ => none

/-- The patch that a call comes to. -/
def patchOf (guest : ScaffoldingGuest) : GuestCall → Option Patch
  | .connect networkIdentity _ outcome => guest.connectPatch parsers setup networkIdentity outcome
  | .mapMinecraftPort outcome => guest.mapPatch parsers outcome
  | _ => none

/-- The call creates an instance, or stops the one that runs. -/
def changesInstance (guest : ScaffoldingGuest) : GuestCall → Bool
  | .connect networkIdentity _ outcome =>
      (guest.easyTier.creates parsers (networkConfig setup networkIdentity outcome)
        outcome.easyTier).isSome
  | .leave _ => true
  | _ => false

/-- The call comes to the point where `connect` stores the new configuration. -/
def storesConfig (guest : ScaffoldingGuest) : GuestCall → Bool
  | .connect networkIdentity _ outcome =>
      match (guest.startEasyTier parsers setup networkIdentity outcome).1, outcome.discovered with
      | .ok _, .ok _ => true
      | _, _ => false
  | _ => false

/-- No patch of the call fails, and where it changes the instance without storing a new
configuration, no rule is stored. -/
structure KeepsForwards (guest : ScaffoldingGuest) (call : GuestCall) : Prop where
  applies : ∀ forward error, guest.patchOf parsers setup call ≠ some (forward, .error error)
  fresh : guest.changesInstance parsers setup call = true →
    guest.storesConfig parsers setup call = false → guest.storedForwards = []

end Patches

end ScaffoldingGuest

/-- The rules that a patch brings into force. -/
def applied : Option Patch → List String
  | some (forward, .ok _) => [forward]
  | _ => []

structure ForwardLedger where
  guest : ScaffoldingGuest
  inForce : List String

def ForwardLedger.new : ForwardLedger := ⟨ScaffoldingGuest.new, []⟩

/-- `config.port_forwards` lists the rules in force, in order. -/
def ForwardLedger.Agrees (ledger : ForwardLedger) : Prop :=
  ledger.guest.storedForwards = ledger.inForce

section Ledger

variable {Inet Uri Addr : Type} (parsers : AddressParsers Inet Uri Addr) (setup : GuestConfig)

def forwardsCall (ledger : ForwardLedger) (call : GuestCall) : GuestAnswer × ForwardLedger :=
  let answered := guestCall parsers setup ledger.guest call
  -- a new instance has no rules: `connect` starts it with an empty list
  let kept := if ledger.guest.changesInstance parsers setup call then [] else ledger.inForce
  (answered.1, ⟨answered.2, kept ++ applied (ledger.guest.patchOf parsers setup call)⟩)

end Ledger

/-! ## What a call stores -/

namespace ScaffoldingGuest

variable {Inet Uri Addr : Type} {parsers : AddressParsers Inet Uri Addr} {setup : GuestConfig}
  {guest : ScaffoldingGuest}

variable (setup) in
theorem tryConnectOnce_config (guest : ScaffoldingGuest) (attempt : Attempt) :
    (guest.tryConnectOnce setup attempt).2.config = guest.config := by
  rw [tryConnectOnce_eq]
  split <;> rfl

variable (setup) in
theorem tryConnectWithRetry_config (guest : ScaffoldingGuest) (tries : Nat → Option Attempt)
    (remaining : Nat) :
    (guest.tryConnectWithRetry setup tries remaining).2.config = guest.config := by
  induction remaining generalizing guest with
  | zero => rfl
  | succ remaining inductionHypothesis =>
      rw [tryConnectWithRetry]
      cases tries remaining with
      | none => rfl
      | some attempt =>
          have once := tryConnectOnce_config setup guest attempt
          dsimp only
          split
          · next joined result =>
              rw [result] at once
              exact once
          · next failed result =>
              rw [result] at once
              rw [inductionHypothesis, once]

theorem storedForwards_congr {first second : ScaffoldingGuest}
    (same : first.config = second.config) : first.storedForwards = second.storedForwards := by
  rw [storedForwards, storedForwards, same]

theorem storedForwards_pushForward {config : NetworkConfig} (stored : guest.config = some config)
    (forward : String) :
    (guest.pushForward forward).storedForwards = guest.storedForwards ++ [forward] := by
  rw [storedForwards, storedForwards, pushForward, stored]
  rfl

/-- Over a port forward nothing is stored but the rule to the center. -/
theorem storedForwards_connectForwarded {config : NetworkConfig}
    (stored : guest.config = some config) (center : CenterDiscoveryResult) (ct : HeartbeatCt)
    (outcome : JoinOutcome) :
    (guest.connectForwarded parsers setup center ct outcome).2.storedForwards =
      guest.storedForwards ++ [forwardRule outcome.localPort center.virtualIp center.port] := by
  have pushed := storedForwards_pushForward stored
    (forwardRule outcome.localPort center.virtualIp center.port)
  have retried := tryConnectWithRetry_config setup
    (guest.pushForward (forwardRule outcome.localPort center.virtualIp center.port)) outcome.tries 10
  rw [← pushed]
  unfold connectForwarded
  dsimp only
  split
  · rfl
  · split
    · next failed result =>
        rw [result] at retried
        exact storedForwards_congr retried
    · next joined result =>
        rw [result] at retried
        exact storedForwards_congr retried

/-- A call of `connect` stores the new configuration and notes the rule that it tries, if
it comes that far. -/
theorem storedForwards_connect (networkIdentity : String × String) (ct : HeartbeatCt)
    (outcome : JoinOutcome) :
    (guest.connect parsers setup networkIdentity ct outcome).2.storedForwards =
      (if guest.storesConfig parsers setup (.connect networkIdentity ct outcome) then []
        else guest.storedForwards) ++
        ((guest.connectPatch parsers setup networkIdentity outcome).map Prod.fst).toList := by
  have untouched : (guest.startEasyTier parsers setup networkIdentity outcome).2.config =
      guest.config := rfl
  rw [connect, storesConfig, connectPatch]
  cases started : guest.startEasyTier parsers setup networkIdentity outcome with
  | mk result after =>
      rw [started] at untouched
      cases result with
      | error error =>
          dsimp only
          rw [if_neg Bool.false_ne_true, storedForwards_congr untouched]
          exact (List.append_nil _).symm
      | ok _ =>
          cases outcome.discovered with
          | error error =>
              dsimp only
              rw [if_neg Bool.false_ne_true, storedForwards_congr untouched]
              exact (List.append_nil _).symm
          | ok center =>
              let found : ScaffoldingGuest := { after with
                center := some center
                config := some (networkConfig setup networkIdentity outcome) }
              have once := tryConnectOnce_config setup found outcome.direct
              change (match found.tryConnectOnce setup outcome.direct with
                | (true, joined) => _
                | (false, failed) => _ : Except ScaffoldingError Unit × ScaffoldingGuest
                ).2.storedForwards = _
              dsimp only
              rw [if_pos rfl]
              cases tried : found.tryConnectOnce setup outcome.direct with
              | mk reached failed =>
                  rw [tried] at once
                  cases reached with
                  | true => exact storedForwards_congr once
                  | false =>
                      have empty : failed.storedForwards = [] := storedForwards_congr once
                      dsimp only
                      rw [storedForwards_connectForwarded once, empty]
                      rfl

variable (parsers) in
theorem storedForwards_mapAsking {config : NetworkConfig} (stored : guest.config = some config)
    (center : CenterDiscoveryResult) (outcome : MapOutcome) :
    (guest.mapAsking parsers center outcome).2.storedForwards =
      guest.storedForwards ++ ((guest.askingPatch parsers center outcome).map Prod.fst).toList := by
  have untouched : (guest.getServerPort outcome.serverPort).2.config = guest.config := rfl
  rw [mapAsking, askingPatch]
  cases asked : guest.getServerPort outcome.serverPort with
  | mk result after =>
      rw [asked] at untouched
      cases result with
      | error error =>
          dsimp only
          rw [storedForwards_congr untouched]
          exact (List.append_nil _).symm
      | ok mcPort =>
          dsimp only
          split
          · have pushed := storedForwards_pushForward (untouched.trans stored)
              (forwardRule outcome.localPort center.virtualIp mcPort)
            rw [storedForwards_congr untouched] at pushed
            unfold mapForwarded
            dsimp only
            split
            · exact pushed
            · exact pushed
          · have kept : (after.keepAddress center.virtualIp mcPort).config = guest.config :=
              untouched
            exact (storedForwards_congr kept).trans (List.append_nil _).symm

/-- A call of `map_minecraft_port` notes the rule that it tries, if it comes that far. -/
theorem storedForwards_mapMinecraftPort (outcome : MapOutcome) :
    (guest.mapMinecraftPort parsers outcome).2.storedForwards =
      guest.storedForwards ++ ((guest.mapPatch parsers outcome).map Prod.fst).toList := by
  have unchanged : guest.storedForwards = guest.storedForwards ++ [] :=
    (List.append_nil _).symm
  rw [mapMinecraftPort, mapPatch]
  cases stored : guest.config with
  | none => exact unchanged
  | some config =>
      cases guest.center with
      | none => exact unchanged
      | some center =>
          have asking := storedForwards_mapAsking parsers stored center outcome
          cases guest.minecraftHost with
          | none => exact asking
          | some host =>
              cases guest.minecraftPort with
              | none => exact asking
              | some port => exact unchanged

/-- What any call stores. -/
theorem storedForwards_guestCall (call : GuestCall) :
    (guestCall parsers setup guest call).2.storedForwards =
      (if guest.storesConfig parsers setup call then [] else guest.storedForwards) ++
        ((guest.patchOf parsers setup call).map Prod.fst).toList := by
  have unchanged : guest.storedForwards = guest.storedForwards ++ [] :=
    (List.append_nil _).symm
  cases call with
  | connect networkIdentity ct outcome => exact storedForwards_connect networkIdentity ct outcome
  | mapMinecraftPort outcome => exact storedForwards_mapMinecraftPort outcome
  | sendJson key payload delivery =>
      rw [guestCall, sendJson]
      split <;> exact unchanged
  | send request delivery => exact unchanged
  | minecraftHost => exact unchanged
  | minecraftPort => exact unchanged
  | negotiatedProtocols => exact unchanged
  | ensureNegotiated key => exact unchanged
  | leave deleted => exact unchanged
  | observe id inst => exact unchanged

/-- A configuration is stored only for a new instance. -/
theorem changesInstance_of_storesConfig {call : GuestCall}
    (stores : guest.storesConfig parsers setup call = true) :
    guest.changesInstance parsers setup call = true := by
  cases call with
  | connect networkIdentity ct outcome =>
      rw [storesConfig] at stores
      split at stores
      · next started _ =>
          have ⟨_, id, inst, created⟩ := EasyTierManager.creates_of_start_ok started
          rw [changesInstance, created]
          rfl
      · cases stores
  | _ => cases stores

end ScaffoldingGuest

/-! ## What is stored and what is in force -/

section Agreement

variable {Inet Uri Addr : Type} {parsers : AddressParsers Inet Uri Addr} {setup : GuestConfig}

/-- What the call drops with the instance is not stored. -/
theorem kept_eq_iff (stored : List String) {stores changes : Bool}
    (fresh : stores = true → changes = true) :
    (if stores then [] else stored) = (if changes then [] else stored) ↔
      (changes = true → stores = false → stored = []) := by
  cases stores with
  | true =>
      rw [fresh rfl, if_pos rfl]
      exact iff_of_true rfl fun _ other => Bool.noConfusion other
  | false =>
      rw [if_neg Bool.false_ne_true]
      cases changes with
      | true =>
          rw [if_pos rfl]
          exact ⟨fun empty _ _ => empty, fun empty => empty rfl rfl⟩
      | false =>
          rw [if_neg Bool.false_ne_true]
          exact iff_of_true rfl fun other => Bool.noConfusion other

/-- A rule whose patch fails is stored and not in force. -/
theorem failed_ne {stored : List String} {stores changes : Bool} (forward : String)
    (fresh : stores = true → changes = true) :
    (if stores then [] else stored) ++ [forward] ≠ if changes then [] else stored := by
  intro same
  cases changes with
  | true =>
      rw [if_pos rfl] at same
      exact List.append_ne_nil_of_right_ne_nil _ (List.cons_ne_nil _ _) same
  | false =>
      have keeps : stores = false := by
        cases stores with
        | true => exact (fresh rfl).symm
        | false => rfl
      rw [keeps] at same
      simp only [Bool.false_eq_true, if_false] at same
      have longer := congrArg List.length same
      rw [List.length_append, List.length_singleton] at longer
      omega

/-- A call keeps the agreement just if its patch does not fail and the rules that it drops
with the instance are not stored. -/
theorem agrees_call_iff {ledger : ForwardLedger} (agrees : ledger.Agrees) (call : GuestCall) :
    (forwardsCall parsers setup ledger call).2.Agrees ↔
      ledger.guest.KeepsForwards parsers setup call := by
  have fresh : ledger.guest.storesConfig parsers setup call = true →
      ledger.guest.changesInstance parsers setup call = true :=
    ScaffoldingGuest.changesInstance_of_storesConfig
  have kept := kept_eq_iff ledger.guest.storedForwards fresh
  rw [ForwardLedger.Agrees] at agrees
  rw [ForwardLedger.Agrees, forwardsCall]
  dsimp only
  rw [ScaffoldingGuest.storedForwards_guestCall, ← agrees]
  cases patchIs : ledger.guest.patchOf parsers setup call with
  | none =>
      have nothing : applied none = [] := rfl
      rw [nothing, Option.map_none, Option.toList_none, List.append_nil, List.append_nil, kept]
      refine ⟨fun dropped => ⟨fun forward error => ?_, dropped⟩, fun keeps => keeps.fresh⟩
      rw [patchIs]
      rintro ⟨⟩
  | some patch =>
      rcases patch with ⟨forward, result⟩
      rw [Option.map_some, Option.toList_some]
      cases result with
      | error error =>
          have nothing : applied (some (forward, .error error)) = [] := rfl
          rw [nothing, List.append_nil]
          constructor
          · intro same
            exact absurd same (failed_ne forward fresh)
          · intro keeps
            exact absurd patchIs (keeps.applies forward error)
      | ok _ =>
          have inForce : applied (some (forward, .ok ())) = [forward] := rfl
          rw [inForce, List.append_left_inj, kept]
          refine ⟨fun dropped => ⟨fun other error => ?_, dropped⟩, fun keeps => keeps.fresh⟩
          rw [patchIs]
          rintro ⟨⟩

variable (parsers setup) in
/-- Throughout a history the stored rules are those in force, just if no patch fails and no
instance is left or replaced while rules are stored, except where a new configuration is
stored with it. -/
theorem agrees_iff_keepsForwards (calls : List GuestCall) :
    Throughout (forwardsCall parsers setup) ForwardLedger.Agrees ForwardLedger.new calls ↔
      EveryCall (forwardsCall parsers setup)
        (fun ledger => ledger.guest.KeepsForwards parsers setup) ForwardLedger.new calls := by
  have always : ∀ (ledger : ForwardLedger) (call : GuestCall), True →
      (fun _ : ForwardLedger => True) (forwardsCall parsers setup ledger call).2 :=
    fun _ _ _ => trivial
  have starts : ForwardLedger.new.Agrees := rfl
  refine throughout_iff_everyCall always ?_ trivial starts calls
  intro ledger call _ agrees
  exact agrees_call_iff agrees call

end Agreement

/-- A room whose center is reached over a port forward only. -/
def forwardedJoin : JoinOutcome :=
  { sampleJoin 7 "10.0.0.1" sampleProtocols with
    direct := ⟨false, sampleDelivery ⟨0, []⟩, sampleDelivery sampleProtocols⟩
    localPort := 4000
    tries := fun _ => some ⟨true, sampleDelivery ⟨0, []⟩, sampleDelivery sampleProtocols⟩ }

/-- Minecraft is to be reached over this local port, which somebody else has taken. -/
def takenPort (localPort : UInt16) : GuestCall :=
  .mapMinecraftPort ⟨sampleDelivery ⟨0, [99, 221]⟩, localPort, .error "address in use"⟩

/-- Each retry stores one more rule that is not in force. -/
theorem failed_patches_accumulate :
    let ledger := afterCalls (forwardsCall sampleParsers sampleSetup) ForwardLedger.new
      [.connect ("first", "secret") 0 forwardedJoin, takenPort 4001, takenPort 4002]
    ledger.inForce = ["tcp://127.0.0.1:4000/10.0.0.1:1025"] ∧
      ledger.guest.storedForwards = ["tcp://127.0.0.1:4000/10.0.0.1:1025",
        "tcp://127.0.0.1:4001/10.0.0.1:25565", "tcp://127.0.0.1:4002/10.0.0.1:25565"] := by
  decide +kernel

end Guest
end QomicexConnector
