import QomicexConnector.Guest.ScaffoldingGuest

namespace QomicexConnector
namespace Guest

open Library Easytier Center
open QomicexConnector.Core

/-!
# One session after another

`leave` stops the heartbeat, the connection and EasyTier and leaves the other fields of a
guest as they are.  A guest that rejoins is compared here with a new one that joins under
the same outcome: what it introduces itself with, the configuration it keeps and what its
later calls answer.

The address of the Minecraft server is the first thing that stays behind, and
`map_minecraft_port` returns it before it asks for anything.  The negotiated keys are the
other: the first ping to the new host depends on them, and they outlive a negotiation that
the host answers with an error status.
-/

/-- `connect` has returned `Ok`. -/
def GuestAnswer.Joined : GuestAnswer → Prop
  | .connected (.ok _) => True
  | _ => False

/-- The session that `leave` has ended and the one that follows are kept apart: until the
guest joins again no call of `map_minecraft_port` returns an address, and the guest that has
joined cannot be told from a new one. -/
structure Isolated {Inet Uri Addr : Type} (parsers : AddressParsers Inet Uri Addr)
    (setup : GuestConfig) (left rejoining : ScaffoldingGuest) (networkIdentity : String × String)
    (ct : HeartbeatCt) (outcome : JoinOutcome) : Prop where
  unmapped : ∀ calls mapOutcome,
    EveryAnswer (guestCall parsers setup) (fun answer => ¬ answer.Joined) left calls →
    ∃ error, ((afterCalls (guestCall parsers setup) left calls).mapMinecraftPort parsers
      mapOutcome).1 = .error error
  introduced :
    (rejoining.startEasyTier parsers setup networkIdentity outcome).2.playerProfile setup =
      (ScaffoldingGuest.new.startEasyTier parsers setup networkIdentity outcome).2.playerProfile
        setup
  config : (rejoining.connect parsers setup networkIdentity ct outcome).2.config =
    (ScaffoldingGuest.new.connect parsers setup networkIdentity ct outcome).2.config
  answers : ∀ calls,
    answers (guestCall parsers setup)
        (rejoining.connect parsers setup networkIdentity ct outcome).2 calls =
      answers (guestCall parsers setup)
        (ScaffoldingGuest.new.connect parsers setup networkIdentity ct outcome).2 calls

/-- No address is kept, neither by the session that ended nor by the guest that joins again;
the flag is not negotiated; and nothing at all is, or the new host answers the negotiation
with success. -/
def LeavesNothing (left rejoining : ScaffoldingGuest) (outcome : JoinOutcome) : Prop :=
  left.minecraftHost = none ∧ rejoining.minecraftHost = none ∧
    "c:player_easytier_id" ∉ rejoining.negotiated ∧
    (rejoining.negotiated = [] ∨
      ∀ response, outcome.hostAnswer = some response → response.isSuccess = true)

/-! ## Guests that cannot be told apart -/

/-- Guests that differ at most in network instances they no longer name. -/
def GuestAlike (first second : ScaffoldingGuest) : Prop :=
  ∃ manager, first.easyTier.Alike manager ∧ second = first.withEasyTier manager

/-- Two calls with the same result leave guests that cannot be told apart. -/
def CallAlike {Result : Type} (first second : Result × ScaffoldingGuest) : Prop :=
  first.1 = second.1 ∧ GuestAlike first.2 second.2

section Alike

variable {Inet Uri Addr : Type} {parsers : AddressParsers Inet Uri Addr} {setup : GuestConfig}
  {first : ScaffoldingGuest} {manager : EasyTierManager}

theorem callAlike_of_same {Result : Type} (result : Result) (alike : first.easyTier.Alike manager) :
    CallAlike (result, first) (result, first.withEasyTier manager) :=
  ⟨rfl, manager, alike, rfl⟩

theorem getServerPort_withEasyTier (delivery : Delivery) :
    (first.withEasyTier manager).getServerPort delivery =
      ((first.getServerPort delivery).1, (first.getServerPort delivery).2.withEasyTier manager) :=
  rfl

variable (parsers) in
theorem applyPortForwardPatch_alike (alike : first.easyTier.Alike manager) (forward : String)
    (patched : Except String Unit) :
    (first.withEasyTier manager).applyPortForwardPatch parsers forward patched =
      first.applyPortForwardPatch parsers forward patched := by
  rw [ScaffoldingGuest.applyPortForwardPatch, ScaffoldingGuest.applyPortForwardPatch]
  exact congrArg _ (funext fun _ => (alike.applyConfigPatch patched).symm)

variable (parsers) in
theorem mapForwarded_alike (alike : first.easyTier.Alike manager) (center : CenterDiscoveryResult)
    (mcPort : UInt16) (outcome : MapOutcome) :
    CallAlike (first.mapForwarded parsers center mcPort outcome)
      ((first.withEasyTier manager).mapForwarded parsers center mcPort outcome) := by
  let forward := ScaffoldingGuest.forwardRule outcome.localPort center.virtualIp mcPort
  have pushed : (first.pushForward forward).easyTier.Alike manager := alike
  have applied := applyPortForwardPatch_alike parsers pushed forward outcome.patched
  change ((first.withEasyTier manager).pushForward forward).applyPortForwardPatch parsers forward
    outcome.patched = _ at applied
  unfold ScaffoldingGuest.mapForwarded
  dsimp only
  rw [applied]
  cases (first.pushForward forward).applyPortForwardPatch parsers forward outcome.patched with
  | error error => exact callAlike_of_same _ pushed
  | ok _ =>
      have kept : ((first.pushForward forward).keepAddress "127.0.0.1"
        outcome.localPort).easyTier.Alike manager := alike
      exact callAlike_of_same _ kept

variable (parsers) in
theorem mapAsking_alike (alike : first.easyTier.Alike manager) (center : CenterDiscoveryResult)
    (outcome : MapOutcome) :
    CallAlike (first.mapAsking parsers center outcome)
      ((first.withEasyTier manager).mapAsking parsers center outcome) := by
  have kept : (first.getServerPort outcome.serverPort).2.easyTier.Alike manager := alike
  rw [ScaffoldingGuest.mapAsking, ScaffoldingGuest.mapAsking, getServerPort_withEasyTier]
  cases asked : first.getServerPort outcome.serverPort with
  | mk result after =>
      rw [asked] at kept
      cases result with
      | error error => exact callAlike_of_same _ kept
      | ok mcPort =>
          change CallAlike
            (if after.usePortForward then after.mapForwarded parsers center mcPort outcome
              else (.ok (center.virtualIp, mcPort), after.keepAddress center.virtualIp mcPort))
            (if after.usePortForward then
                (after.withEasyTier manager).mapForwarded parsers center mcPort outcome
              else (.ok (center.virtualIp, mcPort),
                (after.keepAddress center.virtualIp mcPort).withEasyTier manager))
          split
          · exact mapForwarded_alike parsers kept center mcPort outcome
          · exact callAlike_of_same _ kept

variable (parsers) in
theorem mapMinecraftPort_alike (alike : first.easyTier.Alike manager) (outcome : MapOutcome) :
    CallAlike (first.mapMinecraftPort parsers outcome)
      ((first.withEasyTier manager).mapMinecraftPort parsers outcome) := by
  rcases first with
    ⟨easyTier, tcp, negotiated, config, center, usePortForward, host, port, heartbeatCt⟩
  cases config with
  | none => exact callAlike_of_same _ alike
  | some config =>
      cases center with
      | none => exact callAlike_of_same _ alike
      | some center =>
          have asking := mapAsking_alike parsers alike center outcome
          cases host with
          | none => exact asking
          | some host =>
              cases port with
              | none => exact asking
              | some port => exact callAlike_of_same _ alike

variable (parsers setup) in
/-- The rest of `connect` when the center has been discovered. -/
theorem found_alike {networkIdentity : String × String} {ct : HeartbeatCt} {outcome : JoinOutcome}
    {id : InstanceId} {inst : Instance} {center : CenterDiscoveryResult} :
    CallAlike
      (match outcome.direct.comesThrough with
        | some (response, client) =>
            (.ok (), first.joined setup networkIdentity ct outcome
              ⟨id, inst, center, false, response, client⟩)
        | none => ((first.found setup networkIdentity outcome id inst center).disconnect
            ).connectForwarded parsers setup center ct outcome)
      (match outcome.direct.comesThrough with
        | some (response, client) =>
            (.ok (), (first.withEasyTier manager).joined setup networkIdentity ct outcome
              ⟨id, inst, center, false, response, client⟩)
        | none => (((first.withEasyTier manager).found setup networkIdentity outcome id inst
            center).disconnect).connectForwarded parsers setup center ct outcome) := by
  have launched := EasyTierManager.alike_launched first.easyTier manager
    (ScaffoldingGuest.networkConfig setup networkIdentity outcome) id inst
  cases outcome.direct.comesThrough with
  | some pair => exact ⟨rfl, _, launched, rfl⟩
  | none =>
      let forward := ScaffoldingGuest.forwardRule outcome.localPort center.virtualIp center.port
      let pushed := (first.found setup networkIdentity outcome id inst
        center).disconnect.pushForward forward
      have named : pushed.easyTier.Alike (manager.launched
        (ScaffoldingGuest.networkConfig setup networkIdentity outcome) id inst) := launched
      have applied := applyPortForwardPatch_alike parsers named forward outcome.patched
      change (((first.withEasyTier manager).found setup networkIdentity outcome id inst
        center).disconnect.pushForward forward).applyPortForwardPatch parsers forward
          outcome.patched = _ at applied
      dsimp only
      rw [ScaffoldingGuest.connectForwarded_eq, ScaffoldingGuest.connectForwarded_eq]
      dsimp only
      rw [applied]
      cases pushed.applyPortForwardPatch parsers forward outcome.patched with
      | error error => exact callAlike_of_same _ named
      | ok _ =>
          cases firstThrough outcome.tries 10 with
          | some pair => exact ⟨rfl, _, launched, rfl⟩
          | none => exact callAlike_of_same _ named

variable (parsers setup) in
theorem connect_alike (alike : first.easyTier.Alike manager) (networkIdentity : String × String)
    (ct : HeartbeatCt) (outcome : JoinOutcome) :
    CallAlike (first.connect parsers setup networkIdentity ct outcome)
      ((first.withEasyTier manager).connect parsers setup networkIdentity ct outcome) := by
  let config := ScaffoldingGuest.networkConfig setup networkIdentity outcome
  have ⟨sameResult, started⟩ := alike.start parsers config outcome.easyTier
  cases result : (first.easyTier.start parsers config outcome.easyTier).1 with
  | error error =>
      have also : ((first.withEasyTier manager).easyTier.start parsers config outcome.easyTier).1 =
          .error error := sameResult.symm.trans result
      rw [ScaffoldingGuest.connect_of_start_error result,
        ScaffoldingGuest.connect_of_start_error also]
      exact ⟨rfl, _, started, rfl⟩
  | ok _ =>
      have also : ((first.withEasyTier manager).easyTier.start parsers config outcome.easyTier).1 =
          .ok () := sameResult.symm.trans result
      cases discovered : outcome.discovered with
      | error error =>
          rw [ScaffoldingGuest.connect_of_undiscovered result discovered,
            ScaffoldingGuest.connect_of_undiscovered also discovered]
          exact ⟨rfl, _, started, rfl⟩
      | ok center =>
          have ⟨inTime, id, inst, created⟩ := EasyTierManager.creates_of_start_ok result
          have createdAlso : (first.withEasyTier manager).easyTier.creates parsers config
              outcome.easyTier = some (id, inst) := (alike.creates config _).symm.trans created
          rw [ScaffoldingGuest.connect_of_found created inTime discovered,
            ScaffoldingGuest.connect_of_found createdAlso inTime discovered]
          exact found_alike parsers setup

theorem guestAlike_respects : Respects (guestCall parsers setup) GuestAlike := by
  rintro first second call ⟨manager, alike, rfl⟩
  cases call with
  | connect networkIdentity ct outcome =>
      have ⟨same, next⟩ := connect_alike parsers setup alike networkIdentity ct outcome
      exact ⟨congrArg GuestAnswer.connected same, next⟩
  | mapMinecraftPort outcome =>
      have ⟨same, next⟩ := mapMinecraftPort_alike parsers alike outcome
      exact ⟨congrArg GuestAnswer.mapped same, next⟩
  | sendJson key payload delivery =>
      have same : (first.withEasyTier manager).negotiated = first.negotiated := rfl
      rw [guestCall, guestCall, ScaffoldingGuest.sendJson, ScaffoldingGuest.sendJson, same]
      cases jsonRequest first.negotiated key payload with
      | error error => exact ⟨rfl, manager, alike, rfl⟩
      | ok request => exact ⟨rfl, manager, alike, rfl⟩
  | leave deleted => exact ⟨rfl, _, EasyTierManager.alike_stop deleted, rfl⟩
  | observe id inst => exact ⟨rfl, _, alike.observe id inst, rfl⟩
  | _ => exact ⟨rfl, manager, alike, rfl⟩

end Alike

/-! ## After `leave` -/

/-- An address is kept as a whole, and in a room only. -/
def KeepsAddress (guest : ScaffoldingGuest) : Prop :=
  guest.minecraftHost.isSome = guest.minecraftPort.isSome ∧
    (guest.minecraftHost.isSome = true → guest.config.isSome = true ∧ guest.center.isSome = true)

/-- A guest without a connection that keeps no address. -/
def Away (keys : List String) (guest : ScaffoldingGuest) : Prop :=
  guest.tcp = ⟨none⟩ ∧ guest.minecraftHost = none ∧ guest.negotiated = keys

section Left

variable {Inet Uri Addr : Type} {parsers : AddressParsers Inet Uri Addr} {setup : GuestConfig}
  {guest : ScaffoldingGuest}

theorem send_unconnected (away : guest.tcp = ⟨none⟩) (request : ProtocolRequest)
    (delivery : Delivery) : ∃ error, guest.send request delivery = (.error error, guest) := by
  rcases guest with ⟨_, tcp, _⟩
  cases away
  exact ⟨_, rfl⟩

variable (parsers) in
theorem mapMinecraftPort_away {keys : List String} (away : Away keys guest)
    (outcome : MapOutcome) :
    ∃ error, guest.mapMinecraftPort parsers outcome = (.error error, guest) := by
  rcases send_unconnected away.1 ⟨"c", "server_port", []⟩ outcome.serverPort with ⟨error, sent⟩
  have asked : guest.getServerPort outcome.serverPort = (.error error, guest) := by
    rw [ScaffoldingGuest.getServerPort, sent]
    rfl
  rw [ScaffoldingGuest.mapMinecraftPort, away.2.1]
  split
  · exact ⟨error, by rw [ScaffoldingGuest.mapAsking, asked]⟩
  · exact ⟨_, rfl⟩

/-- Only a call of `connect` that returns `Ok` brings the guest back. -/
theorem away_call {keys : List String} (call : GuestCall) (away : Away keys guest)
    (stays : ¬ (guestCall parsers setup guest call).1.Joined) :
    Away keys (guestCall parsers setup guest call).2 := by
  cases call with
  | connect networkIdentity ct outcome =>
      have move : ScaffoldingGuest.ConnectMove parsers setup guest networkIdentity ct outcome
        (guest.connect parsers setup networkIdentity ct outcome) := ScaffoldingGuest.connect_move
      rw [guestCall] at stays ⊢
      generalize guest.connect parsers setup networkIdentity ct outcome = result at move stays ⊢
      cases move with
      | refused error manager => exact away
      | unreached error id inst center => exact ⟨rfl, away.2⟩
      | joined join idle joins => exact absurd trivial stays
  | mapMinecraftPort outcome =>
      rcases mapMinecraftPort_away parsers away outcome with ⟨error, same⟩
      rw [guestCall, same]
      exact away
  | sendJson key payload delivery =>
      rw [guestCall, ScaffoldingGuest.sendJson]
      cases jsonRequest guest.negotiated key payload with
      | error error => exact away
      | ok request =>
          rcases send_unconnected away.1 request delivery with ⟨error, same⟩
          dsimp only
          rw [same]
          exact away
  | send request delivery =>
      rcases send_unconnected away.1 request delivery with ⟨error, same⟩
      rw [guestCall, same]
      exact away
  | leave deleted => exact ⟨rfl, away.2⟩
  | _ => exact away

variable (parsers) in
/-- `map_minecraft_port` keeps the address it returns and no half of one. -/
theorem mapAsking_keeps (center : CenterDiscoveryResult) (outcome : MapOutcome)
    (keeps : guest.minecraftHost.isSome = guest.minecraftPort.isSome)
    (inRoom : guest.config.isSome = true ∧ guest.center.isSome = true) :
    KeepsAddress (guest.mapAsking parsers center outcome).2 := by
  have same : (guest.getServerPort outcome.serverPort).2 =
      { guest with tcp := (guest.tcp.send (outcome.serverPort.of ⟨"c", "server_port", []⟩)).2 } := rfl
  have pushed (after : ScaffoldingGuest) (forward : String) (isSome : after.config.isSome = true) :
      (after.pushForward forward).config.isSome = true := by
    rw [ScaffoldingGuest.pushForward, Option.isSome_map]
    exact isSome
  rw [ScaffoldingGuest.mapAsking]
  cases asked : guest.getServerPort outcome.serverPort with
  | mk result after =>
      rw [asked] at same
      change after = _ at same
      subst same
      cases result with
      | error error => exact ⟨keeps, fun _ => inRoom⟩
      | ok mcPort =>
          dsimp only
          split
          · unfold ScaffoldingGuest.mapForwarded
            dsimp only
            split
            · exact ⟨keeps, fun _ => ⟨pushed _ _ inRoom.1, inRoom.2⟩⟩
            · exact ⟨rfl, fun _ => ⟨pushed _ _ inRoom.1, inRoom.2⟩⟩
          · exact ⟨rfl, fun _ => inRoom⟩

theorem keepsAddress_call (guest : ScaffoldingGuest) (call : GuestCall)
    (keeps : KeepsAddress guest) : KeepsAddress (guestCall parsers setup guest call).2 := by
  cases call with
  | connect networkIdentity ct outcome =>
      have move : ScaffoldingGuest.ConnectMove parsers setup guest networkIdentity ct outcome
        (guest.connect parsers setup networkIdentity ct outcome) := ScaffoldingGuest.connect_move
      rw [guestCall]
      generalize guest.connect parsers setup networkIdentity ct outcome = result at move ⊢
      cases move with
      | refused error manager => exact keeps
      | unreached error id inst center => exact ⟨keeps.1, fun _ => ⟨rfl, rfl⟩⟩
      | joined join idle joins => exact ⟨keeps.1, fun _ => ⟨rfl, rfl⟩⟩
  | mapMinecraftPort outcome =>
      rw [guestCall, ScaffoldingGuest.mapMinecraftPort]
      split
      · next config center isConfig isCenter =>
          have inRoom : guest.config.isSome = true ∧ guest.center.isSome = true := by
            rw [isConfig, isCenter]
            exact ⟨rfl, rfl⟩
          split
          · exact keeps
          · exact mapAsking_keeps parsers center outcome keeps.1 inRoom
      · exact keeps
  | sendJson key payload delivery =>
      rw [guestCall, ScaffoldingGuest.sendJson]
      cases jsonRequest guest.negotiated key payload with
      | error error => exact keeps
      | ok request => exact keeps
  | _ => exact keeps

variable (parsers) in
/-- The address that a guest keeps is returned whether or not it is in a room still. -/
theorem mapMinecraftPort_kept (keeps : KeepsAddress guest)
    (kept : guest.minecraftHost.isSome = true) (outcome : MapOutcome) :
    ∃ address, guest.mapMinecraftPort parsers outcome = (.ok address, guest) := by
  have ⟨config, center⟩ := keeps.2 kept
  rcases Option.isSome_iff_exists.mp config with ⟨_, isConfig⟩
  rcases Option.isSome_iff_exists.mp center with ⟨_, isCenter⟩
  rcases Option.isSome_iff_exists.mp kept with ⟨host, isHost⟩
  rcases Option.isSome_iff_exists.mp (keeps.1.symm.trans kept) with ⟨port, isPort⟩
  exact ⟨(host, port), by rw [ScaffoldingGuest.mapMinecraftPort, isConfig, isCenter, isHost, isPort]⟩

end Left

/-! ## Isolation -/

section Isolation

variable {Inet Uri Addr : Type} {parsers : AddressParsers Inet Uri Addr} {setup : GuestConfig}

/-- The guest that a history of calls and a final `leave` leave behind. -/
def leftAfter (parsers : AddressParsers Inet Uri Addr) (setup : GuestConfig)
    (history : List GuestCall) (deleted : Except String Unit) : ScaffoldingGuest :=
  afterCalls (guestCall parsers setup) ScaffoldingGuest.new (history ++ [.leave deleted])

theorem leftAfter_unconnected (history : List GuestCall) (deleted : Except String Unit) :
    (leftAfter parsers setup history deleted).tcp = ⟨none⟩ := by
  rw [leftAfter, afterCalls_concat]
  rfl

theorem leftAfter_keeps (history : List GuestCall) (deleted : Except String Unit) :
    KeepsAddress (leftAfter parsers setup history deleted) := by
  refine afterCalls_keeps keepsAddress_call ?_ _
  exact ⟨rfl, fun kept => (by cases kept)⟩

theorem new_idle : ScaffoldingGuest.new.easyTier.isRunning = false := rfl

/-- The profile of a guest that has started EasyTier shows whether the flag was negotiated. -/
theorem introduced_iff {guest : ScaffoldingGuest} {networkIdentity : String × String}
    {outcome : JoinOutcome} {join : ScaffoldingGuest.Join}
    (idle : guest.easyTier.isRunning = false)
    (joins : ScaffoldingGuest.Joins parsers setup networkIdentity outcome join) :
    (guest.startEasyTier parsers setup networkIdentity outcome).2.playerProfile setup =
        (ScaffoldingGuest.new.startEasyTier parsers setup networkIdentity outcome).2.playerProfile
          setup ↔
      "c:player_easytier_id" ∉ guest.negotiated := by
  have started {other : ScaffoldingGuest} (otherIdle : other.easyTier.isRunning = false) :
      (other.startEasyTier parsers setup networkIdentity outcome).2 =
        other.withEasyTier (other.easyTier.launched
          (ScaffoldingGuest.networkConfig setup networkIdentity outcome) join.id join.inst) := by
    rw [ScaffoldingGuest.startEasyTier, EasyTierManager.start_of_creates
      ((EasyTierManager.creates_of_idle otherIdle).trans joins.created), if_pos joins.inTime]
    rfl
  rw [started idle, started new_idle]
  constructor
  · intro same negotiated
    have ids := congrArg PlayerProfileEntry.easytierId same
    change (if "c:player_easytier_id" ∈ guest.negotiated then some join.inst.peerId else none) =
      none at ids
    rw [if_pos negotiated] at ids
    cases ids
  · intro absent
    change (⟨_, _, (if "c:player_easytier_id" ∈ guest.negotiated then some join.inst.peerId
      else none), _, _⟩ : PlayerProfileEntry) = ⟨_, _, none, _, _⟩
    rw [if_neg absent]

/-- A negotiation hides what was negotiated before exactly if it succeeds. -/
theorem negotiateProtocols_forgets_iff {keys before : List String} {response : ProtocolResponse} :
    negotiateProtocols keys before response = negotiateProtocols keys [] response ↔
      before = [] ∨ response.isSuccess = true := by
  rw [negotiateProtocols, negotiateProtocols]
  by_cases success : response.isSuccess = true
  · rw [if_pos success, if_pos success]
    exact ⟨fun _ => Or.inr success, fun _ => rfl⟩
  · rw [if_neg success, if_neg success]
    exact ⟨Or.inl, fun either => either.resolve_right success⟩

/-- An address that is kept is still returned after `leave`. -/
theorem host_of_unmapped {left : ScaffoldingGuest} (keeps : KeepsAddress left)
    (unmapped : ∀ calls outcome,
      EveryAnswer (guestCall parsers setup) (fun answer => ¬ answer.Joined) left calls →
      ∃ error, ((afterCalls (guestCall parsers setup) left calls).mapMinecraftPort parsers
        outcome).1 = .error error) :
    left.minecraftHost = none := by
  by_contra kept
  let asking : MapOutcome := ⟨⟨⟨0, []⟩, .ok (), 0, false⟩, 0, .ok ()⟩
  rcases mapMinecraftPort_kept parsers keeps (Option.isSome_iff_ne_none.mpr kept) asking with
    ⟨address, mapped⟩
  rcases unmapped [] asking (fun _ listed => (by cases listed)) with ⟨error, refused⟩
  rw [afterCalls, List.foldl_nil, mapped] at refused
  cases refused

/-- What a guest answers in the new room depends on the address and the keys it brings. -/
theorem joined_answers_iff {guest : ScaffoldingGuest} {networkIdentity : String × String}
    {ct : HeartbeatCt} {outcome : JoinOutcome} {join : ScaffoldingGuest.Join}
    (idle : guest.easyTier.isRunning = false)
    (joins : ScaffoldingGuest.Joins parsers setup networkIdentity outcome join)
    (keeps : KeepsAddress guest) :
    (∀ calls,
      answers (guestCall parsers setup)
          (guest.connect parsers setup networkIdentity ct outcome).2 calls =
        answers (guestCall parsers setup)
          (ScaffoldingGuest.new.connect parsers setup networkIdentity ct outcome).2 calls) ↔
      guest.minecraftHost = none ∧ (guest.negotiated = [] ∨ join.response.isSuccess = true) := by
  rw [ScaffoldingGuest.connect_of_joins idle joins,
    ScaffoldingGuest.connect_of_joins new_idle joins]
  constructor
  · intro same
    have hosts := same [.minecraftHost]
    change [GuestAnswer.minecraftHost guest.minecraftHost] = [.minecraftHost none] at hosts
    rw [List.cons.injEq, GuestAnswer.minecraftHost.injEq] at hosts
    have keys := same [.negotiatedProtocols]
    change [GuestAnswer.negotiatedProtocols (negotiateProtocols setup.customProtocolKeys
      guest.negotiated join.response)] = [.negotiatedProtocols
        (negotiateProtocols setup.customProtocolKeys [] join.response)] at keys
    rw [List.cons.injEq, GuestAnswer.negotiatedProtocols.injEq] at keys
    exact ⟨hosts.1, negotiateProtocols_forgets_iff.mp keys.1⟩
  · rintro ⟨host, negotiation⟩ calls
    have port : guest.minecraftPort = none := by
      have same := keeps.1
      rw [host] at same
      exact Option.isNone_iff_eq_none.mp (Option.isSome_eq_false_iff.mp same.symm)
    apply guestAlike_respects.answers_eq
    refine ⟨_, EasyTierManager.alike_launched guest.easyTier ScaffoldingGuest.new.easyTier
      (ScaffoldingGuest.networkConfig setup networkIdentity outcome) join.id join.inst, ?_⟩
    rw [ScaffoldingGuest.joined, ScaffoldingGuest.joined, ScaffoldingGuest.withEasyTier,
      negotiateProtocols_forgets_iff.mpr negotiation, host, port]
    rfl

/-- A session leaves nothing to a later one exactly if no address is kept, the flag is not
negotiated, and nothing was negotiated or the new host answers the negotiation with
success. -/
theorem session_isolated_iff {history between : List GuestCall} {deleted : Except String Unit}
    {networkIdentity : String × String} {ct : HeartbeatCt} {outcome : JoinOutcome}
    (ok : ((afterCalls (guestCall parsers setup) (leftAfter parsers setup history deleted)
      between).connect parsers setup networkIdentity ct outcome).1 = .ok ()) :
    Isolated parsers setup (leftAfter parsers setup history deleted)
        (afterCalls (guestCall parsers setup) (leftAfter parsers setup history deleted) between)
        networkIdentity ct outcome ↔
      LeavesNothing (leftAfter parsers setup history deleted)
        (afterCalls (guestCall parsers setup) (leftAfter parsers setup history deleted) between)
        outcome := by
  generalize isLeft : leftAfter parsers setup history deleted = left at *
  have unconnected : left.tcp = ⟨none⟩ := isLeft ▸ leftAfter_unconnected history deleted
  have keeps : KeepsAddress left := isLeft ▸ leftAfter_keeps history deleted
  generalize isRejoining : afterCalls (guestCall parsers setup) left between = rejoining at *
  have rejoiningKeeps : KeepsAddress rejoining :=
    isRejoining ▸ afterCalls_keeps keepsAddress_call keeps between
  rcases ScaffoldingGuest.joins_of_connect_ok ok with ⟨idle, join, joins⟩
  have answered : outcome.hostAnswer = some join.response := by
    rw [JoinOutcome.hostAnswer, joins.through]
    rfl
  constructor
  · intro isolated
    have host := host_of_unmapped keeps isolated.unmapped
    have asked := (joined_answers_iff idle joins rejoiningKeeps).mp isolated.answers
    refine ⟨host, asked.1, (introduced_iff idle joins).mp isolated.introduced, ?_⟩
    apply asked.2.imp_right
    intro success response isAnswer
    cases answered.symm.trans isAnswer
    exact success
  · rintro ⟨host, rejoiningHost, flag, negotiation⟩
    refine ⟨?_, (introduced_iff idle joins).mpr flag, ?_,
      (joined_answers_iff idle joins rejoiningKeeps).mpr
        ⟨rejoiningHost, negotiation.imp_right fun success => success join.response answered⟩⟩
    · intro calls asking stays
      have away : Away left.negotiated (afterCalls (guestCall parsers setup) left calls) :=
        afterCalls_invariant (fun _ call => away_call call) stays ⟨unconnected, host, rfl⟩
      rcases mapMinecraftPort_away parsers away asking with ⟨error, same⟩
      exact ⟨error, congrArg Prod.fst same⟩
    · rw [ScaffoldingGuest.connect_of_joins idle joins,
        ScaffoldingGuest.connect_of_joins new_idle joins]
      rfl

end Isolation

/-- Parsers that take any text. -/
def sampleParsers : AddressParsers String String String := ⟨some, some, some⟩

def sampleSetup : GuestConfig := ⟨"player", "machine", "vendor", ["x:chat"], none, fun _ => []⟩

/-- The answer arrives whole. -/
def sampleDelivery (answer : ProtocolResponse) : Delivery :=
  ⟨answer, .ok (), (serializeResponse answer).length, false⟩

/-- A center that is reached directly and answers `c:protocols` like this. -/
def sampleJoin (id : InstanceId) (virtualIp : String) (protocols : ProtocolResponse) :
    JoinOutcome where
  elevated := true
  bindIp := none
  easyTier := ⟨.ok (id, ⟨true, "1", none⟩), true⟩
  discovered := .ok ⟨virtualIp, 1025⟩
  direct := ⟨true, sampleDelivery ⟨0, []⟩, sampleDelivery protocols⟩
  localPort := 0
  patched := .ok ()
  tries _ := none

/-- The protocols of a host that supports the custom key. -/
def sampleProtocols : ProtocolResponse := ⟨0, utf8Bytes (joinNul ["c:ping", "x:chat"])⟩

/-- The host says that Minecraft listens on this port. -/
def sampleMap (high low : UInt8) : MapOutcome := ⟨sampleDelivery ⟨0, [high, low]⟩, 0, .ok ()⟩

/-- A first session, with these calls in the room. -/
def sampleLeft (calls : List GuestCall) : ScaffoldingGuest :=
  leftAfter sampleParsers sampleSetup
    (.connect ("first", "secret") 0 (sampleJoin 7 "10.0.0.1" sampleProtocols) :: calls) (.ok ())

/-- The guest, or a new one, joins a second room. -/
def sampleConnect (guest : ScaffoldingGuest) (protocols : ProtocolResponse) :
    Except ScaffoldingError Unit × ScaffoldingGuest :=
  guest.connect sampleParsers sampleSetup ("second", "secret") 1 (sampleJoin 8 "10.0.0.2" protocols)

/-- The first session has mapped no address, and the second host answers with success. -/
theorem session_isolated_iff_sample :
    Isolated sampleParsers sampleSetup (sampleLeft []) (sampleLeft []) ("second", "secret") 1
      (sampleJoin 8 "10.0.0.2" sampleProtocols) := by
  have ok : ((afterCalls (guestCall sampleParsers sampleSetup) (leftAfter sampleParsers sampleSetup
      [.connect ("first", "secret") 0 (sampleJoin 7 "10.0.0.1" sampleProtocols)] (.ok ()))
      []).connect sampleParsers sampleSetup ("second", "secret") 1
        (sampleJoin 8 "10.0.0.2" sampleProtocols)).1 = .ok () := by decide +kernel
  have answer : (sampleJoin 8 "10.0.0.2" sampleProtocols).hostAnswer = some sampleProtocols := by
    decide +kernel
  refine (session_isolated_iff ok).mpr ⟨by decide +kernel, by decide +kernel, by decide +kernel,
    Or.inr ?_⟩
  intro response isAnswer
  cases answer.symm.trans isAnswer
  rfl

/-- The address of the first room is returned outside of any room and in the second one; and
a second host that refuses `c:protocols` leaves the keys of the first one in force. -/
theorem session_leaves_address :
    ((sampleLeft [.mapMinecraftPort (sampleMap 99 221)]).mapMinecraftPort sampleParsers
        (sampleMap 99 222)).1 = .ok ("10.0.0.1", 25565) ∧
      (let rejoined := sampleConnect (sampleLeft [.mapMinecraftPort (sampleMap 99 221)])
          sampleProtocols
        let fresh := sampleConnect .new sampleProtocols
        rejoined.1 = .ok () ∧ fresh.1 = .ok () ∧
          (rejoined.2.mapMinecraftPort sampleParsers (sampleMap 99 222)).1 =
            .ok ("10.0.0.1", 25565) ∧
          (fresh.2.mapMinecraftPort sampleParsers (sampleMap 99 222)).1 =
            .ok ("10.0.0.2", 25566)) ∧
      (let rejoined := sampleConnect (sampleLeft []) ⟨255, []⟩
        let fresh := sampleConnect .new ⟨255, []⟩
        rejoined.1 = .ok () ∧ fresh.1 = .ok () ∧
          ensureNegotiated rejoined.2.negotiated "x:chat" = .ok () ∧
          fresh.2.negotiated = []) ∧
      ¬ Isolated sampleParsers sampleSetup (sampleLeft [.mapMinecraftPort (sampleMap 99 221)])
        (sampleLeft [.mapMinecraftPort (sampleMap 99 221)]) ("second", "secret") 1
        (sampleJoin 8 "10.0.0.2" sampleProtocols) := by
  have mapped : ((sampleLeft [.mapMinecraftPort (sampleMap 99 221)]).mapMinecraftPort sampleParsers
      (sampleMap 99 222)).1 = .ok ("10.0.0.1", 25565) := by decide +kernel
  refine ⟨mapped, by decide +kernel, by decide +kernel, ?_⟩
  intro isolated
  rcases isolated.unmapped [] (sampleMap 99 222) (fun _ listed => (by cases listed)) with
    ⟨error, refused⟩
  cases mapped.symm.trans refused

end Guest
end QomicexConnector
