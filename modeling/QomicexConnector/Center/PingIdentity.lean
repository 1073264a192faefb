import QomicexConnector.Center.HostPlayers

namespace QomicexConnector
namespace Center

open Library
open QomicexConnector.Core

/-!
# The machine ids of one connection

A ping body is read twice.  The handler enlists the player under the `machine_id` that
`parse_player_info` makes of it, the empty one if the member is missing; `handle_client`
records the member only if it is there, one for the whole connection, and sends the last one
when the connection ends, where the empty one means that there is none.  The main result says
for which sequences of bodies the two readings agree to the extent that nobody who was
enlisted is left behind.
-/

/-! ## A connection that only pings -/

/-- A body that a request frame can carry. -/
structure PingBody where
  bytes : List UInt8
  short : bytes.length < 4294967296

def PingBody.frame (body : PingBody) : RequestFrame :=
  ⟨utf8Bytes "c:player_ping", body.bytes, by decide, body.short⟩

/-- Nobody else uses the list of players. -/
def unhindered : HandlerChoice where
  attempts _ := true
  verdict := true
  updates := []
  custom := ⟨0, []⟩

/-- A connection to a host without a custom handler of pings. -/
def pingConnection (config : HostConfig) (clientId clientIp : String) (clock : Nat → Instant) :
    ConnectionConfig (List PlayerInfo) where
  fromSlice := config.fromSlice
  protocols := protocolTable (assembleProtocols
    (hostHandlers { config with pingHook := false } unhindered) (customHandlers config unhindered))
  clientId := clientId
  clientIp := clientIp
  clock := clock

/-- What a body does to the players. -/
def pingPlayers (fromSlice : List UInt8 → Except String Json) (players : List PlayerInfo)
    (body : PingBody) : List PlayerInfo :=
  match parsePlayerInfo fromSlice body.bytes with
  | .ok info => pingUpdate info players
  | .error _ => players

/-- What a body does to the machine id recorded for the connection. -/
def pingRecorded (fromSlice : List UInt8 → Except String Json) (recorded : Option String)
    (body : PingBody) : Option String :=
  (recordedMachineId fromSlice body.bytes).or recorded

/-- The machine id of the last body with the member, which is the disconnect message in the
end. -/
def notifiedAfter (fromSlice : List UInt8 → Except String Json) (bodies : List PingBody) : String :=
  (bodies.foldl (pingRecorded fromSlice) none).getD ""

section Serving

variable {config : HostConfig} {clientId clientIp : String} {clock : Nat → Instant}

theorem PingBody.typeStr (body : PingBody) : body.frame.typeStr = "c:player_ping" :=
  fromUtf8Lossy_utf8Bytes _

theorem PingBody.wellFormed (body : PingBody) : body.frame.WellFormed := by
  rw [RequestFrame.WellFormed, body.typeStr]
  decide

theorem acquires_unhindered : acquires lockRetryLimit unhindered.attempts = true :=
  acquires_eq_true_iff.mpr ⟨0, by decide, rfl⟩

/-- An empty message removes nobody. -/
theorem onClientDisconnectedImpl_unhindered (message : String) (players : List PlayerInfo) :
    onClientDisconnectedImpl unhindered.attempts (disconnectedMachine message) players =
      if message = "" then players else removeUpdate message players := by
  rw [disconnectedMachine]
  by_cases empty : message = ""
  · rw [if_pos empty, if_pos (by rw [empty]; rfl), onClientDisconnectedImpl]
  · rw [if_neg empty, if_neg (by simpa using empty),
      onClientDisconnectedImpl_of_acquired acquires_unhindered]

/-- The request that the frame of a ping carries. -/
theorem frameRequest_ping (body : PingBody) :
    (frameRequest body.frame).key = "c:player_ping" ∧
      (frameRequest body.frame).body = body.bytes := by
  rcases wellFormed_split body.wellFormed with ⟨nameSpace, requestType, _, request, key⟩
  rw [body.typeStr] at key
  refine ⟨key, ?_⟩
  rw [request]
  rfl

theorem dispatch_ping (body : PingBody) (players : List PlayerInfo) :
    dispatch (pingConnection config clientId clientIp clock).protocols (frameRequest body.frame)
        players =
      match parsePlayerInfo config.fromSlice body.bytes with
      | .ok info => (⟨0, []⟩, pingUpdate info players)
      | .error message => (errorResponse s!"玩家心跳解析失败: {message}", players) := by
  let standard : HostConfig := { config with pingHook := false }
  have ⟨key, isBody⟩ := frameRequest_ping body
  change hostDispatch standard unhindered (frameRequest body.frame) players = _
  rw [hostDispatch_ping key, playerPingProtocol]
  dsimp only
  rw [isBody]
  change (match parsePlayerInfo config.fromSlice body.bytes with
    | .ok info => _
    | .error message => _) = _
  cases parsePlayerInfo config.fromSlice body.bytes with
  | error message => rfl
  | ok info =>
      have handled : (hostHandlers standard unhindered).onPlayerPing info players =
          (true, onPlayerPingImpl unhindered.attempts info players) := rfl
      dsimp only
      rw [handled, onPlayerPingImpl_of_acquired acquires_unhindered]

theorem lookup_recordPing {Token : Type} (fromSlice : List UInt8 → Except String Json)
    (registry : ClientRegistry Token) (now : Instant) (body : PingBody) :
    (recordPing fromSlice clientId registry now body.bytes).clientMachine.lookup clientId =
      pingRecorded fromSlice (registry.clientMachine.lookup clientId) body := by
  rw [recordPing, pingRecorded]
  cases recordedMachineId fromSlice body.bytes with
  | none => rfl
  | some machineId => exact AList.lookup_insert _

variable (config clientId clientIp clock) in
/-- A body that is read enlists its player and is recorded; another one changes nothing. -/
theorem processRequest_ping (body : PingBody) (serving : Serving ConnId (List PlayerInfo)) :
    let after := processRequest (pingConnection config clientId clientIp clock) serving
      (frameRequest body.frame)
    after.handlers = pingPlayers config.fromSlice serving.handlers body ∧
      after.registry.clientMachine.lookup clientId = pingRecorded config.fromSlice
        (serving.registry.clientMachine.lookup clientId) body := by
  have ⟨key, isBody⟩ := frameRequest_ping body
  dsimp only
  rw [processRequest, dispatch_ping, pingPlayers]
  cases parsed : parsePlayerInfo config.fromSlice body.bytes with
  | error message =>
      have unrecorded : recordedMachineId config.fromSlice body.bytes = none := by
        cases recorded : recordedMachineId config.fromSlice body.bytes with
        | none => rfl
        | some machineId =>
            rcases parsePlayerInfo_of_recorded recorded with ⟨info, ok, _⟩
            cases parsed.symm.trans ok
      have refused : ¬ ((frameRequest body.frame).key = "c:player_ping" ∧
          (errorResponse s!"玩家心跳解析失败: {message}").isSuccess = true) := by
        rintro ⟨_, success⟩
        cases success
      refine ⟨rfl, ?_⟩
      dsimp only
      rw [if_neg refused, pingRecorded, unrecorded, Option.none_or]
  | ok info =>
      refine ⟨rfl, ?_⟩
      have accepted : (frameRequest body.frame).key = "c:player_ping" ∧
          ProtocolResponse.isSuccess ⟨0, []⟩ = true := ⟨key, rfl⟩
      dsimp only
      rw [if_pos accepted, isBody]
      exact lookup_recordPing config.fromSlice serving.registry _ body

variable (config clientId clientIp clock) in
/-- The loop on a stream of pings enlists and records them one after another. -/
theorem serveLoop_pings {bodies : List PingBody} {chunks : List (List UInt8)}
    (sent : chunks.flatten = bodies.flatMap fun body => body.frame.bytes)
    (serving : Serving ConnId (List PlayerInfo)) :
    let final := (serveLoop (pingConnection config clientId clientIp clock) chunks serving).1
    final.handlers = bodies.foldl (pingPlayers config.fromSlice) serving.handlers ∧
      final.registry.clientMachine.lookup clientId =
        bodies.foldl (pingRecorded config.fromSlice)
          (serving.registry.clientMachine.lookup clientId) := by
  induction bodies generalizing chunks serving with
  | nil =>
      have nothing : ∀ (frame : RequestFrame) after, frame.WellFormed →
          chunks.flatten ≠ frame.bytes ++ after := by
        intro frame after _ shown
        rw [sent, List.flatMap_nil] at shown
        exact frame.bytes_ne_nil (List.append_eq_nil_iff.mp shown.symm).1
      rcases serveLoop_ends (pingConnection config clientId clientIp clock) nothing serving with
        ⟨error, ended⟩
      rw [ended]
      exact ⟨rfl, rfl⟩
  | cons body later inductionHypothesis =>
      rw [List.flatMap_cons] at sent
      rcases serveLoop_frame (pingConnection config clientId clientIp clock) body.wellFormed sent
        serving with ⟨rest, shows, continues⟩
      have ⟨players, recorded⟩ := processRequest_ping config clientId clientIp clock body serving
      rw [continues, List.foldl_cons, List.foldl_cons, ← players, ← recorded]
      exact inductionHypothesis shows _

end Serving

/-! ## Who is enlisted -/

/-- The machine id under which a body enlists its player, if it is read at all. -/
def enlistedAs (fromSlice : List UInt8 → Except String Json) (body : PingBody) : Option String :=
  match parsePlayerInfo fromSlice body.bytes with
  | .ok info => some info.machineId
  | .error _ => none

section Enlisted

variable {fromSlice : List UInt8 → Except String Json} {body : PingBody} {bodies : List PingBody}
  {players before : List PlayerInfo} {machineId : String}

theorem pingPlayers_cases (fromSlice : List UInt8 → Except String Json) (body : PingBody)
    (players : List PlayerInfo) :
    enlistedAs fromSlice body = none ∧ pingPlayers fromSlice players body = players ∨
      ∃ info, enlistedAs fromSlice body = some info.machineId ∧
        pingPlayers fromSlice players body = pingUpdate info players := by
  rw [enlistedAs, pingPlayers]
  cases parsePlayerInfo fromSlice body.bytes with
  | error message => exact Or.inl ⟨rfl, rfl⟩
  | ok info => exact Or.inr ⟨info, rfl, rfl⟩

theorem mem_machineIds_pingPlayers :
    machineId ∈ machineIds (pingPlayers fromSlice players body) ↔
      machineId ∈ machineIds players ∨ enlistedAs fromSlice body = some machineId := by
  rcases pingPlayers_cases fromSlice body players with ⟨unread, same⟩ | ⟨info, enlisted, updated⟩
  · rw [unread, same]
    simp
  · rw [enlisted, updated, mem_machineIds_pingUpdate, Option.some.injEq, eq_comm]

theorem mem_machineIds_pinged :
    machineId ∈ machineIds (bodies.foldl (pingPlayers fromSlice) players) ↔
      machineId ∈ machineIds players ∨
        ∃ body ∈ bodies, enlistedAs fromSlice body = some machineId := by
  induction bodies generalizing players with
  | nil => simp
  | cons body later inductionHypothesis =>
      rw [List.foldl_cons, inductionHypothesis, mem_machineIds_pingPlayers, List.exists_mem_cons_iff,
        or_assoc]

/-- What the pings add to the list: each new machine id once, as a guest. -/
structure AddsGuests (before players : List PlayerInfo) : Prop where
  guests : ∀ player ∈ players, player.machineId ∉ machineIds before → player.kind = .guest
  once : ∀ machineId, machineId ∉ machineIds before → (machineIds players).count machineId ≤ 1

theorem AddsGuests.refl (players : List PlayerInfo) : AddsGuests players players where
  guests player listed absent := absurd (mem_machineIds.mpr ⟨player, listed, rfl⟩) absent
  once machineId absent := by
    rw [List.count_eq_zero_of_not_mem absent]
    exact Nat.zero_le 1

theorem AddsGuests.pingUpdate (adds : AddsGuests before players) (info : PlayerInfo) :
    AddsGuests before (pingUpdate info players) where
  guests player listed absent := by
    rcases mem_pingUpdate listed with ⟨earlier, present, id, kind⟩ | ⟨_, guest⟩
    · rw [← id] at absent
      exact kind.symm.trans (adds.guests earlier present absent)
    · exact guest
  once machineId absent := by
    rw [machineIds_pingUpdate]
    split
    · exact adds.once machineId absent
    · next new =>
        rw [List.count_append, List.count_singleton]
        split
        · next same =>
            rw [← eq_of_beq same, List.count_eq_zero_of_not_mem new]
        · exact adds.once machineId absent

theorem AddsGuests.pinged (adds : AddsGuests before players) :
    AddsGuests before (bodies.foldl (pingPlayers fromSlice) players) := by
  induction bodies generalizing players with
  | nil => exact adds
  | cons body later inductionHypothesis =>
      rw [List.foldl_cons]
      apply inductionHypothesis
      rcases pingPlayers_cases fromSlice body players with ⟨_, same⟩ | ⟨info, _, updated⟩
      · rw [same]
        exact adds
      · rw [updated]
        exact adds.pingUpdate info

/-- A guest who is listed once is gone after the removal. -/
theorem not_mem_machineIds_removeUpdate (once : (machineIds players).count machineId ≤ 1)
    (guests : ∀ player ∈ players, player.machineId = machineId → player.kind = .guest) :
    machineId ∉ machineIds (removeUpdate machineId players) := by
  induction players with
  | nil => exact List.not_mem_nil
  | cons existing later inductionHypothesis =>
      rw [machineIds_cons, List.count_cons] at once
      rw [removeUpdate]
      by_cases same : existing.machineId = machineId
      · have guest := guests existing List.mem_cons_self same
        rw [if_pos same, if_neg (by rw [guest]; simp)]
        rw [if_pos (beq_iff_eq.mpr same)] at once
        exact List.count_eq_zero.mp (Nat.le_zero.mp (Nat.le_of_succ_le_succ once))
      · rw [if_neg same, machineIds_cons, List.mem_cons, not_or]
        refine ⟨Ne.symm same, inductionHypothesis (Nat.le_of_add_right_le once) ?_⟩
        exact fun player listed => guests player (List.mem_cons_of_mem _ listed)

end Enlisted

/-! ## Who is left behind -/

/-- The list when the connection has ended and its message has been consumed. -/
def playersAfter (config : HostConfig) (clientId clientIp : String) (clock : Nat → Instant)
    (connCt : ConnId) (players : List PlayerInfo) (chunks : List (List UInt8)) : List PlayerInfo :=
  let finished := handleClient (pingConnection config clientId clientIp clock) connCt
    ClientRegistry.new players chunks
  onClientDisconnectedImpl unhindered.attempts (disconnectedMachine finished.notified)
    finished.handlers

/-- No guest remains who was not listed before. -/
def LeavesNobody (before after : List PlayerInfo) : Prop :=
  ∀ player ∈ after, player.kind = .guest → player.machineId ∈ machineIds before

/-- Every machine id that a body adds to the list is that of the last body with the member,
and is not empty. -/
def NotifiedCovers (fromSlice : List UInt8 → Except String Json) (players : List PlayerInfo)
    (bodies : List PingBody) : Prop :=
  ∀ body ∈ bodies, ∀ machineId ∈ enlistedAs fromSlice body,
    machineId ∉ machineIds players → machineId = notifiedAfter fromSlice bodies ∧ machineId ≠ ""

instance (fromSlice : List UInt8 → Except String Json) (players : List PlayerInfo)
    (bodies : List PingBody) : Decidable (NotifiedCovers fromSlice players bodies) :=
  inferInstanceAs (Decidable (∀ body ∈ bodies, ∀ machineId ∈ enlistedAs fromSlice body,
    machineId ∉ machineIds players → machineId = notifiedAfter fromSlice bodies ∧ machineId ≠ ""))

instance (before after : List PlayerInfo) : Decidable (LeavesNobody before after) :=
  inferInstanceAs (Decidable (∀ player ∈ after, _ → _))

section LeftBehind

variable {config : HostConfig} {clientId clientIp : String} {clock : Nat → Instant}
  {connCt : ConnId} {players : List PlayerInfo} {chunks : List (List UInt8)}
  {bodies : List PingBody}

variable (config clientId clientIp clock connCt players) in
/-- The whole connection is the fold of its bodies and one removal. -/
theorem playersAfter_eq (sent : chunks.flatten = bodies.flatMap fun body => body.frame.bytes) :
    playersAfter config clientId clientIp clock connCt players chunks =
      onClientDisconnectedImpl unhindered.attempts
        (disconnectedMachine (notifiedAfter config.fromSlice bodies))
        (bodies.foldl (pingPlayers config.fromSlice) players) := by
  let registered : ClientRegistry ConnId :=
    (ClientRegistry.new.insertActive clientId connCt).insertIp clientId clientIp
  have served := serveLoop_pings config clientId clientIp clock sent ⟨[], registered, players, 0⟩
  rw [playersAfter, handleClient]
  dsimp only at served
  change onClientDisconnectedImpl unhindered.attempts (disconnectedMachine
      (((serveLoop (pingConnection config clientId clientIp clock) chunks
        ⟨[], registered, players, 0⟩).1.registry.clientMachine.lookup clientId).getD ""))
      (serveLoop (pingConnection config clientId clientIp clock) chunks
        ⟨[], registered, players, 0⟩).1.handlers = _
  rw [served.1, served.2]
  rfl

/-- A connection that only pings leaves nobody behind exactly if every machine id that it adds
to the list is the non-empty one that is notified at its end. -/
theorem leavesNobody_iff (config : HostConfig) (clientId clientIp : String)
    (clock : Nat → Instant) (connCt : ConnId) (players : List PlayerInfo)
    (sent : chunks.flatten = bodies.flatMap fun body => body.frame.bytes) :
    LeavesNobody players (playersAfter config clientId clientIp clock connCt players chunks) ↔
      NotifiedCovers config.fromSlice players bodies := by
  rw [playersAfter_eq config clientId clientIp clock connCt players sent, NotifiedCovers]
  generalize isPinged : bodies.foldl (pingPlayers config.fromSlice) players = pinged
  generalize notifiedAfter config.fromSlice bodies = notified
  have adds : AddsGuests players pinged := isPinged ▸ (AddsGuests.refl players).pinged
  have ids : ∀ machineId, machineId ∈ machineIds pinged ↔ machineId ∈ machineIds players ∨
      ∃ body ∈ bodies, enlistedAs config.fromSlice body = some machineId := by
    intro machineId
    rw [← isPinged]
    exact mem_machineIds_pinged
  have sub := onClientDisconnectedImpl_sublist unhindered.attempts (disconnectedMachine notified)
    pinged
  constructor
  · intro leaves body listed machineId enlisted new
    by_contra uncovered
    have kept : machineId ∈ machineIds (onClientDisconnectedImpl unhindered.attempts
        (disconnectedMachine notified) pinged) := by
      have present := (ids machineId).mpr (Or.inr ⟨body, listed, enlisted⟩)
      rw [onClientDisconnectedImpl_unhindered]
      split
      · exact present
      · next nonempty =>
          have different : machineId ≠ notified := fun same =>
            uncovered ⟨same, same ▸ nonempty⟩
          exact (mem_machineIds_removeUpdate different).mpr present
    rcases mem_machineIds.mp kept with ⟨player, remains, rfl⟩
    exact new (leaves player remains (adds.guests player (sub.subset remains) new))
  · intro covers player remains guest
    by_contra new
    have present := mem_machineIds.mpr ⟨player, sub.subset remains, rfl⟩
    rcases ((ids player.machineId).mp present).resolve_left new with ⟨body, listed, enlisted⟩
    rcases covers body listed player.machineId enlisted new with ⟨rfl, nonempty⟩
    rw [onClientDisconnectedImpl_unhindered, if_neg nonempty] at remains
    refine not_mem_machineIds_removeUpdate (adds.once _ new) ?_
      (mem_machineIds.mpr ⟨player, remains, rfl⟩)
    intro other otherListed same
    exact adds.guests other otherListed (same ▸ new)

end LeftBehind

/-- The bodies that the parser of the samples knows, and one without the member. -/
def identityFromSlice (body : List UInt8) : Except String Json :=
  if body = utf8Bytes "\x7b\x7d" then .ok (.object []) else sampleFromSlice body

def identityConfig : HostConfig := { sampleConfig with fromSlice := identityFromSlice }

def pingBodyOf (machineId : String) (short : (samplePingBody machineId).length < 4294967296) :
    PingBody :=
  ⟨samplePingBody machineId, short⟩

/-- One client that pings with a machine id throughout. -/
def steadyBodies : List PingBody := [pingBodyOf "g1" (by decide), pingBodyOf "g1" (by decide)]

/-- The machine id changes. -/
def changedBodies : List PingBody := [pingBodyOf "g1" (by decide), pingBodyOf "g2" (by decide)]

/-- The machine id is missing. -/
def namelessBodies : List PingBody := [⟨utf8Bytes "\x7b\x7d", by decide⟩]

/-- The connection after these bodies, on a host with nobody else. -/
def sampleAfter (bodies : List PingBody) : List PlayerInfo :=
  playersAfter identityConfig "10.144.144.5:54321" "10.144.144.5" (fun _ => 0) 0 []
    [bodies.flatMap fun body => body.frame.bytes]

theorem leavesNobody_iff_steady : LeavesNobody [] (sampleAfter steadyBodies) := by
  apply (leavesNobody_iff identityConfig "10.144.144.5:54321" "10.144.144.5" (fun _ => 0) 0 []
    List.flatten_singleton).mpr
  decide +kernel

/-- A client that changes its machine id, or sends none, leaves a guest behind. -/
theorem unrecorded_guests_stay :
    ¬ LeavesNobody [] (sampleAfter changedBodies) ∧
      ¬ LeavesNobody [] (sampleAfter namelessBodies) := by
  have after : ∀ bodies, sampleAfter bodies =
      onClientDisconnectedImpl unhindered.attempts
        (disconnectedMachine (notifiedAfter identityConfig.fromSlice bodies))
        (bodies.foldl (pingPlayers identityConfig.fromSlice) []) :=
    fun bodies => playersAfter_eq identityConfig "10.144.144.5:54321" "10.144.144.5" (fun _ => 0) 0
      [] List.flatten_singleton
  rw [after, after]
  exact ⟨by decide +kernel, by decide +kernel⟩

end Center
end QomicexConnector
