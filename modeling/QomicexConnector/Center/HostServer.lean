import QomicexConnector.Library.LabelledRun
import QomicexConnector.Library.NumberedList
import QomicexConnector.Center.PlayerList
import QomicexConnector.Center.ClientConn

namespace QomicexConnector
namespace Center

open Library

/-!
# One run of the host's TCP server

The accept loop of `TcpServer::start`, the tasks running `handle_client`, the
`heartbeat_timeout_loop`, calls of `disconnect_machine` and the consumer of the
disconnect channel, interleaved at every `await`.  A step is what one party does
between two suspension points; a lock is taken and released within one step, as
the source never holds one across an `await`.

Each event carries the time at which it happens.  Time is read off the events and
never runs backwards.  Requests, verdicts of custom handlers, iteration orders of
maps and failures of the network are chosen by the event, so that a statement
about every run covers every client and every schedule.
-/

/-- Connections are numbered in the order in which they are accepted.  The number
also names the connection's cancellation token. -/
abbrev ConnId := Nat

/-- Where a task running `handle_client` stands. -/
inductive ConnPhase where
  | insertActive
  | insertIp
  | pollServer
  | pollConn
  | pollRead
  | handling (request : ProtocolRequest)
  | writing (request : ProtocolRequest) (response : ProtocolResponse)
  | insertHeartbeat (request : ProtocolRequest)
  | insertMachine (machineId : String)
  | removeActive
  | removeHeartbeat
  | removeIp
  | removeMachine
  | ended
  deriving DecidableEq

structure Conn where
  clientId : String
  clientIp : String
  cancelled : Bool
  phase : ConnPhase
  deriving DecidableEq

/-- Where `heartbeat_timeout_loop` stands.  `cancelling` is between the two locks it
takes for one expired id. -/
inductive LoopPhase where
  | sleeping (since : Instant)
  | woken (now : Instant)
  | expiring (now : Instant) (ids : List String)
  | cancelling (now : Instant) (id : String) (later : List String)
  | stopped
  deriving DecidableEq

/-- What the connections, the timeout loop and `disconnect_machine` share. -/
structure Server where
  registry : ClientRegistry ConnId
  conns : List Conn
  loop : LoopPhase

/-- The server with its surroundings: the clock, the server token, the calls of
`disconnect_machine` between their two locks, the disconnect channel and the
players. -/
structure Host extends Server where
  now : Instant
  accepting : Bool
  serverCancelled : Bool
  kicks : List String
  queue : List String
  players : List PlayerInfo

def Host.new (now : Instant) : Host where
  registry := ClientRegistry.new
  conns := []
  loop := .sleeping now
  now := now
  accepting := true
  serverCancelled := false
  kicks := []
  queue := []
  players := []

/-! ## The handlers of the host -/

/-- What a `ScaffoldingCenter` is constructed with. -/
structure CenterConfig where
  fromSlice : List UInt8 → Except String Json
  toVec : Json → Except String (List UInt8)
  minecraftPort : UInt16
  playerName : String
  machineId : String
  vendor : String
  customKeys : List String

/-- What `start` builds a server with.  `pingHook` tells whether a custom `player_ping`
handler was set.  A server exists only where the key check passed. -/
structure HostConfig extends CenterConfig where
  pingHook : Bool
  checked : ∃ accepted, checkCustomKeys standardKeys customKeys = .ok accepted

/-- What one call of a handler depends on besides the players: the attempts to take
the list's lock, the verdict of a custom `player_ping` handler and the updates it
performs through the center, and the answer of a custom protocol. -/
structure HandlerChoice where
  attempts : Nat → Bool
  verdict : Bool
  updates : List PlayerUpdate
  custom : ProtocolResponse

def hostHandlers (config : HostConfig) (choice : HandlerChoice) :
    HandlerConfig (List PlayerInfo) where
  fromSlice := config.fromSlice
  toVec := config.toVec
  minecraftPort := config.minecraftPort
  onPlayerPing info players :=
    if config.pingHook then (choice.verdict, choice.updates.foldl PlayerUpdate.apply players)
    else (true, onPlayerPingImpl choice.attempts info players)
  getPlayers players := (withPlayersRead choice.attempts players).getD []

def customHandlers (config : HostConfig) (choice : HandlerChoice) :
    List (ProtocolHandler (List PlayerInfo)) :=
  config.customKeys.map fun key => ⟨key, fun _ players => (choice.custom, players)⟩

/-- One call through the table of the server. -/
def hostDispatch (config : HostConfig) (choice : HandlerChoice) (request : ProtocolRequest)
    (players : List PlayerInfo) : ProtocolResponse × List PlayerInfo :=
  dispatch (protocolTable (assembleProtocols (hostHandlers config choice)
    (customHandlers config choice))) request players

/-- The test `handle_client` makes after it has written a response. -/
def isAcceptedPing (request : ProtocolRequest) (response : ProtocolResponse) : Bool :=
  request.key == "c:player_ping" && response.isSuccess

/-- The entry `start` appends for the host. -/
def hostEntry (config : CenterConfig) (nodeId : Option String) : PlayerInfo where
  name := config.playerName
  machineId := config.machineId
  easytierId := nodeId
  vendor := config.vendor
  kind := .host

/-! ## Steps -/

/-- The steps of a connection task.  `answered` is a completed write that answers an
accepted ping, `written` any other completed write. -/
inductive ConnStep where
  | insertActive
  | insertIp
  | pollServer
  | pollConn
  | pending
  | received (request : ProtocolRequest)
  | readFailed
  | handle (choice : HandlerChoice)
  | answered
  | written
  | writeFailed
  | insertHeartbeat
  | insertMachine
  | removeActive
  | removeHeartbeat
  | removeIp
  | removeMachine

/-- What one step of a connection task changes. -/
structure ConnEffect where
  phase : ConnPhase
  registry : ClientRegistry ConnId
  players : List PlayerInfo
  message : Option String

def Host.goto (host : Host) (phase : ConnPhase) : ConnEffect :=
  ⟨phase, host.registry, host.players, none⟩

/-- One step of the task that serves connection `i`. -/
def connEffect (config : HostConfig) (host : Host) (i : ConnId) (conn : Conn) :
    ConnPhase → ConnStep → Option ConnEffect
  | .insertActive, .insertActive =>
      some { host.goto .insertIp with registry := host.registry.insertActive conn.clientId i }
  | .insertIp, .insertIp =>
      some { host.goto .pollServer with
        registry := host.registry.insertIp conn.clientId conn.clientIp }
  | .pollServer, .pollServer =>
      some (host.goto (if host.serverCancelled then .removeActive else .pollConn))
  | .pollConn, .pollConn =>
      some (host.goto (if conn.cancelled then .removeActive else .pollRead))
  | .pollRead, .pending => some (host.goto .pollServer)
  | .pollRead, .received request => some (host.goto (.handling request))
  | .pollRead, .readFailed => some (host.goto .removeActive)
  | .handling request, .handle choice =>
      let result := hostDispatch config choice request host.players
      some { host.goto (.writing request result.1) with players := result.2 }
  | .writing request response, .answered =>
      if isAcceptedPing request response then some (host.goto (.insertHeartbeat request)) else none
  | .writing request response, .written =>
      if isAcceptedPing request response then none else some (host.goto .pollServer)
  | .writing _ _, .writeFailed => some (host.goto .removeActive)
  | .insertHeartbeat request, .insertHeartbeat =>
      some { host.goto (match recordedMachineId config.fromSlice request.body with
          | some machineId => .insertMachine machineId
          | none => .pollServer) with
        registry := host.registry.insertHeartbeat conn.clientId host.now }
  | .insertMachine machineId, .insertMachine =>
      some { host.goto .pollServer with
        registry := host.registry.insertMachine conn.clientId machineId }
  | .removeActive, .removeActive =>
      some { host.goto .removeHeartbeat with registry := host.registry.removeActive conn.clientId }
  | .removeHeartbeat, .removeHeartbeat =>
      some { host.goto .removeIp with registry := host.registry.removeHeartbeat conn.clientId }
  | .removeIp, .removeIp =>
      some { host.goto .removeMachine with registry := host.registry.removeIp conn.clientId }
  | .removeMachine, .removeMachine =>
      some { host.goto .ended with
        registry := host.registry.removeMachine conn.clientId
        message := some ((host.registry.clientMachine.lookup conn.clientId).getD "") }
  | _, _ => none

def Host.afterConn (host : Host) (i : ConnId) (conn : Conn) (effect : ConnEffect) : Host :=
  { host with
    registry := effect.registry
    conns := host.conns.set i { conn with phase := effect.phase }
    queue := host.queue ++ effect.message.toList
    players := effect.players }

def heartbeatInterval : Nat := secs 5

def heartbeatTimeout : Nat := secs 15

/-- The ids `heartbeat_timeout_loop` collects when it iterates the heartbeats in `order`. -/
def timedOut (now : Instant) (order : List (String × Instant)) : List String :=
  (order.filter fun entry => heartbeatTimeout < now - entry.2).map Prod.fst

inductive LoopStep where
  | wake
  | collect (order : List (String × Instant))
  | expire
  | cancelExpired
  | finishTick
  | stop

/-- `cancel` on the token of a connection. -/
def Conn.cancel (conn : Conn) : Conn := { conn with cancelled := true }

/-- `active_clients.lock().await.remove(id)`, and `cancel` on the token if there was one. -/
def Server.cancelActive (server : Server) (id : String) : Server :=
  { server with
    registry := server.registry.removeActive id
    conns := match server.registry.activeClients.lookup id with
      | some token => server.conns.modify token Conn.cancel
      | none => server.conns }

/-- One step of `heartbeat_timeout_loop`. -/
def loopEffect (host : Host) : LoopPhase → LoopStep → Option Server
  | .sleeping since, .wake =>
      if since + heartbeatInterval ≤ host.now then
        some { host.toServer with loop := .woken host.now }
      else none
  | .sleeping _, .stop =>
      if host.serverCancelled then some { host.toServer with loop := .stopped } else none
  | .woken now, .collect order =>
      if host.registry.lastHeartbeat.Iterates order then
        some { host.toServer with loop := .expiring now (timedOut now order) }
      else none
  | .expiring now (id :: later), .expire =>
      some { host.toServer with
        registry := host.registry.removeHeartbeat id
        loop := .cancelling now id later }
  | .cancelling now id later, .cancelExpired =>
      some { host.toServer.cancelActive id with loop := .expiring now later }
  | .expiring _ [], .finishTick => some { host.toServer with loop := .sleeping host.now }
  | _, _ => none

inductive Action where
  | accept (i : ConnId) (clientId clientIp : String)
  | stopAccepting
  | cancelServer
  | conn (i : ConnId) (step : ConnStep)
  | loop (step : LoopStep)
  | kickFind (order : List (String × String)) (machineId : String)
  | kickCancel (clientId : String)
  | consume (attempts : Nat → Bool)
  | removePlayer (attempts : Nat → Bool) (machineId : String)
  | handlePlayerPing (attempts : Nat → Bool) (info : PlayerInfo)
  | enlistHost (nodeId : Option String)

structure Event where
  time : Instant
  action : Action

def act (config : HostConfig) (host : Host) : Action → Option Host
  | .accept i clientId clientIp =>
      if host.accepting ∧ i = host.conns.length then
        some { host with conns := host.conns ++ [⟨clientId, clientIp, false, .insertActive⟩] }
      else none
  | .stopAccepting => if host.serverCancelled then some { host with accepting := false } else none
  | .cancelServer => some { host with serverCancelled := true }
  | .conn i step =>
      match host.conns[i]? with
      | some conn => (connEffect config host i conn conn.phase step).map (host.afterConn i conn)
      | none => none
  | .loop step =>
      (loopEffect host host.loop step).map fun server => { host with toServer := server }
  | .kickFind order machineId =>
      if host.registry.clientMachine.Iterates order then
        match order.find? fun entry => entry.2 == machineId with
        | some (clientId, _) => some { host with kicks := host.kicks ++ [clientId] }
        | none => some host
      else none
  | .kickCancel clientId =>
      if clientId ∈ host.kicks then
        some { host with
          toServer := host.toServer.cancelActive clientId
          kicks := host.kicks.erase clientId }
      else none
  | .consume attempts =>
      match host.queue with
      | message :: later =>
          some { host with
            queue := later
            players := onClientDisconnectedImpl attempts (disconnectedMachine message)
              host.players }
      | [] => none
  | .removePlayer attempts machineId =>
      some { host with players := removePlayer attempts machineId host.players }
  | .handlePlayerPing attempts info =>
      some { host with players := handlePlayerPing attempts info host.players }
  | .enlistHost nodeId =>
      some { host with players := host.players ++ [hostEntry config.toCenterConfig nodeId] }

def Host.atTime (host : Host) (time : Instant) : Host := { host with now := time }

/-- One event of a run.  The clock never runs backwards. -/
def step (config : HostConfig) (host : Host) (event : Event) : Option Host :=
  if host.now ≤ event.time then act config (host.atTime event.time) event.action else none

/-! ## What a step can do -/

/-- The steps of a connection task, one constructor for each way to take one. -/
inductive ConnMove (config : HostConfig) (host : Host) (i : ConnId) (conn : Conn) :
    ConnStep → ConnEffect → Prop
  | insertActive (phase : conn.phase = .insertActive) :
      ConnMove config host i conn .insertActive
        { host.goto .insertIp with registry := host.registry.insertActive conn.clientId i }
  | insertIp (phase : conn.phase = .insertIp) :
      ConnMove config host i conn .insertIp
        { host.goto .pollServer with
          registry := host.registry.insertIp conn.clientId conn.clientIp }
  | serverStopped (phase : conn.phase = .pollServer) (stopped : host.serverCancelled = true) :
      ConnMove config host i conn .pollServer (host.goto .removeActive)
  | serverRuns (phase : conn.phase = .pollServer) (runs : host.serverCancelled = false) :
      ConnMove config host i conn .pollServer (host.goto .pollConn)
  | connStopped (phase : conn.phase = .pollConn) (stopped : conn.cancelled = true) :
      ConnMove config host i conn .pollConn (host.goto .removeActive)
  | connRuns (phase : conn.phase = .pollConn) (runs : conn.cancelled = false) :
      ConnMove config host i conn .pollConn (host.goto .pollRead)
  | pending (phase : conn.phase = .pollRead) :
      ConnMove config host i conn .pending (host.goto .pollServer)
  | received (phase : conn.phase = .pollRead) (request : ProtocolRequest) :
      ConnMove config host i conn (.received request) (host.goto (.handling request))
  | readFailed (phase : conn.phase = .pollRead) :
      ConnMove config host i conn .readFailed (host.goto .removeActive)
  | handle {request : ProtocolRequest} {response : ProtocolResponse} {players : List PlayerInfo}
      (phase : conn.phase = .handling request) (choice : HandlerChoice)
      (result : hostDispatch config choice request host.players = (response, players)) :
      ConnMove config host i conn (.handle choice)
        { host.goto (.writing request response) with players := players }
  | answered {request : ProtocolRequest} {response : ProtocolResponse}
      (phase : conn.phase = .writing request response)
      (accepted : isAcceptedPing request response = true) :
      ConnMove config host i conn .answered (host.goto (.insertHeartbeat request))
  | written {request : ProtocolRequest} {response : ProtocolResponse}
      (phase : conn.phase = .writing request response)
      (other : isAcceptedPing request response = false) :
      ConnMove config host i conn .written (host.goto .pollServer)
  | writeFailed {request : ProtocolRequest} {response : ProtocolResponse}
      (phase : conn.phase = .writing request response) :
      ConnMove config host i conn .writeFailed (host.goto .removeActive)
  | stamped {request : ProtocolRequest} {machineId : String}
      (phase : conn.phase = .insertHeartbeat request)
      (recorded : recordedMachineId config.fromSlice request.body = some machineId) :
      ConnMove config host i conn .insertHeartbeat
        { host.goto (.insertMachine machineId) with
          registry := host.registry.insertHeartbeat conn.clientId host.now }
  | stampedOnly {request : ProtocolRequest} (phase : conn.phase = .insertHeartbeat request)
      (unrecorded : recordedMachineId config.fromSlice request.body = none) :
      ConnMove config host i conn .insertHeartbeat
        { host.goto .pollServer with
          registry := host.registry.insertHeartbeat conn.clientId host.now }
  | insertMachine {machineId : String} (phase : conn.phase = .insertMachine machineId) :
      ConnMove config host i conn .insertMachine
        { host.goto .pollServer with
          registry := host.registry.insertMachine conn.clientId machineId }
  | removeActive (phase : conn.phase = .removeActive) :
      ConnMove config host i conn .removeActive
        { host.goto .removeHeartbeat with registry := host.registry.removeActive conn.clientId }
  | removeHeartbeat (phase : conn.phase = .removeHeartbeat) :
      ConnMove config host i conn .removeHeartbeat
        { host.goto .removeIp with registry := host.registry.removeHeartbeat conn.clientId }
  | removeIp (phase : conn.phase = .removeIp) :
      ConnMove config host i conn .removeIp
        { host.goto .removeMachine with registry := host.registry.removeIp conn.clientId }
  | removeMachine (phase : conn.phase = .removeMachine) :
      ConnMove config host i conn .removeMachine
        { host.goto .ended with
          registry := host.registry.removeMachine conn.clientId
          message := some ((host.registry.clientMachine.lookup conn.clientId).getD "") }

theorem connEffect_eq_some {config : HostConfig} {host : Host} {i : ConnId} {conn : Conn}
    {step : ConnStep} {effect : ConnEffect}
    (taken : connEffect config host i conn conn.phase step = some effect) :
    ConnMove config host i conn step effect := by
  generalize phase : conn.phase = current at taken
  unfold connEffect at taken
  split at taken
  case h_3 =>
    split at taken <;> cases taken
    · exact .serverStopped phase ‹_›
    · exact .serverRuns phase (eq_false_of_ne_true ‹_›)
  case h_4 =>
    split at taken <;> cases taken
    · exact .connStopped phase ‹_›
    · exact .connRuns phase (eq_false_of_ne_true ‹_›)
  case h_8 request choice => cases taken; exact .handle phase choice rfl
  case h_9 =>
    split at taken <;> cases taken
    exact .answered phase ‹_›
  case h_10 =>
    split at taken <;> cases taken
    exact .written phase (eq_false_of_ne_true ‹_›)
  case h_12 request =>
    cases taken
    cases recorded : recordedMachineId config.fromSlice request.body with
    | some machineId => exact .stamped phase recorded
    | none => exact .stampedOnly phase recorded
  all_goals cases taken
  · exact .insertActive phase
  · exact .insertIp phase
  · exact .pending phase
  · exact .received phase _
  · exact .readFailed phase
  · exact .writeFailed phase
  · exact .insertMachine phase
  · exact .removeActive phase
  · exact .removeHeartbeat phase
  · exact .removeIp phase
  · exact .removeMachine phase

/-- The steps of the timeout loop. -/
inductive LoopMove (host : Host) : LoopStep → Server → Prop
  | wake {since : Instant} (phase : host.loop = .sleeping since)
      (due : since + heartbeatInterval ≤ host.now) :
      LoopMove host .wake { host.toServer with loop := .woken host.now }
  | stop {since : Instant} (phase : host.loop = .sleeping since)
      (stopped : host.serverCancelled = true) :
      LoopMove host .stop { host.toServer with loop := .stopped }
  | collect {now : Instant} (phase : host.loop = .woken now) (order : List (String × Instant))
      (iterates : host.registry.lastHeartbeat.Iterates order) :
      LoopMove host (.collect order)
        { host.toServer with loop := .expiring now (timedOut now order) }
  | expire {now : Instant} {id : String} {later : List String}
      (phase : host.loop = .expiring now (id :: later)) :
      LoopMove host .expire
        { host.toServer with
          registry := host.registry.removeHeartbeat id
          loop := .cancelling now id later }
  | cancelExpired {now : Instant} {id : String} {later : List String}
      (phase : host.loop = .cancelling now id later) :
      LoopMove host .cancelExpired
        { host.toServer.cancelActive id with loop := .expiring now later }
  | finishTick {now : Instant} (phase : host.loop = .expiring now []) :
      LoopMove host .finishTick { host.toServer with loop := .sleeping host.now }

theorem loopEffect_eq_some {host : Host} {step : LoopStep} {server : Server}
    (taken : loopEffect host host.loop step = some server) : LoopMove host step server := by
  generalize phase : host.loop = current at taken
  unfold loopEffect at taken
  split at taken
  case h_1 =>
    split at taken <;> cases taken
    exact .wake phase ‹_›
  case h_2 =>
    split at taken <;> cases taken
    exact .stop phase ‹_›
  case h_3 order =>
    split at taken <;> cases taken
    exact .collect phase order ‹_›
  all_goals cases taken
  · exact .expire phase
  · exact .cancelExpired phase
  · exact .finishTick phase

/-- The events, seen from the host. -/
inductive HostMove (config : HostConfig) (host : Host) : Action → Host → Prop
  | accept (accepting : host.accepting = true) (clientId clientIp : String) :
      HostMove config host (.accept host.conns.length clientId clientIp)
        { host with conns := host.conns ++ [⟨clientId, clientIp, false, .insertActive⟩] }
  | stopAccepting (stopped : host.serverCancelled = true) :
      HostMove config host .stopAccepting { host with accepting := false }
  | cancelServer : HostMove config host .cancelServer { host with serverCancelled := true }
  | conn {i : ConnId} {conn : Conn} {step : ConnStep} {effect : ConnEffect}
      (listed : host.conns[i]? = some conn) (move : ConnMove config host i conn step effect) :
      HostMove config host (.conn i step) (host.afterConn i conn effect)
  | loop {step : LoopStep} {server : Server} (move : LoopMove host step server) :
      HostMove config host (.loop step) { host with toServer := server }
  | kickFind {order : List (String × String)} (iterates : host.registry.clientMachine.Iterates order)
      (machineId : String) (kicks : List String) :
      HostMove config host (.kickFind order machineId) { host with kicks := kicks }
  | kickCancel {clientId : String} (found : clientId ∈ host.kicks) :
      HostMove config host (.kickCancel clientId)
        { host with
          toServer := host.toServer.cancelActive clientId
          kicks := host.kicks.erase clientId }
  | consume (attempts : Nat → Bool) {message : String} {later : List String}
      (queued : host.queue = message :: later) :
      HostMove config host (.consume attempts)
        { host with
          queue := later
          players := onClientDisconnectedImpl attempts (disconnectedMachine message)
            host.players }
  | removePlayer (attempts : Nat → Bool) (machineId : String) :
      HostMove config host (.removePlayer attempts machineId)
        { host with players := removePlayer attempts machineId host.players }
  | handlePlayerPing (attempts : Nat → Bool) (info : PlayerInfo) :
      HostMove config host (.handlePlayerPing attempts info)
        { host with players := handlePlayerPing attempts info host.players }
  | enlistHost (nodeId : Option String) :
      HostMove config host (.enlistHost nodeId)
        { host with players := host.players ++ [hostEntry config.toCenterConfig nodeId] }

theorem act_eq_some {config : HostConfig} {host next : Host} {action : Action}
    (taken : act config host action = some next) : HostMove config host action next := by
  cases action with
  | accept i clientId clientIp =>
      rw [act] at taken
      split at taken <;> cases taken
      next free =>
        rcases free with ⟨accepting, rfl⟩
        exact .accept accepting clientId clientIp
  | stopAccepting =>
      rw [act] at taken
      split at taken <;> cases taken
      exact .stopAccepting ‹_›
  | cancelServer => cases taken; exact .cancelServer
  | conn i step =>
      rw [act] at taken
      split at taken
      · next conn listed =>
          rcases Option.map_eq_some_iff.mp taken with ⟨effect, changed, rfl⟩
          exact .conn listed (connEffect_eq_some changed)
      · cases taken
  | loop step =>
      rcases Option.map_eq_some_iff.mp taken with ⟨server, changed, rfl⟩
      exact .loop (loopEffect_eq_some changed)
  | kickFind order machineId =>
      rw [act] at taken
      split at taken
      · next iterates =>
          split at taken <;> cases taken
          · exact .kickFind iterates machineId _
          · exact .kickFind iterates machineId host.kicks
      · cases taken
  | kickCancel clientId =>
      rw [act] at taken
      split at taken <;> cases taken
      exact .kickCancel ‹_›
  | consume attempts =>
      rw [act] at taken
      split at taken <;> cases taken
      exact .consume attempts ‹_›
  | removePlayer attempts machineId => cases taken; exact .removePlayer attempts machineId
  | handlePlayerPing attempts info => cases taken; exact .handlePlayerPing attempts info
  | enlistHost nodeId => cases taken; exact .enlistHost nodeId

theorem step_eq_some {config : HostConfig} {host next : Host} {event : Event}
    (taken : step config host event = some next) :
    host.now ≤ event.time ∧ HostMove config (host.atTime event.time) event.action next := by
  rw [step] at taken
  split at taken
  · next forward => exact ⟨forward, act_eq_some taken⟩
  · cases taken

/-! ## Connections and their addresses -/

/-- The task of the connection has not finished. -/
def Conn.live (conn : Conn) : Prop := conn.phase ≠ .ended

instance (conn : Conn) : Decidable conn.live := inferInstanceAs (Decidable (_ ≠ _))

/-- The task has not left the select loop for its cleanup. -/
def ConnPhase.served : ConnPhase → Bool
  | .removeActive | .removeHeartbeat | .removeIp | .removeMachine | .ended => false
  | _ => true

theorem Conn.live_of_served {conn : Conn} (served : conn.phase.served = true) : conn.live := by
  intro ended
  rw [ended] at served
  cases served

namespace ConnMove

variable {config : HostConfig} {host : Host} {i : ConnId} {conn : Conn} {step : ConnStep}
  {effect : ConnEffect}

theorem live (move : ConnMove config host i conn step effect) : conn.live := by
  intro ended
  cases move <;> simp_all

theorem started (move : ConnMove config host i conn step effect) :
    effect.phase ≠ .insertActive := by
  cases move <;> simp [Host.goto]

/-- A connection never comes back from its cleanup. -/
theorem served (move : ConnMove config host i conn step effect)
    (later : effect.phase.served = true) : conn.phase.served = true := by
  cases move <;> simp_all [Host.goto, ConnPhase.served]

/-- A task touches the entries of its own address only. -/
theorem frame (move : ConnMove config host i conn step effect) {other : String}
    (different : other ≠ conn.clientId) :
    effect.registry.activeClients.lookup other = host.registry.activeClients.lookup other ∧
      effect.registry.lastHeartbeat.lookup other = host.registry.lastHeartbeat.lookup other ∧
      effect.registry.clientMachine.lookup other = host.registry.clientMachine.lookup other := by
  cases move <;>
    simp [Host.goto, different, ClientRegistry.insertActive, ClientRegistry.insertIp,
      ClientRegistry.insertHeartbeat, ClientRegistry.insertMachine, ClientRegistry.removeActive,
      ClientRegistry.removeHeartbeat, ClientRegistry.removeIp, ClientRegistry.removeMachine]

end ConnMove

/-- The connections after a task has stepped. -/
theorem getElem?_afterConn {host : Host} {i j : ConnId} {conn : Conn} (effect : ConnEffect)
    (listed : host.conns[i]? = some conn) :
    (host.afterConn i conn effect).conns[j]? =
      if j = i then some { conn with phase := effect.phase } else host.conns[j]? := by
  exact getElem?_set_listed listed _ j

theorem getElem?_afterConn_self {host : Host} {i : ConnId} {conn : Conn} (effect : ConnEffect)
    (listed : host.conns[i]? = some conn) :
    (host.afterConn i conn effect).conns[i]? = some { conn with phase := effect.phase } := by
  rw [getElem?_afterConn effect listed, if_pos rfl]

/-- The connections after the token found under an address was cancelled. -/
theorem getElem?_cancelActive (server : Server) (id : String) (j : ConnId) :
    (server.cancelActive id).conns[j]? =
      (server.conns[j]?).map fun conn =>
        if server.registry.activeClients.lookup id = some j then conn.cancel else conn := by
  rw [Server.cancelActive]
  cases server.registry.activeClients.lookup id with
  | none => simp
  | some token =>
      change (server.conns.modify token Conn.cancel)[j]? = _
      rw [List.getElem?_modify]
      simp only [Option.some.injEq]
      rfl

/-- No two unfinished connections have the same address. -/
def Server.DistinctAddresses (server : Server) : Prop :=
  ∀ (i j : ConnId) (first second : Conn),
    server.conns[i]? = some first → server.conns[j]? = some second → first.live → second.live →
      first.clientId = second.clientId → i = j

/-- An accepted connection comes from an address that no unfinished connection has. -/
def FreshAddress (host : Host) : Action → Prop
  | .accept _ clientId _ => ∀ conn ∈ host.conns, conn.live → conn.clientId ≠ clientId
  | _ => True

instance (host : Host) (action : Action) : Decidable (FreshAddress host action) :=
  match action with
  | .accept _ clientId _ =>
      inferInstanceAs (Decidable (∀ conn ∈ host.conns, conn.live → conn.clientId ≠ clientId))
  | .stopAccepting | .cancelServer | .conn _ _ | .loop _ | .kickFind _ _ | .kickCancel _
  | .consume _ | .removePlayer _ _ | .handlePlayerPing _ _ | .enlistHost _ => isTrue trivial

/-- Every connection the server accepts comes from an address free at that time. -/
def FreshAddresses (config : HostConfig) (begin : Instant) (events : List Event) : Prop :=
  EveryStep (step config) (Host.new begin)
    (fun _ host event => FreshAddress host event.action) events

/-- What an event makes of a connection: its address stays, a cancellation is not
taken back, and neither is the registration, the end of the loop or of the task. -/
structure Conn.Successor (before after : Conn) : Prop where
  clientId : after.clientId = before.clientId
  started : before.phase ≠ .insertActive → after.phase ≠ .insertActive
  cancelled : before.cancelled = true → after.cancelled = true
  served : after.phase.served = true → before.phase.served = true
  live : after.live → before.live

namespace Conn.Successor

theorem refl (conn : Conn) : conn.Successor conn := ⟨rfl, id, id, id, id⟩

theorem cancel (conn : Conn) : conn.Successor conn.cancel := ⟨rfl, id, fun _ => rfl, id, id⟩

end Conn.Successor

theorem ConnMove.successor {config : HostConfig} {host : Host} {i : ConnId} {conn : Conn}
    {step : ConnStep} {effect : ConnEffect} (move : ConnMove config host i conn step effect) :
    conn.Successor { conn with phase := effect.phase } :=
  ⟨rfl, fun _ => move.started, id, move.served, fun _ => move.live⟩

theorem Server.cancelActive_successor {server : Server} {id : String} {j : ConnId} {after : Conn}
    (listed : (server.cancelActive id).conns[j]? = some after) :
    ∃ before, server.conns[j]? = some before ∧ before.Successor after ∧
      after.phase = before.phase := by
  rw [getElem?_cancelActive] at listed
  rcases Option.map_eq_some_iff.mp listed with ⟨before, earlier, rfl⟩
  refine ⟨before, earlier, ?_⟩
  split
  · exact ⟨.cancel before, rfl⟩
  · exact ⟨.refl before, rfl⟩

/-- A connection is new or the successor of a connection there was, and only its own
step changes its phase. -/
theorem HostMove.conn_cases {config : HostConfig} {host next : Host} {action : Action}
    (move : HostMove config host action next) {j : ConnId} {after : Conn}
    (listed : next.conns[j]? = some after) :
    (∃ clientId clientIp, action = .accept j clientId clientIp ∧ j = host.conns.length ∧
        after = ⟨clientId, clientIp, false, .insertActive⟩) ∨
      ∃ before, host.conns[j]? = some before ∧ before.Successor after ∧
        (after.phase = before.phase ∨ ∃ step, action = .conn j step) := by
  have unchanged : host.conns[j]? = some after → ∃ before, host.conns[j]? = some before ∧
      before.Successor after ∧ (after.phase = before.phase ∨ ∃ step, action = .conn j step) :=
    fun same => ⟨after, same, .refl after, Or.inl rfl⟩
  have cancelled : ∀ id, (host.toServer.cancelActive id).conns[j]? = some after →
      ∃ before, host.conns[j]? = some before ∧ before.Successor after ∧
        (after.phase = before.phase ∨ ∃ step, action = .conn j step) := by
    intro id listed
    rcases Server.cancelActive_successor listed with ⟨before, present, successor, phase⟩
    exact ⟨before, present, successor, Or.inl phase⟩
  cases move with
  | accept accepting clientId clientIp =>
      rcases getElem?_concat listed with old | ⟨rfl, rfl⟩
      · exact Or.inr (unchanged old)
      · exact Or.inl ⟨clientId, clientIp, rfl, rfl, rfl⟩
  | @conn i conn step effect earlier move =>
      rw [getElem?_afterConn _ earlier] at listed
      split at listed
      · next same =>
          subst same
          cases listed
          exact Or.inr ⟨_, earlier, move.successor, Or.inr ⟨step, rfl⟩⟩
      · exact Or.inr (unchanged listed)
  | loop move =>
      cases move with
      | cancelExpired phase => exact Or.inr (cancelled _ listed)
      | _ => exact Or.inr (unchanged listed)
  | kickCancel found => exact Or.inr (cancelled _ listed)
  | _ => exact Or.inr (unchanged listed)

theorem Server.cancelActive_listed {server : Server} {j : ConnId} {before : Conn}
    (listed : server.conns[j]? = some before) (id : String) :
    ∃ after, (server.cancelActive id).conns[j]? = some after ∧ before.Successor after ∧
      after.phase = before.phase := by
  rw [getElem?_cancelActive, listed]
  refine ⟨_, rfl, ?_, ?_⟩
  · split
    · exact .cancel before
    · exact .refl before
  · split <;> rfl

/-- No connection is forgotten. -/
theorem HostMove.conn_listed {config : HostConfig} {host next : Host} {action : Action}
    (move : HostMove config host action next) {j : ConnId} {before : Conn}
    (listed : host.conns[j]? = some before) :
    ∃ after, next.conns[j]? = some after ∧ before.Successor after ∧
      (after.phase = before.phase ∨ ∃ step, action = .conn j step) := by
  have cancelled : ∀ id, ∃ after, (host.toServer.cancelActive id).conns[j]? = some after ∧
      before.Successor after ∧ (after.phase = before.phase ∨ ∃ step, action = .conn j step) := by
    intro id
    rcases Server.cancelActive_listed listed id with ⟨after, found, successor, phase⟩
    exact ⟨after, found, successor, Or.inl phase⟩
  cases move with
  | accept accepting clientId clientIp =>
      refine ⟨before, ?_, .refl before, Or.inl rfl⟩
      rcases List.getElem?_eq_some_iff.mp listed with ⟨inside, _⟩
      exact (List.getElem?_append_left inside).trans listed
  | @conn i conn step effect earlier move =>
      by_cases same : j = i
      · subst same
        rw [earlier] at listed
        cases listed
        exact ⟨_, getElem?_afterConn_self _ earlier, move.successor, Or.inr ⟨step, rfl⟩⟩
      · refine ⟨before, ?_, .refl before, Or.inl rfl⟩
        rw [getElem?_afterConn _ earlier, if_neg same, listed]
  | loop move =>
      cases move with
      | cancelExpired phase => exact cancelled _
      | _ => exact ⟨before, listed, .refl before, Or.inl rfl⟩
  | kickCancel found => exact cancelled _
  | _ => exact ⟨before, listed, .refl before, Or.inl rfl⟩

theorem Server.DistinctAddresses.step {config : HostConfig} {host next : Host} {action : Action}
    (move : HostMove config host action next) (distinct : host.DistinctAddresses)
    (fresh : FreshAddress host action) : next.DistinctAddresses := by
  intro i j first second firstListed secondListed firstLive secondLive same
  rcases move.conn_cases firstListed with ⟨clientId, clientIp, rfl, isNew, rfl⟩ |
    ⟨before, listed, successor, _⟩
  · rcases move.conn_cases secondListed with ⟨_, _, _, alsoNew, _⟩ |
      ⟨other, otherListed, successor, _⟩
    · rw [isNew, alsoNew]
    · have present := List.mem_of_getElem? otherListed
      exact absurd (successor.clientId.symm.trans same.symm)
        (fresh other present (successor.live secondLive))
  · rcases move.conn_cases secondListed with ⟨clientId, clientIp, rfl, _, rfl⟩ |
      ⟨other, otherListed, others, _⟩
    · have present := List.mem_of_getElem? listed
      exact absurd (successor.clientId.symm.trans same)
        (fresh before present (successor.live firstLive))
    · refine distinct i j before other listed otherListed (successor.live firstLive)
        (others.live secondLive) ?_
      rw [← successor.clientId, same, others.clientId]

/-- Only connections change the machine ids recorded for the addresses. -/
theorem HostMove.clientMachine_eq {config : HostConfig} {host next : Host} {action : Action}
    (move : HostMove config host action next) (noConn : ∀ i step, action ≠ .conn i step) :
    next.registry.clientMachine = host.registry.clientMachine := by
  cases move with
  | conn listed move => exact absurd rfl (noConn _ _)
  | loop move => cases move <;> rfl
  | _ => rfl

/-! ## A small host

The runs that show a result at work use one host and the pings of a guest that
sends its machine id only. -/

/-- A body as the guest writes it, with the member the host records. -/
def samplePingBody (machineId : String) : List UInt8 :=
  utf8Bytes ("\x7b\"machine_id\":\"" ++ machineId ++ "\"\x7d")

def samplePing (machineId : String) : ProtocolRequest :=
  ⟨"c", "player_ping", samplePingBody machineId⟩

/-- The JSON parser on the bodies the sample runs send. -/
def sampleFromSlice (body : List UInt8) : Except String Json :=
  match ["g1", "g2"].find? fun machineId => samplePingBody machineId == body with
  | some machineId => .ok (.object [("machine_id", .string machineId)])
  | none => .error "expected value at line 1 column 1"

def sampleConfig : HostConfig where
  fromSlice := sampleFromSlice
  toVec _ := .ok (utf8Bytes "[]")
  minecraftPort := 25565
  playerName := "Host"
  machineId := "h1"
  vendor := "qml"
  pingHook := false
  customKeys := []
  checked := ⟨standardKeys, rfl⟩

/-- The lock is free and nobody overrides the standard behaviour. -/
def sampleChoice : HandlerChoice where
  attempts _ := true
  verdict := true
  updates := []
  custom := ⟨0, []⟩

/-- A connection is accepted and registers itself. -/
def sampleJoin (time : Instant) (i : ConnId) (clientId clientIp : String) : List Event :=
  [⟨time, .accept i clientId clientIp⟩, ⟨time, .conn i .insertActive⟩, ⟨time, .conn i .insertIp⟩]

/-- A connection in its loop receives a ping and calls the handler. -/
def sampleRequest (time : Instant) (i : ConnId) (machineId : String) : List Event :=
  [⟨time, .conn i .pollServer⟩, ⟨time, .conn i .pollConn⟩,
    ⟨time, .conn i (.received (samplePing machineId))⟩, ⟨time, .conn i (.handle sampleChoice)⟩]

/-- A connection answers an accepted ping and records it. -/
def sampleRecord (time : Instant) (i : ConnId) : List Event :=
  [⟨time, .conn i .answered⟩, ⟨time, .conn i .insertHeartbeat⟩, ⟨time, .conn i .insertMachine⟩]

/-- The cleanup of a connection. -/
def sampleCleanup (time : Instant) (i : ConnId) : List Event :=
  [⟨time, .conn i .removeActive⟩, ⟨time, .conn i .removeHeartbeat⟩, ⟨time, .conn i .removeIp⟩,
    ⟨time, .conn i .removeMachine⟩]

/-- A connection in its loop finds the stream closed. -/
def sampleLeave (time : Instant) (i : ConnId) : List Event :=
  [⟨time, .conn i .pollServer⟩, ⟨time, .conn i .pollConn⟩, ⟨time, .conn i .readFailed⟩] ++
    sampleCleanup time i

end Center
end QomicexConnector
