import QomicexConnector.Easytier.Manager
import QomicexConnector.Guest.Negotiation
import QomicexConnector.Guest.TcpClient
import QomicexConnector.Library.CallHistory

namespace QomicexConnector
namespace Guest

open Library Easytier
open QomicexConnector.Core

/-!
# A scaffolding guest

The calls of a `ScaffoldingGuest`, made one after another, on the nine fields that it keeps
behind locks.  What the network, EasyTier and the host do to a call is an argument of the
call: the answers of the host, how much of each arrives, the center that is discovered, the
local ports, the results of patches.

The watch channel of `connection_lost_rx` has its own model in `Guest.ConnectionLost`, and
the heartbeat loop appears here as requests that may be sent at any time.
-/

/-- A cancellation token of the caller. -/
abbrev HeartbeatCt := Nat

structure CenterDiscoveryResult where
  virtualIp : String
  port : UInt16
  deriving DecidableEq

/-- A profile as it is sent in `c:player_ping`. -/
structure PlayerProfileEntry where
  name : String
  machineId : String
  easytierId : Option String
  vendor : String
  kind : Option String
  deriving DecidableEq

/-- What `ScaffoldingGuest::new` is given, and `serde_json::to_vec`, which does not fail on
a record of strings. -/
structure GuestConfig where
  playerName : String
  machineId : String
  vendor : String
  customProtocolKeys : List String
  relayNodes : Option (List String)
  toVec : PlayerProfileEntry → List UInt8

structure ScaffoldingGuest where
  easyTier : EasyTierManager
  tcp : TcpClient
  negotiated : List String
  config : Option NetworkConfig
  center : Option CenterDiscoveryResult
  usePortForward : Bool
  minecraftHost : Option String
  minecraftPort : Option UInt16
  heartbeatCt : Option HeartbeatCt

/-- `ScaffoldingGuest::new`. -/
def ScaffoldingGuest.new : ScaffoldingGuest where
  easyTier := EasyTierManager.new
  tcp := ⟨none⟩
  negotiated := []
  config := none
  center := none
  usePortForward := false
  minecraftHost := none
  minecraftPort := none
  heartbeatCt := none

/-! ## What a call meets -/

/-- What happens to one request: the host's answer, whether the request was written or with
which error that failed, how many bytes arrive, and whether it was the timeout that ended an
incomplete read. -/
structure Delivery where
  answer : ProtocolResponse
  written : Except String Unit
  arrived : Nat
  timedOut : Bool

def Delivery.of (delivery : Delivery) (request : ProtocolRequest) : SendCall :=
  ⟨request, delivery.answer, delivery.written, delivery.arrived, delivery.timedOut⟩

/-- One attempt to connect: whether the connection is established in time, and what happens
to the two requests that follow. -/
structure Attempt where
  established : Bool
  ping : Delivery
  protocols : Delivery

/-- What a call of `connect` meets.  `tries` is asked for each attempt over the port forward,
by the number of attempts that remain after it; `none` if the token is cancelled by then. -/
structure JoinOutcome where
  elevated : Bool
  bindIp : Option String
  easyTier : StartOutcome
  discovered : Except ScaffoldingError CenterDiscoveryResult
  direct : Attempt
  localPort : UInt16
  patched : Except String Unit
  tries : Nat → Option Attempt

/-- What a call of `map_minecraft_port` meets. -/
structure MapOutcome where
  serverPort : Delivery
  localPort : UInt16
  patched : Except String Unit

/-! ## Requests -/

namespace ScaffoldingGuest

/-- `send` on the client of the guest. -/
def send (guest : ScaffoldingGuest) (request : ProtocolRequest) (delivery : Delivery) :
    Except ScaffoldingError ProtocolResponse × ScaffoldingGuest :=
  let sent := guest.tcp.send (delivery.of request)
  (sent.1, { guest with tcp := sent.2 })

def disconnect (guest : ScaffoldingGuest) : ScaffoldingGuest :=
  { guest with tcp := guest.tcp.disconnect }

/-- `get_server_port`. -/
def getServerPort (guest : ScaffoldingGuest) (delivery : Delivery) :
    Except ScaffoldingError UInt16 × ScaffoldingGuest :=
  let sent := guest.send ⟨"c", "server_port", []⟩ delivery
  let port := do
    let response ← sent.1
    if 32 ≤ response.status ∧ response.status < 64 then
      throw (.protocol s!"MC 服务器未启动 (状态码: {response.status})")
    else if response.isSuccess = false then
      throw (.protocol s!"获取服务器端口失败 (状态码: {response.status})")
    else
      match response.body with
      | [high, low] => return UInt16.ofNat (high.toNat * 256 + low.toNat)
      | body => throw (.protocol s!"服务器端口响应长度非法: {body.length} 字节")
  (port, sent.2)

section Calls

variable {Inet Uri Addr : Type} (parsers : AddressParsers Inet Uri Addr) (setup : GuestConfig)

/-- The profile that `send_player_ping` sends. -/
def playerProfile (guest : ScaffoldingGuest) : PlayerProfileEntry where
  name := setup.playerName
  machineId := setup.machineId
  easytierId :=
    if "c:player_easytier_id" ∈ guest.negotiated then some (guest.easyTier.nodeId.getD "")
    else none
  vendor := setup.vendor
  kind := none

/-- `send_player_ping`. -/
def sendPlayerPing (guest : ScaffoldingGuest) (delivery : Delivery) :
    Except ScaffoldingError Unit × ScaffoldingGuest :=
  if guest.tcp.stream.isSome then
    let sent := guest.send ⟨"c", "player_ping", setup.toVec (guest.playerProfile setup)⟩ delivery
    (sent.1.map fun _ => (), sent.2)
  else (.ok (), guest)

/-- `negotiate_protocols`. -/
def negotiateProtocols (guest : ScaffoldingGuest) (delivery : Delivery) :
    Except ScaffoldingError Unit × ScaffoldingGuest :=
  match guest.send (protocolsRequest setup.customProtocolKeys) delivery with
  | (.ok response, after) =>
      (.ok (), { after with
        negotiated :=
          Guest.negotiateProtocols setup.customProtocolKeys after.negotiated response })
  | (.error error, after) => (.error error, after)

/-- `try_connect_once`, which never returns an error. -/
def tryConnectOnce (guest : ScaffoldingGuest) (attempt : Attempt) : Bool × ScaffoldingGuest :=
  if attempt.established then
    match ({ guest with tcp := TcpClient.connected } : ScaffoldingGuest).sendPlayerPing setup
        attempt.ping with
    | (.ok _, pinged) =>
        match pinged.negotiateProtocols setup attempt.protocols with
        | (.ok _, joined) => (true, joined)
        | (.error _, failed) => (false, failed.disconnect)
    | (.error _, failed) => (false, failed.disconnect)
  else (false, guest.disconnect)

/-- `try_connect_with_retry`, with the number of attempts that remain. -/
def tryConnectWithRetry (guest : ScaffoldingGuest) (tries : Nat → Option Attempt) :
    Nat → Bool × ScaffoldingGuest
  | 0 => (false, guest)
  | remaining + 1 =>
      match tries remaining with
      | none => (false, guest)
      | some attempt =>
          match guest.tryConnectOnce setup attempt with
          | (true, joined) => (true, joined)
          | (false, failed) => failed.tryConnectWithRetry tries remaining

/-- `apply_port_forward_patch`, with `parse_forward_addrs`. -/
def applyPortForwardPatch (guest : ScaffoldingGuest) (forward : String)
    (patched : Except String Unit) : Except ScaffoldingError Unit := do
  let _ ← parseForward parsers ScaffoldingError.protocol forward
  guest.easyTier.applyConfigPatch patched

/-- A rule is noted in the configuration. -/
def pushForward (guest : ScaffoldingGuest) (forward : String) : ScaffoldingGuest :=
  { guest with
    config := guest.config.map fun config =>
      { config with portForwards := config.portForwards ++ [forward] } }

/-- The rule that leads from a local port to one of the center. -/
def forwardRule (localPort : UInt16) (virtualIp : String) (port : UInt16) : String :=
  s!"tcp://127.0.0.1:{localPort}/{virtualIp}:{port}"

/-- The configuration with which `connect` starts EasyTier. -/
def networkConfig (networkIdentity : String × String) (outcome : JoinOutcome) : NetworkConfig :=
  { NetworkConfig.default with
    networkName := networkIdentity.1
    networkSecret := networkIdentity.2
    hostname := "scaffolding-mc-guest-" ++ String.ofList (setup.machineId.toList.take 8)
    noTun := !outcome.elevated
    useSmoltcp := !outcome.elevated
    dhcp := true
    relayNodes := setup.relayNodes
    bindIp := outcome.bindIp }

/-- The part of `connect` that goes over a port forward. -/
def connectForwarded (guest : ScaffoldingGuest) (center : CenterDiscoveryResult)
    (ct : HeartbeatCt) (outcome : JoinOutcome) : Except ScaffoldingError Unit × ScaffoldingGuest :=
  let forward := forwardRule outcome.localPort center.virtualIp center.port
  let pushed := guest.pushForward forward
  match pushed.applyPortForwardPatch parsers forward outcome.patched with
  | .error error => (.error error, pushed)
  | .ok _ =>
      match pushed.tryConnectWithRetry setup outcome.tries 10 with
      | (false, failed) =>
          (.error (.centerConnection "无法连接到联机中心（端口转发建立失败）"), failed)
      | (true, joined) => (.ok (), { joined with usePortForward := true, heartbeatCt := some ct })

/-- `connect` up to EasyTier. -/
def startEasyTier (guest : ScaffoldingGuest) (networkIdentity : String × String)
    (outcome : JoinOutcome) : Except ScaffoldingError Unit × ScaffoldingGuest :=
  let started := guest.easyTier.start parsers (networkConfig setup networkIdentity outcome)
    outcome.easyTier
  (started.1, { guest with easyTier := started.2 })

/-- `connect`; of the room code it reads the identity of the network. -/
def connect (guest : ScaffoldingGuest) (networkIdentity : String × String) (ct : HeartbeatCt)
    (outcome : JoinOutcome) : Except ScaffoldingError Unit × ScaffoldingGuest :=
  match guest.startEasyTier parsers setup networkIdentity outcome with
  | (.error error, started) => (.error error, started)
  | (.ok _, started) =>
      match outcome.discovered with
      | .error error => (.error error, started)
      | .ok center =>
          let found := { started with
            center := some center
            config := some (networkConfig setup networkIdentity outcome) }
          match found.tryConnectOnce setup outcome.direct with
          | (true, joined) =>
              (.ok (), { joined with usePortForward := false, heartbeatCt := some ct })
          | (false, failed) => failed.connectForwarded parsers setup center ct outcome

/-- The address is kept for `minecraft_host` and `minecraft_port`. -/
def keepAddress (guest : ScaffoldingGuest) (host : String) (port : UInt16) : ScaffoldingGuest :=
  { guest with minecraftHost := some host, minecraftPort := some port }

/-- The part of `map_minecraft_port` that adds a port forward. -/
def mapForwarded (guest : ScaffoldingGuest) (center : CenterDiscoveryResult) (mcPort : UInt16)
    (outcome : MapOutcome) : Except ScaffoldingError (String × UInt16) × ScaffoldingGuest :=
  let forward := forwardRule outcome.localPort center.virtualIp mcPort
  let pushed := guest.pushForward forward
  match pushed.applyPortForwardPatch parsers forward outcome.patched with
  | .error error => (.error error, pushed)
  | .ok _ => (.ok ("127.0.0.1", outcome.localPort), pushed.keepAddress "127.0.0.1" outcome.localPort)

/-- The part of `map_minecraft_port` that asks the host. -/
def mapAsking (guest : ScaffoldingGuest) (center : CenterDiscoveryResult) (outcome : MapOutcome) :
    Except ScaffoldingError (String × UInt16) × ScaffoldingGuest :=
  match guest.getServerPort outcome.serverPort with
  | (.error error, after) => (.error error, after)
  | (.ok mcPort, after) =>
      if after.usePortForward then after.mapForwarded parsers center mcPort outcome
      else (.ok (center.virtualIp, mcPort), after.keepAddress center.virtualIp mcPort)

/-- `map_minecraft_port`. -/
def mapMinecraftPort (guest : ScaffoldingGuest) (outcome : MapOutcome) :
    Except ScaffoldingError (String × UInt16) × ScaffoldingGuest :=
  match guest.config, guest.center with
  | some _, some center =>
      match guest.minecraftHost, guest.minecraftPort with
      | some host, some port => (.ok (host, port), guest)
      | _, _ => guest.mapAsking parsers center outcome
  | _, _ => (.error (.centerConnection "尚未加入房间"), guest)

/-- `leave`. -/
def leave (guest : ScaffoldingGuest) (deleted : Except String Unit) : ScaffoldingGuest :=
  { guest with
    heartbeatCt := none
    tcp := guest.tcp.disconnect
    easyTier := (guest.easyTier.stop deleted).2 }

/-- `send_json` and `send_json_req` up to the response. -/
def sendJson (guest : ScaffoldingGuest) (key : String) (payload : Except String (List UInt8))
    (delivery : Delivery) : Except ScaffoldingError ProtocolResponse × ScaffoldingGuest :=
  match jsonRequest guest.negotiated key payload with
  | .error error => (.error error, guest)
  | .ok request => guest.send request delivery

end Calls

end ScaffoldingGuest

/-- The calls of a guest.  `send` is that of `send_raw`, of `ping` and `get_player_list` and
of the heartbeat; `observe` is no call but a change in the state of an instance. -/
inductive GuestCall where
  | connect (networkIdentity : String × String) (ct : HeartbeatCt) (outcome : JoinOutcome)
  | mapMinecraftPort (outcome : MapOutcome)
  | sendJson (key : String) (payload : Except String (List UInt8)) (delivery : Delivery)
  | send (request : ProtocolRequest) (delivery : Delivery)
  | minecraftHost
  | minecraftPort
  | negotiatedProtocols
  | ensureNegotiated (key : String)
  | leave (deleted : Except String Unit)
  | observe (id : InstanceId) (inst : Instance)

inductive GuestAnswer where
  | connected (result : Except ScaffoldingError Unit)
  | mapped (result : Except ScaffoldingError (String × UInt16))
  | response (result : Except ScaffoldingError ProtocolResponse)
  | minecraftHost (host : Option String)
  | minecraftPort (port : Option UInt16)
  | negotiatedProtocols (keys : List String)
  | ensured (result : Except ScaffoldingError Unit)
  | done

def guestCall {Inet Uri Addr : Type} (parsers : AddressParsers Inet Uri Addr)
    (setup : GuestConfig) (guest : ScaffoldingGuest) : GuestCall → GuestAnswer × ScaffoldingGuest
  | .connect networkIdentity ct outcome =>
      (guest.connect parsers setup networkIdentity ct outcome).map GuestAnswer.connected id
  | .mapMinecraftPort outcome =>
      (guest.mapMinecraftPort parsers outcome).map GuestAnswer.mapped id
  | .sendJson key payload delivery =>
      (guest.sendJson key payload delivery).map GuestAnswer.response id
  | .send request delivery => (guest.send request delivery).map GuestAnswer.response id
  | .minecraftHost => (.minecraftHost guest.minecraftHost, guest)
  | .minecraftPort => (.minecraftPort guest.minecraftPort, guest)
  | .negotiatedProtocols => (.negotiatedProtocols guest.negotiated, guest)
  | .ensureNegotiated key => (.ensured (ensureNegotiated guest.negotiated key), guest)
  | .leave deleted => (.done, guest.leave deleted)
  | .observe id inst => (.done, { guest with easyTier := guest.easyTier.observe id inst })

/-! ## An attempt to connect -/

/-- A request as far as its fate does not depend on what is asked. -/
def TcpClient.receive (client : TcpClient) (delivery : Delivery) :
    Option ProtocolResponse × TcpClient :=
  let sent := client.send (delivery.of ⟨"", "", []⟩)
  (sent.1.toOption, sent.2)

/-- What is asked decides only over the text of an error. -/
theorem send_eq_receive (client : TcpClient) (delivery : Delivery) (request : ProtocolRequest) :
    (client.send (delivery.of request)).1.toOption = (client.receive delivery).1 ∧
      (client.send (delivery.of request)).2 = (client.receive delivery).2 := by
  rw [TcpClient.receive, TcpClient.send, TcpClient.send]
  cases client.stream with
  | none => exact ⟨rfl, rfl⟩
  | some unread =>
      rcases delivery with ⟨answer, written, arrived, timedOut⟩
      cases written with
      | error message => exact ⟨rfl, rfl⟩
      | ok _ =>
          dsimp only [Delivery.of]
          cases deserializeResponseAsync [(unread ++ serializeResponse answer).take arrived] with
          | ok decoded => exact ⟨rfl, rfl⟩
          | error error => exact ⟨rfl, rfl⟩

/-- The response to `c:protocols` in an attempt that comes through, and the client then. -/
def Attempt.comesThrough (attempt : Attempt) : Option (ProtocolResponse × TcpClient) :=
  if attempt.established then
    match TcpClient.connected.receive attempt.ping with
    | (some _, pinged) =>
        match pinged.receive attempt.protocols with
        | (some response, client) => some (response, client)
        | (none, _) => none
    | (none, _) => none
  else none

namespace ScaffoldingGuest

variable {Inet Uri Addr : Type} {parsers : AddressParsers Inet Uri Addr} {setup : GuestConfig}

theorem send_of_some {guest : ScaffoldingGuest} {delivery : Delivery} {response : ProtocolResponse}
    {client : TcpClient} (received : guest.tcp.receive delivery = (some response, client))
    (request : ProtocolRequest) :
    guest.send request delivery = (.ok response, { guest with tcp := client }) := by
  have ⟨result, after⟩ := send_eq_receive guest.tcp delivery request
  rw [received] at result after
  rw [send, after]
  cases sent : (guest.tcp.send (delivery.of request)).1 with
  | ok other =>
      rw [sent] at result
      cases result
      rfl
  | error error =>
      rw [sent] at result
      cases result

theorem send_of_none {guest : ScaffoldingGuest} {delivery : Delivery} {client : TcpClient}
    (received : guest.tcp.receive delivery = (none, client)) (request : ProtocolRequest) :
    ∃ error, guest.send request delivery = (.error error, { guest with tcp := client }) := by
  have ⟨result, after⟩ := send_eq_receive guest.tcp delivery request
  rw [received] at result after
  rw [send, after]
  cases sent : (guest.tcp.send (delivery.of request)).1 with
  | ok other =>
      rw [sent] at result
      cases result
  | error error => exact ⟨error, rfl⟩

theorem sendPlayerPing_of_some {guest : ScaffoldingGuest} {delivery : Delivery}
    {response : ProtocolResponse} {client : TcpClient} (connected : guest.tcp = TcpClient.connected)
    (received : guest.tcp.receive delivery = (some response, client)) :
    guest.sendPlayerPing setup delivery = (.ok (), { guest with tcp := client }) := by
  have present : guest.tcp.stream.isSome = true := by
    rw [connected]
    rfl
  rw [sendPlayerPing, if_pos present, send_of_some received]
  rfl

variable (setup) in
theorem sendPlayerPing_of_none {guest : ScaffoldingGuest} {delivery : Delivery} {client : TcpClient}
    (connected : guest.tcp = TcpClient.connected)
    (received : guest.tcp.receive delivery = (none, client)) :
    ∃ error, guest.sendPlayerPing setup delivery = (.error error, { guest with tcp := client }) := by
  have present : guest.tcp.stream.isSome = true := by
    rw [connected]
    rfl
  rcases send_of_none received
    ⟨"c", "player_ping", setup.toVec (guest.playerProfile setup)⟩ with ⟨error, sent⟩
  refine ⟨error, ?_⟩
  rw [sendPlayerPing, if_pos present, sent]
  rfl

theorem negotiateProtocols_of_some {guest : ScaffoldingGuest} {delivery : Delivery}
    {response : ProtocolResponse} {client : TcpClient}
    (received : guest.tcp.receive delivery = (some response, client)) :
    guest.negotiateProtocols setup delivery = (.ok (), { guest with
      tcp := client
      negotiated :=
        Guest.negotiateProtocols setup.customProtocolKeys guest.negotiated response }) := by
  rw [negotiateProtocols, send_of_some received]

variable (setup) in
theorem negotiateProtocols_of_none {guest : ScaffoldingGuest} {delivery : Delivery}
    {client : TcpClient} (received : guest.tcp.receive delivery = (none, client)) :
    ∃ error, guest.negotiateProtocols setup delivery =
      (.error error, { guest with tcp := client }) := by
  rcases send_of_none received (protocolsRequest setup.customProtocolKeys) with ⟨error, sent⟩
  exact ⟨error, by rw [negotiateProtocols, sent]⟩

/-- What an attempt does is decided outside the guest. -/
theorem tryConnectOnce_eq (guest : ScaffoldingGuest) (attempt : Attempt) :
    guest.tryConnectOnce setup attempt =
      match attempt.comesThrough with
      | some (response, client) =>
          (true, { guest with
            tcp := client
            negotiated :=
              Guest.negotiateProtocols setup.customProtocolKeys guest.negotiated response })
      | none => (false, guest.disconnect) := by
  rcases attempt with ⟨established, ping, protocols⟩
  cases established with
  | false => rfl
  | true =>
      let opened : ScaffoldingGuest := { guest with tcp := TcpClient.connected }
      have connected : opened.tcp = TcpClient.connected := rfl
      change (match opened.sendPlayerPing setup ping with
        | (.ok _, pinged) => _
        | (.error _, failed) => _) = _
      rw [Attempt.comesThrough, if_pos rfl]
      cases pinged : TcpClient.connected.receive ping with
      | mk answered client =>
          cases answered with
          | none =>
              rcases sendPlayerPing_of_none setup connected pinged with ⟨error, sent⟩
              rw [sent]
              rfl
          | some answer =>
              rw [sendPlayerPing_of_some connected pinged]
              dsimp only
              cases negotiated : client.receive protocols with
              | mk response after =>
                  let answered : ScaffoldingGuest := { opened with tcp := client }
                  have isAnswered : answered.tcp.receive protocols = (response, after) := negotiated
                  change (match answered.negotiateProtocols setup protocols with
                    | (.ok _, joined) => (true, joined)
                    | (.error _, failed) => (false, failed.disconnect)) = _
                  cases response with
                  | none =>
                      rcases negotiateProtocols_of_none setup isAnswered with ⟨error, sent⟩
                      rw [sent]
                      rfl
                  | some response => rw [negotiateProtocols_of_some isAnswered]

end ScaffoldingGuest

/-- The response to `c:protocols` in the attempt over the port forward that comes through. -/
def firstThrough (tries : Nat → Option Attempt) : Nat → Option (ProtocolResponse × TcpClient)
  | 0 => none
  | remaining + 1 =>
      match tries remaining with
      | none => none
      | some attempt =>
          match attempt.comesThrough with
          | some joined => some joined
          | none => firstThrough tries remaining

/-- Whether the guest joins over a port forward, and the response and the client with which
it does. -/
def JoinOutcome.comesThrough (outcome : JoinOutcome) :
    Option (Bool × ProtocolResponse × TcpClient) :=
  match outcome.direct.comesThrough with
  | some joined => some (false, joined)
  | none => (firstThrough outcome.tries 10).map fun joined => (true, joined)

/-- The host's answer to `c:protocols` with which the guest joins. -/
def JoinOutcome.hostAnswer (outcome : JoinOutcome) : Option ProtocolResponse :=
  outcome.comesThrough.map fun joined => joined.2.1

namespace ScaffoldingGuest

variable {Inet Uri Addr : Type} {parsers : AddressParsers Inet Uri Addr} {setup : GuestConfig}

variable (setup) in
theorem tryConnectWithRetry_eq {guest : ScaffoldingGuest} (away : guest.tcp = ⟨none⟩)
    (tries : Nat → Option Attempt) (remaining : Nat) :
    guest.tryConnectWithRetry setup tries remaining =
      match firstThrough tries remaining with
      | some (response, client) =>
          (true, { guest with
            tcp := client
            negotiated :=
              Guest.negotiateProtocols setup.customProtocolKeys guest.negotiated response })
      | none => (false, guest) := by
  induction remaining with
  | zero => rfl
  | succ remaining inductionHypothesis =>
      rw [tryConnectWithRetry, firstThrough]
      cases tries remaining with
      | none => rfl
      | some attempt =>
          dsimp only
          rw [tryConnectOnce_eq]
          cases attempt.comesThrough with
          | some joined => rfl
          | none =>
              -- a failed attempt leaves the guest disconnected, as it was
              have same : guest.disconnect = guest := by
                rcases guest with ⟨_, tcp, _⟩
                cases away
                rfl
              dsimp only
              rw [same]
              exact inductionHypothesis

/-! ## Joining a room -/

/-- What a joining guest takes over from outside. -/
structure Join where
  id : InstanceId
  inst : Instance
  center : CenterDiscoveryResult
  forwarded : Bool
  response : ProtocolResponse
  client : TcpClient

/-- The rule to the center is read and applied. -/
def ForwardApplies (parsers : AddressParsers Inet Uri Addr) (outcome : JoinOutcome)
    (center : CenterDiscoveryResult) : Prop :=
  (∃ rule, parseForward parsers ScaffoldingError.protocol
    (forwardRule outcome.localPort center.virtualIp center.port) = .ok rule) ∧
    outcome.patched = .ok ()

/-- The outcome lets a guest in that runs no EasyTier. -/
structure Joins (parsers : AddressParsers Inet Uri Addr) (setup : GuestConfig)
    (networkIdentity : String × String) (outcome : JoinOutcome) (join : Join) : Prop where
  created : EasyTierManager.new.creates parsers (networkConfig setup networkIdentity outcome)
    outcome.easyTier = some (join.id, join.inst)
  inTime : outcome.easyTier.inTime = true
  discovered : outcome.discovered = .ok join.center
  through : outcome.comesThrough = some (join.forwarded, join.response, join.client)
  forward : join.forwarded = true → ForwardApplies parsers outcome join.center

/-- The guest in the room. -/
def joined (setup : GuestConfig) (guest : ScaffoldingGuest) (networkIdentity : String × String)
    (ct : HeartbeatCt) (outcome : JoinOutcome) (join : Join) : ScaffoldingGuest :=
  let config := networkConfig setup networkIdentity outcome
  { guest with
    easyTier := guest.easyTier.launched config join.id join.inst
    tcp := join.client
    negotiated :=
      Guest.negotiateProtocols setup.customProtocolKeys guest.negotiated join.response
    config := some (if join.forwarded then
        { config with portForwards :=
          [forwardRule outcome.localPort join.center.virtualIp join.center.port] }
      else config)
    center := some join.center
    usePortForward := join.forwarded
    heartbeatCt := some ct }

/-- A patch is applied to the instance that the manager has just launched. -/
theorem applyPortForwardPatch_launched {guest : ScaffoldingGuest} {manager : EasyTierManager}
    {config : NetworkConfig} {id : InstanceId} {inst : Instance}
    (launched : guest.easyTier = manager.launched config id inst) (forward : String)
    (patched : Except String Unit) :
    guest.applyPortForwardPatch parsers forward patched = .ok () ↔
      (∃ rule, parseForward parsers ScaffoldingError.protocol forward = .ok rule) ∧
        patched = .ok () := by
  have applied : guest.easyTier.applyConfigPatch patched =
      patched.mapError fun error => .easyTierStart s!"动态修改配置失败: {error}" := by
    have present : (manager.instances.insert id inst).lookup id = some inst := AList.lookup_insert _
    rw [launched, EasyTierManager.applyConfigPatch]
    dsimp only [EasyTierManager.launched]
    rw [present]
  rw [applyPortForwardPatch, applied]
  cases parseForward parsers ScaffoldingError.protocol forward with
  | error error =>
      constructor
      · intro ok
        cases ok
      · rintro ⟨⟨rule, parsed⟩, _⟩
        cases parsed
  | ok rule =>
      cases patched with
      | error error =>
          constructor
          · intro ok
            cases ok
          · rintro ⟨_, ok⟩
            cases ok
      | ok _ => exact ⟨fun _ => ⟨⟨rule, rfl⟩, rfl⟩, fun _ => rfl⟩

def withEasyTier (guest : ScaffoldingGuest) (manager : EasyTierManager) : ScaffoldingGuest :=
  { guest with easyTier := manager }

/-- `connect` when the center has been discovered. -/
def found (setup : GuestConfig) (guest : ScaffoldingGuest) (networkIdentity : String × String)
    (outcome : JoinOutcome) (id : InstanceId) (inst : Instance) (center : CenterDiscoveryResult) :
    ScaffoldingGuest :=
  { guest with
    easyTier := guest.easyTier.launched (networkConfig setup networkIdentity outcome) id inst
    center := some center
    config := some (networkConfig setup networkIdentity outcome) }

section Connect

variable {guest : ScaffoldingGuest} {networkIdentity : String × String} {ct : HeartbeatCt}
  {outcome : JoinOutcome}

theorem connect_of_start_error {error : ScaffoldingError}
    (refused : (guest.easyTier.start parsers (networkConfig setup networkIdentity outcome)
      outcome.easyTier).1 = .error error) :
    guest.connect parsers setup networkIdentity ct outcome =
      (.error error, guest.withEasyTier (guest.easyTier.start parsers
        (networkConfig setup networkIdentity outcome) outcome.easyTier).2) := by
  rw [connect, startEasyTier, refused]
  rfl

theorem connect_of_undiscovered {error : ScaffoldingError}
    (started : (guest.easyTier.start parsers (networkConfig setup networkIdentity outcome)
      outcome.easyTier).1 = .ok ()) (undiscovered : outcome.discovered = .error error) :
    guest.connect parsers setup networkIdentity ct outcome =
      (.error error, guest.withEasyTier (guest.easyTier.start parsers
        (networkConfig setup networkIdentity outcome) outcome.easyTier).2) := by
  rw [connect, startEasyTier, started, undiscovered]
  rfl

theorem connect_of_found {id : InstanceId} {inst : Instance} {center : CenterDiscoveryResult}
    (created : guest.easyTier.creates parsers (networkConfig setup networkIdentity outcome)
      outcome.easyTier = some (id, inst)) (inTime : outcome.easyTier.inTime = true)
    (discovered : outcome.discovered = .ok center) :
    guest.connect parsers setup networkIdentity ct outcome =
      match outcome.direct.comesThrough with
      | some (response, client) =>
          (.ok (), guest.joined setup networkIdentity ct outcome
            ⟨id, inst, center, false, response, client⟩)
      | none => ((guest.found setup networkIdentity outcome id inst center).disconnect
          ).connectForwarded parsers setup center ct outcome := by
  have started : guest.startEasyTier parsers setup networkIdentity outcome = (.ok (), { guest with
      easyTier := guest.easyTier.launched (networkConfig setup networkIdentity outcome) id
        inst }) := by
    rw [startEasyTier, EasyTierManager.start_of_creates created, if_pos inTime]
  rw [connect, started, discovered]
  dsimp only
  rw [tryConnectOnce_eq]
  cases outcome.direct.comesThrough with
  | some pair => rfl
  | none => rfl

section Forwarded

variable {id : InstanceId} {inst : Instance} {center : CenterDiscoveryResult}

theorem connectForwarded_eq :
    (guest.found setup networkIdentity outcome id inst center).disconnect.connectForwarded parsers
        setup center ct outcome =
      let pushed := (guest.found setup networkIdentity outcome id inst center).disconnect.pushForward
        (forwardRule outcome.localPort center.virtualIp center.port)
      match pushed.applyPortForwardPatch parsers
          (forwardRule outcome.localPort center.virtualIp center.port) outcome.patched with
      | .error error => (.error error, pushed)
      | .ok _ =>
          match firstThrough outcome.tries 10 with
          | some (response, client) =>
              (.ok (), guest.joined setup networkIdentity ct outcome
                ⟨id, inst, center, true, response, client⟩)
          | none => (.error (.centerConnection "无法连接到联机中心（端口转发建立失败）"), pushed) := by
  have away : ((guest.found setup networkIdentity outcome id inst center).disconnect.pushForward
    (forwardRule outcome.localPort center.virtualIp center.port)).tcp = ⟨none⟩ := rfl
  have retry := tryConnectWithRetry_eq setup away outcome.tries 10
  unfold connectForwarded
  dsimp only
  cases ((guest.found setup networkIdentity outcome id inst center).disconnect.pushForward
    (forwardRule outcome.localPort center.virtualIp center.port)).applyPortForwardPatch parsers
      (forwardRule outcome.localPort center.virtualIp center.port) outcome.patched with
  | error error => rfl
  | ok _ =>
      dsimp only
      rw [retry]
      cases firstThrough outcome.tries 10 with
      | some pair => rfl
      | none => rfl

theorem applyPortForwardPatch_found :
    ((guest.found setup networkIdentity outcome id inst center).disconnect.pushForward
        (forwardRule outcome.localPort center.virtualIp center.port)).applyPortForwardPatch parsers
        (forwardRule outcome.localPort center.virtualIp center.port) outcome.patched = .ok () ↔
      ForwardApplies parsers outcome center := by
  have launched : ((guest.found setup networkIdentity outcome id inst center).disconnect.pushForward
      (forwardRule outcome.localPort center.virtualIp center.port)).easyTier =
      guest.easyTier.launched (networkConfig setup networkIdentity outcome) id inst := rfl
  exact applyPortForwardPatch_launched launched _ _

end Forwarded

/-- A guest that runs no EasyTier joins when the outcome lets it in. -/
theorem connect_of_joins {join : Join} (idle : guest.easyTier.isRunning = false)
    (joins : Joins parsers setup networkIdentity outcome join) :
    guest.connect parsers setup networkIdentity ct outcome =
      (.ok (), guest.joined setup networkIdentity ct outcome join) := by
  have through := joins.through
  have forward := joins.forward
  rw [JoinOutcome.comesThrough] at through
  rw [connect_of_found ((EasyTierManager.creates_of_idle idle).trans joins.created) joins.inTime
    joins.discovered]
  rcases join with ⟨id, inst, center, forwarded, response, client⟩
  cases direct : outcome.direct.comesThrough with
  | some pair =>
      rw [direct] at through
      cases through
      rfl
  | none =>
      rw [direct] at through
      rcases Option.map_eq_some_iff.mp through with ⟨pair, retried, same⟩
      cases same
      dsimp only
      rw [connectForwarded_eq]
      dsimp only
      rw [applyPortForwardPatch_found.mpr (forward rfl), retried]

/-- The ways a call of `connect` can end. -/
inductive ConnectMove (parsers : AddressParsers Inet Uri Addr) (setup : GuestConfig)
    (guest : ScaffoldingGuest) (networkIdentity : String × String) (ct : HeartbeatCt)
    (outcome : JoinOutcome) : Except ScaffoldingError Unit × ScaffoldingGuest → Prop
  | refused (error : ScaffoldingError) (manager : EasyTierManager) :
      ConnectMove parsers setup guest networkIdentity ct outcome
        (.error error, guest.withEasyTier manager)
  | unreached (error : ScaffoldingError) (id : InstanceId) (inst : Instance)
      (center : CenterDiscoveryResult) :
      ConnectMove parsers setup guest networkIdentity ct outcome
        (.error error, (guest.found setup networkIdentity outcome id inst
          center).disconnect.pushForward
            (forwardRule outcome.localPort center.virtualIp center.port))
  | joined (join : Join) (idle : guest.easyTier.isRunning = false)
      (joins : Joins parsers setup networkIdentity outcome join) :
      ConnectMove parsers setup guest networkIdentity ct outcome
        (.ok (), guest.joined setup networkIdentity ct outcome join)

theorem connect_move : ConnectMove parsers setup guest networkIdentity ct outcome
    (guest.connect parsers setup networkIdentity ct outcome) := by
  cases started : (guest.easyTier.start parsers (networkConfig setup networkIdentity outcome)
    outcome.easyTier).1 with
  | error error =>
      rw [connect_of_start_error started]
      exact .refused error _
  | ok _ =>
      have ⟨inTime, id, inst, created⟩ := EasyTierManager.creates_of_start_ok started
      have idle : guest.easyTier.isRunning = false := by
        by_contra running
        rw [EasyTierManager.creates, if_pos (eq_true_of_ne_false running)] at created
        cases created
      have fresh := (EasyTierManager.creates_of_idle idle).symm.trans created
      cases discovered : outcome.discovered with
      | error error =>
          rw [connect_of_undiscovered started discovered]
          exact .refused error _
      | ok center =>
          rw [connect_of_found created inTime discovered]
          cases direct : outcome.direct.comesThrough with
          | some pair =>
              refine .joined ⟨id, inst, center, false, pair.1, pair.2⟩ idle
                ⟨fresh, inTime, discovered, ?_, fun forwarded => (by cases forwarded)⟩
              rw [JoinOutcome.comesThrough, direct]
          | none =>
              dsimp only
              rw [connectForwarded_eq]
              dsimp only
              split
              · exact .unreached _ id inst center
              · next applied =>
                  have forward := applyPortForwardPatch_found.mp applied
                  cases retried : firstThrough outcome.tries 10 with
                  | none => exact .unreached _ id inst center
                  | some pair =>
                      refine .joined ⟨id, inst, center, true, pair.1, pair.2⟩ idle
                        ⟨fresh, inTime, discovered, ?_, fun _ => forward⟩
                      rw [JoinOutcome.comesThrough, direct, retried]
                      rfl

/-- A guest joins only when it runs no EasyTier and the outcome lets it in. -/
theorem joins_of_connect_ok
    (ok : (guest.connect parsers setup networkIdentity ct outcome).1 = .ok ()) :
    guest.easyTier.isRunning = false ∧
      ∃ join, Joins parsers setup networkIdentity outcome join := by
  have move : ConnectMove parsers setup guest networkIdentity ct outcome
    (guest.connect parsers setup networkIdentity ct outcome) := connect_move
  generalize guest.connect parsers setup networkIdentity ct outcome = result at move ok
  cases move with
  | refused error manager => cases ok
  | unreached error id inst center => cases ok
  | joined join idle joins => exact ⟨idle, join, joins⟩

end Connect

end ScaffoldingGuest

end Guest
end QomicexConnector
