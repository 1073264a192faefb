import QomicexConnector.Library.HashMap
import QomicexConnector.Relay.Provider

namespace QomicexConnector
namespace Easytier

open Library

/-!
# The EasyTier manager

`easytier/manager.rs` and `models/network_config.rs`.  The network instances themselves
run outside: what `run_network_instance`, the wait for readiness and
`delete_network_instances` come to is an argument of the calls below.  An instance is
present in the instance manager from the first of these on until the last.

The texts of addresses are read by the parsers of a record, so that everything holds
whatever they accept.
-/

/-! ## Configuration -/

structure NetworkConfig where
  networkName : String
  networkSecret : String
  hostname : String
  noTun : Bool
  useSmoltcp : Bool
  dhcp : Bool
  ipv4 : Option String
  listenRandomPorts : Bool
  bindIp : Option String
  tcpWhitelist : List String
  portForwards : List String
  relayNodes : Option (List String)
  deriving DecidableEq, Repr

/-- `NetworkConfig::default`. -/
def NetworkConfig.default : NetworkConfig where
  networkName := ""
  networkSecret := ""
  hostname := ""
  noTun := true
  useSmoltcp := false
  dhcp := true
  ipv4 := none
  listenRandomPorts := true
  bindIp := none
  tcpWhitelist := []
  portForwards := []
  relayNodes := none

/-- The parsers of IPv4 networks, URIs and socket addresses. -/
structure AddressParsers (Inet Uri Addr : Type) where
  ipv4Inet : String → Option Inet
  uri : String → Option Uri
  socketAddr : String → Option Addr

structure PortForwardConfig (Addr : Type) where
  bindAddr : Addr
  dstAddr : Addr
  proto : String

/-- The compression algorithm that the manager asks for. -/
inductive CompressionAlgo where
  | zstd

structure Flags where
  noTun : Bool
  useSmoltcp : Bool
  multiThread : Bool
  latencyFirst : Bool
  enableKcpProxy : Bool
  dataCompressAlgo : CompressionAlgo

/-- What `build_toml_config` sets; `none` where it leaves the default. -/
structure TomlConfig (Inet Uri Addr : Type) where
  networkIdentity : String × String
  hostname : String
  ipv4 : Option Inet
  dhcp : Option Bool
  listeners : Option (List Uri)
  flags : Flags
  tcpWhitelist : List String
  udpWhitelist : List String
  peers : List Uri
  portForwards : List (PortForwardConfig Addr)

/-- `parse` followed by `map_err`. -/
def parsed {Value : Type} (value : Option Value) (error : ScaffoldingError) :
    Except ScaffoldingError Value :=
  match value with
  | some value => .ok value
  | none => .error error

section Build

variable {Inet Uri Addr : Type} (parsers : AddressParsers Inet Uri Addr)

/-- The rule `PROTO://BIND/DST`, read the same way in two places that differ in the kind of
error. -/
def parseForward (invalid : String → ScaffoldingError) (raw : String) :
    Except ScaffoldingError (PortForwardConfig Addr) := do
  let (proto, rest) ← parsed (splitOnce "://" raw) (invalid s!"无效的端口转发格式: {raw}")
  let (bind, dst) ← parsed (splitOnce "/" rest) (invalid s!"无效的端口转发格式: {raw}")
  let bindAddr ← parsed (parsers.socketAddr bind) (invalid s!"无效的端口转发绑定地址: {bind}")
  let dstAddr ← parsed (parsers.socketAddr dst) (invalid s!"无效的端口转发目标地址: {dst}")
  return ⟨bindAddr, dstAddr, proto⟩

/-- `parse_port_forward`. -/
def parsePortForward (raw : String) : Except ScaffoldingError (PortForwardConfig Addr) :=
  parseForward parsers ScaffoldingError.easyTierStart raw

/-- `FIXED_IPV4_PREFIX`. -/
def fixedIpv4Prefix : Nat := 24

/-- `build_toml_config`. -/
def buildTomlConfig (config : NetworkConfig) :
    Except ScaffoldingError (TomlConfig Inet Uri Addr) := do
  let ipv4 ← config.ipv4.mapM fun ipv4 =>
    let withPrefix := if '/' ∈ ipv4.toList then ipv4 else s!"{ipv4}/{fixedIpv4Prefix}"
    parsed (parsers.ipv4Inet withPrefix) (.easyTierStart s!"无效的 ipv4 地址: {ipv4}")
  let dhcp := if config.ipv4.isSome then none else some config.dhcp
  let bind := config.bindIp.getD "0.0.0.0"
  let listeners ← (if config.listenRandomPorts then some [s!"tcp://{bind}:0", s!"udp://{bind}:0"]
    else none).mapM fun uris => uris.mapM fun uri =>
      parsed (parsers.uri uri) (.easyTierStart s!"无效的监听地址: {uri}")
  let peers ← (config.relayNodes.getD (Relay.resolve none none)).mapM fun node =>
    parsed (parsers.uri node) (.easyTierStart s!"无效的中继节点地址: {node}")
  let portForwards ← config.portForwards.mapM (parsePortForward parsers)
  return {
    networkIdentity := (config.networkName, config.networkSecret)
    hostname := config.hostname
    ipv4 := ipv4
    dhcp := dhcp
    listeners := listeners
    flags := ⟨config.noTun, config.useSmoltcp, true, true, true, .zstd⟩
    tcpWhitelist := "0" :: config.tcpWhitelist
    udpWhitelist := ["0"]
    peers := peers
    portForwards := portForwards }

end Build

/-- `strip_cidr`. -/
def stripCidr (ip : String) : String := ((splitOnce "/" ip).map Prod.fst).getD ip

/-! ## The manager -/

abbrev InstanceId := Nat

/-- A network instance as the manager sees it. -/
structure Instance where
  ready : Bool
  peerId : String
  ipv4Addr : Option String
  deriving DecidableEq

structure EasyTierManager where
  instances : HashMap InstanceId Instance
  instanceId : Option InstanceId
  virtualIp : Option String
  nodeId : Option String

/-- What a call of `start` meets: the result of `run_network_instance`, with the new
instance as the call sees it last, and whether it became ready within 30 s. -/
structure StartOutcome where
  created : Except String (InstanceId × Instance)
  inTime : Bool

namespace EasyTierManager

def new : EasyTierManager := ⟨∅, none, none, none⟩

/-- The instance that `instance_id` names. -/
def current (manager : EasyTierManager) : Option Instance :=
  manager.instanceId.bind manager.instances.lookup

/-- `is_running`. -/
def isRunning (manager : EasyTierManager) : Bool := manager.current.any Instance.ready

section Start

variable {Inet Uri Addr : Type} (parsers : AddressParsers Inet Uri Addr)

/-- `start`.  After a timeout the instance goes on running. -/
def start (manager : EasyTierManager) (config : NetworkConfig) (outcome : StartOutcome) :
    Except ScaffoldingError Unit × EasyTierManager :=
  if manager.isRunning then (.error (.easyTierStart "EasyTier 已在运行中"), manager)
  else
    let cleared := { manager with virtualIp := none, nodeId := none }
    match buildTomlConfig parsers config with
    | .error error => (.error error, cleared)
    | .ok _ =>
        match outcome.created with
        | .error error => (.error (.easyTierStart s!"启动 EasyTier 实例失败: {error}"), cleared)
        | .ok (id, inst) =>
            let running := { cleared with
              instances := cleared.instances.insert id inst
              instanceId := some id }
            if outcome.inTime then
              (.ok (), { running with
                nodeId := some inst.peerId
                virtualIp := match config.ipv4 with
                  | some ip => some (stripCidr ip)
                  | none => inst.ipv4Addr })
            else (.error (.easyTierTimeout "EasyTier 启动超时 (30s)"), running)

/-- The instance that a call of `start` creates. -/
def creates (manager : EasyTierManager) (config : NetworkConfig) (outcome : StartOutcome) :
    Option (InstanceId × Instance) :=
  if manager.isRunning then none
  else
    match buildTomlConfig parsers config, outcome.created with
    | .ok _, .ok created => some created
    | _, _ => none

variable {parsers} {manager : EasyTierManager} {config : NetworkConfig} {outcome : StartOutcome}

/-- A `start` that creates no instance fails and changes no instance. -/
theorem start_of_creates_none (nothing : manager.creates parsers config outcome = none) :
    (∃ error, (manager.start parsers config outcome).1 = .error error) ∧
      (manager.start parsers config outcome).2.instances = manager.instances := by
  rw [creates] at nothing
  rw [start]
  split
  · exact ⟨⟨_, rfl⟩, rfl⟩
  · next idle =>
      rw [if_neg idle] at nothing
      cases built : buildTomlConfig parsers config with
      | error error => exact ⟨⟨_, rfl⟩, rfl⟩
      | ok toml =>
          cases created : outcome.created with
          | error error => exact ⟨⟨_, rfl⟩, rfl⟩
          | ok pair =>
              rw [built, created] at nothing
              cases nothing

/-- The manager when a `start` with a new instance has returned `Ok`. -/
def launched (manager : EasyTierManager) (config : NetworkConfig) (id : InstanceId)
    (inst : Instance) : EasyTierManager where
  instances := manager.instances.insert id inst
  instanceId := some id
  virtualIp := match config.ipv4 with
    | some ip => some (stripCidr ip)
    | none => inst.ipv4Addr
  nodeId := some inst.peerId

/-- A `start` that creates an instance leaves it running, whether or not it returns `Ok`. -/
theorem start_of_creates {id : InstanceId} {inst : Instance}
    (created : manager.creates parsers config outcome = some (id, inst)) :
    manager.start parsers config outcome =
      if outcome.inTime then (.ok (), manager.launched config id inst)
      else (.error (.easyTierTimeout "EasyTier 启动超时 (30s)"),
        { manager.launched config id inst with virtualIp := none, nodeId := none }) := by
  rw [creates] at created
  by_cases running : manager.isRunning = true
  · rw [if_pos running] at created
    cases created
  · rw [if_neg running] at created
    rw [start, if_neg running]
    split at created
    · next toml pair built run =>
        cases created
        rw [built, run]
        rfl
    · cases created

/-- A `start` that returns `Ok` has created an instance and found it ready. -/
theorem creates_of_start_ok (ok : (manager.start parsers config outcome).1 = .ok ()) :
    outcome.inTime = true ∧
      ∃ id inst, manager.creates parsers config outcome = some (id, inst) := by
  cases created : manager.creates parsers config outcome with
  | none =>
      rcases start_of_creates_none created with ⟨⟨error, refused⟩, _⟩
      rw [refused] at ok
      cases ok
  | some pair =>
      refine ⟨?_, pair.1, pair.2, rfl⟩
      by_contra late
      rw [start_of_creates created, if_neg late] at ok
      cases ok

/-- Whether a `start` creates an instance does not depend on what was there before. -/
theorem creates_of_idle (idle : manager.isRunning = false) :
    manager.creates parsers config outcome = new.creates parsers config outcome := by
  rw [creates, creates, idle]
  rfl

end Start

/-- `stop`.  A failing deletion is only logged. -/
def stop (manager : EasyTierManager) (deleted : Except String Unit) :
    Except ScaffoldingError Unit × EasyTierManager :=
  (.ok (), {
    instances := match manager.instanceId, deleted with
      | some id, .ok _ => manager.instances.erase id
      | _, _ => manager.instances
    instanceId := none
    virtualIp := none
    nodeId := none })

/-- `apply_config_patch`, with the result of EasyTier's own function of that name. -/
def applyConfigPatch (manager : EasyTierManager) (patched : Except String Unit) :
    Except ScaffoldingError Unit :=
  match manager.instanceId with
  | none => .error (.easyTierStart "EasyTier 未启动")
  | some id =>
      match manager.instances.lookup id with
      | none => .error (.easyTierStart "实例不存在")
      | some _ => patched.mapError fun error => .easyTierStart s!"动态修改配置失败: {error}"

/-- A running instance changes its state. -/
def observe (manager : EasyTierManager) (id : InstanceId) (inst : Instance) : EasyTierManager :=
  if (manager.instances.lookup id).isSome then
    { manager with instances := manager.instances.insert id inst }
  else manager

/-- Only an instance that is present can change. -/
theorem observe_of_empty {manager : EasyTierManager}
    (empty : ∀ id, manager.instances.lookup id = none) (id : InstanceId) (inst : Instance) :
    manager.observe id inst = manager := by
  rw [observe, empty id]
  rfl

/-! ## Instances left behind -/

/-- Managers that differ at most in instances they no longer name. -/
structure Alike (first second : EasyTierManager) : Prop where
  current : first.current = second.current
  instanceId : first.instanceId = second.instanceId
  virtualIp : first.virtualIp = second.virtualIp
  nodeId : first.nodeId = second.nodeId

section Alike

variable {first second : EasyTierManager}

theorem Alike.isRunning (alike : Alike first second) : first.isRunning = second.isRunning := by
  rw [EasyTierManager.isRunning, alike.current, EasyTierManager.isRunning]

theorem Alike.creates {Inet Uri Addr : Type} {parsers : AddressParsers Inet Uri Addr}
    (alike : Alike first second) (config : NetworkConfig) (outcome : StartOutcome) :
    first.creates parsers config outcome = second.creates parsers config outcome := by
  rw [EasyTierManager.creates, EasyTierManager.creates, alike.isRunning]

theorem alike_launched (first second : EasyTierManager) (config : NetworkConfig)
    (id : InstanceId) (inst : Instance) :
    Alike (first.launched config id inst) (second.launched config id inst) := by
  refine ⟨?_, rfl, rfl, rfl⟩
  change (first.instances.insert id inst).lookup id = (second.instances.insert id inst).lookup id
  rw [AList.lookup_insert, AList.lookup_insert]

theorem Alike.start {Inet Uri Addr : Type} (alike : Alike first second)
    (parsers : AddressParsers Inet Uri Addr) (config : NetworkConfig) (outcome : StartOutcome) :
    (first.start parsers config outcome).1 = (second.start parsers config outcome).1 ∧
      Alike (first.start parsers config outcome).2 (second.start parsers config outcome).2 := by
  rw [EasyTierManager.start, EasyTierManager.start, alike.isRunning]
  split
  · exact ⟨rfl, alike⟩
  · have cleared : Alike { first with virtualIp := none, nodeId := none }
        { second with virtualIp := none, nodeId := none } :=
      ⟨alike.current, alike.instanceId, rfl, rfl⟩
    cases buildTomlConfig parsers config with
    | error error => exact ⟨rfl, cleared⟩
    | ok toml =>
        cases outcome.created with
        | error error => exact ⟨rfl, cleared⟩
        | ok pair =>
            have current := (alike_launched first second config pair.1 pair.2).current
            dsimp only
            split
            · exact ⟨rfl, current, rfl, rfl, rfl⟩
            · exact ⟨rfl, current, rfl, rfl, rfl⟩

theorem alike_stop (deleted : Except String Unit) :
    Alike (first.stop deleted).2 (second.stop deleted).2 := ⟨rfl, rfl, rfl, rfl⟩

theorem Alike.applyConfigPatch (alike : Alike first second) (patched : Except String Unit) :
    first.applyConfigPatch patched = second.applyConfigPatch patched := by
  have current := alike.current
  rw [EasyTierManager.current, EasyTierManager.current, alike.instanceId] at current
  rw [EasyTierManager.applyConfigPatch, EasyTierManager.applyConfigPatch, alike.instanceId]
  cases named : second.instanceId with
  | none => rfl
  | some id =>
      rw [named, Option.bind_some, Option.bind_some] at current
      dsimp only
      rw [current]

/-- What becomes of the named instance when some instance changes. -/
theorem current_observe (manager : EasyTierManager) (id : InstanceId) (inst : Instance) :
    (manager.observe id inst).current =
      if manager.instanceId = some id then manager.current.map fun _ => inst
      else manager.current := by
  cases found : manager.instances.lookup id with
  | none =>
      have same : manager.observe id inst = manager := by
        rw [observe, found]
        rfl
      rw [same]
      split
      · next named =>
          rw [current, named, Option.bind_some, found]
          rfl
      · rfl
  | some before =>
      have changed : manager.observe id inst =
          { manager with instances := manager.instances.insert id inst } := by
        rw [observe, found]
        rfl
      rw [changed, current, current]
      dsimp only
      cases named : manager.instanceId with
      | none => rfl
      | some other =>
          rw [Option.bind_some, Option.bind_some, HashMap.lookup_insert]
          by_cases same : other = id
          · rw [if_pos same, if_pos (congrArg some same), same, found]
            rfl
          · rw [if_neg same, if_neg fun equal => same (Option.some.inj equal)]

theorem Alike.observe (alike : Alike first second) (id : InstanceId) (inst : Instance) :
    Alike (first.observe id inst) (second.observe id inst) := by
  have fields (manager : EasyTierManager) :
      (manager.observe id inst).instanceId = manager.instanceId ∧
        (manager.observe id inst).virtualIp = manager.virtualIp ∧
          (manager.observe id inst).nodeId = manager.nodeId := by
    rw [EasyTierManager.observe]
    split <;> exact ⟨rfl, rfl, rfl⟩
  refine ⟨?_, ?_, ?_, ?_⟩
  · rw [current_observe, current_observe, alike.instanceId, alike.current]
  · rw [(fields first).1, (fields second).1, alike.instanceId]
  · rw [(fields first).2.1, (fields second).2.1, alike.virtualIp]
  · rw [(fields first).2.2, (fields second).2.2, alike.nodeId]

end Alike

end EasyTierManager

end Easytier
end QomicexConnector
