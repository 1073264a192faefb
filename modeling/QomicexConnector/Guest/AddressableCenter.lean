import QomicexConnector.Core.CenterDiscovery
import QomicexConnector.Library.SocketAddr

namespace QomicexConnector
namespace Guest

open Library Easytier
open QomicexConnector.Core

/-!
# The address of a discovered center

From the routes of the network to the rule of the port forward: `route_to_node` and
`get_nodes`, `discover`, the rule that `connect` writes and `parse_forward_addrs`, which
reads it.  A route without an IPv4 address becomes a node with an empty one, and
`try_parse_center` looks at the host name only, so what `discover` returns need not have an
address.
-/

/-! ## The stages -/

section Routes

variable {Address : Type}

structure Ipv4Inet (Address : Type) where
  address : Option Address

/-- What `get_nodes` reads of a route. -/
structure Route (Address : Type) where
  ipv4Addr : Option (Ipv4Inet Address)
  hostname : String
  peerId : UInt32

/-- What a call of `get_nodes` meets: the manager, and the routes of its instance. -/
structure Scan (Address : Type) where
  manager : EasyTierManager
  routeSnapshots : List (Route Address)

variable (ipv4From : Address → Ipv4Addr)

def Route.address (route : Route Address) : Option Address :=
  route.ipv4Addr.bind Ipv4Inet.address

/-- `route_to_node`. -/
def routeToNode (route : Route Address) : EasyTierNode where
  virtualIp := (route.address.map fun address => (ipv4From address).display).getD ""
  hostname := route.hostname
  nodeId := toString route.peerId

/-- The routes that a call of `get_nodes` goes through. -/
def Scan.routes (scan : Scan Address) : List (Route Address) :=
  match scan.manager.current with
  | none => []
  | some _ => scan.routeSnapshots

/-- `get_nodes`. -/
def Scan.getNodes (scan : Scan Address) : List EasyTierNode := scan.routes.map (routeToNode ipv4From)

end Routes

/-- `parse_forward_addrs`. -/
def parseForwardAddrs (forward : String) : Except ScaffoldingError (SocketAddr × SocketAddr) := do
  let (_, rest) ← parsed (splitOnce "://" forward) (.protocol s!"无效的端口转发格式: {forward}")
  let (bind, dst) ← parsed (splitOnce "/" rest) (.protocol s!"无效的端口转发格式: {forward}")
  let bindAddr ← parsed (SocketAddr.parse bind) (.protocol s!"无效的端口转发绑定地址: {bind}")
  let dstAddr ← parsed (SocketAddr.parse dst) (.protocol s!"无效的端口转发目标地址: {dst}")
  return (bindAddr, dstAddr)

/-- With the socket addresses of the standard library, this is how a guest reads the rule that
it patches in. -/
theorem parseForward_eq {Inet Uri : Type} {parsers : AddressParsers Inet Uri SocketAddr}
    (reads : parsers.socketAddr = SocketAddr.parse) (forward : String) :
    (parseForward parsers ScaffoldingError.protocol forward).map
      (fun rule => (rule.bindAddr, rule.dstAddr)) = parseForwardAddrs forward := by
  rw [parseForward, parseForwardAddrs, reads]
  cases splitOnce "://" forward with
  | none => rfl
  | some parts =>
      dsimp only [parsed, bind, Except.bind]
      cases splitOnce "/" parts.2 with
      | none => rfl
      | some addresses =>
          dsimp only
          cases SocketAddr.parse addresses.1 with
          | none => rfl
          | some bindAddr =>
              dsimp only
              cases SocketAddr.parse addresses.2 with
              | none => rfl
              | some dstAddr => rfl

/-! ## The rule -/

/-- The local end of a rule. -/
def localEnd (localPort : UInt16) : String := s!"{Ipv4Addr.localhost.display}:{localPort}"

theorem forwardRule_eq (localPort port : UInt16) (virtualIp : String) :
    ScaffoldingGuest.forwardRule localPort virtualIp port =
      "tcp" ++ "://" ++ (localEnd localPort ++ "/" ++ s!"{virtualIp}:{port}") := by
  have begins : "tcp://127.0.0.1:" = "tcp" ++ "://" ++ (Ipv4Addr.localhost.display ++ ":") := by
    decide +kernel
  change "tcp://127.0.0.1:" ++ toString localPort ++ "/" ++ virtualIp ++ ":" ++ toString port =
    "tcp" ++ "://" ++ (Ipv4Addr.localhost.display ++ ":" ++ toString localPort ++ "/" ++
      (virtualIp ++ ":" ++ toString port))
  rw [begins]
  simp only [String.append_assoc]

theorem slash_not_mem_localEnd (localPort : UInt16) : '/' ∉ (localEnd localPort).toList := by
  have chars : (localEnd localPort).toList =
      "127.0.0.1:".toList ++ Nat.toDigits 10 localPort.toNat := by
    rw [localEnd, String.toList_append, SocketAddr.toList_toString_port]
    rfl
  rw [chars, List.mem_append]
  rintro (listed | listed)
  · revert listed
    decide
  · have digit := Nat.isDigit_of_mem_toDigits (by decide) (Nat.le_refl 10) listed
    cases digit

/-- The rule is taken apart into its two addresses, of which the local one is accepted. -/
theorem parseForwardAddrs_forwardRule (localPort port : UInt16) (virtualIp : String) :
    parseForwardAddrs (ScaffoldingGuest.forwardRule localPort virtualIp port) =
      (parsed (SocketAddr.parse s!"{virtualIp}:{port}")
        (.protocol ("无效的端口转发目标地址: " ++ s!"{virtualIp}:{port}"))).map fun dstAddr =>
          (.v4 Ipv4Addr.localhost localPort, dstAddr) := by
  have whole (rest : String) : splitOnce "://" ("tcp" ++ "://" ++ rest) = some ("tcp", rest) :=
    splitOnce_append rfl (by decide) rest
  have ends (dst : String) :
      splitOnce "/" (localEnd localPort ++ "/" ++ dst) = some (localEnd localPort, dst) :=
    splitOnce_append rfl (slash_not_mem_localEnd localPort) dst
  have bound : SocketAddr.parse (localEnd localPort) = some (.v4 Ipv4Addr.localhost localPort) :=
    SocketAddr.parse_display Ipv4Addr.localhost localPort
  rw [parseForwardAddrs, forwardRule_eq, whole]
  dsimp only [parsed, bind, Except.bind]
  rw [ends]
  dsimp only
  rw [bound]
  dsimp only
  cases SocketAddr.parse s!"{virtualIp}:{port}" with
  | none => rfl
  | some dstAddr => rfl

/-- The rule to a center is accepted, and leads from the local port to the center's address. -/
def Addressable (localPort : UInt16) (center : CenterDiscoveryResult) : Prop :=
  ∃ ip : Ipv4Addr, center.virtualIp = ip.display ∧
    parseForwardAddrs (ScaffoldingGuest.forwardRule localPort center.virtualIp center.port) =
      .ok (.v4 Ipv4Addr.localhost localPort, .v4 ip center.port)

theorem addressable_display (localPort port : UInt16) (ip : Ipv4Addr) :
    Addressable localPort ⟨ip.display, port⟩ := by
  refine ⟨ip, rfl, ?_⟩
  rw [parseForwardAddrs_forwardRule, SocketAddr.parse_display]
  rfl

/-- A rule to no address is refused. -/
theorem parseForwardAddrs_empty (localPort port : UInt16) :
    parseForwardAddrs (ScaffoldingGuest.forwardRule localPort "" port) =
      .error (.protocol s!"无效的端口转发目标地址: :{port}") := by
  have noAddress := SocketAddr.parse_eq_none (toString port)
  have text {virtualIp : String} (empty : virtualIp = "") :
      s!"{virtualIp}:{port}" = ":" ++ toString port := by
    rw [← String.toList_inj, empty]
    simp only [String.toList_append]
    rfl
  rw [parseForwardAddrs_forwardRule, text rfl, noAddress]
  rfl

theorem not_addressable_empty (localPort port : UInt16) : ¬ Addressable localPort ⟨"", port⟩ := by
  rintro ⟨ip, _, accepted⟩
  rw [parseForwardAddrs_empty] at accepted
  cases accepted

/-! ## Discovery -/

section Discovery

variable {Address : Type} {ipv4From : Address → Ipv4Addr}

/-- The first route with the host name of a center. -/
def FirstCenterRoute (routes : List (Route Address)) (route : Route Address) : Prop :=
  ∃ before later, routes = before ++ route :: later ∧
    (∀ other ∈ before, ∀ port, ¬ CenterHostname other.hostname port) ∧
    ∃ port, CenterHostname route.hostname port

/-- The route that ends the polling: the first one with the host name of a center in the first
scan that has one, unless sixty scans or the caller's cancellation come first. -/
def EndsPolling (scans : Nat → Scan Address) (cancelled : Nat → Bool) (route : Route Address) :
    Prop :=
  ∃ attempt < 60, FirstCenterRoute (scans attempt).routes route ∧
    ∀ earlier < attempt, cancelled earlier = false ∧
      ∀ other ∈ (scans earlier).routes, ∀ port, ¬ CenterHostname other.hostname port

/-- A route and its node have one host name. -/
theorem firstCenter_getNodes {scan : Scan Address} {node : EasyTierNode} {port : Nat} :
    FirstCenter (scan.getNodes ipv4From) node port ↔
      ∃ route, FirstCenterRoute scan.routes route ∧ CenterHostname route.hostname port ∧
        node = routeToNode ipv4From route := by
  constructor
  · rintro ⟨before, later, split, others, center⟩
    rcases List.map_eq_append_iff.mp split with ⟨first, rest, whole, rfl, tail⟩
    rcases List.map_eq_cons_iff.mp tail with ⟨route, last, rfl, rfl, rfl⟩
    exact ⟨route, ⟨first, last, whole, fun other listed => others _ (List.mem_map_of_mem listed),
      port, center⟩, center, rfl⟩
  · rintro ⟨route, ⟨before, later, whole, others, _⟩, center, rfl⟩
    refine ⟨before.map (routeToNode ipv4From), later.map (routeToNode ipv4From), ?_, ?_, center⟩
    · rw [Scan.getNodes, whole, List.map_append, List.map_cons]
    · intro other listed
      rcases List.mem_map.mp listed with ⟨route, member, rfl⟩
      exact others route member

theorem tryParseCenter_getNodes_eq_none {unicode : DecimalDigits} {scan : Scan Address} :
    tryParseCenter unicode (scan.getNodes ipv4From) = none ↔
      ∀ route ∈ scan.routes, ∀ port, ¬ CenterHostname route.hostname port := by
  constructor
  · intro nothing route listed port center
    have node := List.mem_map_of_mem listed (f := routeToNode ipv4From)
    rcases exists_firstCenter node center with ⟨first, port, isFirst⟩
    cases nothing.symm.trans (tryParseCenter_of_firstCenter isFirst)
  · intro others
    refine tryParseCenter_eq_none fun node listed => ?_
    rcases List.mem_map.mp listed with ⟨route, member, rfl⟩
    exact others route member

/-- What is discovered is the node of the route that ends the polling. -/
theorem discover_getNodes_eq_ok_iff {unicode : DecimalDigits} {scans : Nat → Scan Address}
    {cancelled : Nat → Bool} {center : CenterDiscoveryResult} :
    discover unicode (fun attempt => (scans attempt).getNodes ipv4From) cancelled = .ok center ↔
      ∃ route, EndsPolling scans cancelled route ∧
        CenterHostname route.hostname center.port.toNat ∧
        center.virtualIp = (routeToNode ipv4From route).virtualIp := by
  simp only [discover_eq_ok_iff, tryParseCenter_eq_some_iff, tryParseCenter_getNodes_eq_none,
    firstCenter_getNodes]
  constructor
  · rintro ⟨attempt, few, ⟨_, ⟨route, first, named, rfl⟩, same⟩, before⟩
    exact ⟨route, ⟨attempt, few, first, fun earlier small => (before earlier small).symm⟩, named, same⟩
  · rintro ⟨route, ⟨attempt, few, first, before⟩, named, same⟩
    exact ⟨attempt, few, ⟨_, ⟨route, first, named, rfl⟩, same⟩,
      fun earlier small => (before earlier small).symm⟩

theorem addressable_routeToNode_iff {route : Route Address} {localPort port : UInt16} :
    Addressable localPort ⟨(routeToNode ipv4From route).virtualIp, port⟩ ↔
      route.address.isSome = true := by
  cases known : route.address with
  | none =>
      have empty : (routeToNode ipv4From route).virtualIp = "" := by
        rw [routeToNode, known]
        rfl
      rw [empty]
      exact iff_of_false (not_addressable_empty localPort port) Bool.false_ne_true
  | some address =>
      have display : (routeToNode ipv4From route).virtualIp = (ipv4From address).display := by
        rw [routeToNode, known]
        rfl
      rw [display]
      exact iff_of_true (addressable_display localPort port _) rfl

variable (ipv4From)

/-- The discovered center has an address exactly if the route that ends the polling has one. -/
theorem discovered_addressable_iff (unicode : DecimalDigits) (scans : Nat → Scan Address)
    (cancelled : Nat → Bool) (localPort : UInt16) :
    (∀ center, discover unicode (fun attempt => (scans attempt).getNodes ipv4From) cancelled =
        .ok center → Addressable localPort center) ↔
      ∀ route, EndsPolling scans cancelled route → route.address.isSome = true := by
  constructor
  · intro addressable route ends
    rcases ends with ⟨attempt, few, first, before⟩
    rcases first with ⟨early, later, whole, others, port, center⟩
    have found := addressable ⟨_, UInt16.ofNat port⟩ (discover_getNodes_eq_ok_iff.mpr
      ⟨route, ⟨attempt, few, ⟨early, later, whole, others, port, center⟩, before⟩,
        center.toNat_ofNat.symm ▸ center, rfl⟩)
    exact addressable_routeToNode_iff.mp found
  · intro known center found
    rcases discover_getNodes_eq_ok_iff.mp found with ⟨route, ends, _, same⟩
    rcases center with ⟨virtualIp, port⟩
    cases same
    exact addressable_routeToNode_iff.mpr (known route ends)

end Discovery

/-- The digits of ASCII alone. -/
def asciiDigits : DecimalDigits := ⟨Char.isDigit, fun _ _ => rfl⟩

/-- The address of the center is not known at the first scan, and known from the second one on. -/
def sampleScan (attempt : Nat) : Scan Ipv4Addr where
  manager := { EasyTierManager.new with
    instances := (∅ : HashMap InstanceId Instance).insert 0 ⟨true, "1", none⟩
    instanceId := some 0 }
  routeSnapshots := [{
    ipv4Addr := if attempt = 0 then none else some ⟨some ⟨10, 144, 144, 1⟩⟩
    hostname := "scaffolding-mc-server-25565"
    peerId := 2 }]

theorem center_without_address_discovered :
    discover asciiDigits (fun attempt => (sampleScan attempt).getNodes id) (fun _ => false) =
        .ok ⟨"", 25565⟩ ∧
      parseForwardAddrs (ScaffoldingGuest.forwardRule 4000 "" 25565) =
        .error (.protocol "无效的端口转发目标地址: :25565") ∧
      ¬ ∀ center, discover asciiDigits (fun attempt => (sampleScan attempt).getNodes id)
        (fun _ => false) = .ok center → Addressable 4000 center := by
  have found : tryParseCenter asciiDigits ((sampleScan 0).getNodes id) = some ⟨"", 25565⟩ := by
    decide +kernel
  have discovered : discover asciiDigits (fun attempt => (sampleScan attempt).getNodes id)
      (fun _ => false) = .ok ⟨"", 25565⟩ :=
    discover_eq_ok_iff.mpr ⟨0, by decide, found, fun earlier small => absurd small (Nat.not_lt_zero _)⟩
  exact ⟨discovered, parseForwardAddrs_empty 4000 25565,
    fun addressable => not_addressable_empty 4000 25565 (addressable _ discovered)⟩

end Guest
end QomicexConnector
