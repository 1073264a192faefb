import QomicexConnector.Client.RoomCreation
import QomicexConnector.Guest.ScaffoldingGuest
import QomicexConnector.Easytier.BindAddress

namespace QomicexConnector
namespace Client

open Library Center Easytier Guest

/-!
# Which rooms are refused

Host and guest hand EasyTier a configuration that `build_toml_config` reads text by text, and a
text that cannot be read refuses the whole of it.  The address of the host and the listeners are
made up by the connector itself and are readable whatever address is bound.  The relay nodes come
from outside, from the node service or from the user, and nobody has looked at them before.
-/

/-- What the connector relies on in the parsers: they read the address of the host with its mask,
and listeners on a numbered address. -/
structure ReadsAddresses {Inet Uri Addr : Type} (parsers : AddressParsers Inet Uri Addr) :
    Prop where
  host : (parsers.ipv4Inet "10.144.144.1/24").isSome = true
  tcp : ∀ ip : Ipv4Addr, (parsers.uri s!"tcp://{ip.display}:0").isSome = true
  udp : ∀ ip : Ipv4Addr, (parsers.uri s!"udp://{ip.display}:0").isSome = true

section Build

variable {Inet Uri Addr : Type} {parsers : AddressParsers Inet Uri Addr}

/-- `collect` after `parse` and `map_err`: the first text that cannot be read refuses them all. -/
theorem mapM_parsed {Value : Type} (read : String → Option Value)
    (refused : String → ScaffoldingError) (texts : List String) :
    texts.mapM (fun text => parsed (read text) (refused text)) =
      match texts.find? fun text => (read text).isNone with
      | some text => .error (refused text)
      | none => .ok (texts.filterMap read) := by
  induction texts with
  | nil => rfl
  | cons text later inductionHypothesis =>
      rw [List.mapM_cons, inductionHypothesis, List.find?_cons, List.filterMap_cons]
      cases read text with
      | none => rfl
      | some value =>
          simp only [parsed, Option.isNone_some]
          cases later.find? fun text => (read text).isNone <;> rfl

/-- The text of the address that is bound is one that the listeners may have. -/
theorem exists_display_of_bindIp (shown : Option (List NetworkInterface)) :
    ∃ ip : Ipv4Addr, (resolveBindIp shown).getD "0.0.0.0" = ip.display := by
  cases bound : resolveBindIp shown with
  | none => exact ⟨⟨0, 0, 0, 0⟩, rfl⟩
  | some text =>
      cases shown with
      | none => cases bound
      | some interfaces =>
          rw [resolveBindIp_eq_find] at bound
          rcases Option.map_eq_some_iff.mp bound with ⟨⟨name, shown⟩, found, rfl⟩
          rcases mem_candidates_iff.mp (List.mem_of_find?_eq_some found) with ⟨ip, _, same⟩
          exact ⟨ip, same⟩

/-- The relay nodes of a configuration. -/
def relayNodes (config : NetworkConfig) : List String :=
  config.relayNodes.getD (Relay.resolve none none)

/-- The first of the nodes that cannot be read. -/
def unreadable (parsers : AddressParsers Inet Uri Addr) (nodes : List String) : Option String :=
  nodes.find? fun node => (parsers.uri node).isNone

/-- A configuration that differs from what host and guest make up in its relay nodes only. -/
structure OfRoomOrGuest (config : NetworkConfig) : Prop where
  ipv4 : config.ipv4 = none ∨ config.ipv4 = some "10.144.144.1"
  random : config.listenRandomPorts = true
  bind : ∃ ip : Ipv4Addr, config.bindIp.getD "0.0.0.0" = ip.display
  noForwards : config.portForwards = []

theorem buildTomlConfig_ofRoomOrGuest (reads : ReadsAddresses parsers) {config : NetworkConfig}
    (made : OfRoomOrGuest config) :
    match unreadable parsers (relayNodes config) with
    | some node =>
        buildTomlConfig parsers config = .error (.easyTierStart s!"无效的中继节点地址: {node}")
    | none => ∃ toml, buildTomlConfig parsers config = .ok toml := by
  rcases made.bind with ⟨ip, bind⟩
  rcases Option.isSome_iff_exists.mp (reads.tcp ip) with ⟨tcp, tcpRead⟩
  rcases Option.isSome_iff_exists.mp (reads.udp ip) with ⟨udp, udpRead⟩
  rcases Option.isSome_iff_exists.mp reads.host with ⟨inet, inetRead⟩
  have listeners : [s!"tcp://{ip.display}:0", s!"udp://{ip.display}:0"].mapM (fun uri =>
      parsed (parsers.uri uri) (.easyTierStart s!"无效的监听地址: {uri}")) = .ok [tcp, udp] := by
    rw [List.mapM_cons, List.mapM_cons, List.mapM_nil, tcpRead, udpRead]
    rfl
  have peers := mapM_parsed parsers.uri
    (fun node => .easyTierStart s!"无效的中继节点地址: {node}") (relayNodes config)
  rw [relayNodes] at peers
  rw [buildTomlConfig, made.noForwards, made.random, bind]
  simp only [if_true, Option.mapM_some, listeners, peers, relayNodes, unreadable]
  rcases made.ipv4 with none | host
  · rw [none]
    cases (config.relayNodes.getD (Relay.resolve .none .none)).find? fun node =>
      (parsers.uri node).isNone with
    | none => exact ⟨_, rfl⟩
    | some node => rfl
  · have masked : toString "10.144.144.1" ++ toString "/" ++ toString fixedIpv4Prefix =
        "10.144.144.1/24" := by decide +kernel
    have plain : ('/' ∈ "10.144.144.1".toList) = False := by decide
    rw [host]
    simp only [Option.mapM_some, plain, if_false, masked, inetRead]
    cases (config.relayNodes.getD (Relay.resolve .none .none)).find? fun node =>
      (parsers.uri node).isNone with
    | none => exact ⟨_, rfl⟩
    | some node => rfl

end Build

/-! ## Starting EasyTier -/

/-- A new manager refuses the configuration exactly for a node that cannot be read, names the
first one and runs nothing; otherwise the instance is created, if EasyTier lets it. -/
def RefusedForNodes {Inet Uri Addr : Type} (parsers : AddressParsers Inet Uri Addr)
    (nodes : List String) (config : NetworkConfig) (outcome : StartOutcome) : Prop :=
  match unreadable parsers nodes with
  | some node =>
      EasyTierManager.new.start parsers config outcome =
        (.error (.easyTierStart s!"无效的中继节点地址: {node}"), .new)
  | none => EasyTierManager.new.creates parsers config outcome = outcome.created.toOption

theorem refusedForNodes_ofRoomOrGuest {Inet Uri Addr : Type}
    {parsers : AddressParsers Inet Uri Addr} (reads : ReadsAddresses parsers)
    {config : NetworkConfig} (made : OfRoomOrGuest config) (outcome : StartOutcome) :
    RefusedForNodes parsers (relayNodes config) config outcome := by
  have built := buildTomlConfig_ofRoomOrGuest reads made
  have idle : EasyTierManager.new.isRunning = false := rfl
  rw [RefusedForNodes]
  split at built
  · rw [EasyTierManager.start, idle, built]
    rfl
  · rcases built with ⟨toml, built⟩
    rw [EasyTierManager.creates, idle, built]
    cases outcome.created <;> rfl

/-- Whatever interfaces the system shows, and so whatever address is bound: the room of a host and
the guest of any room are refused for their configuration exactly where a relay node cannot be
read. -/
theorem refused_for_relay_nodes {Inet Uri Addr : Type} {parsers : AddressParsers Inet Uri Addr}
    (reads : ReadsAddresses parsers) (shown : Option (List NetworkInterface))
    (easyTier : StartOutcome) :
    (∀ (room : RoomSetup) (config : CenterConfig) (port : Nat),
        room.bindIp = resolveBindIp shown →
          RefusedForNodes parsers room.relayNodes (room.networkConfig config port) easyTier) ∧
      ∀ (setup : GuestConfig) (identity : String × String) (outcome : JoinOutcome),
        outcome.bindIp = resolveBindIp shown →
          RefusedForNodes parsers (setup.relayNodes.getD (Relay.resolve none none))
            (ScaffoldingGuest.networkConfig setup identity outcome) easyTier := by
  have bound := exists_display_of_bindIp shown
  constructor
  · intro room config port own
    have bind : ∃ ip : Ipv4Addr, room.bindIp.getD "0.0.0.0" = ip.display := by rwa [own]
    have made : OfRoomOrGuest (room.networkConfig config port) := ⟨Or.inr rfl, rfl, bind, rfl⟩
    exact refusedForNodes_ofRoomOrGuest reads made easyTier
  · intro setup identity outcome own
    have bind : ∃ ip : Ipv4Addr, outcome.bindIp.getD "0.0.0.0" = ip.display := by rwa [own]
    have made : OfRoomOrGuest (ScaffoldingGuest.networkConfig setup identity outcome) :=
      ⟨Or.inl rfl, rfl, bind, rfl⟩
    exact refusedForNodes_ofRoomOrGuest reads made easyTier

/-- Parsers that look at the scheme of a URI. -/
def schemeParsers : AddressParsers String String String where
  ipv4Inet := some
  uri text :=
    if "tcp://".toList <+: text.toList ∨ "udp://".toList <+: text.toList then some text else none
  socketAddr := some

/-- A node without a scheme among three. -/
def partlyReadable : List String := ["tcp://example.net:11010", "example.net", ""]

theorem refused_for_relay_nodes_scheme :
    unreadable schemeParsers partlyReadable = some "example.net" ∧
      RefusedForNodes schemeParsers partlyReadable
        (RoomSetup.networkConfig ⟨"", "", partlyReadable, false, none⟩
          ⟨fun _ => .error "", fun _ => .ok [], 25565, "Host", "h1", "qml", []⟩ 1025)
        ⟨.ok (7, ⟨true, "2", none⟩), true⟩ := by
  have reads : ReadsAddresses schemeParsers := by
    refine ⟨rfl, fun ip => ?_, fun ip => ?_⟩
    · rw [schemeParsers]
      dsimp only
      rw [if_pos (Or.inl _)]
      · rfl
      · rw [String.append_assoc, String.toList_append]
        exact List.prefix_append _ _
    · rw [schemeParsers]
      dsimp only
      rw [if_pos (Or.inr _)]
      · rfl
      · rw [String.append_assoc, String.toList_append]
        exact List.prefix_append _ _
  refine ⟨by decide +kernel, ?_⟩
  exact (refused_for_relay_nodes reads none _).1 ⟨"", "", _, false, none⟩ _ 1025 rfl

end Client
end QomicexConnector
