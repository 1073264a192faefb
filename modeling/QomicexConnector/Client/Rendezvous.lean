import QomicexConnector.Guest.AddressableCenter
import QomicexConnector.Models.RoomCode

namespace QomicexConnector
namespace Client

open Library Center Easytier Guest
open QomicexConnector.Core
open QomicexConnector.Models

/-!
# How a guest finds its host

The host has a generated room code and a port from the scan of `start`, the guest has the text
of a code, and nothing else passes between them before the network is up.  From the code both
derive the name and the secret of the network; the port travels in the host name of the host's
node.  The routes of the network are those of a host and of guests with any machine ids.
-/

/-- The loop over the ports in `start`: the first port that can be bound, or 25000. -/
def scanPort (bindable : Nat → Bool) : Nat :=
  ((List.range' 1025 (65535 - 1025)).find? bindable).getD 25000

/-- The room of a host with this code. -/
def hostRoom (code : RoomCode) (relayNodes : List String) (elevated : Bool)
    (bindIp : Option String) : RoomSetup where
  networkName := code.easyTierNetworkName
  networkSecret := code.easyTierNetworkSecret
  relayNodes := relayNodes
  elevated := elevated
  bindIp := bindIp

/-- What `connect` reads of a code. -/
def guestIdentity (code : RoomCode) : String × String :=
  (code.easyTierNetworkName, code.easyTierNetworkSecret)

/-- The network that a configuration leads into. -/
def identity (config : NetworkConfig) : String × String :=
  (config.networkName, config.networkSecret)

/-! ## One code, one network -/

theorem joinGroups_inj {first second third fourth : List Char} (same : first.length = third.length)
    (joined : joinGroups first second = joinGroups third fourth) :
    first = third ∧ second = fourth := by
  rw [joinGroups, joinGroups, ← String.toList_inj, String.toList_ofList, String.toList_ofList]
    at joined
  have parts := List.append_inj joined same
  exact ⟨parts.1, (List.cons.inj parts.2).2⟩

/-- Name and secret of the network determine the code. -/
theorem guestIdentity_parsed_inj {left right : CodeGroups}
    (same : guestIdentity left.parsed = guestIdentity right.parsed) : left.raw = right.raw := by
  rcases forall_mem_groups.mp left.four with ⟨left₁, _, left₃, _⟩
  rcases forall_mem_groups.mp right.four with ⟨right₁, _, right₃, _⟩
  rw [guestIdentity, guestIdentity, Prod.mk.injEq] at same
  have name : joinGroups left.first left.second = joinGroups right.first right.second := by
    have names := congrArg String.toList same.1
    rw [RoomCode.easyTierNetworkName, RoomCode.easyTierNetworkName, String.toList_append,
      String.toList_append, List.append_cancel_left_eq] at names
    exact String.toList_inj.mp names
  have secret : joinGroups left.third left.fourth = joinGroups right.third right.fourth := same.2
  rcases joinGroups_inj (left₁.trans right₁.symm) name with ⟨first, second⟩
  rcases joinGroups_inj (left₃.trans right₃.symm) secret with ⟨third, fourth⟩
  rw [CodeGroups.raw, CodeGroups.raw, first, second, third, fourth]

/-- What `generate` returns parses as itself. -/
theorem parse_generated {draws : List (Vector UInt8 8)} {code : RoomCode}
    (generated : RoomCode.generate draws = .returned code) :
    ∃ groups : CodeGroups, code = groups.parsed ∧ RoomCode.parse code.raw = .ok code := by
  cases first : drawPart draws with
  | none =>
      rw [RoomCode.generate, first] at generated
      cases generated
  | some drawn =>
      rcases drawn with ⟨part1, later⟩
      cases second : drawPart later with
      | none =>
          simp only [RoomCode.generate, first, second] at generated
          cases generated
      | some others =>
          rcases others with ⟨part2, rest⟩
          rcases generate_eq_returned first second with ⟨groups, returned, _⟩
          rw [returned, Generation.returned.injEq] at generated
          exact ⟨groups, generated.symm, parse_eq_ok_iff.mpr
            ⟨groups, congrArg RoomCode.raw generated.symm, generated.symm⟩⟩

/-- A guest comes into the network of the host exactly with the host's code. -/
theorem guestIdentity_eq_iff {draws : List (Vector UInt8 8)} {code other : RoomCode} {text : String}
    (generated : RoomCode.generate draws = .returned code)
    (parsed : RoomCode.parse text = .ok other) :
    guestIdentity other = guestIdentity code ↔ text = code.raw := by
  rcases parse_generated generated with ⟨groups, rfl, itself⟩
  rcases parse_eq_ok_iff.mp parsed with ⟨others, rfl, rfl⟩
  constructor
  · exact guestIdentity_parsed_inj
  · intro same
    have groupsSame : others = groups := raw_injective same
    rw [groupsSame]

/-! ## The port -/

/-- The scan chooses the first port that can be bound, if there is one. -/
theorem scanPort_spec (bindable : Nat → Bool) :
    1025 ≤ scanPort bindable ∧ scanPort bindable < 65535 ∧
      ∀ port, 1025 ≤ port → port < 65535 → bindable port = true →
        bindable (scanPort bindable) = true ∧ scanPort bindable ≤ port := by
  rw [scanPort]
  cases found : (List.range' 1025 (65535 - 1025)).find? bindable with
  | none =>
      rw [List.find?_range'_eq_none] at found
      refine ⟨by decide, by decide, fun port least most free => ?_⟩
      have taken := found port least (by omega)
      rw [free] at taken
      cases taken
  | some first =>
      rw [List.find?_range'_eq_some] at found
      rcases found with ⟨free, listed, before⟩
      rw [List.mem_range'_1] at listed
      rw [Option.getD_some]
      refine ⟨listed.1, by omega, fun port least most other => ⟨free, ?_⟩⟩
      by_contra later
      have taken := before port least (by omega)
      rw [other] at taken
      cases taken

/-! ## The routes of the network -/

/-- The host name of a guest. -/
def guestHostname (machineId : String) : String :=
  "scaffolding-mc-guest-" ++ String.ofList (machineId.toList.take 8)

theorem getElem?_toList_append {first : String} {index : Nat} (long : index < first.toList.length)
    (later : String) : (first ++ later).toList[index]? = first.toList[index]? := by
  rw [String.toList_append, List.getElem?_append_left long]

/-- It is not one of a center, whatever the machine id. -/
theorem not_centerHostname_guest (machineId : String) (port : Nat) :
    ¬ CenterHostname (guestHostname machineId) port := by
  rintro ⟨digits, _, _, named, _⟩
  -- the two prefixes part after `scaffolding-mc-`
  have parting : (guestHostname machineId).toList[15]? = some 'g' :=
    getElem?_toList_append (by decide) _
  rw [named, getElem?_toList_append (by decide)] at parting
  cases parting

section Routes

variable {Address : Type} (ipv4From : Address → Ipv4Addr) (host : NetworkConfig)

/-- The route to the host: its host name, and the address that it has chosen. -/
def OfHost (route : Route Address) : Prop :=
  route.hostname = host.hostname ∧ host.ipv4 = some (routeToNode ipv4From route).virtualIp

/-- A route to some guest. -/
def OfGuest (route : Route Address) : Prop :=
  ∃ machineId, route.hostname = guestHostname machineId

/-- Each route of the scan leads to the host or to a guest. -/
def OfRoom (scan : Scan Address) : Prop :=
  ∀ route ∈ scan.routes, OfHost ipv4From host route ∨ OfGuest route

/-- The host shows in the scan. -/
def Shows (scan : Scan Address) : Prop := ∃ route ∈ scan.routes, OfHost ipv4From host route

variable {ipv4From host} {port : Nat} {ip : String} {unicode : DecimalDigits}

theorem ofHost_of_center (named : CenterHostname host.hostname port) {scan : Scan Address}
    (ours : OfRoom ipv4From host scan) {route : Route Address} (listed : route ∈ scan.routes)
    {other : Nat} (center : CenterHostname route.hostname other) :
    OfHost ipv4From host route ∧ other = port := by
  rcases ours route listed with own | ⟨machineId, guest⟩
  · rw [← own.1] at named
    exact ⟨own, center.unique named⟩
  · rw [guest] at center
    exact absurd center (not_centerHostname_guest machineId other)

theorem tryParseCenter_of_shows (named : CenterHostname host.hostname port)
    (fixed : host.ipv4 = some ip) {scan : Scan Address} (ours : OfRoom ipv4From host scan)
    (shown : Shows ipv4From host scan) :
    tryParseCenter unicode (scan.getNodes ipv4From) = some ⟨ip, UInt16.ofNat port⟩ := by
  rcases shown with ⟨route, listed, own⟩
  have center := named
  rw [← own.1] at center
  have node : routeToNode ipv4From route ∈ scan.getNodes ipv4From := List.mem_map_of_mem listed
  rcases exists_firstCenter node center with ⟨node, other, first⟩
  rw [tryParseCenter_of_firstCenter first]
  rcases firstCenter_getNodes.mp first with ⟨found, ⟨before, later, split, _⟩, centerFound, rfl⟩
  have member : found ∈ scan.routes := split ▸ List.mem_append_right _ List.mem_cons_self
  rcases ofHost_of_center named ours member centerFound with ⟨⟨_, address⟩, rfl⟩
  rw [fixed, Option.some.injEq] at address
  rw [address]

theorem tryParseCenter_of_not_shows (named : CenterHostname host.hostname port)
    {scan : Scan Address} (ours : OfRoom ipv4From host scan)
    (hidden : ¬ Shows ipv4From host scan) :
    tryParseCenter unicode (scan.getNodes ipv4From) = none := by
  rw [tryParseCenter_getNodes_eq_none]
  exact fun route listed other center =>
    hidden ⟨route, listed, (ofHost_of_center named ours listed center).1⟩

/-- Discovery in the room returns the host's own address and port, exactly if one of its sixty
scans shows the host before the caller cancels. -/
theorem discover_ofRoom_iff (named : CenterHostname host.hostname port)
    (fixed : host.ipv4 = some ip) {scans : Nat → Scan Address} {cancelled : Nat → Bool}
    (ours : ∀ attempt, OfRoom ipv4From host (scans attempt)) {center : CenterDiscoveryResult} :
    discover unicode (fun attempt => (scans attempt).getNodes ipv4From) cancelled = .ok center ↔
      center = ⟨ip, UInt16.ofNat port⟩ ∧ ∃ attempt < 60, Shows ipv4From host (scans attempt) ∧
        ∀ earlier < attempt, cancelled earlier = false := by
  rw [discover_eq_ok_iff]
  constructor
  · rintro ⟨attempt, few, found, before⟩
    by_cases shown : Shows ipv4From host (scans attempt)
    · rw [tryParseCenter_of_shows named fixed (ours attempt) shown, Option.some.injEq] at found
      exact ⟨found.symm, attempt, few, shown, fun earlier small => (before earlier small).2⟩
    · rw [tryParseCenter_of_not_shows named (ours attempt) shown] at found
      cases found
  · rintro ⟨rfl, attempt, few, shown, before⟩
    induction attempt using Nat.strong_induction_on with
    | _ attempt inductionHypothesis =>
        by_cases sooner : ∃ earlier < attempt, Shows ipv4From host (scans earlier)
        · rcases sooner with ⟨earlier, small, also⟩
          exact inductionHypothesis earlier small (by omega) also
            fun first less => before first (Nat.lt_trans less small)
        · refine ⟨attempt, few, tryParseCenter_of_shows named fixed (ours attempt) shown, ?_⟩
          intro earlier small
          exact ⟨tryParseCenter_of_not_shows named (ours earlier) fun also =>
            sooner ⟨earlier, small, also⟩, before earlier small⟩

end Routes

/-- A host with a generated code and guests with any texts: a guest comes into the host's
network exactly with the host's code, and there discovers the host's own address and the port
that the host has found free and lets through, as soon as a scan shows the host. -/
theorem rendezvous {draws : List (Vector UInt8 8)} {code : RoomCode}
    (generated : RoomCode.generate draws = .returned code) (bindable : Nat → Bool)
    (relayNodes : List String) (elevated : Bool) (bindIp : Option String) (config : CenterConfig) :
    let port := scanPort bindable
    let host := (hostRoom code relayNodes elevated bindIp).networkConfig config port
    (∀ other, 1025 ≤ other → other < 65535 → bindable other = true →
        bindable port = true ∧ port ≤ other) ∧
      (∀ text parsed setup outcome, RoomCode.parse text = .ok parsed →
        let guest := ScaffoldingGuest.networkConfig setup (guestIdentity parsed) outcome
        guest.hostname = guestHostname setup.machineId ∧
          (identity guest = identity host ↔ text = code.raw)) ∧
      ∀ {Address : Type} (ipv4From : Address → Ipv4Addr) (unicode : DecimalDigits)
        (scans : Nat → Scan Address) (cancelled : Nat → Bool),
        (∀ attempt, OfRoom ipv4From host (scans attempt)) →
        ∀ center, discover unicode (fun attempt => (scans attempt).getNodes ipv4From) cancelled =
            .ok center ↔
          (center.virtualIp = "10.144.144.1" ∧ center.port.toNat = port ∧
              toString center.port ∈ host.tcpWhitelist) ∧
            ∃ attempt < 60, Shows ipv4From host (scans attempt) ∧
              ∀ earlier < attempt, cancelled earlier = false := by
  intro port host
  rcases scanPort_spec bindable with ⟨least, most, first⟩
  refine ⟨first, ?_, ?_⟩
  · exact fun text parsed setup outcome read => ⟨rfl, guestIdentity_eq_iff generated read⟩
  intro Address ipv4From unicode scans cancelled ours center
  have named : CenterHostname host.hostname port := centerHostname_networkConfig _ config least most
  rw [discover_ofRoom_iff named rfl ours]
  refine and_congr_left fun _ => ⟨?_, ?_⟩
  · rintro rfl
    have same : (UInt16.ofNat port).toNat = port := named.toNat_ofNat
    refine ⟨rfl, same, ?_⟩
    have text : toString (UInt16.ofNat port) = toString port := congrArg toString same
    rw [text]
    exact List.mem_cons_self
  · rintro ⟨address, same, _⟩
    rcases center with ⟨virtualIp, found⟩
    cases address
    rw [← same, UInt16.ofNat_toNat]

/-- A scan that shows a guest and, from the third one on, the host behind it. -/
def lateScan (attempt : Nat) : Scan Ipv4Addr where
  manager := (sampleScan attempt).manager
  routeSnapshots :=
    ⟨some ⟨some ⟨10, 144, 144, 7⟩⟩, "scaffolding-mc-guest-server-1", 3⟩ ::
      if attempt < 2 then [] else [⟨some ⟨some ⟨10, 144, 144, 1⟩⟩, "scaffolding-mc-server-1030", 2⟩]

/-- Handlers and names do not matter here. -/
def quietCenter : CenterConfig := ⟨fun _ => .error "", fun _ => .ok [], 25565, "Host", "h1", "qml", []⟩

theorem rendezvous_late :
    ∃ code, RoomCode.generate sampleDraws = .returned code ∧
      scanPort (fun port => decide (1030 ≤ port)) = 1030 ∧
      ∃ center, discover asciiDigits (fun attempt => (lateScan attempt).getNodes id)
          (fun _ => false) = .ok center ∧ center.virtualIp = "10.144.144.1" ∧
        center.port.toNat = 1030 := by
  have first : drawPart sampleDraws =
      some ("G4J1JZUE", [#v[27, 29, 62, 14, 31, 11, 28, 11]]) := by decide +kernel
  have second : drawPart [#v[27, 29, 62, 14, 31, 11, 28, 11]] = some ("TVUEXBUB", []) := by
    decide +kernel
  rcases generate_eq_returned first second with ⟨groups, generated, _⟩
  have port : scanPort (fun port => decide (1030 ≤ port)) = 1030 := by decide +kernel
  have meet := (rendezvous generated (fun port => decide (1030 ≤ port)) [] false none
    quietCenter).2.2 id asciiDigits lateScan (fun _ => false)
  rw [port] at meet
  have named : "scaffolding-mc-server-1030" = s!"scaffolding-mc-server-{1030}" := by decide +kernel
  have ours : ∀ attempt, OfRoom id
      ((hostRoom groups.parsed [] false none).networkConfig quietCenter 1030) (lateScan attempt) := by
    intro attempt route listed
    have routes : (lateScan attempt).routes = (lateScan attempt).routeSnapshots := rfl
    rw [routes, lateScan, List.mem_cons] at listed
    rcases listed with rfl | listed
    · exact .inr ⟨"server-1", by decide⟩
    · split at listed
      · cases listed
      · rw [List.mem_singleton] at listed
        subst listed
        exact .inl ⟨named, rfl⟩
  have shown : Shows id ((hostRoom groups.parsed [] false none).networkConfig quietCenter 1030)
      (lateScan 2) :=
    ⟨_, List.mem_cons_of_mem _ List.mem_cons_self, named, rfl⟩
  have found := (meet ours ⟨"10.144.144.1", 1030⟩).mpr
    ⟨⟨rfl, rfl, List.mem_cons_self⟩, 2, by decide, shown, fun _ _ => rfl⟩
  exact ⟨_, generated, port, _, found, rfl, rfl⟩

end Client
end QomicexConnector
