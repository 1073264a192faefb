import QomicexConnector.Guest.ScaffoldingGuest
import QomicexConnector.Models.JsonOrder

namespace QomicexConnector
namespace Guest

open Library
open Center
open QomicexConnector.Core

/-!
# Player data on the wire

The host writes its player list with `c:player_profiles_list` and the guest's
`get_player_list` reads it; the guest writes its own profile in two places, as a struct in
`send_player_ping` and with `json!` in the heartbeat, and the host's `parse_player_info` reads
both.  Printing and parsing JSON text is the library's business: whatever is printed is read
back, up to the order of members.
-/

/-! ## Encoders -/

/-- A field that may be missing is printed as `null`. -/
def optionJson : Option String → Json
  | some value => .string value
  | none => .null

/-- The serialized profile: the fields in declaration order. -/
def PlayerProfileEntry.toJson (entry : PlayerProfileEntry) : Json :=
  .object [
    ("name", .string entry.name),
    ("machine_id", .string entry.machineId),
    ("easytier_id", optionJson entry.easytierId),
    ("vendor", .string entry.vendor),
    ("kind", optionJson entry.kind)]

/-- The host's profile of a player. -/
def PlayerProfileEntry.ofPlayer (player : PlayerInfo) : PlayerProfileEntry where
  name := player.name
  machineId := player.machineId
  easytierId := player.easytierId
  vendor := player.vendor
  kind := some (match player.kind with | .host => "HOST" | .guest => "GUEST")

/-- Host and guest serialize the same struct. -/
theorem playerToEntry_eq (player : PlayerInfo) :
    playerToEntry player = (PlayerProfileEntry.ofPlayer player).toJson := by
  cases player with
  | mk name machineId easytierId vendor kind =>
      cases easytierId with
      | none => rfl
      | some id => rfl

namespace ScaffoldingGuest

variable (setup : GuestConfig) (guest : ScaffoldingGuest)

/-- The value of `json!` in the callback of `start_heartbeat`. -/
def heartbeatJson : Json :=
  let hasEasytierId := "c:player_easytier_id" ∈ guest.negotiated
  let nodeId := if hasEasytierId then guest.easyTier.nodeId.getD "" else ""
  .object [
    ("name", .string setup.playerName),
    ("machine_id", .string setup.machineId),
    ("vendor", .string setup.vendor),
    ("easytier_id", if hasEasytierId then .string nodeId else .null),
    ("kind", .null)]

end ScaffoldingGuest

section Wire

variable (toVec : Json → Except String (List UInt8)) (fromSlice : List UInt8 → Except String Json)

/-- The body that `send_player_ping` sends. -/
def pingBody (setup : GuestConfig) (guest : ScaffoldingGuest) :
    Except ScaffoldingError (List UInt8) :=
  (toVec (guest.playerProfile setup).toJson).mapError ScaffoldingError.protocol

/-- The body that the heartbeat sends. -/
def heartbeatBody (setup : GuestConfig) (guest : ScaffoldingGuest) : Except Unit (List UInt8) :=
  (toVec (guest.heartbeatJson setup)).mapError fun _ => ()

/-! ## Decoders -/

/-- The player that an object describes. -/
def playerOfMembers (members : List (String × Json)) : PlayerInfo :=
  let strOr (key : String) : String := ((members.lookup key).bind valueToString).getD ""
  { name := strOr "name"
    machineId := strOr "machine_id"
    vendor := strOr "vendor"
    easytierId := (members.lookup "easytier_id").bind valueToString
    kind := if (members.lookup "kind").bind Json.asStr = some "HOST" then .host else .guest }

/-- `get_player_list` behind the response; what is no object is left out. -/
def getPlayerList (body : List UInt8) : Except ScaffoldingError (List PlayerInfo) := do
  let value ← (fromSlice body).mapError ScaffoldingError.protocol
  match value.asArray with
  | none => return []
  | some items => return items.filterMap fun item => item.asObject.map playerOfMembers

end Wire

/-! ## Round trips -/

open Json

theorem playerOfMembers_reordered {members others : List (String × Json)}
    (same : Reordered (.object members) (.object others)) :
    playerOfMembers members = playerOfMembers others := by
  have texts := same.lookup_bind fun _ _ same => same.valueToString_eq
  have kind := same.lookup_bind (fun _ _ same => same.asStr_eq) "kind"
  simp only [playerOfMembers, texts, kind]

/-- A player's entry is read as the player. -/
theorem playerOfMembers_entry {player : PlayerInfo} {members : List (String × Json)}
    (entry : Reordered (.object members) (playerToEntry player)) :
    playerOfMembers members = player := by
  rw [playerToEntry] at entry
  rw [playerOfMembers_reordered entry]
  cases player with
  | mk name machineId easytierId vendor kind =>
      cases easytierId with
      | none => cases kind <;> rfl
      | some id => cases kind <;> rfl

/-- The entries of a list are read as the players, in their order. -/
theorem players_of_entries {items : List Json} {players : List PlayerInfo}
    (entries : List.Forall₂ Reordered items (players.map playerToEntry)) :
    items.filterMap (fun item => item.asObject.map playerOfMembers) = players := by
  induction players generalizing items with
  | nil =>
      cases entries with
      | nil => rfl
  | cons player players inductionHypothesis =>
      cases entries with
      | cons entry later =>
          rcases entry.object_inv with ⟨members, rfl, same⟩
          rw [List.filterMap_cons, asObject, Option.map_some, playerOfMembers_entry same,
            inductionHypothesis later]

section Wire

variable {toVec : Json → Except String (List UInt8)}
  {fromSlice : List UInt8 → Except String Json}

theorem getPlayerList_of_parsed {body : List UInt8} {parsed : Json} {players : List PlayerInfo}
    (read : fromSlice body = .ok parsed)
    (same : Reordered parsed (.array (players.map playerToEntry))) :
    getPlayerList fromSlice body = .ok players := by
  rcases same.array_inv with ⟨items, rfl, entries⟩
  unfold getPlayerList
  rw [read]
  apply congrArg Except.ok
  exact players_of_entries entries

/-- What the host answers, the guest reads. -/
theorem getPlayerList_playerProfilesList {σ : Type} (getPlayers : σ → List PlayerInfo)
    (request : ProtocolRequest) (state : σ)
    (inverse : PrintsBack toVec fromSlice (.array ((getPlayers state).map playerToEntry))) :
    getPlayerList fromSlice
        ((playerProfilesListProtocol toVec getPlayers).handle request state).1.body =
      .ok (getPlayers state) := by
  rcases inverse with ⟨body, parsed, printed, read, same⟩
  simp only [playerProfilesListProtocol, printed]
  exact getPlayerList_of_parsed read same

/-- The host reads the fields of a value, whatever their order. -/
theorem parsePlayerInfo_of_parsed {body : List UInt8} {parsed : Json}
    {members : List (String × Json)} (read : fromSlice body = .ok parsed)
    (same : Reordered parsed (.object members)) :
    parsePlayerInfo fromSlice body =
      .ok { playerOfMembers members with kind := .host } := by
  have texts := same.get_bind fun _ _ same => same.valueToString_eq
  rw [parsePlayerInfo, read]
  change Except.ok _ = _
  simp only [texts]
  rfl

variable (setup : GuestConfig) (guest : ScaffoldingGuest)

/-- The player a guest is to the host. -/
def ScaffoldingGuest.playerInfo : PlayerInfo where
  name := setup.playerName
  machineId := setup.machineId
  easytierId :=
    if "c:player_easytier_id" ∈ guest.negotiated then some (guest.easyTier.nodeId.getD "")
    else none
  vendor := setup.vendor
  kind := .host

/-- The struct of `send_player_ping`. -/
theorem parsePlayerInfo_ping
    (inverse : PrintsBack toVec fromSlice (guest.playerProfile setup).toJson) :
    ∃ body, pingBody toVec setup guest = .ok body ∧
      parsePlayerInfo fromSlice body = .ok (guest.playerInfo setup) := by
  rcases inverse with ⟨body, parsed, printed, read, same⟩
  refine ⟨body, ?_, ?_⟩
  · simp only [pingBody, printed, Except.mapError]
  · rw [PlayerProfileEntry.toJson] at same
    rw [parsePlayerInfo_of_parsed read same, ScaffoldingGuest.playerInfo,
      ScaffoldingGuest.playerProfile]
    split <;> rfl

/-- The `json!` of the heartbeat. -/
theorem parsePlayerInfo_heartbeat
    (inverse : PrintsBack toVec fromSlice (guest.heartbeatJson setup)) :
    ∃ body, heartbeatBody toVec setup guest = .ok body ∧
      parsePlayerInfo fromSlice body = .ok (guest.playerInfo setup) := by
  rcases inverse with ⟨body, parsed, printed, read, same⟩
  refine ⟨body, ?_, ?_⟩
  · simp only [heartbeatBody, printed, Except.mapError]
  · rw [ScaffoldingGuest.heartbeatJson] at same
    rw [parsePlayerInfo_of_parsed read same, ScaffoldingGuest.playerInfo]
    split <;> rfl

/-- The body is the one that `send_player_ping` sends, where the struct is printed as its
fields. -/
theorem sendPlayerPing_pingBody
    (printed : toVec (guest.playerProfile setup).toJson =
      .ok (setup.toVec (guest.playerProfile setup)))
    (connected : guest.tcp.stream.isSome) (delivery : Delivery) :
    ∃ body, pingBody toVec setup guest = .ok body ∧
      guest.sendPlayerPing setup delivery =
        ((guest.send ⟨"c", "player_ping", body⟩ delivery).1.map fun _ => (),
          (guest.send ⟨"c", "player_ping", body⟩ delivery).2) := by
  refine ⟨setup.toVec (guest.playerProfile setup), ?_, ?_⟩
  · simp only [pingBody, printed, Except.mapError]
  · rw [ScaffoldingGuest.sendPlayerPing, if_pos connected]

end Wire

/-- Player data survives the wire: the guest reads the host's list as it is, and the host reads
both of the guest's bodies as the same player. -/
theorem player_data_survives (toVec : Json → Except String (List UInt8))
    (fromSlice : List UInt8 → Except String Json) :
    (∀ (σ : Type) (getPlayers : σ → List PlayerInfo) (request : ProtocolRequest) (state : σ),
      PrintsBack toVec fromSlice (.array ((getPlayers state).map playerToEntry)) →
      getPlayerList fromSlice
          ((playerProfilesListProtocol toVec getPlayers).handle request state).1.body =
        .ok (getPlayers state)) ∧
    ∀ (setup : GuestConfig) (guest : ScaffoldingGuest),
      PrintsBack toVec fromSlice (guest.playerProfile setup).toJson →
      PrintsBack toVec fromSlice (guest.heartbeatJson setup) →
      ∃ ping heartbeat info,
        pingBody toVec setup guest = .ok ping ∧
        heartbeatBody toVec setup guest = .ok heartbeat ∧
        parsePlayerInfo fromSlice ping = .ok info ∧
        parsePlayerInfo fromSlice heartbeat = .ok info ∧
        info.name = setup.playerName ∧
        info.machineId = setup.machineId ∧
        info.vendor = setup.vendor ∧
        info.easytierId =
          if "c:player_easytier_id" ∈ guest.negotiated then
            some (guest.easyTier.nodeId.getD "")
          else none := by
  refine ⟨fun _ getPlayers request state inverse =>
    getPlayerList_playerProfilesList getPlayers request state inverse, ?_⟩
  intro setup guest struct literal
  rcases parsePlayerInfo_ping setup guest struct with ⟨ping, sent, pingRead⟩
  rcases parsePlayerInfo_heartbeat setup guest literal with ⟨heartbeat, beaten, heartbeatRead⟩
  exact ⟨ping, heartbeat, guest.playerInfo setup, sent, beaten, pingRead, heartbeatRead,
    rfl, rfl, rfl, rfl⟩

/-! ## A host, a player without a node id and one with an empty one -/

def wirePlayers : List PlayerInfo :=
  [⟨"Host", "h1", none, "qml", .host⟩, ⟨"Guest", "g1", some "", "qml", .guest⟩]

/-- A guest that has negotiated the flag before its node has an id. -/
def wireGuest : ScaffoldingGuest :=
  { ScaffoldingGuest.new with negotiated := ["c:ping", "c:player_easytier_id"] }

def wireSetup : GuestConfig := ⟨"Guest", "g1", "qml", [], none, fun _ => []⟩

/-- The three texts: a struct keeps its order, a map is printed by key. -/
def wireToVec : Json → Except String (List UInt8)
  | .array _ => .ok (utf8Bytes
      ("[\x7b\"name\":\"Host\",\"machine_id\":\"h1\",\"easytier_id\":null,\"vendor\":\"qml\"," ++
        "\"kind\":\"HOST\"\x7d,\x7b\"name\":\"Guest\",\"machine_id\":\"g1\"," ++
        "\"easytier_id\":\"\",\"vendor\":\"qml\",\"kind\":\"GUEST\"\x7d]"))
  | .object (_ :: _ :: ("vendor", _) :: _) => .ok (utf8Bytes
      ("\x7b\"easytier_id\":\"\",\"kind\":null,\"machine_id\":\"g1\",\"name\":\"Guest\"," ++
        "\"vendor\":\"qml\"\x7d"))
  | .object _ => .ok (utf8Bytes
      ("\x7b\"name\":\"Guest\",\"machine_id\":\"g1\",\"easytier_id\":\"\",\"vendor\":\"qml\"," ++
        "\"kind\":null\x7d"))
  | _ => .error "not in the sample"

/-- A parsed object lists its members by key. -/
def wireObject (easytierId kind : Option String) (machineId name : String) : Json :=
  .object [
    ("easytier_id", optionJson easytierId),
    ("kind", optionJson kind),
    ("machine_id", .string machineId),
    ("name", .string name),
    ("vendor", .string "qml")]

theorem wireObject_reordered (easytierId kind : Option String) (machineId name : String)
    {keys : List String}
    (ordered : ["easytier_id", "kind", "machine_id", "name", "vendor"].Perm keys) :
    Reordered (wireObject easytierId kind machineId name)
      (.object (keys.map fun key =>
        (key, ((wireObject easytierId kind machineId name).get key).getD .null))) := by
  have distinct : ["easytier_id", "kind", "machine_id", "name", "vendor"].Nodup := by decide
  exact .of_perm (ordered.map fun key =>
    (key, ((wireObject easytierId kind machineId name).get key).getD .null)) distinct

/-- The parser on the three texts. -/
def wireFromSlice (body : List UInt8) : Except String Json :=
  if body.head? = some 0x5B then
    .ok (.array [wireObject none (some "HOST") "h1" "Host",
      wireObject (some "") (some "GUEST") "g1" "Guest"])
  else .ok (wireObject (some "") none "g1" "Guest")

/-- The order of the fields in the struct. -/
theorem wireKeys_struct : ["easytier_id", "kind", "machine_id", "name", "vendor"].Perm
    ["name", "machine_id", "easytier_id", "vendor", "kind"] := by
  decide

/-- The order of the members in `json!`. -/
theorem wireKeys_literal : ["easytier_id", "kind", "machine_id", "name", "vendor"].Perm
    ["name", "machine_id", "vendor", "easytier_id", "kind"] := by
  decide

theorem printsBack_wirePlayers :
    PrintsBack wireToVec wireFromSlice (.array (wirePlayers.map playerToEntry)) := by
  refine ⟨_, _, rfl, if_pos (by decide +kernel), .array (.cons ?_ (.cons ?_ .nil))⟩
  · apply wireObject_reordered none (some "HOST") "h1" "Host" wireKeys_struct
  · apply wireObject_reordered (some "") (some "GUEST") "g1" "Guest" wireKeys_struct

theorem printsBack_wireProfile :
    PrintsBack wireToVec wireFromSlice (wireGuest.playerProfile wireSetup).toJson := by
  refine ⟨_, _, rfl, if_neg (by decide +kernel), ?_⟩
  apply wireObject_reordered (some "") none "g1" "Guest" wireKeys_struct

theorem printsBack_wireHeartbeat :
    PrintsBack wireToVec wireFromSlice (wireGuest.heartbeatJson wireSetup) := by
  refine ⟨_, _, rfl, if_neg (by decide +kernel), ?_⟩
  apply wireObject_reordered (some "") none "g1" "Guest" wireKeys_literal

/-- The list of two comes back, and a guest without a node id is recorded with an empty one. -/
theorem player_data_survives_sample :
    getPlayerList wireFromSlice
        ((playerProfilesListProtocol wireToVec (fun _ : Unit => wirePlayers)).handle
          ⟨"c", "player_profiles_list", []⟩ ()).1.body = .ok wirePlayers ∧
      ∃ ping heartbeat info,
        pingBody wireToVec wireSetup wireGuest = .ok ping ∧
        heartbeatBody wireToVec wireSetup wireGuest = .ok heartbeat ∧
        ping ≠ heartbeat ∧
        parsePlayerInfo wireFromSlice ping = .ok info ∧
        parsePlayerInfo wireFromSlice heartbeat = .ok info ∧
        info.easytierId = some "" := by
  rcases player_data_survives wireToVec wireFromSlice with ⟨list, bodies⟩
  refine ⟨list Unit (fun _ => wirePlayers) ⟨"c", "player_profiles_list", []⟩ ()
    printsBack_wirePlayers, ?_⟩
  rcases bodies wireSetup wireGuest printsBack_wireProfile printsBack_wireHeartbeat with
    ⟨ping, heartbeat, info, sent, beaten, pingRead, heartbeatRead, -, -, -, easytierId⟩
  refine ⟨ping, heartbeat, info, sent, beaten, ?_, pingRead, heartbeatRead, easytierId⟩
  cases sent
  cases beaten
  decide +kernel

end Guest
end QomicexConnector
