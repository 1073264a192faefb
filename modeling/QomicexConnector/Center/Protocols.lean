import QomicexConnector.Library.HashMap
import QomicexConnector.Core.ProtocolSerializer

namespace QomicexConnector
namespace Center

open Library

/-!
# Protocol handlers

The handlers of `protocols/mod.rs` and the assembly of the dispatch table in
`ScaffoldingCenter::start` and `TcpServer::new`.  A handler answers one request
and may change the state the handlers share, which for the standard handlers is
the player list.  JSON is read and printed by the parameters `fromSlice` and
`toVec`.
-/

/-- One implementation of `ProtocolHandler`. -/
structure ProtocolHandler (σ : Type) where
  key : String
  handle : ProtocolRequest → σ → ProtocolResponse × σ

/-- `error_response`: status 255 with a message. -/
def errorResponse (message : String) : ProtocolResponse := ⟨255, utf8Bytes message⟩

section Handlers

variable {σ : Type}

def pingProtocol : ProtocolHandler σ where
  key := "c:ping"
  handle request state := (⟨0, request.body⟩, state)

/-- `join("\0")`. -/
def joinNul (keys : List String) : String :=
  String.ofList (['\x00'].intercalate (keys.map String.toList))

def protocolsProtocol (supported : List String) : ProtocolHandler σ where
  key := "c:protocols"
  handle _ state := (⟨0, utf8Bytes (joinNul supported)⟩, state)

def serverPortProtocol (port : UInt16) : ProtocolHandler σ where
  key := "c:server_port"
  handle _ state := (⟨0, [(port >>> 8).toUInt8, port.toUInt8]⟩, state)

/-- `parse_player_info`: missing and non-printable fields become empty. -/
def parsePlayerInfo (fromSlice : List UInt8 → Except String Json) (body : List UInt8) :
    Except String PlayerInfo := do
  let root ← fromSlice body
  let strOr (key : String) : String := ((root.get key).bind valueToString).getD ""
  return {
    name := strOr "name"
    machineId := strOr "machine_id"
    vendor := strOr "vendor"
    easytierId := (root.get "easytier_id").bind valueToString
    kind := .host }

def playerPingProtocol (fromSlice : List UInt8 → Except String Json)
    (onPlayerPing : PlayerInfo → σ → Bool × σ) : ProtocolHandler σ where
  key := "c:player_ping"
  handle request state :=
    match parsePlayerInfo fromSlice request.body with
    | .ok info =>
        match onPlayerPing info state with
        | (true, state) => (⟨0, []⟩, state)
        | (false, state) => (⟨255, utf8Bytes "玩家已被房主踢出"⟩, state)
    | .error message => (errorResponse s!"玩家心跳解析失败: {message}", state)

/-- `player_to_entry`, serialized: the fields in declaration order. -/
def playerToEntry (player : PlayerInfo) : Json :=
  .object [
    ("name", .string player.name),
    ("machine_id", .string player.machineId),
    ("easytier_id", match player.easytierId with | some id => .string id | none => .null),
    ("vendor", .string player.vendor),
    ("kind", .string (match player.kind with | .host => "HOST" | .guest => "GUEST"))]

def playerProfilesListProtocol (toVec : Json → Except String (List UInt8))
    (getPlayers : σ → List PlayerInfo) : ProtocolHandler σ where
  key := "c:player_profiles_list"
  handle _ state :=
    match toVec (.array ((getPlayers state).map playerToEntry)) with
    | .ok body => (⟨0, body⟩, state)
    | .error message => (errorResponse s!"玩家列表序列化失败: {message}", state)

/-! ## Custom protocols -/

/-- `DelegateProtocol`, as `new` makes it. -/
def delegateProtocol (key : String) (handler : ProtocolRequest → σ → ProtocolResponse × σ) :
    ProtocolHandler σ := ⟨key, handler⟩

/-- `DelegateProtocol::new_raw`: the status is 0 whatever the handler returns. -/
def delegateRaw (key : String) (handler : List UInt8 → σ → List UInt8 × σ) : ProtocolHandler σ :=
  delegateProtocol key fun request state =>
    let (body, state) := handler request.body state
    (⟨0, body⟩, state)

section Json

variable {TReq TResp : Type}

/-- The response with a handler's value. -/
def jsonResponse (toVec : TResp → Except String (List UInt8)) (value : TResp) :
    ProtocolResponse :=
  match toVec value with
  | .ok body => ⟨0, body⟩
  | .error message => errorResponse s!"响应序列化失败: {message}"

/-- `DelegateProtocol::new_json`: the request's body is ignored. -/
def delegateJson (key : String) (toVec : TResp → Except String (List UInt8))
    (handler : σ → TResp × σ) : ProtocolHandler σ :=
  delegateProtocol key fun _ state =>
    let (value, state) := handler state
    (jsonResponse toVec value, state)

/-- The argument in a request's body; an empty body is the default. -/
def jsonArgument [Inhabited TReq] (fromSlice : List UInt8 → Except String TReq)
    (body : List UInt8) : Except String TReq :=
  if body = [] then .ok default else fromSlice body

/-- `DelegateProtocol::new_json_req`. -/
def delegateJsonReq [Inhabited TReq] (key : String) (fromSlice : List UInt8 → Except String TReq)
    (toVec : TResp → Except String (List UInt8)) (handler : TReq → σ → TResp × σ) :
    ProtocolHandler σ :=
  delegateProtocol key fun request state =>
    match jsonArgument fromSlice request.body with
    | .ok argument =>
        let (value, state) := handler argument state
        (jsonResponse toVec value, state)
    | .error message => (errorResponse s!"请求反序列化失败: {message}", state)

end Json

/-! ## Assembly of the dispatch table -/

/-- `STANDARD_KEYS`: five handlers and the flag key, which has none. -/
def standardKeys : List String :=
  ["c:ping", "c:protocols", "c:server_port", "c:player_ping", "c:player_profiles_list",
    "c:player_easytier_id"]

/-- The keys the five standard handlers are registered under. -/
def standardHandlerKeys : List String :=
  ["c:ping", "c:protocols", "c:server_port", "c:player_ping", "c:player_profiles_list"]

/-- The loop over `custom_protocols` that refuses a key already seen. -/
def checkCustomKeys : List String → List String → Except ScaffoldingError (List String)
  | seen, [] => .ok seen
  | seen, key :: later =>
      if key ∈ seen then .error (.protocol s!"自定义协议键冲突: {key}")
      else checkCustomKeys (seen ++ [key]) later

/-- `advertised_keys`: the standard keys, then the custom ones. -/
def advertisedKeys (customKeys : List String) : List String := standardKeys ++ customKeys

/-- What `start` gives its handlers besides the shared state. -/
structure HandlerConfig (σ : Type) where
  fromSlice : List UInt8 → Except String Json
  toVec : Json → Except String (List UInt8)
  minecraftPort : UInt16
  onPlayerPing : PlayerInfo → σ → Bool × σ
  getPlayers : σ → List PlayerInfo

/-- The handlers `start` passes to the server: the standard ones, then the custom ones. -/
def assembleProtocols (config : HandlerConfig σ) (custom : List (ProtocolHandler σ)) :
    List (ProtocolHandler σ) :=
  [pingProtocol,
    protocolsProtocol (advertisedKeys (custom.map ProtocolHandler.key)),
    serverPortProtocol config.minecraftPort,
    playerPingProtocol config.fromSlice config.onPlayerPing,
    playerProfilesListProtocol config.toVec config.getPlayers] ++ custom

/-- The table of `TcpServer::new`. -/
def protocolTable (protocols : List (ProtocolHandler σ)) : HashMap String (ProtocolHandler σ) :=
  HashMap.collect (protocols.map fun handler => (handler.key, handler))

/-- The response to a request nobody is registered for. -/
def unknownProtocol (key : String) : ProtocolResponse := ⟨255, utf8Bytes ("未知协议: " ++ key)⟩

/-- The lookup and the call in `handle_client`. -/
def dispatch (protocols : HashMap String (ProtocolHandler σ)) (request : ProtocolRequest)
    (state : σ) : ProtocolResponse × σ :=
  match protocols.lookup request.key with
  | some handler => handler.handle request state
  | none => (unknownProtocol request.key, state)

/-- The check passes exactly when the custom keys are new and distinct, and then
has seen them in order. -/
theorem checkCustomKeys_eq_ok_iff {seen keys accepted : List String} (distinct : seen.Nodup) :
    checkCustomKeys seen keys = .ok accepted ↔ (seen ++ keys).Nodup ∧ accepted = seen ++ keys := by
  induction keys generalizing seen with
  | nil =>
      rw [checkCustomKeys, List.append_nil, Except.ok.injEq]
      exact ⟨fun same => ⟨distinct, same.symm⟩, fun both => both.2.symm⟩
  | cons key later inductionHypothesis =>
      rw [checkCustomKeys]
      by_cases repeated : key ∈ seen
      · rw [if_pos repeated]
        constructor
        · intro accepted
          cases accepted
        · rintro ⟨nodup, _⟩
          exact absurd rfl ((List.nodup_append.mp nodup).2.2 key repeated key List.mem_cons_self)
      · have grown : (seen ++ [key]).Nodup := by
          rw [List.nodup_append]
          refine ⟨distinct, List.nodup_singleton key, ?_⟩
          intro old listed new single same
          rw [List.mem_singleton] at single
          exact repeated (single ▸ same ▸ listed)
        rw [if_neg repeated, inductionHypothesis grown, List.append_assoc, List.singleton_append]

theorem assembleProtocols_keys (config : HandlerConfig σ) (custom : List (ProtocolHandler σ)) :
    (assembleProtocols config custom).map ProtocolHandler.key =
      standardHandlerKeys ++ custom.map ProtocolHandler.key := by
  rw [assembleProtocols, List.map_append]
  rfl

theorem standardHandlerKeys_sublist : standardHandlerKeys.Sublist standardKeys := by
  rw [standardHandlerKeys, standardKeys]
  decide

/-- After the key check no handler replaces another one in the table. -/
theorem lookup_protocolTable (config : HandlerConfig σ) {custom : List (ProtocolHandler σ)}
    {accepted : List String}
    (checked : checkCustomKeys standardKeys (custom.map ProtocolHandler.key) = .ok accepted)
    {key : String} {handler : ProtocolHandler σ} :
    (protocolTable (assembleProtocols config custom)).lookup key = some handler ↔
      handler ∈ assembleProtocols config custom ∧ handler.key = key := by
  have distinct := ((checkCustomKeys_eq_ok_iff (by decide)).mp checked).1
  have keys : (((assembleProtocols config custom).map fun handler => (handler.key, handler)).map
      Prod.fst).Nodup := by
    rw [List.map_map]
    change ((assembleProtocols config custom).map ProtocolHandler.key).Nodup
    rw [assembleProtocols_keys]
    exact (standardHandlerKeys_sublist.append_right _).nodup distinct
  rw [protocolTable, HashMap.lookup_collect keys, List.mem_map]
  constructor
  · rintro ⟨other, listed, same⟩
    rw [Prod.mk.injEq] at same
    rcases same with ⟨keyIs, rfl⟩
    exact ⟨listed, keyIs⟩
  · rintro ⟨listed, rfl⟩
    exact ⟨handler, listed, rfl⟩

end Handlers

end Center
end QomicexConnector
