import Mathlib.Data.Bool.AllAny
import QomicexConnector.Core.LosslessFrames
import QomicexConnector.Center.ClientConn

namespace QomicexConnector
namespace Guest

open Library Center
open QomicexConnector.Core

/-!
# Negotiated protocols and the calls that use them

`negotiate_protocols`, `send_json` and `send_json_req` of `guest/scaffolding_guest.rs`.
A key is negotiated as text: it travels in a list joined with NUL and is compared as a
whole.  A call cuts it at the first colon, and its frame carries the parts rejoined, one
byte a character, behind a one-byte length.  The main result says which negotiated keys
come out of the frame as they went in, and are registered there.
-/

/-! ## Negotiation -/

/-- `STANDARD_PROTOCOLS`. -/
def standardProtocols : List String :=
  ["c:ping", "c:protocols", "c:server_port", "c:player_ping", "c:player_profiles_list",
    "c:player_easytier_id"]

/-- `my` of `negotiate_protocols`. -/
def myProtocols (customKeys : List String) : List String := standardProtocols ++ customKeys

/-- `split('\0')`. -/
def splitNul (text : String) : List String := (text.toList.splitOn '\x00').map String.ofList

/-- `negotiate`: our protocols that the center has too, in our order. -/
def negotiate (my center : List String) : List String := my.filter fun key => key ∈ center

/-- The request of `negotiate_protocols`. -/
def protocolsRequest (customKeys : List String) : ProtocolRequest :=
  ⟨"c", "protocols", utf8Bytes (joinNul (myProtocols customKeys))⟩

theorem protocolsRequest_key (customKeys : List String) :
    (protocolsRequest customKeys).key = "c:protocols" := by
  exact (by decide +kernel : "c" ++ ":" ++ "protocols" = "c:protocols")

theorem protocolsKey_ascii : ∀ char ∈ ("c:protocols" : String).toList, char.val < 128 := by
  have checked : (("c:protocols" : String).toList.all fun char => decide (char.val < 128)) = true := by
    decide
  exact fun char listed => of_decide_eq_true (List.all_eq_true.mp checked char listed)

/-- What `negotiate_protocols` stores after the response. -/
def negotiateProtocols (customKeys negotiated : List String) (response : ProtocolResponse) :
    List String :=
  if response.isSuccess then
    negotiate (myProtocols customKeys) (splitNul (fromUtf8Lossy response.body))
  else negotiated

/-! ## Calls -/

/-- `split_key`. -/
def splitKey (key : String) : Except ScaffoldingError (String × String) :=
  match splitFirst ':' key.toList with
  | some (before, after) => .ok (String.ofList before, String.ofList after)
  | none => .error (.protocol s!"无效的协议键格式: {key}")

/-- `ensure_negotiated`. -/
def ensureNegotiated (negotiated : List String) (key : String) : Except ScaffoldingError Unit :=
  if key ∈ negotiated then .ok ()
  else
    let shown := if negotiated = [] then "空" else ", ".intercalate negotiated
    .error (.protocolNotNegotiated s!"房主不支持协议 {key}（协商结果: {shown}）")

/-- The request both calls send; `payload` is the encoded body, or why there is none. -/
def jsonRequest (negotiated : List String) (key : String)
    (payload : Except String (List UInt8)) : Except ScaffoldingError ProtocolRequest := do
  ensureNegotiated negotiated key
  let (nameSpace, requestType) ← splitKey key
  let body ← payload.mapError ScaffoldingError.protocol
  return ⟨nameSpace, requestType, body⟩

section Calls

variable {TResp : Type} (send : ProtocolRequest → Except ScaffoldingError ProtocolResponse)
  (fromSlice : List UInt8 → Except String TResp) (negotiated : List String) (key : String)

/-- What both calls do with the response. -/
def callJson (payload : Except String (List UInt8)) : Except ScaffoldingError TResp := do
  let request ← jsonRequest negotiated key payload
  let response ← send request
  if response.isSuccess then (fromSlice response.body).mapError ScaffoldingError.protocol
  else throw (.protocol s!"协议 {key} 返回错误状态: {response.status}")

/-- `send_json`: no payload, an empty body. -/
def sendJson : Except ScaffoldingError TResp := callJson send fromSlice negotiated key (.ok [])

/-- `send_json_req`. -/
def sendJsonReq {TReq : Type} (toVec : TReq → Except String (List UInt8)) (payload : TReq) :
    Except ScaffoldingError TResp :=
  callJson send fromSlice negotiated key (toVec payload)

end Calls

/-- A call on an unused connection was answered: the host decoded its frame and
dispatched it, and the guest decoded the answer. -/
def Exchanged {σ : Type} (protocols : HashMap String (ProtocolHandler σ)) (state : σ)
    (request : ProtocolRequest) (response : ProtocolResponse) : Prop :=
  ∃ received afterRequest afterResponse,
    deserializeRequestAsync [serializeRequest request] = .ok (received, afterRequest) ∧
      deserializeResponseAsync [serializeResponse (dispatch protocols received state).1] =
        .ok (response, afterResponse)

/-! ## Keys on the wire -/

/-- The keys a frame can carry: cut at a colon, one byte for each character and the
number of characters in one byte. -/
structure WireKey (key : String) : Prop where
  colon : ':' ∈ key.toList
  ascii : ∀ char ∈ key.toList, char.val < 128
  short : key.toList.length ≤ 255

theorem splitKey_eq_ok_iff {key nameSpace requestType : String} :
    splitKey key = .ok (nameSpace, requestType) ↔
      key = nameSpace ++ ":" ++ requestType ∧ ':' ∉ nameSpace.toList := by
  rw [← splitTypeStr_eq_ok_iff, splitKey, splitTypeStr]
  cases splitFirst ':' key.toList with
  | none => simp
  | some parts => simp

theorem splitKey_isOk {key : String} (colon : ':' ∈ key.toList) :
    ∃ nameSpace requestType, splitKey key = .ok (nameSpace, requestType) := by
  rcases splitTypeStr_isOk_iff.mpr colon with ⟨⟨nameSpace, requestType⟩, split⟩
  exact ⟨nameSpace, requestType, splitKey_eq_ok_iff.mpr (splitTypeStr_eq_ok_iff.mp split)⟩

/-- A request is sent for a key exactly when it is negotiated and has a colon; the parts
it is cut into make up the key again. -/
theorem jsonRequest_eq_ok_iff {negotiated : List String} {key : String} {body : List UInt8}
    {request : ProtocolRequest} :
    jsonRequest negotiated key (.ok body) = .ok request ↔
      key ∈ negotiated ∧ request.key = key ∧ ':' ∉ request.namespace.toList ∧
        request.body = body := by
  have parts : splitKey key = .ok (request.namespace, request.requestType) ↔
      request.key = key ∧ ':' ∉ request.namespace.toList := by
    rw [splitKey_eq_ok_iff, eq_comm, ProtocolRequest.key]
  by_cases listed : key ∈ negotiated
  · cases split : splitKey key with
    | error error =>
        rw [split] at parts
        have failed : jsonRequest negotiated key (.ok body) = .error error := by
          simp only [jsonRequest, ensureNegotiated, if_pos listed, split, bind, Except.bind]
        rw [failed]
        constructor
        · intro sent
          cases sent
        · rintro ⟨_, same, absent, _⟩
          cases parts.mpr ⟨same, absent⟩
    | ok pair =>
        rw [split] at parts
        have sent : jsonRequest negotiated key (.ok body) = .ok ⟨pair.1, pair.2, body⟩ := by
          simp only [jsonRequest, ensureNegotiated, if_pos listed, split, bind, Except.bind]
          rfl
        rw [sent, Except.ok.injEq]
        constructor
        · rintro rfl
          rcases parts.mp rfl with ⟨same, absent⟩
          exact ⟨listed, same, absent, rfl⟩
        · rintro ⟨_, same, absent, bodies⟩
          have pairs := Except.ok.inj (parts.mpr ⟨same, absent⟩)
          rw [pairs, ← bodies]
  · have failed : ∃ error, jsonRequest negotiated key (.ok body) = .error error := by
      rw [jsonRequest, ensureNegotiated, if_neg listed]
      exact ⟨_, rfl⟩
    rcases failed with ⟨error, failed⟩
    rw [failed]
    constructor
    · intro sent
      cases sent
    · rintro ⟨present, _⟩
      exact absurd present listed

/-- A key that fits is read as it was sent. -/
theorem decoded_of_wireKey {request : ProtocolRequest} {chunks : List (List UInt8)}
    {after : List UInt8} (wireKey : WireKey request.key)
    (bodyShort : request.body.length < 4294967296)
    (sent : chunks.flatten = serializeRequest request ++ after) :
    ∃ decoded rest, deserializeRequestAsync chunks = .ok (decoded, rest) ∧
      rest.flatten = after ∧ decoded.key = request.key ∧ decoded.body = request.body := by
  rcases decodeRequest_frame exactReads_readExactAsync
    (requestFrame request wireKey.short bodyShort) sent with ⟨rest, shows, decoded⟩
  have read : (requestFrame request wireKey.short bodyShort).typeStr = request.key :=
    fromUtf8Lossy_asciiBytes_eq_iff.mpr wireKey.ascii
  rcases splitTypeStr_isOk_iff.mpr wireKey.colon with ⟨⟨nameSpace, requestType⟩, split⟩
  rw [read, split] at decoded
  exact ⟨⟨nameSpace, requestType, request.body⟩, rest, decoded, shows,
    (splitTypeStr_eq_ok_iff.mp split).1.symm, rfl⟩

/-- The negotiation's request is read as one for `c:protocols`, whatever is left of its body. -/
theorem key_of_protocolsRequest {guestKeys : List String} {received : ProtocolRequest}
    {afterRequest : List (List UInt8)}
    (taken : deserializeRequestAsync [serializeRequest (protocolsRequest guestKeys)] =
      .ok (received, afterRequest)) :
    received.key = "c:protocols" := by
  rcases decodeRequest_eq_ok exactReads_readExactAsync taken with ⟨frame, shown, split, _⟩
  have sent : serializeRequest (protocolsRequest guestKeys) ++ [] =
      frame.bytes ++ afterRequest.flatten := by
    rw [← shown, single_chunk]
  have types := typeBytes_of_sent sent (by rw [protocolsRequest_key]; decide)
  rw [protocolsRequest_key] at types
  have read : received.key = frame.typeStr := (splitTypeStr_eq_ok_iff.mp split).1.symm
  rw [read, RequestFrame.typeStr, types]
  exact fromUtf8Lossy_asciiBytes_eq_iff.mpr protocolsKey_ascii

/-- Splitting at NUL undoes joining with NUL where no key has one. -/
theorem splitNul_joinNul {keys : List String} (nonempty : keys ≠ [])
    (plain : ∀ key ∈ keys, '\x00' ∉ key.toList) : splitNul (joinNul keys) = keys := by
  have parts : (['\x00'].intercalate (keys.map String.toList)).splitOn '\x00' =
      keys.map String.toList := by
    refine List.splitOn_intercalate '\x00' ?_ (mt List.map_eq_nil_iff.mp nonempty)
    intro chars listed
    rcases List.mem_map.mp listed with ⟨key, member, rfl⟩
    exact plain key member
  rw [splitNul, joinNul, String.toList_ofList, parts, List.map_map]
  refine (List.map_congr_left fun key _ => ?_).trans (List.map_id _)
  exact String.ofList_toList

/-- What the guest receives for an answer that fits its length field. -/
theorem response_of_sent {answer response : ProtocolResponse} {rest : List (List UInt8)}
    (framed : answer.body.length < 4294967296)
    (received : deserializeResponseAsync [serializeResponse answer] = .ok (response, rest)) :
    response = answer := by
  rcases deserializeResponseAsync_sent answer framed with ⟨other, _, decoded⟩
  rw [decoded, Except.ok.injEq, Prod.mk.injEq] at received
  exact received.1.symm

/-! ## Usable keys -/

/-- The frame a call emits for the key reaches the handler registered under it: however
it arrives and whatever follows, the host decodes the key, leaves exactly what follows
and calls that handler. -/
def Usable {σ : Type} (protocols : HashMap String (ProtocolHandler σ)) (negotiated : List String)
    (key : String) (payload : List UInt8) : Prop :=
  ∃ request, jsonRequest negotiated key (.ok payload) = .ok request ∧
    ∀ (chunks : List (List UInt8)) (after : List UInt8),
      chunks.flatten = serializeRequest request ++ after →
      ∃ decoded rest handler, deserializeRequestAsync chunks = .ok (decoded, rest) ∧
        rest.flatten = after ∧ decoded.key = key ∧ decoded.body = payload ∧
        handler.key = key ∧ protocols.lookup key = some handler ∧
        ∀ state, dispatch protocols decoded state = handler.handle decoded state

/-- A call with a usable key returns what the handler registered under it answered. -/
theorem callJson_eq_ok {σ TResp : Type} {protocols : HashMap String (ProtocolHandler σ)} {state : σ}
    {send : ProtocolRequest → Except ScaffoldingError ProtocolResponse}
    (connected : ∀ request response, send request = .ok response →
      Exchanged protocols state request response)
    {fromSlice : List UInt8 → Except String TResp} {negotiated : List String} {key : String}
    {payload : List UInt8} (usable : Usable protocols negotiated key payload)
    {handler : ProtocolHandler σ} (found : protocols.lookup key = some handler)
    (framed : ∀ request, (handler.handle request state).1.body.length < 4294967296) {value : TResp}
    (returned : callJson send fromSlice negotiated key (.ok payload) = .ok value) :
    ∃ received : ProtocolRequest, received.key = key ∧ received.body = payload ∧
      (handler.handle received state).1.isSuccess = true ∧
      fromSlice (handler.handle received state).1.body = .ok value := by
  rcases usable with ⟨request, sent, reaches⟩
  rcases reaches [serializeRequest request] [] (single_chunk _) with
    ⟨received, rest, other, taken, _, keyIs, bodyIs, _, alsoFound, dispatched⟩
  rw [found, Option.some.injEq] at alsoFound
  rw [← alsoFound] at dispatched
  cases exchange : send request with
  | error error =>
      simp only [callJson, sent, exchange, bind, Except.bind] at returned
      cases returned
  | ok response =>
      rcases connected request response exchange with
        ⟨decoded, afterRequest, afterResponse, alsoTaken, answered⟩
      rw [taken, Except.ok.injEq, Prod.mk.injEq] at alsoTaken
      rw [← alsoTaken.1, dispatched] at answered
      have same : response = (handler.handle received state).1 :=
        response_of_sent (framed received) answered
      simp only [callJson, sent, exchange, bind, Except.bind] at returned
      refine ⟨received, keyIs, bodyIs, ?_⟩
      rw [← same]
      split at returned
      · next success =>
          refine ⟨success, ?_⟩
          cases parsed : fromSlice response.body with
          | error message =>
              rw [parsed] at returned
              cases returned
          | ok parsedValue =>
              rw [parsed] at returned
              cases returned
              rfl
      · cases returned

section Host

variable {σ : Type} (config : HandlerConfig σ) {custom : List (ProtocolHandler σ)}
  {accepted : List String}

/-- Of the advertised keys all but the flag key are registered. -/
theorem registered_iff
    (checked : checkCustomKeys standardKeys (custom.map ProtocolHandler.key) = .ok accepted)
    {key : String} (notFlag : key ≠ "c:player_easytier_id") :
    (∃ handler, (protocolTable (assembleProtocols config custom)).lookup key = some handler) ↔
      key ∈ advertisedKeys (custom.map ProtocolHandler.key) := by
  have keys : key ∈ (assembleProtocols config custom).map ProtocolHandler.key ↔
      key ∈ advertisedKeys (custom.map ProtocolHandler.key) := by
    rw [assembleProtocols_keys, advertisedKeys, List.mem_append, List.mem_append]
    simp only [standardHandlerKeys, standardKeys, List.mem_cons, List.not_mem_nil, or_false,
      notFlag]
  rw [← keys, List.mem_map]
  constructor
  · rintro ⟨handler, found⟩
    exact ⟨handler, (lookup_protocolTable config checked).mp found⟩
  · rintro ⟨handler, found⟩
    exact ⟨handler, (lookup_protocolTable config checked).mpr found⟩

/-- A negotiated key is usable exactly when it has a colon, is ASCII, has at most 255
characters and is one of the host's keys as a whole. -/
theorem usable_iff_wireKey
    (checked : checkCustomKeys standardKeys (custom.map ProtocolHandler.key) = .ok accepted)
    {guestKeys before : List String} {state : σ} {response : ProtocolResponse}
    (_exchanged : Exchanged (protocolTable (assembleProtocols config custom)) state
      (protocolsRequest guestKeys) response) (_success : response.isSuccess = true)
    {key : String} (listed : key ∈ negotiateProtocols guestKeys before response)
    (notFlag : key ≠ "c:player_easytier_id") {payload : List UInt8}
    (short : payload.length < 4294967296) :
    Usable (protocolTable (assembleProtocols config custom))
        (negotiateProtocols guestKeys before response) key payload ↔
      WireKey key ∧ key ∈ advertisedKeys (custom.map ProtocolHandler.key) := by
  constructor
  · rintro ⟨request, sent, reaches⟩
    rcases reaches [serializeRequest request] [] (single_chunk _) with
      ⟨decoded, rest, handler, taken, _, same, _, _, found, _⟩
    rcases jsonRequest_eq_ok_iff.mp sent with ⟨_, keyIs, _, _⟩
    rcases key_of_decoded exactReads_readExactAsync (single_chunk _) taken
      (same.trans keyIs.symm) with ⟨ascii, keyShort⟩
    rw [keyIs] at ascii keyShort
    refine ⟨⟨?_, ascii, keyShort⟩, (registered_iff config checked notFlag).mp ⟨handler, found⟩⟩
    rw [← keyIs, ProtocolRequest.key, String.toList_append, String.toList_append]
    simp
  · rintro ⟨wireKey, advertised⟩
    rcases splitKey_isOk wireKey.colon with ⟨nameSpace, requestType, split⟩
    rcases splitKey_eq_ok_iff.mp split with ⟨keyIs, absent⟩
    rcases (registered_iff config checked notFlag).mpr advertised with ⟨handler, found⟩
    refine ⟨⟨nameSpace, requestType, payload⟩,
      jsonRequest_eq_ok_iff.mpr ⟨listed, keyIs.symm, absent, rfl⟩, ?_⟩
    intro chunks after sent
    have sentKey : ProtocolRequest.key ⟨nameSpace, requestType, payload⟩ = key := keyIs.symm
    rcases decoded_of_wireKey (sentKey.symm ▸ wireKey) short sent with
      ⟨decoded, rest, taken, shows, same, body⟩
    refine ⟨decoded, rest, handler, taken, shows, same.trans sentKey, body,
      ((lookup_protocolTable config checked).mp found).2, found, ?_⟩
    intro state
    rw [dispatch, same, sentKey, found]

/-- The answer of a host with these custom keys to the negotiation. -/
def protocolsAnswer (hostKeys : List String) : ProtocolResponse :=
  ⟨0, utf8Bytes (joinNul (advertisedKeys hostKeys))⟩

theorem dispatch_protocols
    (checked : checkCustomKeys standardKeys (custom.map ProtocolHandler.key) = .ok accepted)
    {received : ProtocolRequest} (key : received.key = "c:protocols") (state : σ) :
    (dispatch (protocolTable (assembleProtocols config custom)) received state).1 =
      protocolsAnswer (custom.map ProtocolHandler.key) := by
  have found : (protocolTable (assembleProtocols config custom)).lookup "c:protocols" =
      some (protocolsProtocol (advertisedKeys (custom.map ProtocolHandler.key))) := by
    refine (lookup_protocolTable config checked).mpr ⟨?_, rfl⟩
    exact List.mem_append_left _ (List.mem_cons_of_mem _ List.mem_cons_self)
  rw [dispatch, key, found]
  rfl

/-- Where both lists fit their length fields the negotiation is answered. -/
theorem exchanged_protocols
    (checked : checkCustomKeys standardKeys (custom.map ProtocolHandler.key) = .ok accepted)
    {guestKeys : List String} (short : (protocolsRequest guestKeys).body.length < 4294967296)
    (framed : (protocolsAnswer (custom.map ProtocolHandler.key)).body.length < 4294967296)
    (state : σ) :
    Exchanged (protocolTable (assembleProtocols config custom)) state (protocolsRequest guestKeys)
      (protocolsAnswer (custom.map ProtocolHandler.key)) := by
  have wireKey : WireKey (protocolsRequest guestKeys).key := by
    rw [protocolsRequest_key]
    exact ⟨by decide, protocolsKey_ascii, by decide⟩
  rcases decoded_of_wireKey wireKey short (single_chunk _) with ⟨received, rest, taken, _, same, _⟩
  rw [protocolsRequest_key] at same
  rcases deserializeResponseAsync_sent _ framed with ⟨afterResponse, _, decoded⟩
  refine ⟨received, rest, afterResponse, taken, ?_⟩
  rw [dispatch_protocols config checked same]
  exact decoded

/-- A host whose keys are free of NUL makes itself understood: a guest's negotiated list is
what the two lists share. -/
theorem negotiateProtocols_plain
    (checked : checkCustomKeys standardKeys (custom.map ProtocolHandler.key) = .ok accepted)
    (plain : ∀ key ∈ custom.map ProtocolHandler.key, '\x00' ∉ key.toList)
    (framed : (protocolsAnswer (custom.map ProtocolHandler.key)).body.length < 4294967296)
    {guestKeys : List String} {state : σ} {response : ProtocolResponse}
    (exchanged : Exchanged (protocolTable (assembleProtocols config custom)) state
      (protocolsRequest guestKeys) response) (before : List String) :
    negotiateProtocols guestKeys before response =
      negotiate (myProtocols guestKeys) (advertisedKeys (custom.map ProtocolHandler.key)) := by
  rcases exchanged with ⟨received, afterRequest, afterResponse, taken, answered⟩
  rw [dispatch_protocols config checked (key_of_protocolsRequest taken)] at answered
  have same : response = protocolsAnswer (custom.map ProtocolHandler.key) :=
    response_of_sent framed answered
  have success : response.isSuccess = true := by
    rw [same]
    rfl
  have segments : splitNul (joinNul (advertisedKeys (custom.map ProtocolHandler.key))) =
      advertisedKeys (custom.map ProtocolHandler.key) :=
    splitNul_joinNul (List.cons_ne_nil _ _) fun key listed => by
      rcases List.mem_append.mp listed with standard | own
      · exact (by decide : ∀ key ∈ standardKeys, '\x00' ∉ key.toList) key standard
      · exact plain key own
  rw [negotiateProtocols, if_pos success, same, protocolsAnswer, fromUtf8Lossy_utf8Bytes, segments]

end Host

/-! ## Two keys -/

/-- The bytes of an answer with one custom key. -/
theorem protocolsAnswer_body (key : String) :
    (protocolsAnswer [key]).body = utf8Bytes (joinNul standardKeys) ++ 0 :: utf8Bytes key := by
  have chars : (joinNul (advertisedKeys [key])).toList =
      (joinNul standardKeys).toList ++ '\x00' :: key.toList := by
    have some : standardKeys.map String.toList ≠ [] := List.cons_ne_nil _ _
    rw [joinNul, joinNul, advertisedKeys, List.map_append, List.map_singleton,
      String.toList_ofList, String.toList_ofList, intercalate_concat ['\x00'] key.toList some,
      List.append_assoc, List.singleton_append]
  have nul : String.utf8EncodeChar '\x00' = [0] := utf8EncodeChar_ascii (by decide)
  rw [protocolsAnswer, utf8Bytes, chars, List.flatMap_append, List.flatMap_cons, nul,
    List.singleton_append, utf8Bytes, utf8Bytes]

theorem length_standardBytes : (utf8Bytes (joinNul standardKeys)).length = 90 := by
  have chars : (joinNul standardKeys).toList =
      ['\x00'].intercalate (standardKeys.map String.toList) := String.toList_ofList
  have ascii : ∀ char ∈ (joinNul standardKeys).toList, char.val < 128 := by
    rw [chars]
    exact List.all_iff_forall_prop.mp (by decide +kernel)
  have bytes := utf8Bytes_ascii ascii
  rw [String.ofList_toList] at bytes
  rw [bytes, List.length_map, chars]
  decide +kernel

theorem length_protocolsAnswer (key : String) :
    (protocolsAnswer [key]).body.length = 91 + (utf8Bytes key).length := by
  rw [protocolsAnswer_body, List.length_append, List.length_cons, length_standardBytes]
  omega

/-- Handlers without shared state. -/
def sampleHandlers : HandlerConfig Unit :=
  ⟨fun _ => .error "", fun _ => .ok [], 25565, fun _ state => (true, state), fun _ => []⟩

/-- A custom protocol that answers with an empty body. -/
def sampleProtocol (key : String) : ProtocolHandler Unit := ⟨key, fun _ state => (⟨0, []⟩, state)⟩

/-- The table of a host with one custom protocol. -/
def sampleTable (key : String) : HashMap String (ProtocolHandler Unit) :=
  protocolTable (assembleProtocols sampleHandlers [sampleProtocol key])

/-- A negotiation with that host by a guest that has the same key. -/
structure SampleNegotiation (key : String) : Prop where
  checked : checkCustomKeys standardKeys ([sampleProtocol key].map ProtocolHandler.key) =
    .ok (standardKeys ++ [key])
  exchanged : Exchanged (sampleTable key) () (protocolsRequest [key]) (protocolsAnswer [key])
  listed : key ∈ negotiateProtocols [key] [] (protocolsAnswer [key])

theorem sampleNegotiation {key : String} (new : key ∉ standardKeys)
    (plain : '\x00' ∉ key.toList)
    (framed : (protocolsAnswer [key]).body.length < 4294967296) : SampleNegotiation key := by
  have short : (protocolsRequest [key]).body.length < 4294967296 := by
    have same : (protocolsRequest [key]).body = (protocolsAnswer [key]).body := rfl
    rw [same]
    exact framed
  have checked : checkCustomKeys standardKeys ([sampleProtocol key].map ProtocolHandler.key) =
      .ok (standardKeys ++ [key]) := if_neg new
  have exchanged := exchanged_protocols sampleHandlers checked short framed ()
  refine ⟨checked, exchanged, ?_⟩
  have negotiated := negotiateProtocols_plain sampleHandlers checked
    (fun _ single => List.mem_singleton.mp single ▸ plain) framed exchanged []
  have keys : [sampleProtocol key].map ProtocolHandler.key = [key] := rfl
  rw [keys] at negotiated
  rw [negotiated, negotiate, List.mem_filter]
  exact ⟨List.mem_append_right _ List.mem_cons_self,
    decide_eq_true (List.mem_append_right _ List.mem_cons_self)⟩

theorem usable_iff_wireKey_ascii :
    Usable (sampleTable "qml:game_info")
        (negotiateProtocols ["qml:game_info"] [] (protocolsAnswer ["qml:game_info"]))
        "qml:game_info" [] ↔
      WireKey "qml:game_info" ∧ "qml:game_info" ∈ advertisedKeys ["qml:game_info"] := by
  have framed : (protocolsAnswer ["qml:game_info"]).body.length < 4294967296 := by
    rw [length_protocolsAnswer]
    decide
  have negotiation : SampleNegotiation "qml:game_info" :=
    sampleNegotiation (by decide) (by decide) framed
  exact usable_iff_wireKey sampleHandlers negotiation.checked negotiation.exchanged rfl
    negotiation.listed (by decide) (by decide)

/-- A key that is not ASCII is negotiated, but its frame asks for another key, which
nobody is registered under. -/
theorem wide_key_unknown :
    SampleNegotiation "qml:游戏" ∧ ∃ request received,
      jsonRequest (negotiateProtocols ["qml:游戏"] [] (protocolsAnswer ["qml:游戏"])) "qml:游戏"
          (.ok []) = .ok request ∧
        deserializeRequestAsync [serializeRequest request] = .ok (received, []) ∧
        received.key = "qml:??" ∧
        (dispatch (sampleTable "qml:游戏") received ()).1 = unknownProtocol "qml:??" := by
  have framed : (protocolsAnswer ["qml:游戏"]).body.length < 4294967296 := by
    rw [length_protocolsAnswer]
    decide
  have negotiation : SampleNegotiation "qml:游戏" :=
    sampleNegotiation (by decide) (by decide) framed
  have sent : jsonRequest (negotiateProtocols ["qml:游戏"] [] (protocolsAnswer ["qml:游戏"])) "qml:游戏"
      (.ok []) = .ok ⟨"qml", "游戏", []⟩ :=
    jsonRequest_eq_ok_iff.mpr ⟨negotiation.listed, by decide +kernel, by decide, rfl⟩
  refine ⟨negotiation, _, ⟨"qml", "??", []⟩, sent, ?_, ?_, ?_⟩
  · decide +kernel
  · decide +kernel
  · decide +kernel

end Guest
end QomicexConnector
