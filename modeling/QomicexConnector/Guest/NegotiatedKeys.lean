import QomicexConnector.Guest.Negotiation

namespace QomicexConnector
namespace Guest

open Library Center
open QomicexConnector.Core

/-!
# The negotiated list

What comes out of the exchange of `c:protocols` for any two lists of keys.  The host's keys
travel joined with NUL, so the guest sees their segments, and it keeps those of its own keys
that are among them.  The length field of a frame has four bytes: of a longer list only a part
is received, and its end may be read as the end of a key.
-/

/-! ## What a frame carries -/

/-- The part of a body that its length field covers. -/
def carried (body : List UInt8) : List UInt8 := body.take (body.length % 4294967296)

theorem carried_eq_self {body : List UInt8} (short : body.length < 4294967296) :
    carried body = body := by
  rw [carried, Nat.mod_eq_of_lt short, List.take_length]

theorem length_carried (body : List UInt8) :
    (carried body).length = body.length % 4294967296 :=
  List.length_take_of_le (Nat.mod_le _ _)

theorem u32ToBeBytes_mod (value : Nat) :
    u32ToBeBytes (value % 4294967296) = u32ToBeBytes value := by
  rw [← u32FromBeBytes_u32ToBeBytes, u32ToBeBytes_u32FromBeBytes (length_u32ToBeBytes value)]

/-- A frame of any response is a complete frame of the part that it carries. -/
theorem serializeResponse_carried (answer : ProtocolResponse) :
    serializeResponse answer = serializeResponse ⟨answer.status, carried answer.body⟩ ++
      answer.body.drop (answer.body.length % 4294967296) := by
  rw [serializeResponse, serializeResponse, length_carried, u32ToBeBytes_mod, carried,
    List.cons_append, List.append_assoc, List.take_append_drop]

theorem deserializeResponseAsync_carried (answer : ProtocolResponse) :
    ∃ rest, deserializeResponseAsync [serializeResponse answer] =
      .ok (⟨answer.status, carried answer.body⟩, rest) := by
  have short : (carried answer.body).length < 4294967296 := by
    rw [length_carried]
    exact Nat.mod_lt _ (by decide)
  have shown : [serializeResponse answer].flatten =
      serializeResponse ⟨answer.status, carried answer.body⟩ ++
        answer.body.drop (answer.body.length % 4294967296) := by
    rw [single_chunk, List.append_nil, serializeResponse_carried]
  rcases decodeResponse_frame exactReads_readExactAsync short shown with ⟨rest, _, decoded⟩
  exact ⟨rest, decoded⟩

/-! ## Segments -/

/-- Splitting what was joined gives the segments of all keys. -/
theorem splitNul_joinNul_eq {keys : List String} (nonempty : keys ≠ []) :
    splitNul (joinNul keys) = keys.flatMap splitNul := by
  have some : keys.map String.toList ≠ [] := mt List.map_eq_nil_iff.mp nonempty
  have split := splitOn_intercalate_eq_flatMap '\x00' some
  rw [splitNul, joinNul, String.toList_ofList, split, List.flatMap_map, List.map_flatMap]
  rfl

/-- A text without NUL is its only segment. -/
theorem splitNul_eq_singleton {text : String} (plain : '\x00' ∉ text.toList) :
    splitNul text = [text] := by
  have alone := splitNul_joinNul (List.cons_ne_nil text []) fun key listed => by
    rw [List.mem_singleton.mp listed]
    exact plain
  have joined : joinNul [text] = text := by
    rw [joinNul, List.map_singleton, List.intercalate_singleton, String.ofList_toList]
  rw [joined] at alone
  exact alone

theorem flatMap_splitNul_eq_self {keys : List String}
    (plain : ∀ key ∈ keys, '\x00' ∉ key.toList) : keys.flatMap splitNul = keys := by
  rw [List.flatMap_congr fun key listed => splitNul_eq_singleton (plain key listed)]
  exact List.flatMap_singleton' keys

/-! ## The exchange -/

section Exchange

variable {σ : Type} (config : HandlerConfig σ) {custom : List (ProtocolHandler σ)}
  {accepted : List String}

/-- The response of the exchange is the part of the host's answer that its frame carries. -/
theorem response_of_exchanged
    (checked : checkCustomKeys standardKeys (custom.map ProtocolHandler.key) = .ok accepted)
    {guestKeys : List String} {state : σ} {response : ProtocolResponse}
    (exchanged : Exchanged (protocolTable (assembleProtocols config custom)) state
      (protocolsRequest guestKeys) response) :
    response = ⟨0, carried (protocolsAnswer (custom.map ProtocolHandler.key)).body⟩ := by
  rcases exchanged with ⟨received, afterRequest, afterResponse, taken, answered⟩
  rw [dispatch_protocols config checked (key_of_protocolsRequest taken)] at answered
  rcases deserializeResponseAsync_carried (protocolsAnswer (custom.map ProtocolHandler.key)) with
    ⟨rest, decoded⟩
  rw [decoded, Except.ok.injEq, Prod.mk.injEq] at answered
  exact answered.1.symm

/-- The guest keeps its own keys that are among the segments of what it has received; where
the host's keys fit the length field, these are the segments of the host's keys. -/
theorem negotiated_segments
    (checked : checkCustomKeys standardKeys (custom.map ProtocolHandler.key) = .ok accepted)
    {guestKeys : List String} {state : σ} {response : ProtocolResponse}
    (exchanged : Exchanged (protocolTable (assembleProtocols config custom)) state
      (protocolsRequest guestKeys) response) (before : List String) :
    let advertised := advertisedKeys (custom.map ProtocolHandler.key)
    let negotiated := negotiateProtocols guestKeys before response
    negotiated = (myProtocols guestKeys).filter (fun key =>
        key ∈ splitNul (fromUtf8Lossy (carried (utf8Bytes (joinNul advertised))))) ∧
      ((utf8Bytes (joinNul advertised)).length < 4294967296 →
        negotiated = (myProtocols guestKeys).filter (fun key => key ∈ advertised.flatMap splitNul) ∧
        ((∀ key ∈ advertised, '\x00' ∉ key.toList) →
          ∀ key, key ∈ negotiated ↔ key ∈ myProtocols guestKeys ∧ key ∈ advertised)) := by
  intro advertised negotiated
  have received := response_of_exchanged config checked exchanged
  have success : response.isSuccess = true := by
    rw [received]
    rfl
  have kept : negotiated = (myProtocols guestKeys).filter (fun key =>
      key ∈ splitNul (fromUtf8Lossy (carried (utf8Bytes (joinNul advertised))))) := by
    change negotiateProtocols guestKeys before response = _
    rw [negotiateProtocols, if_pos success, received, negotiate, protocolsAnswer]
  refine ⟨kept, fun short => ?_⟩
  have nonempty : advertised ≠ [] := List.cons_ne_nil _ _
  have segments : negotiated = (myProtocols guestKeys).filter (fun key =>
      key ∈ advertised.flatMap splitNul) := by
    rw [kept, carried_eq_self short, fromUtf8Lossy_utf8Bytes, splitNul_joinNul_eq nonempty]
  refine ⟨segments, fun plain key => ?_⟩
  rw [segments, flatMap_splitNul_eq_self plain, List.mem_filter, decide_eq_true_eq]

end Exchange

theorem negotiated_segments_sample :
    "qml:game_info" ∈
        negotiateProtocols ["qml:game_info"] [] (protocolsAnswer ["qml:game_info"]) ∧
      "" ∉ negotiateProtocols ["qml:game_info"] [] (protocolsAnswer ["qml:game_info"]) := by
  have framed : (protocolsAnswer ["qml:game_info"]).body.length < 4294967296 := by
    rw [length_protocolsAnswer]
    decide
  have negotiation := sampleNegotiation (by decide) (by decide) framed
  have kept := ((negotiated_segments sampleHandlers negotiation.checked negotiation.exchanged
    []).2 framed).2 (by decide)
  refine ⟨(kept "qml:game_info").mpr (by decide), fun spurious => ?_⟩
  exact absurd ((kept "").mp spurious).1 (by decide)

/-! ## Keys that the length field cannot carry -/

/-- A key of so many letters. -/
def longKey (length : Nat) : String := String.ofList (List.replicate length 'a')

theorem length_longKey (length : Nat) : (utf8Bytes (longKey length)).length = length := by
  have ascii : ∀ char ∈ List.replicate length 'a', char.val < 128 := by
    intro char listed
    rw [List.eq_of_mem_replicate listed]
    decide
  rw [longKey, utf8Bytes_ascii ascii, List.length_map, List.length_replicate]

theorem short_protocolsAnswer : (protocolsAnswer [""]).body.length < 4294967296 := by
  rw [length_protocolsAnswer]
  decide

/-- A key of 2^32 bytes, or of a multiple, is cut off whole: what arrives ends in an empty
key. -/
theorem carried_protocolsAnswer {length : Nat} (wraps : length % 4294967296 = 0) :
    carried (protocolsAnswer [longKey length]).body = (protocolsAnswer [""]).body := by
  have standard := length_standardBytes
  have total : (protocolsAnswer [longKey length]).body.length = 91 + length := by
    rw [length_protocolsAnswer, length_longKey]
  have covered : (91 + length) % 4294967296 = 91 := by omega
  have whole : (utf8Bytes (joinNul standardKeys)).length ≤ 91 := by
    rw [standard]
    decide
  have empty : utf8Bytes "" = [] := rfl
  rw [carried, total, covered, protocolsAnswer_body, protocolsAnswer_body, List.take_append, standard,
    List.take_of_length_le whole, List.take_succ_cons, List.take_zero, empty]

theorem not_nul_mem_longKey (length : Nat) : '\x00' ∉ (longKey length).toList := by
  rw [longKey, String.toList_ofList]
  intro listed
  cases (List.eq_of_mem_replicate listed)

theorem longKey_ne_empty {length : Nat} (positive : 0 < length) : longKey length ≠ "" := by
  intro same
  have chars := congrArg (fun text : String => text.toList.length) same
  rw [longKey, String.toList_ofList, List.length_replicate] at chars
  exact absurd chars (Nat.ne_of_gt positive)

/-- The exchange between a guest with the empty key and a host with one custom key. -/
theorem exchanged_longKey {length : Nat} (wraps : length % 4294967296 = 0)
    (new : longKey length ∉ standardKeys) :
    Exchanged (sampleTable (longKey length)) () (protocolsRequest [""]) (protocolsAnswer [""]) := by
  have wireKey : WireKey (protocolsRequest [""]).key := by
    rw [protocolsRequest_key]
    exact ⟨by decide, protocolsKey_ascii, by decide⟩
  have bodies : (protocolsRequest [""]).body = (protocolsAnswer [""]).body := rfl
  rcases decoded_of_wireKey wireKey (bodies ▸ short_protocolsAnswer) (single_chunk _) with
    ⟨received, afterRequest, taken, _, same, _⟩
  rw [protocolsRequest_key] at same
  have keys : [sampleProtocol (longKey length)].map ProtocolHandler.key = [longKey length] := rfl
  have checked : checkCustomKeys standardKeys
      ([sampleProtocol (longKey length)].map ProtocolHandler.key) =
        .ok (standardKeys ++ [longKey length]) := if_neg new
  rcases deserializeResponseAsync_carried (protocolsAnswer [longKey length]) with ⟨rest, decoded⟩
  have status : (protocolsAnswer [longKey length]).status = (protocolsAnswer [""]).status := rfl
  rw [carried_protocolsAnswer wraps, status] at decoded
  refine ⟨received, afterRequest, rest, taken, ?_⟩
  rw [sampleTable, dispatch_protocols sampleHandlers checked same, keys, decoded]

/-- A guest negotiates an empty key that its host has never advertised. -/
theorem empty_key_negotiated :
    checkCustomKeys standardKeys [longKey 4294967296] = .ok (standardKeys ++ [longKey 4294967296]) ∧
      Exchanged (sampleTable (longKey 4294967296)) () (protocolsRequest [""])
        (protocolsAnswer [""]) ∧
      (protocolsAnswer [""]).isSuccess = true ∧
      "" ∈ negotiateProtocols [""] [] (protocolsAnswer [""]) ∧
      "" ∉ (myProtocols [""]).filter (fun key =>
        key ∈ (advertisedKeys [longKey 4294967296]).flatMap splitNul) := by
  have segment : splitNul (longKey 4294967296) = [longKey 4294967296] :=
    splitNul_eq_singleton (not_nul_mem_longKey _)
  have long : ∀ key ∈ standardKeys, (utf8Bytes key).length < 4294967296 := by decide
  have new : longKey 4294967296 ∉ standardKeys := by
    intro listed
    have short := long _ listed
    rw [length_longKey] at short
    exact absurd short (Nat.lt_irrefl _)
  have standard : standardKeys.flatMap splitNul = standardKeys :=
    flatMap_splitNul_eq_self (by decide)
  have negotiation := sampleNegotiation (by decide) (by decide) short_protocolsAnswer
  refine ⟨if_neg new, exchanged_longKey (Nat.mod_self _) new, rfl, negotiation.listed, ?_⟩
  intro kept
  have advertised := of_decide_eq_true (List.mem_filter.mp kept).2
  rw [advertisedKeys, List.flatMap_append, List.mem_append, standard, List.flatMap_singleton,
    segment, List.mem_singleton] at advertised
  rcases advertised with listed | long
  · revert listed
    decide
  · exact longKey_ne_empty (by decide) long.symm

end Guest
end QomicexConnector
