import QomicexConnector.Library.ByteStream
import QomicexConnector.Models

namespace QomicexConnector
namespace Core

open Library

/-!
# Frames on the wire

The encoders and decoders of `core/protocol_serializer.rs`.  A request frame is
one byte with the length of the type string, the type string, four bytes with
the length of the body, and the body; a response frame has a status byte in
place of the type string.

The source writes each decoder twice, once over a whole buffer and once over an
asynchronous stream.  Both are `decodeRequest` (or `decodeResponse`) over a
reader, and `ExactReads` is all that is used of the reader.  Lengths are cast on
the way out (`as u8`, `as u32`), so an encoder always produces bytes, but only
short type strings and bodies come back.
-/

/-! ## Encoding -/

/-- `ascii_bytes`: every character that is not ASCII becomes a question mark. -/
def asciiBytes (text : String) : List UInt8 :=
  text.toList.map fun char => if char.val < 128 then char.val.toUInt8 else 63

def serializeRequest (request : ProtocolRequest) : List UInt8 :=
  let typeBytes := asciiBytes request.key
  UInt8.ofNat typeBytes.length ::
    (typeBytes ++ (u32ToBeBytes request.body.length ++ request.body))

def serializeResponse (response : ProtocolResponse) : List UInt8 :=
  response.status :: (u32ToBeBytes response.body.length ++ response.body)

/-! ## Decoding -/

/-- `split_type_str`: cut at the first colon. -/
def splitTypeStr (typeStr : String) : Except ScaffoldingError (String × String) :=
  match splitFirst ':' typeStr.toList with
  | some (before, after) => .ok (String.ofList before, String.ofList after)
  | none => .error (.protocol s!"无效的请求类型格式: {typeStr}")

/-- `read_exact` over the part of the buffer behind the cursor. -/
def readExact (count : Nat) (remaining : List UInt8) :
    Except ScaffoldingError (List UInt8 × List UInt8) :=
  if count = 0 then .ok ([], remaining)
  else if remaining.length < count then
    .error (.protocol
      s!"流提前结束: 期望读取 {count} 字节，实际读取 {remaining.length} 字节")
  else .ok (remaining.take count, remaining.drop count)

/-- `read_exact_async` over a stream that delivers chunks and then ends. -/
def readExactAsync (count : Nat) (chunks : List (List UInt8)) :
    Except ScaffoldingError (List UInt8 × List (List UInt8)) :=
  if count = 0 then .ok ([], chunks)
  else
    match takeChunks count chunks with
    | some output => .ok output
    | none => .error (.protocol s!"流提前结束: 期望读取 {count} 字节")

section Decoders

variable {Source : Type}

/-- The steps shared by `parse_request` and `deserialize_request_async`. -/
def decodeRequest (read : Nat → Source → Except ScaffoldingError (List UInt8 × Source))
    (source : Source) : Except ScaffoldingError (ProtocolRequest × Source) := do
  let (typeLen, source) ← read 1 source
  let (typeBytes, source) ← read (typeLen.headD 0).toNat source
  let typeStr := fromUtf8Lossy typeBytes
  let (lenBuf, source) ← read 4 source
  let (body, source) ← read (u32FromBeBytes lenBuf) source
  let (nameSpace, requestType) ← splitTypeStr typeStr
  return (⟨nameSpace, requestType, body⟩, source)

/-- The steps shared by `parse_response` and `deserialize_response_async`. -/
def decodeResponse (read : Nat → Source → Except ScaffoldingError (List UInt8 × Source))
    (source : Source) : Except ScaffoldingError (ProtocolResponse × Source) := do
  let (status, source) ← read 1 source
  let (lenBuf, source) ← read 4 source
  let (body, source) ← read (u32FromBeBytes lenBuf) source
  return (⟨status.headD 0, body⟩, source)

end Decoders

def parseRequest (bytes : List UInt8) : Except ScaffoldingError ProtocolRequest :=
  (decodeRequest readExact bytes).map Prod.fst

def parseResponse (bytes : List UInt8) : Except ScaffoldingError ProtocolResponse :=
  (decodeResponse readExact bytes).map Prod.fst

/-- The decoder and the chunks it leaves unread. -/
def deserializeRequestAsync (chunks : List (List UInt8)) :
    Except ScaffoldingError (ProtocolRequest × List (List UInt8)) :=
  decodeRequest readExactAsync chunks

def deserializeResponseAsync (chunks : List (List UInt8)) :
    Except ScaffoldingError (ProtocolResponse × List (List UInt8)) :=
  decodeResponse readExactAsync chunks

/-! ## Both readers are exact -/

theorem exactReads_readExact : ExactReads id readExact where
  taken := by
    intro count source bytes rest result
    rw [readExact] at result
    by_cases zero : count = 0
    · rw [if_pos zero] at result
      cases result
      exact ⟨zero.symm, rfl⟩
    · rw [if_neg zero] at result
      by_cases fewer : source.length < count
      · rw [if_pos fewer] at result
        cases result
      · rw [if_neg fewer] at result
        cases result
        exact ⟨List.length_take_of_le (Nat.le_of_not_lt fewer), (List.take_append_drop _ _).symm⟩
  short := by
    intro count source error result
    rw [readExact] at result
    by_cases zero : count = 0
    · rw [if_pos zero] at result
      cases result
    · rw [if_neg zero] at result
      by_cases fewer : source.length < count
      · exact fewer
      · rw [if_neg fewer] at result
        cases result

theorem exactReads_readExactAsync : ExactReads List.flatten readExactAsync where
  taken := by
    intro count source bytes rest result
    rw [readExactAsync] at result
    by_cases zero : count = 0
    · rw [if_pos zero] at result
      cases result
      exact ⟨zero.symm, rfl⟩
    · rw [if_neg zero] at result
      cases taken : takeChunks count source with
      | none => rw [taken] at result; cases result
      | some output =>
          rw [taken] at result
          cases result
          exact takeChunks_eq_some taken
  short := by
    intro count source error result
    rw [readExactAsync] at result
    by_cases zero : count = 0
    · rw [if_pos zero] at result
      cases result
    · rw [if_neg zero] at result
      cases taken : takeChunks count source with
      | none => exact takeChunks_eq_none taken
      | some output => rw [taken] at result; cases result

/-! ## Complete request frames -/

/-- The parts of a complete request frame; the length fields determine them, so
both parts are as short as their length fields can say. -/
structure RequestFrame where
  typeBytes : List UInt8
  body : List UInt8
  type_short : typeBytes.length < 256
  body_short : body.length < 4294967296

namespace RequestFrame

def bytes (frame : RequestFrame) : List UInt8 :=
  UInt8.ofNat frame.typeBytes.length ::
    (frame.typeBytes ++ (u32ToBeBytes frame.body.length ++ frame.body))

/-- The type string as the host reads it. -/
def typeStr (frame : RequestFrame) : String := fromUtf8Lossy frame.typeBytes

/-- The frame is complete by construction; what may still be missing is the colon. -/
def WellFormed (frame : RequestFrame) : Prop := ':' ∈ frame.typeStr.toList

instance (frame : RequestFrame) : Decidable frame.WellFormed :=
  inferInstanceAs (Decidable (':' ∈ frame.typeStr.toList))

theorem bytes_ne_nil (frame : RequestFrame) : frame.bytes ≠ [] := List.cons_ne_nil _ _

/-- A complete frame can be told apart from whatever follows it. -/
theorem bytes_append_inj {first second : RequestFrame} {afterFirst afterSecond : List UInt8}
    (same : first.bytes ++ afterFirst = second.bytes ++ afterSecond) :
    first = second ∧ afterFirst = afterSecond := by
  simp only [bytes, List.cons_append, List.cons.injEq, List.append_assoc] at same
  have type_length : first.typeBytes.length = second.typeBytes.length := by
    have lengths := congrArg UInt8.toNat same.1
    simp only [UInt8.toNat_ofNat'] at lengths
    have := first.type_short
    have := second.type_short
    omega
  have types := List.append_inj same.2 type_length
  have fields := List.append_inj types.2 (by simp only [length_u32ToBeBytes])
  have body_length : first.body.length = second.body.length := by
    have lengths := congrArg u32FromBeBytes fields.1
    rw [u32FromBeBytes_u32ToBeBytes, u32FromBeBytes_u32ToBeBytes,
      Nat.mod_eq_of_lt first.body_short, Nat.mod_eq_of_lt second.body_short] at lengths
    exact lengths
  have bodies := List.append_inj fields.2 body_length
  refine ⟨?_, bodies.2⟩
  cases first
  cases second
  simp only [mk.injEq]
  exact ⟨types.1, bodies.1⟩

end RequestFrame

section Frames

variable {Source : Type} {view : Source → List UInt8}
  {read : Nat → Source → Except ScaffoldingError (List UInt8 × Source)}

/-- A source that shows a complete frame is decoded to that frame, whichever way
its type string splits, and exactly the frame is consumed. -/
theorem decodeRequest_frame (exact : ExactReads view read) {source : Source}
    (frame : RequestFrame) {after : List UInt8} (shown : view source = frame.bytes ++ after) :
    ∃ rest, view rest = after ∧ decodeRequest read source =
      (splitTypeStr frame.typeStr).map fun key => (⟨key.1, key.2, frame.body⟩, rest) := by
  have parts : view source = [UInt8.ofNat frame.typeBytes.length] ++
      (frame.typeBytes ++ (u32ToBeBytes frame.body.length ++ (frame.body ++ after))) := by
    rw [shown]
    simp only [RequestFrame.bytes, List.cons_append, List.nil_append, List.append_assoc]
  rcases exact.of_view parts with ⟨afterLength, readLength, showsType⟩
  rcases exact.of_view showsType with ⟨afterType, readType, showsField⟩
  rcases exact.of_view showsField with ⟨afterField, readField, showsBody⟩
  rcases exact.of_view showsBody with ⟨rest, readBody, showsRest⟩
  refine ⟨rest, showsRest, ?_⟩
  have typeLen : (UInt8.ofNat frame.typeBytes.length).toNat = frame.typeBytes.length := by
    rw [UInt8.toNat_ofNat']
    exact Nat.mod_eq_of_lt frame.type_short
  have bodyLen : u32FromBeBytes (u32ToBeBytes frame.body.length) = frame.body.length := by
    rw [u32FromBeBytes_u32ToBeBytes, Nat.mod_eq_of_lt frame.body_short]
  rw [List.length_singleton] at readLength
  rw [length_u32ToBeBytes] at readField
  simp only [decodeRequest, readLength, bind, Except.bind, List.headD_cons, typeLen, readType,
    readField, bodyLen, readBody, RequestFrame.typeStr]
  cases splitTypeStr (fromUtf8Lossy frame.typeBytes) <;> rfl

/-- Without a complete frame at the front, some read of the decoder fails and
its error is the decoder's. -/
theorem decodeRequest_incomplete (exact : ExactReads view read) {source : Source}
    (incomplete : ∀ (frame : RequestFrame) after, view source ≠ frame.bytes ++ after) :
    ∃ count rest error, read count rest = .error error ∧
      decodeRequest read source = .error error := by
  cases readLength : read 1 source with
  | error error =>
      exact ⟨1, source, error, readLength, by simp only [decodeRequest, readLength, bind, Except.bind]⟩
  | ok length =>
  cases readType : read (length.1.headD 0).toNat length.2 with
  | error error =>
      exact ⟨_, _, error, readType,
        by simp only [decodeRequest, readLength, readType, bind, Except.bind]⟩
  | ok type =>
  cases readField : read 4 type.2 with
  | error error =>
      exact ⟨_, _, error, readField,
        by simp only [decodeRequest, readLength, readType, readField, bind, Except.bind]⟩
  | ok field =>
  cases readBody : read (u32FromBeBytes field.1) field.2 with
  | error error =>
      exact ⟨_, _, error, readBody,
        by simp only [decodeRequest, readLength, readType, readField, readBody, bind, Except.bind]⟩
  | ok body =>
  exfalso
  have ⟨one, showsLength⟩ := exact.taken readLength
  have ⟨typeLength, showsType⟩ := exact.taken readType
  have ⟨four, showsField⟩ := exact.taken readField
  have ⟨bodyLength, showsBody⟩ := exact.taken readBody
  rcases List.length_eq_one_iff.mp one with ⟨lengthByte, lengthIs⟩
  rw [lengthIs, List.headD_cons] at typeLength
  have type_short : type.1.length < 256 := typeLength ▸ lengthByte.toNat_lt
  have body_short : body.1.length < 4294967296 := bodyLength ▸ u32FromBeBytes_lt four
  refine incomplete ⟨type.1, body.1, type_short, body_short⟩ (view body.2) ?_
  have lengthField : UInt8.ofNat type.1.length = lengthByte := by
    rw [typeLength, UInt8.ofNat_toNat]
  have bodyField : u32ToBeBytes body.1.length = field.1 := by
    rw [bodyLength, u32ToBeBytes_u32FromBeBytes four]
  rw [showsLength, showsType, showsField, showsBody, lengthIs, RequestFrame.bytes, lengthField,
    bodyField]
  simp only [List.cons_append, List.nil_append, List.append_assoc]

/-- What the decoder accepts is a complete frame whose type string has a colon. -/
theorem decodeRequest_eq_ok (exact : ExactReads view read) {source rest : Source}
    {request : ProtocolRequest} (decoded : decodeRequest read source = .ok (request, rest)) :
    ∃ frame : RequestFrame, view source = frame.bytes ++ view rest ∧
      splitTypeStr frame.typeStr = .ok (request.namespace, request.requestType) ∧
      request.body = frame.body := by
  by_cases complete : ∃ (frame : RequestFrame) (after : List UInt8), view source = frame.bytes ++ after
  · rcases complete with ⟨frame, after, shown⟩
    rcases decodeRequest_frame exact frame shown with ⟨left, showsLeft, result⟩
    rw [result] at decoded
    cases split : splitTypeStr frame.typeStr with
    | error error => rw [split] at decoded; cases decoded
    | ok key =>
        rw [split] at decoded
        cases decoded
        exact ⟨frame, by rw [shown, showsLeft], split, rfl⟩
  · rcases decodeRequest_incomplete exact fun frame after shown => complete ⟨frame, after, shown⟩ with
      ⟨count, left, error, _, failed⟩
    rw [failed] at decoded
    cases decoded

/-- A source that shows a response frame is decoded to that response, and exactly the
frame is consumed. -/
theorem decodeResponse_frame (exact : ExactReads view read) {source : Source}
    {response : ProtocolResponse} (short : response.body.length < 4294967296)
    {after : List UInt8} (shown : view source = serializeResponse response ++ after) :
    ∃ rest, view rest = after ∧ decodeResponse read source = .ok (response, rest) := by
  have parts : view source =
      [response.status] ++ (u32ToBeBytes response.body.length ++ (response.body ++ after)) := by
    rw [shown]
    simp only [serializeResponse, List.cons_append, List.nil_append, List.append_assoc]
  rcases exact.of_view parts with ⟨afterStatus, readStatus, showsField⟩
  rcases exact.of_view showsField with ⟨afterField, readField, showsBody⟩
  rcases exact.of_view showsBody with ⟨rest, readBody, showsRest⟩
  have bodyLen : u32FromBeBytes (u32ToBeBytes response.body.length) = response.body.length := by
    rw [u32FromBeBytes_u32ToBeBytes, Nat.mod_eq_of_lt short]
  refine ⟨rest, showsRest, ?_⟩
  rw [List.length_singleton] at readStatus
  rw [length_u32ToBeBytes] at readField
  simp only [decodeResponse, readStatus, bind, Except.bind, readField, bodyLen, readBody,
    List.headD_cons]
  rfl

/-- What the decoder accepts is a response frame. -/
theorem decodeResponse_eq_ok (exact : ExactReads view read) {source rest : Source}
    {response : ProtocolResponse} (decoded : decodeResponse read source = .ok (response, rest)) :
    view source = serializeResponse response ++ view rest ∧
      response.body.length < 4294967296 := by
  simp only [decodeResponse, bind, Except.bind] at decoded
  cases readStatus : read 1 source with
  | error error => rw [readStatus] at decoded; cases decoded
  | ok status =>
  simp only [readStatus] at decoded
  cases readField : read 4 status.2 with
  | error error => rw [readField] at decoded; cases decoded
  | ok field =>
  simp only [readField] at decoded
  cases readBody : read (u32FromBeBytes field.1) field.2 with
  | error error => rw [readBody] at decoded; cases decoded
  | ok body =>
  simp only [readBody] at decoded
  cases decoded
  have ⟨one, showsStatus⟩ := exact.taken readStatus
  have ⟨four, showsField⟩ := exact.taken readField
  have ⟨bodyLength, showsBody⟩ := exact.taken readBody
  rcases List.length_eq_one_iff.mp one with ⟨statusByte, statusIs⟩
  have bodyField : u32ToBeBytes body.1.length = field.1 := by
    rw [bodyLength, u32ToBeBytes_u32FromBeBytes four]
  refine ⟨?_, bodyLength ▸ u32FromBeBytes_lt four⟩
  rw [showsStatus, showsField, showsBody, statusIs, serializeResponse, bodyField]
  simp only [List.headD_cons, List.cons_append, List.nil_append, List.append_assoc]

end Frames

/-- A response that fits its length field is received as it was sent, and nothing is left. -/
theorem deserializeResponseAsync_sent (response : ProtocolResponse)
    (framed : response.body.length < 4294967296) :
    ∃ rest, rest.flatten = [] ∧
      deserializeResponseAsync [serializeResponse response] = .ok (response, rest) :=
  decodeResponse_frame exactReads_readExactAsync framed (single_chunk _)

/-- A response frame can be told apart from whatever follows it. -/
theorem serializeResponse_append_inj {first second : ProtocolResponse}
    {afterFirst afterSecond : List UInt8} (firstShort : first.body.length < 4294967296)
    (secondShort : second.body.length < 4294967296)
    (same : serializeResponse first ++ afterFirst = serializeResponse second ++ afterSecond) :
    first = second ∧ afterFirst = afterSecond := by
  rcases decodeResponse_frame exactReads_readExact firstShort (rfl : id _ = _) with
    ⟨rest, shows, decoded⟩
  rcases decodeResponse_frame exactReads_readExact secondShort same with
    ⟨other, othersShow, alsoDecoded⟩
  rw [decoded] at alsoDecoded
  cases alsoDecoded
  exact ⟨rfl, shows.symm.trans othersShow⟩

/-! ## Type strings -/

/-- Splitting succeeds exactly on strings with a colon, and the dispatch key of
the parts is the string itself. -/
theorem splitTypeStr_eq_ok_iff {typeStr nameSpace requestType : String} :
    splitTypeStr typeStr = .ok (nameSpace, requestType) ↔
      typeStr = nameSpace ++ ":" ++ requestType ∧ ':' ∉ nameSpace.toList := by
  have colon : (":" : String).toList = [':'] := rfl
  constructor
  · intro split
    cases parts : splitFirst ':' typeStr.toList with
    | none => simp only [splitTypeStr, parts] at split; cases split
    | some pair =>
        rcases pair with ⟨before, after⟩
        simp only [splitTypeStr, parts, Except.ok.injEq, Prod.mk.injEq] at split
        have ⟨whole, absent⟩ := splitFirst_eq_some parts
        rw [← split.1, ← split.2, String.toList_ofList]
        refine ⟨?_, absent⟩
        rw [← String.toList_inj, String.toList_append, String.toList_append, colon,
          String.toList_ofList, String.toList_ofList, whole, List.append_assoc]
        rfl
  · rintro ⟨whole, absent⟩
    have parts := splitFirst_append requestType.toList absent
    have shape : typeStr.toList = nameSpace.toList ++ ':' :: requestType.toList := by
      rw [whole, String.toList_append, String.toList_append, colon, List.append_assoc]
      rfl
    simp only [splitTypeStr, shape, parts, String.ofList_toList]

theorem splitTypeStr_isOk_iff {typeStr : String} :
    (∃ parts, splitTypeStr typeStr = .ok parts) ↔ ':' ∈ typeStr.toList := by
  cases parts : splitFirst ':' typeStr.toList with
  | none =>
      have absent := splitFirst_eq_none_iff.mp parts
      constructor
      · rintro ⟨pair, split⟩
        simp only [splitTypeStr, parts] at split
        cases split
      · intro present
        exact absurd present absent
  | some pair =>
      rcases pair with ⟨before, after⟩
      refine ⟨fun _ => ?_, fun _ => ⟨_, by simp only [splitTypeStr, parts]; rfl⟩⟩
      rw [(splitFirst_eq_some parts).1]
      exact List.mem_append_right _ List.mem_cons_self

end Core
end QomicexConnector
