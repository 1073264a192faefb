import QomicexConnector.Library.FramedStream
import QomicexConnector.Core.ProtocolSerializer

namespace QomicexConnector
namespace Core

open Library

/-!
# What survives the wire

The encoders of `core/protocol_serializer.rs` always produce bytes; here is said
which requests come back from them, and what a receiver makes of bytes nobody
encoded, or of a stream that breaks off.  Both decoders of the source, the one over
a whole buffer and the one over a stream, are compared by the bytes they are shown,
so the delivery in chunks never matters.
-/

/-! ## How a decoder fails -/

inductive DecodeFailure where
  | endedEarly
  | missingColon
  deriving DecidableEq, Repr

/-- The kind of an error of the decoders, read off its message. -/
def decodeFailure : ScaffoldingError → Option DecodeFailure
  | .protocol message =>
      if "流提前结束: ".toList <+: message.toList then some .endedEarly
      else if "无效的请求类型格式: ".toList <+: message.toList then some .missingColon
      else none
  | _ => none

theorem decodeFailure_endedEarly {message : String}
    (said : "流提前结束: ".toList <+: message.toList) :
    decodeFailure (.protocol message) = some .endedEarly := by
  rw [decodeFailure, if_pos said]

/-- How the text of a read that ends too early begins. -/
theorem endedEarly_prefix : "流提前结束: ".toList <+: "流提前结束: 期望读取 ".toList := by
  decide +kernel

theorem readExact_error {count : Nat} {remaining : List UInt8} {error : ScaffoldingError}
    (failed : readExact count remaining = .error error) :
    decodeFailure error = some .endedEarly := by
  rw [readExact] at failed
  split at failed
  · cases failed
  · split at failed
    · cases failed
      apply decodeFailure_endedEarly
      simp only [String.toList_append, List.append_assoc]
      exact endedEarly_prefix.trans (List.prefix_append _ _)
    · cases failed

theorem readExactAsync_error {count : Nat} {chunks : List (List UInt8)} {error : ScaffoldingError}
    (failed : readExactAsync count chunks = .error error) :
    decodeFailure error = some .endedEarly := by
  rw [readExactAsync] at failed
  split at failed
  · cases failed
  · split at failed
    · cases failed
    · cases failed
      apply decodeFailure_endedEarly
      simp only [String.toList_append, List.append_assoc]
      exact endedEarly_prefix.trans (List.prefix_append _ _)

theorem splitTypeStr_error {typeStr : String} {error : ScaffoldingError}
    (failed : splitTypeStr typeStr = .error error) :
    decodeFailure error = some .missingColon := by
  rw [splitTypeStr] at failed
  split at failed
  · cases failed
  · cases failed
    have said : "无效的请求类型格式: ".toList <+:
        (s!"无效的请求类型格式: {typeStr}" : String).toList := by
      simp only [String.toList_append]
      exact ⟨_, rfl⟩
    rw [decodeFailure, if_neg, if_pos said]
    rintro ⟨rest, other⟩
    rcases said with ⟨_, same⟩
    have heads := congrArg List.head? (other.trans same.symm)
    exact absurd heads (by simp)

/-! ## Type strings on the wire -/

/-- The host reads the type string with a question mark for every other character. -/
theorem fromUtf8Lossy_asciiBytes (text : String) :
    fromUtf8Lossy (asciiBytes text) =
      String.ofList (text.toList.map fun char => if char.val < 128 then char else '?') := by
  have bytes : asciiBytes text = (text.toList.map fun char =>
      if char.val < 128 then char else '?').map fun char => char.val.toUInt8 := by
    rw [asciiBytes, List.map_map]
    apply List.map_congr_left
    intro char _
    rw [Function.comp_apply]
    split
    · rfl
    · rfl
  rw [bytes]
  apply fromUtf8Lossy_ascii
  intro char listed
  rcases List.mem_map.mp listed with ⟨original, _, rfl⟩
  split
  · assumption
  · decide

/-- The type string survives exactly when it is ASCII. -/
theorem fromUtf8Lossy_asciiBytes_eq_iff {text : String} :
    fromUtf8Lossy (asciiBytes text) = text ↔ ∀ char ∈ text.toList, char.val < 128 := by
  rw [fromUtf8Lossy_asciiBytes, ← String.toList_inj, String.toList_ofList]
  constructor
  · intro same char listed
    have kept := List.map_inj_left.mp (same.trans (List.map_id _).symm) char listed
    by_contra wide
    rw [if_neg wide] at kept
    have question : '?' = char := kept
    rw [← question] at wide
    exact wide (by decide)
  · intro ascii
    refine (List.map_congr_left fun char listed => ?_).trans (List.map_id _)
    rw [if_pos (ascii char listed)]
    rfl

/-- A frame whose key is short is the frame the decoder looks for. -/
def requestFrame (request : ProtocolRequest) (short : request.key.toList.length ≤ 255)
    (bodyShort : request.body.length < 4294967296) : RequestFrame where
  typeBytes := asciiBytes request.key
  body := request.body
  type_short := by
    rw [asciiBytes, List.length_map]
    exact Nat.lt_succ_of_le short
  body_short := bodyShort

/-- Where a frame with a short type string was sent, the host sees that type string. -/
theorem typeBytes_of_sent {request : ProtocolRequest} {frame : RequestFrame}
    {after more : List UInt8} (shown : serializeRequest request ++ after = frame.bytes ++ more)
    (short : request.key.toList.length ≤ 255) : frame.typeBytes = asciiBytes request.key := by
  simp only [serializeRequest, RequestFrame.bytes, List.cons_append, List.cons.injEq,
    List.append_assoc] at shown
  have lengths := congrArg UInt8.toNat shown.1
  have oneByteEach : (asciiBytes request.key).length = request.key.toList.length :=
    List.length_map _
  rw [UInt8.toNat_ofNat', UInt8.toNat_ofNat', Nat.mod_eq_of_lt frame.type_short, oneByteEach,
    Nat.mod_eq_of_lt (Nat.lt_succ_of_le short)] at lengths
  exact (List.append_inj shown.2 (oneByteEach.trans lengths)).1.symm

/-- A receiver that reads the key of a frame as it was sent has been sent an ASCII key of
at most 255 characters. -/
theorem key_of_decoded {Source : Type} {view : Source → List UInt8}
    {read : Nat → Source → Except ScaffoldingError (List UInt8 × Source)}
    (exact : ExactReads view read) {request decoded : ProtocolRequest} {source rest : Source}
    {after : List UInt8} (sent : view source = serializeRequest request ++ after)
    (taken : decodeRequest read source = .ok (decoded, rest))
    (same : decoded.key = request.key) :
    (∀ char ∈ request.key.toList, char.val < 128) ∧ request.key.toList.length ≤ 255 := by
  rcases decodeRequest_eq_ok exact taken with ⟨frame, shown, split, _⟩
  have read : frame.typeStr = request.key := (splitTypeStr_eq_ok_iff.mp split).1.trans same
  rw [sent] at shown
  have short : request.key.toList.length ≤ 255 := by
    have characters : request.key.toList.length ≤ frame.typeBytes.length := by
      rw [← read, RequestFrame.typeStr, fromUtf8Lossy, String.toList_ofList]
      exact length_lossyChars_le 0 frame.typeBytes
    exact Nat.le_trans characters (Nat.le_of_lt_succ frame.type_short)
  refine ⟨fromUtf8Lossy_asciiBytes_eq_iff.mp ?_, short⟩
  rw [← typeBytes_of_sent shown short]
  exact read

/-! ## Lossless requests -/

/-- The requests a frame can carry.  The characters are ASCII, so their number is the
number of bytes. -/
structure Lossless (request : ProtocolRequest) : Prop where
  no_colon : ':' ∉ request.namespace.toList
  namespace_ascii : ∀ char ∈ request.namespace.toList, char.val < 128
  type_ascii : ∀ char ∈ request.requestType.toList, char.val < 128
  type_short : request.namespace.length + 1 + request.requestType.length ≤ 255
  body_short : request.body.length < 4294967296

theorem mem_key {request : ProtocolRequest} {char : Char} :
    char ∈ request.key.toList ↔
      char ∈ request.namespace.toList ∨ char = ':' ∨ char ∈ request.requestType.toList := by
  have colon : (":" : String).toList = [':'] := rfl
  rw [ProtocolRequest.key, String.toList_append, String.toList_append, colon, List.mem_append,
    List.mem_append, List.mem_singleton, or_assoc]

theorem length_key (request : ProtocolRequest) :
    request.key.toList.length = request.namespace.length + 1 + request.requestType.length := by
  rw [ProtocolRequest.key, String.length_toList, String.length_append, String.length_append]
  rfl

namespace Lossless

variable {request : ProtocolRequest}

theorem key_ascii (lossless : Lossless request) : ∀ char ∈ request.key.toList, char.val < 128 := by
  intro char listed
  rcases mem_key.mp listed with inNamespace | rfl | inType
  · exact lossless.namespace_ascii char inNamespace
  · decide
  · exact lossless.type_ascii char inType

theorem key_short (lossless : Lossless request) : request.key.toList.length ≤ 255 := by
  rw [length_key]
  exact lossless.type_short

/-- The frame of a lossless request. -/
def frame (lossless : Lossless request) : RequestFrame :=
  requestFrame request lossless.key_short lossless.body_short

theorem frame_bytes (lossless : Lossless request) :
    lossless.frame.bytes = serializeRequest request := rfl

theorem split_typeStr (lossless : Lossless request) :
    splitTypeStr lossless.frame.typeStr = .ok (request.namespace, request.requestType) := by
  have read : lossless.frame.typeStr = request.key :=
    fromUtf8Lossy_asciiBytes_eq_iff.mpr lossless.key_ascii
  rw [read]
  exact splitTypeStr_eq_ok_iff.mpr ⟨rfl, lossless.no_colon⟩

end Lossless

section Readers

variable {Source Other : Type} {view : Source → List UInt8} {otherView : Other → List UInt8}
  {read : Nat → Source → Except ScaffoldingError (List UInt8 × Source)}
  {otherRead : Nat → Other → Except ScaffoldingError (List UInt8 × Other)}

/-- A lossless request comes back, and exactly its frame is consumed. -/
theorem decodeRequest_lossless (exact : ExactReads view read) {request : ProtocolRequest}
    (lossless : Lossless request) {source : Source} {after : List UInt8}
    (shown : view source = serializeRequest request ++ after) :
    ∃ rest, view rest = after ∧ decodeRequest read source = .ok (request, rest) := by
  rcases decodeRequest_frame exact lossless.frame shown with ⟨rest, shows, decoded⟩
  refine ⟨rest, shows, ?_⟩
  rw [decoded, lossless.split_typeStr]
  rfl

/-- A request that comes back is lossless. -/
theorem lossless_of_decoded (exact : ExactReads view read) {request : ProtocolRequest}
    {source rest : Source} {after : List UInt8}
    (shown : view source = serializeRequest request ++ after)
    (decoded : decodeRequest read source = .ok (request, rest)) : Lossless request := by
  rcases key_of_decoded exact shown decoded rfl with ⟨ascii, short⟩
  rcases decodeRequest_eq_ok exact decoded with ⟨frame, _, split, body⟩
  refine ⟨(splitTypeStr_eq_ok_iff.mp split).2, ?_, ?_, ?_, ?_⟩
  · exact fun char listed => ascii char (mem_key.mpr (Or.inl listed))
  · exact fun char listed => ascii char (mem_key.mpr (Or.inr (Or.inr listed)))
  · rw [← length_key]
    exact short
  · rw [body]
    exact frame.body_short

/-- Without a complete response in front some read of the decoder fails. -/
theorem decodeResponse_incomplete (exact : ExactReads view read) {source : Source}
    (incomplete : ∀ (response : ProtocolResponse) after, response.body.length < 4294967296 →
      view source ≠ serializeResponse response ++ after) :
    ∃ count rest error, read count rest = .error error ∧
      decodeResponse read source = .error error := by
  cases decoded : decodeResponse read source with
  | ok output =>
      rcases decodeResponse_eq_ok exact decoded with ⟨shown, short⟩
      exact absurd shown (incomplete output.1 _ short)
  | error error =>
      simp only [decodeResponse, bind, Except.bind] at decoded
      cases readStatus : read 1 source with
      | error first =>
          rw [readStatus] at decoded
          cases decoded
          exact ⟨1, source, error, readStatus, rfl⟩
      | ok status =>
      simp only [readStatus] at decoded
      cases readField : read 4 status.2 with
      | error second =>
          rw [readField] at decoded
          cases decoded
          exact ⟨4, _, error, readField, rfl⟩
      | ok field =>
      simp only [readField] at decoded
      cases readBody : read (u32FromBeBytes field.1) field.2 with
      | error third =>
          rw [readBody] at decoded
          cases decoded
          exact ⟨_, _, error, readBody, rfl⟩
      | ok body =>
          simp only [readBody] at decoded
          cases decoded

/-! ## Two decoders on the same bytes -/

/-- Both decoders found the same message and left the same bytes, or both failed for
the same kind of reason. -/
inductive SameOutcome {Message : Type} (view : Source → List UInt8) (otherView : Other → List UInt8) :
    Except ScaffoldingError (Message × Source) → Except ScaffoldingError (Message × Other) → Prop
  | ok (message : Message) {rest : Source} {other : Other} (left : view rest = otherView other) :
      SameOutcome view otherView (.ok (message, rest)) (.ok (message, other))
  | error {error other : ScaffoldingError} (failure : DecodeFailure)
      (first : decodeFailure error = some failure) (second : decodeFailure other = some failure) :
      SameOutcome view otherView (.error error) (.error other)

variable (exact : ExactReads view read) (otherExact : ExactReads otherView otherRead)
  (ends : ∀ count source error, read count source = .error error →
    decodeFailure error = some .endedEarly)
  (otherEnds : ∀ count source error, otherRead count source = .error error →
    decodeFailure error = some .endedEarly)

include exact otherExact ends otherEnds

theorem decodeRequest_agrees {source : Source} {other : Other} (same : view source = otherView other) :
    SameOutcome view otherView (decodeRequest read source) (decodeRequest otherRead other) := by
  by_cases complete : ∃ (frame : RequestFrame) (after : List UInt8),
      view source = frame.bytes ++ after
  · rcases complete with ⟨frame, after, shown⟩
    rcases decodeRequest_frame exact frame shown with ⟨rest, shows, decoded⟩
    rcases decodeRequest_frame otherExact frame (same ▸ shown) with ⟨left, alsoShows, alsoDecoded⟩
    rw [decoded, alsoDecoded]
    cases split : splitTypeStr frame.typeStr with
    | ok key => exact .ok _ (shows.trans alsoShows.symm)
    | error error => exact .error .missingColon (splitTypeStr_error split) (splitTypeStr_error split)
  · have incomplete : ∀ (frame : RequestFrame) after, view source ≠ frame.bytes ++ after :=
      fun frame after shown => complete ⟨frame, after, shown⟩
    rcases decodeRequest_incomplete exact incomplete with ⟨_, _, error, failed, result⟩
    rcases decodeRequest_incomplete otherExact (same ▸ incomplete) with
      ⟨_, _, otherError, otherFailed, otherResult⟩
    rw [result, otherResult]
    exact .error .endedEarly (ends _ _ _ failed) (otherEnds _ _ _ otherFailed)

theorem decodeResponse_agrees {source : Source} {other : Other}
    (same : view source = otherView other) :
    SameOutcome view otherView (decodeResponse read source) (decodeResponse otherRead other) := by
  by_cases complete : ∃ (response : ProtocolResponse) (after : List UInt8),
      response.body.length < 4294967296 ∧ view source = serializeResponse response ++ after
  · rcases complete with ⟨response, after, short, shown⟩
    rcases decodeResponse_frame exact short shown with ⟨rest, shows, decoded⟩
    rcases decodeResponse_frame otherExact short (same ▸ shown) with ⟨left, alsoShows, alsoDecoded⟩
    rw [decoded, alsoDecoded]
    exact .ok _ (shows.trans alsoShows.symm)
  · have incomplete : ∀ (response : ProtocolResponse) after, response.body.length < 4294967296 →
        view source ≠ serializeResponse response ++ after :=
      fun response after short shown => complete ⟨response, after, short, shown⟩
    rcases decodeResponse_incomplete exact incomplete with ⟨_, _, error, failed, result⟩
    rcases decodeResponse_incomplete otherExact (same ▸ incomplete) with
      ⟨_, _, otherError, otherFailed, otherResult⟩
    rw [result, otherResult]
    exact .error .endedEarly (ends _ _ _ failed) (otherEnds _ _ _ otherFailed)

end Readers

/-! ## The buffer parsers and the stream decoders -/

/-- The length the fields of a request frame announce: the length byte, the type string,
the four bytes of the body's length and the body. -/
def requestFrameLength (bytes : List UInt8) : Nat :=
  let typeLen := (bytes.headD 0).toNat
  1 + typeLen + 4 + u32FromBeBytes ((bytes.drop (1 + typeLen)).take 4)

/-- The length the fields of a response frame announce. -/
def responseFrameLength (bytes : List UInt8) : Nat :=
  1 + 4 + u32FromBeBytes ((bytes.drop 1).take 4)

theorem requestFrameLength_frame (frame : RequestFrame) (after : List UInt8) :
    requestFrameLength (frame.bytes ++ after) = frame.bytes.length := by
  have typeLen : (UInt8.ofNat frame.typeBytes.length).toNat = frame.typeBytes.length := by
    rw [UInt8.toNat_ofNat']
    exact Nat.mod_eq_of_lt frame.type_short
  have field : (frame.typeBytes ++ (u32ToBeBytes frame.body.length ++ (frame.body ++ after))).drop
      frame.typeBytes.length = u32ToBeBytes frame.body.length ++ (frame.body ++ after) :=
    List.drop_left
  have length : (u32ToBeBytes frame.body.length ++ (frame.body ++ after)).take 4 =
      u32ToBeBytes frame.body.length := List.take_left' (length_u32ToBeBytes _)
  simp only [requestFrameLength, RequestFrame.bytes, List.cons_append, List.headD_cons, typeLen,
    List.append_assoc, Nat.add_comm 1, List.drop_succ_cons, field, length,
    u32FromBeBytes_u32ToBeBytes, Nat.mod_eq_of_lt frame.body_short, List.length_cons,
    List.length_append, length_u32ToBeBytes]
  omega

theorem responseFrameLength_frame {response : ProtocolResponse}
    (short : response.body.length < 4294967296) (after : List UInt8) :
    responseFrameLength (serializeResponse response ++ after) =
      (serializeResponse response).length := by
  have length : (u32ToBeBytes response.body.length ++ (response.body ++ after)).take 4 =
      u32ToBeBytes response.body.length := List.take_left' (length_u32ToBeBytes _)
  simp only [responseFrameLength, serializeResponse, List.cons_append, List.append_assoc,
    List.drop_succ_cons, List.drop_zero, length, u32FromBeBytes_u32ToBeBytes,
    Nat.mod_eq_of_lt short, List.length_cons, List.length_append, length_u32ToBeBytes]
  omega

/-- The stream decoder accepts what the buffer parser accepts, fails for the same kind of
reason, and takes exactly one frame off the stream. -/
structure DecodersAgree {Message : Type} (parse : List UInt8 → Except ScaffoldingError Message)
    (deserialize : List (List UInt8) → Except ScaffoldingError (Message × List (List UInt8)))
    (frameLength : List UInt8 → Nat) (chunks : List (List UInt8)) : Prop where
  accepts : ∀ message,
    (∃ rest, deserialize chunks = .ok (message, rest)) ↔ parse chunks.flatten = .ok message
  fails : ∀ error, deserialize chunks = .error error →
    ∃ other failure, parse chunks.flatten = .error other ∧
      decodeFailure error = some failure ∧ decodeFailure other = some failure
  consumes : ∀ message rest, deserialize chunks = .ok (message, rest) →
    frameLength chunks.flatten ≤ chunks.flatten.length ∧
      rest.flatten = chunks.flatten.drop (frameLength chunks.flatten)

namespace SameOutcome

variable {Message : Type} {outcome : Except ScaffoldingError (Message × List (List UInt8))}
  {parsed : Except ScaffoldingError (Message × List UInt8)}

theorem accepts (same : SameOutcome List.flatten id outcome parsed) (message : Message) :
    (∃ rest, outcome = .ok (message, rest)) ↔ parsed.map Prod.fst = .ok message := by
  cases same with
  | @ok found rest other left =>
      constructor
      · rintro ⟨_, decoded⟩
        cases decoded
        rfl
      · intro decoded
        cases decoded
        exact ⟨rest, rfl⟩
  | error failure first second =>
      constructor
      · rintro ⟨_, decoded⟩
        cases decoded
      · intro decoded
        cases decoded

theorem fails (same : SameOutcome List.flatten id outcome parsed) {error : ScaffoldingError}
    (failed : outcome = .error error) :
    ∃ other failure, parsed.map Prod.fst = .error other ∧
      decodeFailure error = some failure ∧ decodeFailure other = some failure := by
  cases same with
  | ok message left => cases failed
  | @error _ other failure first second =>
      cases failed
      exact ⟨other, failure, rfl, first, second⟩

end SameOutcome

/-- Whatever the bytes are and however they arrive, each stream decoder agrees with the
parser of a complete buffer. -/
theorem decoders_agree (chunks : List (List UInt8)) :
    DecodersAgree parseRequest deserializeRequestAsync requestFrameLength chunks ∧
      DecodersAgree parseResponse deserializeResponseAsync responseFrameLength chunks := by
  have requests : SameOutcome List.flatten id (deserializeRequestAsync chunks)
      (decodeRequest readExact chunks.flatten) :=
    decodeRequest_agrees exactReads_readExactAsync exactReads_readExact
      (fun _ _ _ => readExactAsync_error) (fun _ _ _ => readExact_error) rfl
  have responses : SameOutcome List.flatten id (deserializeResponseAsync chunks)
      (decodeResponse readExact chunks.flatten) :=
    decodeResponse_agrees exactReads_readExactAsync exactReads_readExact
      (fun _ _ _ => readExactAsync_error) (fun _ _ _ => readExact_error) rfl
  constructor
  · refine ⟨requests.accepts, fun error => requests.fails, ?_⟩
    intro request rest decoded
    rcases decodeRequest_eq_ok exactReads_readExactAsync decoded with ⟨frame, shown, _, _⟩
    rw [shown, requestFrameLength_frame, List.length_append]
    exact ⟨Nat.le_add_right _ _, List.drop_left.symm⟩
  · refine ⟨responses.accepts, fun error => responses.fails, ?_⟩
    intro response rest decoded
    rcases decodeResponse_eq_ok exactReads_readExactAsync decoded with ⟨shown, short⟩
    rw [shown, responseFrameLength_frame short, List.length_append]
    exact ⟨Nat.le_add_right _ _, List.drop_left.symm⟩

/-! ## The exact domain of the request frame -/

/-- ASCII bytes are the bytes of the text they decode to. -/
theorem asciiBytes_fromUtf8Lossy {bytes : List UInt8} (ascii : ∀ byte ∈ bytes, byte < 128) :
    asciiBytes (fromUtf8Lossy bytes) = bytes := by
  have below : ∀ byte ∈ bytes, (Char.ofNat byte.toNat).val = byte.toUInt32 := by
    intro byte listed
    have small : byte.toNat < 128 := UInt8.lt_iff_toNat_lt.mp (ascii byte listed)
    have valid : byte.toNat.isValidChar := Or.inl (by omega)
    rw [Char.ofNat, dif_pos valid]
    rfl
  have decoded : fromUtf8Lossy bytes =
      String.ofList (bytes.map fun byte => Char.ofNat byte.toNat) := by
    rw [← fromUtf8Lossy_ascii, List.map_map]
    · congr 1
      refine ((List.map_congr_left fun byte listed => ?_).trans (List.map_id _)).symm
      rw [Function.comp_apply, below byte listed]
      exact UInt8.toUInt8_toUInt32 byte
    · intro char listed
      rcases List.mem_map.mp listed with ⟨byte, member, rfl⟩
      rw [below byte member]
      exact ascii byte member
  rw [decoded, asciiBytes, String.toList_ofList, List.map_map]
  refine (List.map_congr_left fun byte listed => ?_).trans (List.map_id _)
  have small : byte.toUInt32 < 128 := ascii byte listed
  rw [Function.comp_apply, below byte listed, if_pos small]
  exact UInt8.toUInt8_toUInt32 byte

theorem parseRequest_eq_ok_iff {bytes : List UInt8} {request : ProtocolRequest} :
    parseRequest bytes = .ok request ↔
      ∃ rest, decodeRequest readExact bytes = .ok (request, rest) := by
  rw [parseRequest]
  cases decodeRequest readExact bytes with
  | error error => simp [Except.map]
  | ok output => simp [Except.map, Prod.ext_iff]

/-- A request comes back from its frame exactly when it is lossless, and a frame with an
ASCII type string is the frame of the request it is parsed to. -/
theorem request_frame_lossless :
    (∀ request, parseRequest (serializeRequest request) = .ok request ↔ Lossless request) ∧
      ∀ bytes request, parseRequest bytes = .ok request →
        (∀ byte ∈ (bytes.drop 1).take (bytes.headD 0).toNat, byte < 128) →
        requestFrameLength bytes ≤ bytes.length ∧
          serializeRequest request = bytes.take (requestFrameLength bytes) := by
  constructor
  · intro request
    have shown : id (serializeRequest request) = serializeRequest request ++ [] :=
      (List.append_nil _).symm
    rw [parseRequest_eq_ok_iff]
    constructor
    · rintro ⟨rest, decoded⟩
      exact lossless_of_decoded exactReads_readExact shown decoded
    · intro lossless
      rcases decodeRequest_lossless exactReads_readExact lossless shown with ⟨rest, _, decoded⟩
      exact ⟨rest, decoded⟩
  · intro bytes request parsed ascii
    rcases parseRequest_eq_ok_iff.mp parsed with ⟨rest, decoded⟩
    rcases decodeRequest_eq_ok exactReads_readExact decoded with ⟨frame, shown, split, body⟩
    have framed : bytes = frame.bytes ++ rest := shown
    have typeLen : (bytes.headD 0).toNat = frame.typeBytes.length := by
      rw [framed, RequestFrame.bytes, List.cons_append, List.headD_cons, UInt8.toNat_ofNat']
      exact Nat.mod_eq_of_lt frame.type_short
    have typeBytes : (bytes.drop 1).take (bytes.headD 0).toNat = frame.typeBytes := by
      rw [typeLen, framed, RequestFrame.bytes, List.cons_append, List.drop_succ_cons,
        List.drop_zero, List.append_assoc]
      exact List.take_left
    rw [typeBytes] at ascii
    have key : asciiBytes request.key = frame.typeBytes := by
      rw [← asciiBytes_fromUtf8Lossy ascii]
      exact congrArg asciiBytes (splitTypeStr_eq_ok_iff.mp split).1.symm
    have whole : serializeRequest request = frame.bytes := by
      rw [serializeRequest, RequestFrame.bytes, key, body]
    rw [framed, requestFrameLength_frame, List.length_append, whole]
    exact ⟨Nat.le_add_right _ _, List.take_left.symm⟩

/-! ## Streams that break off -/

/-- Every decoded request takes a frame off the stream. -/
theorem deserializeRequestAsync_shrinks (chunks : List (List UInt8)) (request : ProtocolRequest)
    (rest : List (List UInt8)) (decoded : deserializeRequestAsync chunks = .ok (request, rest)) :
    rest.flatten.length < chunks.flatten.length := by
  rcases decodeRequest_eq_ok exactReads_readExactAsync decoded with ⟨frame, shown, _, _⟩
  rw [shown, List.length_append]
  exact Nat.lt_add_of_pos_left (List.length_pos_iff.mpr frame.bytes_ne_nil)

theorem deserializeResponseAsync_shrinks (chunks : List (List UInt8)) (response : ProtocolResponse)
    (rest : List (List UInt8)) (decoded : deserializeResponseAsync chunks = .ok (response, rest)) :
    rest.flatten.length < chunks.flatten.length := by
  rcases decodeResponse_eq_ok exactReads_readExactAsync decoded with ⟨shown, _⟩
  rw [shown, List.length_append]
  exact Nat.lt_add_of_pos_left (Nat.succ_pos _)

/-- The requests a stream yields until the decoder fails, and its error. -/
def deserializeRequests (chunks : List (List UInt8)) : List ProtocolRequest × ScaffoldingError :=
  decodeUntilError deserializeRequestAsync (fun chunks => chunks.flatten.length)
    deserializeRequestAsync_shrinks chunks

/-- The responses a stream yields until the decoder fails, and its error. -/
def deserializeResponses (chunks : List (List UInt8)) : List ProtocolResponse × ScaffoldingError :=
  decodeUntilError deserializeResponseAsync (fun chunks => chunks.flatten.length)
    deserializeResponseAsync_shrinks chunks

theorem requests_selfDelimiting :
    SelfDelimiting List.flatten deserializeRequestAsync serializeRequest Lossless
      fun error => decodeFailure error = some .endedEarly where
  whole request lossless chunks after shown :=
    decodeRequest_lossless exactReads_readExactAsync lossless shown
  broken request lossless chunks missing nonempty shown := by
    have incomplete : ∀ (frame : RequestFrame) after, chunks.flatten ≠ frame.bytes ++ after := by
      intro frame after present
      rw [present, List.append_assoc, ← lossless.frame_bytes,
        ← List.append_nil lossless.frame.bytes] at shown
      exact nonempty (List.append_eq_nil_iff.mp (RequestFrame.bytes_append_inj shown).2).2
    rcases decodeRequest_incomplete exactReads_readExactAsync incomplete with
      ⟨_, _, error, failed, result⟩
    exact ⟨error, result, readExactAsync_error failed⟩
  silent chunks empty := by
    have incomplete : ∀ (frame : RequestFrame) after, chunks.flatten ≠ frame.bytes ++ after := by
      intro frame after present
      rw [empty] at present
      exact frame.bytes_ne_nil (List.append_eq_nil_iff.mp present.symm).1
    rcases decodeRequest_incomplete exactReads_readExactAsync incomplete with
      ⟨_, _, error, failed, result⟩
    exact ⟨error, result, readExactAsync_error failed⟩

theorem responses_selfDelimiting :
    SelfDelimiting List.flatten deserializeResponseAsync serializeResponse
      (fun response => response.body.length < 4294967296)
      fun error => decodeFailure error = some .endedEarly where
  whole response short chunks after shown :=
    decodeResponse_frame exactReads_readExactAsync short shown
  broken response short chunks missing nonempty shown := by
    have incomplete : ∀ (other : ProtocolResponse) after, other.body.length < 4294967296 →
        chunks.flatten ≠ serializeResponse other ++ after := by
      intro other after otherShort present
      rw [present, List.append_assoc, ← List.append_nil (serializeResponse response)] at shown
      have tails := (serializeResponse_append_inj otherShort short shown).2
      exact nonempty (List.append_eq_nil_iff.mp tails).2
    rcases decodeResponse_incomplete exactReads_readExactAsync incomplete with
      ⟨_, _, error, failed, result⟩
    exact ⟨error, result, readExactAsync_error failed⟩
  silent chunks empty := by
    have incomplete : ∀ (other : ProtocolResponse) after, other.body.length < 4294967296 →
        chunks.flatten ≠ serializeResponse other ++ after := by
      intro other after _ present
      rw [empty] at present
      exact List.cons_ne_nil _ _ (List.append_eq_nil_iff.mp present.symm).1
    rcases decodeResponse_incomplete exactReads_readExactAsync incomplete with
      ⟨_, _, error, failed, result⟩
    exact ⟨error, result, readExactAsync_error failed⟩

/-- The messages whose frames end within the first `cut` bytes come out, in order, and
then the end of the stream is noticed. -/
def YieldsComplete {Message : Type} (encode : Message → List UInt8) (messages : List Message)
    (cut : Nat) (outcome : List Message × ScaffoldingError) : Prop :=
  ∃ count error, outcome = (messages.take count, error) ∧
    decodeFailure error = some .endedEarly ∧
    ∀ index < messages.length, index < count ↔ frameEnd encode messages index ≤ cut

/-- Wherever a stream of lossless frames is cut, and however its bytes arrive, the
receiver gets the messages that are complete and no others. -/
theorem cut_stream_yields_complete {requests : List ProtocolRequest}
    {responses : List ProtocolResponse} (lossless : ∀ request ∈ requests, Lossless request)
    (framed : ∀ response ∈ responses, response.body.length < 4294967296) (cut : Nat)
    (chunks : List (List UInt8)) :
    (chunks.flatten = (requests.flatMap serializeRequest).take cut →
        YieldsComplete serializeRequest requests cut (deserializeRequests chunks)) ∧
      (chunks.flatten = (responses.flatMap serializeResponse).take cut →
        YieldsComplete serializeResponse responses cut (deserializeResponses chunks)) := by
  constructor
  · intro shown
    exact requests_selfDelimiting.decodes_cut lossless shown
  · intro shown
    exact responses_selfDelimiting.decodes_cut framed shown

/-- Two pings of a guest. -/
def sampleRequests : List ProtocolRequest := [⟨"c", "ping", [1]⟩, ⟨"c", "ping", [2]⟩]

def sampleResponses : List ProtocolResponse := [⟨0, [1]⟩, ⟨0, []⟩]

/-- The first ping and the first answer are complete, the second ones are cut off. -/
theorem cut_stream_yields_complete_sample :
    YieldsComplete serializeRequest sampleRequests 16
        (deserializeRequests [(sampleRequests.flatMap serializeRequest).take 16]) ∧
      YieldsComplete serializeResponse sampleResponses 10
        (deserializeResponses [(sampleResponses.flatMap serializeResponse).take 10]) := by
  have lossless : ∀ request ∈ sampleRequests, Lossless request := by
    intro request listed
    rcases List.mem_pair.mp listed with rfl | rfl
    all_goals exact ⟨by decide, by simp, by simp, by decide, by decide⟩
  have framed : ∀ response ∈ sampleResponses, response.body.length < 4294967296 := by decide
  exact ⟨(cut_stream_yields_complete lossless framed 16 _).1 List.flatten_singleton,
    (cut_stream_yields_complete lossless framed 10 _).2 List.flatten_singleton⟩

end Core
end QomicexConnector
