import QomicexConnector.Library.ExchangeProgress
import QomicexConnector.Core.LosslessFrames
import QomicexConnector.Center.ClientConn

namespace QomicexConnector
namespace Guest

open Library
open QomicexConnector.Core
open QomicexConnector.Center

/-!
# The calls of a guest against the host

The tasks of one guest share its `TcpClient`: the heartbeat loop and every caller of
`send_raw`, `send_json` or the standard requests lock the client for the whole of
`send`.  At the other end `handle_client` serves the connection.  Both ends and the
bytes between them are an `Exchange` of the library; its service is the dispatch table of
the host under the frames of `core/protocol_serializer.rs`.
-/

section Session

variable {σ : Type}

/-- The host at the end of a connection, seen through the frames of both directions. -/
def hostService (protocols : HashMap String (ProtocolHandler σ)) :
    Service ProtocolRequest ProtocolResponse ScaffoldingError σ where
  encodeRequest := serializeRequest
  decodeRequest := deserializeRequestAsync
  encodeResponse := serializeResponse
  decodeResponse := deserializeResponseAsync
  awaits error := decodeFailure error == some .endedEarly
  serve request handlers := dispatch protocols request handlers

/-- The body of a response fits its length field. -/
def Framed (response : ProtocolResponse) : Prop := response.body.length < 4294967296

instance : DecidablePred Framed := fun _ => inferInstanceAs (Decidable (_ < _))

/-- The characters of the request are looked at, not all characters there are. -/
instance : DecidablePred Lossless := fun request =>
  decidable_of_iff (':' ∉ request.namespace.toList ∧
      (request.namespace.toList.all fun char => decide (char.val < 128)) = true ∧
      (request.requestType.toList.all fun char => decide (char.val < 128)) = true ∧
      request.namespace.length + 1 + request.requestType.length ≤ 255 ∧
      request.body.length < 4294967296) (by
    simp only [List.all_eq_true, decide_eq_true_eq]
    exact ⟨fun ⟨colon, first, second, short, body⟩ => ⟨colon, first, second, short, body⟩,
      fun lossless => ⟨lossless.no_colon, lossless.namespace_ascii, lossless.type_ascii,
        lossless.type_short, lossless.body_short⟩⟩)

/-- The refusal of a key that nobody serves is short. -/
theorem unknownProtocol_framed {request : ProtocolRequest} (lossless : Lossless request) :
    Framed (unknownProtocol request.key) := by
  have bytes := length_utf8Bytes_le ("未知协议: " ++ request.key)
  have said : ("未知协议: " : String).toList.length = 6 := rfl
  rw [String.toList_append, List.length_append, said] at bytes
  have short := lossless.key_short
  change (utf8Bytes ("未知协议: " ++ request.key)).length < 4294967296
  omega

variable (protocols : HashMap String (ProtocolHandler σ))

theorem hostService_frames : (hostService protocols).Frames Lossless Framed where
  requests := requests_selfDelimiting.mono fun _ ended => beq_iff_eq.mpr ended
  responses := responses_selfDelimiting.mono fun _ ended => beq_iff_eq.mpr ended

/-- As long as no call has failed and the host serves the connection, every call that a
task of the guest has begun can come back with its answer. -/
theorem session_completes {protocols : HashMap String (ProtocolHandler σ)} {handlers : σ}
    (framed : ∀ request handlers, Lossless request →
      Framed (dispatch protocols request handlers).1)
    {labels : List (ExchangeStep ProtocolRequest ScaffoldingError)}
    {final : Exchange ProtocolRequest ProtocolResponse ScaffoldingError σ}
    (healthy : EveryStep (exchangeStep (hostService protocols)) (Exchange.new handlers)
      (fun _ => Healthy (hostService protocols) Lossless Framed) labels)
    (reached : run (exchangeStep (hostService protocols)) (Exchange.new handlers) labels =
      some final)
    (serving : final.serving = true) :
    ∃ last, GoesOnTo (hostService protocols) final last ∧
      last.calls.length = final.calls.length ∧
      ∀ phase ∈ last.calls, ∃ request response, phase = .returned request (.ok response) :=
  runs_complete (hostService_frames protocols) framed healthy reached serving

end Session

/-! ## Two tasks -/

/-- Echoes pings and counts them. -/
def countingPing : ProtocolHandler Nat :=
  ⟨"c:ping", fun request count => (⟨0, request.body⟩, count + 1)⟩

def countingHost : HashMap String (ProtocolHandler Nat) := protocolTable [countingPing]

/-- The second of two tasks gets the lock first.  Its request arrives in two chunks, the
response in two others. -/
def overtakingCalls : List (ExchangeStep ProtocolRequest ScaffoldingError) :=
  [.call ⟨"c", "ping", [1]⟩, .call ⟨"c", "ping", [2]⟩, .acquire 1, .send 1 3, .deliver 2,
    .send 1 20, .flush 1, .deliver 20, .serve, .answer 2, .deliverAnswer 1, .answer 20,
    .deliverAnswer 20, .receive 1, .acquire 0]

theorem countingHost_framed (request : ProtocolRequest) (count : Nat)
    (lossless : Lossless request) : Framed (dispatch countingHost request count).1 := by
  rw [dispatch]
  split
  · next handler found =>
      have single : ([(countingPing.key, countingPing)].map Prod.fst).Nodup :=
        List.nodup_singleton _
      rw [countingHost, protocolTable, List.map_singleton, HashMap.lookup_collect single,
        List.mem_singleton] at found
      rw [(Prod.mk.inj found).2]
      exact lossless.body_short
  · exact unknownProtocol_framed lossless

/-- The task that still waits gets its answer, too. -/
theorem session_completes_overtaking :
    ∃ final last, run (exchangeStep (hostService countingHost)) (Exchange.new 0)
        overtakingCalls = some final ∧ GoesOnTo (hostService countingHost) final last ∧
      last.calls.length = 2 ∧
      ∀ phase ∈ last.calls, ∃ request response, phase = .returned request (.ok response) := by
  rcases Option.isSome_iff_exists.mp (by decide : (run (exchangeStep (hostService countingHost))
    (Exchange.new 0) overtakingCalls).isSome = true) with ⟨final, reached⟩
  have running : (run (exchangeStep (hostService countingHost)) (Exchange.new 0)
      overtakingCalls).map (fun state => (state.serving, state.calls.length)) =
        some (true, 2) := by decide
  rw [reached, Option.map_some, Option.some.injEq, Prod.mk.injEq] at running
  rcases session_completes countingHost_framed (by decide +kernel) reached running.1 with
    ⟨last, goes, length, all⟩
  exact ⟨final, last, reached, goes, length.trans running.2, all⟩

end Guest
end QomicexConnector
