import QomicexConnector.Core.ProtocolSerializer

namespace QomicexConnector
namespace Guest

open Library
open QomicexConnector.Core

/-!
# The connection of a guest

`TcpClient` of `guest/tcp_client.rs` against a host that answers each request frame
with one response frame, in order.  What decides the meaning of an answer is the part
of the host's byte stream that no call has read yet: a call appends the answer to its
own request there and decodes from the front.  A call that gives up waiting leaves the
rest of an answer behind, and the next call reads it.
-/

/-- A client; `stream` holds the bytes that answer the requests sent so far and that no
call has read. -/
structure TcpClient where
  stream : Option (List UInt8)
  deriving DecidableEq

/-- A freshly established connection. -/
def TcpClient.connected : TcpClient := ⟨some []⟩

def TcpClient.disconnect (_client : TcpClient) : TcpClient := ⟨none⟩

/-- One call of `send` with what happens to it: the host's answer to its request, whether
the request was written or with which error that failed, how many of the unread bytes arrive
while the call reads, and whether it was the timeout that ended an incomplete read. -/
structure SendCall where
  request : ProtocolRequest
  answer : ProtocolResponse
  written : Except String Unit
  arrived : Nat
  timedOut : Bool

/-- `send`.  A read that ends without a complete frame has taken every byte that
arrived. -/
def TcpClient.send (client : TcpClient) (call : SendCall) :
    Except ScaffoldingError ProtocolResponse × TcpClient :=
  match client.stream with
  | none => (.error (.centerConnection "未连接到联机中心"), client)
  | some unread =>
      match call.written with
      | .ok _ =>
          let pending := unread ++ serializeResponse call.answer
          match deserializeResponseAsync [pending.take call.arrived] with
          | .ok (response, rest) =>
              (.ok response, ⟨some (rest.flatten ++ pending.drop call.arrived)⟩)
          | .error error =>
              (.error (if call.timedOut then
                  .centerConnection s!"读取响应超时: {call.request.key}"
                else error),
                ⟨some (pending.drop call.arrived)⟩)
      | .error message =>
          (.error (.centerConnection s!"TCP 发送失败: {call.request.key}: {message}"), client)

/-- The client after a sequence of calls. -/
def TcpClient.afterCalls (client : TcpClient) (calls : List SendCall) : TcpClient :=
  calls.foldl (fun client call => (client.send call).2) client

/-- The answer fits its length field. -/
def SendCall.Framed (call : SendCall) : Prop := call.answer.body.length < 4294967296

/-- The call does not give up waiting: its request was never written, or its answer
arrives whole. -/
def SendCall.Answered (call : SendCall) : Prop :=
  call.written.isOk = true → (serializeResponse call.answer).length ≤ call.arrived

instance (call : SendCall) : Decidable call.Framed := inferInstanceAs (Decidable (_ < _))

instance (call : SendCall) : Decidable call.Answered := inferInstanceAs (Decidable (_ → _))

/-- A call that does not give up leaves nothing behind. -/
theorem send_answered {call : SendCall} (framed : call.Framed) (answered : call.Answered) :
    (TcpClient.connected.send call).2 = TcpClient.connected := by
  rw [TcpClient.send, TcpClient.connected]
  dsimp only
  split
  · next written =>
      have arrives := answered (by rw [written]; rfl)
      rw [List.nil_append, List.take_of_length_le arrives, List.drop_of_length_le arrives]
      rcases deserializeResponseAsync_sent call.answer framed with ⟨rest, empty, decoded⟩
      rw [decoded]
      dsimp only
      rw [empty, List.append_nil]
  · rfl

theorem afterCalls_answered {calls : List SendCall} (framed : ∀ call ∈ calls, call.Framed)
    (answered : ∀ call ∈ calls, call.Answered) :
    TcpClient.connected.afterCalls calls = TcpClient.connected := by
  induction calls with
  | nil => rfl
  | cons call later inductionHypothesis =>
      rw [TcpClient.afterCalls, List.foldl_cons,
        send_answered (framed call List.mem_cons_self) (answered call List.mem_cons_self)]
      exact inductionHypothesis (fun other listed => framed other (List.mem_cons_of_mem _ listed))
        fun other listed => answered other (List.mem_cons_of_mem _ listed)

/-- With nothing left to read, a call returns no response but its own. -/
theorem send_connected_eq_ok {call : SendCall} (framed : call.Framed)
    {response : ProtocolResponse} (ok : (TcpClient.connected.send call).1 = .ok response) :
    response = call.answer := by
  rw [TcpClient.send, TcpClient.connected] at ok
  dsimp only at ok
  split at ok
  · split at ok
    · next other rest decoded =>
        cases ok
        rcases decodeResponse_eq_ok exactReads_readExactAsync decoded with ⟨shown, short⟩
        rw [List.nil_append, List.flatten_singleton] at shown
        have whole : serializeResponse call.answer ++ [] = serializeResponse response ++
            (rest.flatten ++ (serializeResponse call.answer).drop call.arrived) := by
          rw [List.append_nil, ← List.append_assoc, ← shown, List.take_append_drop]
        exact (serializeResponse_append_inj framed short whole).1.symm
    · cases ok
  · cases ok

/-- A call before which no call on the connection has given up waiting returns `Ok` only
with the answer to its own request. -/
theorem send_answers_own {past : List SendCall} {call : SendCall}
    (framed : ∀ earlier ∈ call :: past, earlier.Framed)
    (answered : ∀ earlier ∈ past, earlier.Answered) {response : ProtocolResponse}
    (ok : ((TcpClient.connected.afterCalls past).send call).1 = .ok response) :
    response = call.answer := by
  rw [afterCalls_answered (fun earlier listed => framed earlier (List.mem_cons_of_mem _ listed))
    answered] at ok
  exact send_connected_eq_ok (framed call List.mem_cons_self) ok

/-- Two pings; the host echoes their bodies. -/
def samplePings (arrived : Nat) : SendCall × SendCall :=
  (⟨⟨"c", "ping", [1]⟩, ⟨0, [1]⟩, .ok (), arrived, true⟩,
    ⟨⟨"c", "ping", [2]⟩, ⟨0, [2]⟩, .ok (), 6, false⟩)

theorem send_answers_own_sample :
    ∃ response, ((TcpClient.connected.afterCalls [(samplePings 6).1]).send
        (samplePings 6).2).1 = .ok response ∧ response = (samplePings 6).2.answer := by
  have ok : ((TcpClient.connected.afterCalls [(samplePings 6).1]).send (samplePings 6).2).1 =
      .ok ⟨0, [2]⟩ := by
    rfl
  exact ⟨⟨0, [2]⟩, ok, send_answers_own (by decide) (by decide) ok⟩

/-- The first ping times out before its answer arrives; the second returns that answer. -/
theorem stale_answer_returned :
    ((TcpClient.connected.afterCalls [(samplePings 0).1]).send (samplePings 0).2).1 =
        .ok (samplePings 0).1.answer ∧
      (samplePings 0).1.answer ≠ (samplePings 0).2.answer := by
  refine ⟨rfl, by decide⟩

end Guest
end QomicexConnector
