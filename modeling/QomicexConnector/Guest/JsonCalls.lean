import QomicexConnector.Guest.HostSession
import QomicexConnector.Guest.Negotiation

namespace QomicexConnector
namespace Guest

open Library
open QomicexConnector.Core
open QomicexConnector.Center

/-!
# Custom protocols as remote functions

A host offers a function with one of the constructors of `DelegateProtocol`, and the tasks of a
guest call it with `send_json` and `send_json_req`.  Argument and value cross the connection as
JSON, which each end prints and parses with its own types; the codecs are parameters.
Between them lie the frames, the lock on the connection and the dispatch table.
-/

/-- A function that a host offers: on bytes (`new_raw`), without an argument (`new_json`), or
with one (`new_json_req`). -/
inductive Delegate (σ Argument Result : Type) where
  | newRaw (handler : List UInt8 → σ → List UInt8 × σ)
  | newJson (toVec : Result → Except String (List UInt8)) (handler : σ → Result × σ)
  | newJsonReq (fromSlice : List UInt8 → Except String Argument)
      (toVec : Result → Except String (List UInt8)) (handler : Argument → σ → Result × σ)

/-- What the guest reports for a status other than 0. -/
def statusError (key : String) (status : UInt8) : ScaffoldingError :=
  .protocol s!"协议 {key} 返回错误状态: {status}"

namespace Delegate

variable {σ Argument Result Value : Type} [Inhabited Argument]

/-- The handler that the host registers. -/
def protocol (key : String) : Delegate σ Argument Result → ProtocolHandler σ
  | newRaw handler => delegateRaw key handler
  | newJson toVec handler => delegateJson key toVec handler
  | newJsonReq fromSlice toVec handler => delegateJsonReq key fromSlice toVec handler

/-- The function on the body of a request: its value as it is printed, or why there is none.
Without an argument nothing is done; where only the value cannot be printed, the function has
been applied. -/
def apply (body : List UInt8) (state : σ) :
    Delegate σ Argument Result → Except String (List UInt8) × σ
  | newRaw handler =>
      let (printed, state) := handler body state
      (.ok printed, state)
  | newJson toVec handler =>
      let (result, state) := handler state
      (toVec result, state)
  | newJsonReq fromSlice toVec handler =>
      match jsonArgument fromSlice body with
      | .ok argument =>
          let (result, state) := handler argument state
          (toVec result, state)
      | .error message => (.error message, state)

/-- The call without a connection: what is printed there is parsed here.  The guest does not
learn why there is nothing to parse. -/
def call (delegate : Delegate σ Argument Result) (key : String)
    (read : List UInt8 → Except String Value) (body : List UInt8) (state : σ) :
    Except ScaffoldingError Value × σ :=
  match delegate.apply body state with
  | (.ok printed, state) => ((read printed).mapError ScaffoldingError.protocol, state)
  | (.error _, state) => (.error (statusError key 255), state)

end Delegate

/-- A call by a task of the guest. -/
inductive JsonCall (TReq : Type) where
  | sendJson
  | sendJsonReq (toVec : TReq → Except String (List UInt8)) (payload : TReq)

namespace JsonCall

variable {TReq Value : Type}

/-- The body of its request, if the payload can be printed. -/
def payload : JsonCall TReq → Except String (List UInt8)
  | sendJson => .ok []
  | sendJsonReq toVec payload => toVec payload

/-- What the task gets, when its request is sent like this. -/
def result (send : ProtocolRequest → Except ScaffoldingError ProtocolResponse)
    (read : List UInt8 → Except String Value) (negotiated : List String) (key : String) :
    JsonCall TReq → Except ScaffoldingError Value
  | sendJson => Guest.sendJson send read negotiated key
  | sendJsonReq toVec payload => Guest.sendJsonReq send read negotiated key toVec payload

end JsonCall

/-! ## One call -/

section Answers

variable {Value : Type} (read : List UInt8 → Except String Value) (key : String)

variable {σ Argument Result : Type} [Inhabited Argument]

end Answers

/-! ## The calls of all tasks -/

section Session

variable {σ Argument Result Value TReq : Type} [Inhabited Argument]
  (config : HandlerConfig σ) {custom : List (ProtocolHandler σ)} {accepted : List String}

end Session

/-! ## A running total -/

/-- What one call does when it has the connection for itself. -/
def wholeCall (i : Nat) : List (ExchangeStep ProtocolRequest ScaffoldingError) :=
  [.acquire i, .send i 100, .flush i, .deliver 100, .serve, .answer 100, .deliverAnswer 100,
    .receive i]

end Guest
end QomicexConnector
