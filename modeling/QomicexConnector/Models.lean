import QomicexConnector.Library.Text

namespace QomicexConnector

/-!
# Data shared by host and guest

The records of `models/`, the error type of `error.rs` and the JSON values the
host reads.  JSON text itself is read by an external parser, which the modules
below take as a parameter `fromSlice`.
-/

abbrev Instant := Nat

/-- Durations are counted in nanoseconds, the resolution of `Duration`. -/
def secs (seconds : Nat) : Nat := seconds * 1000000000

/-- The errors of `error.rs`; each carries the message it displays. -/
inductive ScaffoldingError where
  | roomCodeInvalid (message : String)
  | easyTierStart (message : String)
  | easyTierTimeout (message : String)
  | centerNotFound (message : String)
  | centerConnection (message : String)
  | protocol (message : String)
  | protocolNotNegotiated (message : String)
  | heartbeatTimeout (message : String)
  deriving DecidableEq, Repr

/-- A request frame. -/
structure ProtocolRequest where
  «namespace» : String
  requestType : String
  body : List UInt8
  deriving DecidableEq, Repr

/-- A response frame; status 0 is success. -/
structure ProtocolResponse where
  status : UInt8
  body : List UInt8
  deriving DecidableEq, Repr

def ProtocolResponse.isSuccess (response : ProtocolResponse) : Bool := response.status == 0

/-- The key a request is dispatched under, `{namespace}:{request_type}`. -/
def ProtocolRequest.key (request : ProtocolRequest) : String :=
  request.namespace ++ ":" ++ request.requestType

inductive PlayerKind where
  | host
  | guest
  deriving DecidableEq, Repr

/-- One entry of the host's player list. -/
structure PlayerInfo where
  name : String
  machineId : String
  easytierId : Option String
  vendor : String
  kind : PlayerKind
  deriving DecidableEq, Repr

/-! ## JSON values -/

/-- A JSON number as `serde_json` stores it.  Of a floating-point number only
its printed form is kept, since nothing here computes with one. -/
inductive JsonNumber where
  | posInt (value : Nat)
  | negInt (value : Int)
  | float (display : String)

/-- A parsed JSON value; an object lists its members. -/
inductive Json where
  | null
  | bool (value : Bool)
  | number (value : JsonNumber)
  | string (value : String)
  | array (items : List Json)
  | object (members : List (String × Json))

/-- `Value::get` with a string key: only an object has members. -/
def Json.get (key : String) : Json → Option Json
  | .object members => members.lookup key
  | _ => none

/-- The printed form of a number, whichever of the three accessors applies. -/
def JsonNumber.display : JsonNumber → String
  | .posInt value => toString value
  | .negInt value => toString value
  | .float display => display

/-- `value_to_string`: strings as they are, numbers printed, nothing else. -/
def valueToString : Json → Option String
  | .string value => some value
  | .number value => some value.display
  | _ => none

end QomicexConnector
