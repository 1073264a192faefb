import QomicexConnector.Center.Protocols

namespace QomicexConnector
namespace Center

open Library
open QomicexConnector.Core

/-!
# The registry of connections and one connection served to its end

`ClientRegistry` is the record of `center/client_conn.rs`: four maps under four
locks.  `handleClient` follows one connection through `handle_client` when
nobody cancels it and every write succeeds; the interleaved execution, with
cancellation and failures, is the subject of `Center.HostServer`, which is built
from the same registry operations and the same dispatch.

The main result describes the whole connection as a transducer of frames.  The
byte stream is cut into the longest sequence of complete, well-formed frames at
its front; the connection answers those, in order, and nothing else.
-/

/-- The four maps of `ClientRegistry`; a connection token is named by a `Token`. -/
structure ClientRegistry (Token : Type) where
  lastHeartbeat : HashMap String Instant
  activeClients : HashMap String Token
  clientMachine : HashMap String String
  clientIp : HashMap String String

namespace ClientRegistry

variable {Token : Type}

def new : ClientRegistry Token := ⟨∅, ∅, ∅, ∅⟩

def insertActive (registry : ClientRegistry Token) (clientId : String) (token : Token) :
    ClientRegistry Token :=
  { registry with activeClients := registry.activeClients.insert clientId token }

def insertIp (registry : ClientRegistry Token) (clientId clientIp : String) :
    ClientRegistry Token :=
  { registry with clientIp := registry.clientIp.insert clientId clientIp }

def insertHeartbeat (registry : ClientRegistry Token) (clientId : String) (now : Instant) :
    ClientRegistry Token :=
  { registry with lastHeartbeat := registry.lastHeartbeat.insert clientId now }

def insertMachine (registry : ClientRegistry Token) (clientId machineId : String) :
    ClientRegistry Token :=
  { registry with clientMachine := registry.clientMachine.insert clientId machineId }

def removeActive (registry : ClientRegistry Token) (clientId : String) : ClientRegistry Token :=
  { registry with activeClients := registry.activeClients.erase clientId }

def removeHeartbeat (registry : ClientRegistry Token) (clientId : String) :
    ClientRegistry Token :=
  { registry with lastHeartbeat := registry.lastHeartbeat.erase clientId }

def removeIp (registry : ClientRegistry Token) (clientId : String) : ClientRegistry Token :=
  { registry with clientIp := registry.clientIp.erase clientId }

def removeMachine (registry : ClientRegistry Token) (clientId : String) :
    ClientRegistry Token :=
  { registry with clientMachine := registry.clientMachine.erase clientId }

/-- `disconnect_machine`: the token it cancels, if it finds one, and the registry
it leaves.  `order` is the order in which `client_machine` is iterated. -/
def disconnectMachine (registry : ClientRegistry Token) (order : List (String × String))
    (machineId : String) : Option Token × ClientRegistry Token :=
  match order.find? fun entry => entry.2 == machineId with
  | none => (none, registry)
  | some (clientId, _) =>
      (registry.activeClients.lookup clientId, registry.removeActive clientId)

/-- `machine_source_ip`, for the same kind of iteration order. -/
def machineSourceIp (registry : ClientRegistry Token) (order : List (String × String))
    (machineId : String) : Option String :=
  match order.find? fun entry => entry.2 == machineId with
  | none => none
  | some (clientId, _) => registry.clientIp.lookup clientId

end ClientRegistry

/-- The machine id `handle_client` records from a ping body: the member
`machine_id`, empty when it is neither a string nor a number.  A body without the
member, or one that is not JSON, records nothing. -/
def recordedMachineId (fromSlice : List UInt8 → Except String Json) (body : List UInt8) :
    Option String :=
  match fromSlice body with
  | .ok root => (root.get "machine_id").map fun value => (valueToString value).getD ""
  | .error _ => none

/-- The handler enlists a recorded machine id under the same name. -/
theorem parsePlayerInfo_of_recorded {fromSlice : List UInt8 → Except String Json}
    {body : List UInt8} {machineId : String}
    (recorded : recordedMachineId fromSlice body = some machineId) :
    ∃ info, parsePlayerInfo fromSlice body = .ok info ∧ info.machineId = machineId := by
  rw [recordedMachineId] at recorded
  rw [parsePlayerInfo]
  cases parsed : fromSlice body with
  | error message =>
      rw [parsed] at recorded
      cases recorded
  | ok root =>
      rw [parsed] at recorded
      rcases Option.map_eq_some_iff.mp recorded with ⟨value, found, rfl⟩
      refine ⟨_, rfl, ?_⟩
      simp only [found, Option.bind_some]

/-- The bookkeeping after an answered ping: stamp the heartbeat, then record the
machine id if the body has one. -/
def recordPing {Token : Type} (fromSlice : List UInt8 → Except String Json) (clientId : String)
    (registry : ClientRegistry Token) (now : Instant) (body : List UInt8) :
    ClientRegistry Token :=
  let stamped := registry.insertHeartbeat clientId now
  match recordedMachineId fromSlice body with
  | some machineId => stamped.insertMachine clientId machineId
  | none => stamped

/-! ## One connection, served alone -/

/-- What one connection has changed so far. -/
structure Serving (Token σ : Type) where
  written : List UInt8
  registry : ClientRegistry Token
  handlers : σ
  served : Nat

/-- The fixed surroundings of a connection.  `clock` gives the time at which the
heartbeat of each request would be stamped. -/
structure ConnectionConfig (σ : Type) where
  fromSlice : List UInt8 → Except String Json
  protocols : HashMap String (ProtocolHandler σ)
  clientId : String
  clientIp : String
  clock : Nat → Instant

section HandleClient

variable {Token σ : Type} (config : ConnectionConfig σ)

/-- The body of the `read` arm after a request was decoded. -/
def processRequest (serving : Serving Token σ) (request : ProtocolRequest) : Serving Token σ :=
  let (response, handlers) := dispatch config.protocols request serving.handlers
  { written := serving.written ++ serializeResponse response
    registry :=
      if request.key = "c:player_ping" ∧ response.isSuccess then
        recordPing config.fromSlice config.clientId serving.registry
          (config.clock serving.served) request.body
      else serving.registry
    handlers := handlers
    served := serving.served + 1 }

/-- The select loop when neither token is cancelled and every write succeeds: it
ends with the first error of the decoder. -/
def serveLoop (chunks : List (List UInt8)) (serving : Serving Token σ) :
    Serving Token σ × ScaffoldingError :=
  match _decoded : deserializeRequestAsync chunks with
  | .error error => (serving, error)
  | .ok (request, rest) => serveLoop rest (processRequest config serving request)
termination_by chunks.flatten.length
decreasing_by
  rcases decodeRequest_eq_ok exactReads_readExactAsync _decoded with ⟨frame, shown, _⟩
  rw [shown, List.length_append]
  exact Nat.lt_add_of_pos_left (List.length_pos_iff.mpr frame.bytes_ne_nil)

/-- Everything `handle_client` leaves behind. -/
structure Finished (Token σ : Type) where
  written : List UInt8
  beforeCleanup : ClientRegistry Token
  registry : ClientRegistry Token
  handlers : σ
  error : ScaffoldingError
  notified : String

/-- `handle_client`, from the registration of the connection to the disconnect
message. -/
def handleClient (connCt : Token) (registry : ClientRegistry Token) (handlers : σ)
    (chunks : List (List UInt8)) : Finished Token σ :=
  let registered :=
    (registry.insertActive config.clientId connCt).insertIp config.clientId config.clientIp
  let (serving, error) := serveLoop config chunks ⟨[], registered, handlers, 0⟩
  let cleared := ((serving.registry.removeActive config.clientId).removeHeartbeat
    config.clientId).removeIp config.clientId
  { written := serving.written
    beforeCleanup := serving.registry
    registry := cleared.removeMachine config.clientId
    handlers := serving.handlers
    error := error
    notified := (cleared.clientMachine.lookup config.clientId).getD "" }

end HandleClient

/-! ## The frames at the front of a stream -/

/-- `frames` is the maximal sequence of well-formed frames at the front of
`bytes`, and `rest` is what follows it. -/
structure FrontFrames (bytes : List UInt8) (frames : List RequestFrame) (rest : List UInt8) :
    Prop where
  split : bytes = frames.flatMap RequestFrame.bytes ++ rest
  wellFormed : ∀ frame ∈ frames, frame.WellFormed
  maximal : ∀ (frame : RequestFrame) after, frame.WellFormed → rest ≠ frame.bytes ++ after

namespace FrontFrames

/-- There is only one way to cut a stream into front frames. -/
theorem unique {bytes rest other : List UInt8} {frames others : List RequestFrame}
    (first : FrontFrames bytes frames rest) (second : FrontFrames bytes others other) :
    frames = others ∧ rest = other := by
  induction frames generalizing bytes others with
  | nil =>
      cases others with
      | nil => exact ⟨rfl, first.split.symm.trans second.split⟩
      | cons frame later =>
          refine absurd ?_ (first.maximal frame (later.flatMap RequestFrame.bytes ++ other)
            (second.wellFormed frame List.mem_cons_self))
          have same := first.split.symm.trans second.split
          rwa [List.flatMap_nil, List.nil_append, List.flatMap_cons, List.append_assoc] at same
  | cons frame later inductionHypothesis =>
      cases others with
      | nil =>
          refine absurd ?_ (second.maximal frame (later.flatMap RequestFrame.bytes ++ rest)
            (first.wellFormed frame List.mem_cons_self))
          have same := second.split.symm.trans first.split
          rwa [List.flatMap_nil, List.nil_append, List.flatMap_cons, List.append_assoc] at same
      | cons frame' later' =>
          have same := first.split.symm.trans second.split
          rw [List.flatMap_cons, List.flatMap_cons, List.append_assoc, List.append_assoc] at same
          have ⟨head, tail⟩ := RequestFrame.bytes_append_inj same
          have ⟨frames, rests⟩ := inductionHypothesis
            ⟨rfl, fun frame listed => first.wellFormed frame (List.mem_cons_of_mem _ listed),
              first.maximal⟩
            ⟨tail, fun frame listed => second.wellFormed frame (List.mem_cons_of_mem _ listed),
              second.maximal⟩
          exact ⟨by rw [head, frames], rests⟩

theorem cons {bytes rest : List UInt8} {frames : List RequestFrame} {frame : RequestFrame}
    (wellFormed : frame.WellFormed) (front : FrontFrames bytes frames rest) :
    FrontFrames (frame.bytes ++ bytes) (frame :: frames) rest where
  split := by rw [front.split, List.flatMap_cons, List.append_assoc]
  wellFormed := by
    intro other listed
    rcases List.mem_cons.mp listed with same | later
    · exact same ▸ wellFormed
    · exact front.wellFormed other later
  maximal := front.maximal

end FrontFrames

/-! ## The frames as a sequence of calls -/

section Transducer

variable {Token σ : Type} (config : ConnectionConfig σ)

/-- The request a frame carries: its type string cut at the first colon. -/
def frameRequest (frame : RequestFrame) : ProtocolRequest :=
  match splitTypeStr frame.typeStr with
  | .ok (nameSpace, requestType) => ⟨nameSpace, requestType, frame.body⟩
  | .error _ => ⟨"", "", frame.body⟩

/-- The answer of the handler registered under exactly the frame's type string. -/
def answer (frame : RequestFrame) (handlers : σ) : ProtocolResponse × σ :=
  match config.protocols.lookup frame.typeStr with
  | some handler => handler.handle (frameRequest frame) handlers
  | none => (unknownProtocol frame.typeStr, handlers)

/-- The answers to a sequence of frames, the handlers being called in order. -/
def answers : List RequestFrame → σ → List ProtocolResponse × σ
  | [], handlers => ([], handlers)
  | frame :: later, handlers =>
      let first := answer config frame handlers
      let others := answers later first.2
      (first.1 :: others.1, others.2)

/-- The pings among the answered frames that were answered with status 0, each
with the time of its heartbeat; `served` counts the frames before. -/
def acceptedPings : Nat → List (RequestFrame × ProtocolResponse) → List (Instant × List UInt8)
  | _, [] => []
  | served, (frame, response) :: later =>
      if frame.typeStr = "c:player_ping" ∧ response.isSuccess then
        (config.clock served, frame.body) :: acceptedPings (served + 1) later
      else acceptedPings (served + 1) later

theorem wellFormed_split {frame : RequestFrame} (wellFormed : frame.WellFormed) :
    ∃ nameSpace requestType, splitTypeStr frame.typeStr = .ok (nameSpace, requestType) ∧
      frameRequest frame = ⟨nameSpace, requestType, frame.body⟩ ∧
      (frameRequest frame).key = frame.typeStr := by
  rcases splitTypeStr_isOk_iff.mpr wellFormed with ⟨⟨nameSpace, requestType⟩, split⟩
  have request : frameRequest frame = ⟨nameSpace, requestType, frame.body⟩ := by
    rw [frameRequest, split]
  exact ⟨nameSpace, requestType, split, request,
    by rw [request]; exact (splitTypeStr_eq_ok_iff.mp split).1.symm⟩

/-- Splitting the type string and joining the parts again makes no difference to
the lookup. -/
theorem dispatch_frameRequest {frame : RequestFrame} (wellFormed : frame.WellFormed)
    (handlers : σ) :
    dispatch config.protocols (frameRequest frame) handlers = answer config frame handlers := by
  rcases wellFormed_split wellFormed with ⟨_, _, _, _, key⟩
  rw [dispatch, answer]
  generalize (frameRequest frame).key = typeStr at key
  subst key
  rfl

/-- The loop reads a well-formed frame, answers it and goes on behind it. -/
theorem serveLoop_frame {chunks : List (List UInt8)} {frame : RequestFrame} {after : List UInt8}
    (wellFormed : frame.WellFormed) (shown : chunks.flatten = frame.bytes ++ after)
    (serving : Serving Token σ) :
    ∃ rest : List (List UInt8), rest.flatten = after ∧
      serveLoop config chunks serving =
        serveLoop config rest (processRequest config serving (frameRequest frame)) := by
  rcases decodeRequest_frame exactReads_readExactAsync frame shown with ⟨rest, shows, decoded⟩
  rcases wellFormed_split wellFormed with ⟨nameSpace, requestType, split, request, _⟩
  refine ⟨rest, shows, ?_⟩
  have result : deserializeRequestAsync chunks = .ok (frameRequest frame, rest) := by
    rw [deserializeRequestAsync, decoded, split, request]
    rfl
  rw [serveLoop]
  split
  · next error failed => rw [result] at failed; cases failed
  · next request rest' succeeded => rw [result] at succeeded; cases succeeded; rfl

/-- Without a well-formed frame in front the loop ends where it is. -/
theorem serveLoop_ends {chunks : List (List UInt8)}
    (none : ∀ (frame : RequestFrame) after, frame.WellFormed → chunks.flatten ≠ frame.bytes ++ after)
    (serving : Serving Token σ) : ∃ error, serveLoop config chunks serving = (serving, error) := by
  rw [serveLoop]
  split
  · next error _ => exact ⟨error, rfl⟩
  · next request rest succeeded =>
      rcases decodeRequest_eq_ok exactReads_readExactAsync succeeded with ⟨frame, shown, split, _⟩
      exact absurd shown (none frame _ (splitTypeStr_isOk_iff.mp ⟨_, split⟩))

/-- What the loop has done after the front frames. -/
structure Transduced (serving : Serving Token σ) (frames : List RequestFrame)
    (final : Serving Token σ) : Prop where
  written : final.written =
    serving.written ++ (answers config frames serving.handlers).1.flatMap serializeResponse
  handlers : final.handlers = (answers config frames serving.handlers).2
  registry : final.registry =
    (acceptedPings config serving.served
      (frames.zip (answers config frames serving.handlers).1)).foldl
        (fun registry ping => recordPing config.fromSlice config.clientId registry ping.1 ping.2)
        serving.registry

theorem processRequest_frame {frame : RequestFrame} (wellFormed : frame.WellFormed)
    {later : List RequestFrame} {serving final : Serving Token σ}
    (rest : Transduced config (processRequest config serving (frameRequest frame)) later final) :
    Transduced config serving (frame :: later) final := by
  rcases wellFormed_split wellFormed with ⟨nameSpace, requestType, _, request, key⟩
  have body : (frameRequest frame).body = frame.body := by rw [request]
  have handlers : (processRequest config serving (frameRequest frame)).handlers =
      (answer config frame serving.handlers).2 := by
    rw [processRequest, dispatch_frameRequest config wellFormed]
  refine ⟨?_, ?_, ?_⟩
  · rw [rest.written, handlers, answers, processRequest, dispatch_frameRequest config wellFormed,
      List.flatMap_cons, List.append_assoc]
  · rw [rest.handlers, handlers, answers]
  · rw [rest.registry, handlers, answers]
    simp only [List.zip_cons_cons, acceptedPings]
    rw [processRequest, dispatch_frameRequest config wellFormed]
    simp only [key, body]
    split <;> rfl

/-- The loop performs exactly the calls of the front frames. -/
theorem serveLoop_transduces (chunks : List (List UInt8)) (serving : Serving Token σ) :
    ∃ frames rest, FrontFrames chunks.flatten frames rest ∧
      Transduced config serving frames (serveLoop config chunks serving).1 := by
  generalize length : chunks.flatten.length = size
  induction size using Nat.strong_induction_on generalizing chunks serving with
  | _ size inductionHypothesis =>
  by_cases present : ∃ (frame : RequestFrame) (after : List UInt8),
      frame.WellFormed ∧ chunks.flatten = frame.bytes ++ after
  · rcases present with ⟨frame, after, wellFormed, shown⟩
    rcases serveLoop_frame config wellFormed shown serving with ⟨left, shows, continues⟩
    have smaller : left.flatten.length < size := by
      have := List.length_pos_iff.mpr frame.bytes_ne_nil
      rw [shows, ← length, shown, List.length_append]
      omega
    rcases inductionHypothesis _ smaller left
      (processRequest config serving (frameRequest frame)) rfl with ⟨frames, rest, front, done⟩
    refine ⟨frame :: frames, rest, ?_, ?_⟩
    · rw [shown, ← shows]
      exact front.cons wellFormed
    · rw [continues]
      exact processRequest_frame config wellFormed done
  · have none : ∀ (frame : RequestFrame) after, frame.WellFormed →
        chunks.flatten ≠ frame.bytes ++ after :=
      fun frame after wellFormed shown => present ⟨frame, after, wellFormed, shown⟩
    rcases serveLoop_ends config none serving with ⟨error, ended⟩
    refine ⟨[], chunks.flatten, ⟨rfl, fun _ listed => absurd listed List.not_mem_nil, none⟩, ?_⟩
    rw [ended]
    exact ⟨by simp [answers], rfl, rfl⟩

/-- The connection is a transducer of frames: it answers the front frames of its
stream in order, each once, by the handler registered under the frame's type
string, and stamps the registry for the accepted pings among them only. -/
theorem handleClient_transduces (connCt : Token) (registry : ClientRegistry Token) (handlers : σ)
    (chunks : List (List UInt8)) :
    ∃ frames rest, FrontFrames chunks.flatten frames rest ∧
      (∀ others other, FrontFrames chunks.flatten others other → others = frames) ∧
      let responses := (answers config frames handlers).1
      let finished := handleClient config connCt registry handlers chunks
      finished.written = responses.flatMap serializeResponse ∧
      finished.handlers = (answers config frames handlers).2 ∧
      finished.beforeCleanup =
        (acceptedPings config 0 (frames.zip responses)).foldl
          (fun registry ping => recordPing config.fromSlice config.clientId registry ping.1 ping.2)
          ((registry.insertActive config.clientId connCt).insertIp config.clientId
            config.clientIp) := by
  rcases serveLoop_transduces config chunks ⟨[], (registry.insertActive config.clientId
    connCt).insertIp config.clientId config.clientIp, handlers, 0⟩ with ⟨frames, rest, front, done⟩
  refine ⟨frames, rest, front, fun others other second => (second.unique front).1, ?_, ?_, ?_⟩
  · exact done.written
  · exact done.handlers
  · exact done.registry

end Transducer

end Center
end QomicexConnector
