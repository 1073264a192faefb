import Mathlib.Data.List.Nodup
import QomicexConnector.Library.FramedStream
import QomicexConnector.Library.LabelledRun
import QomicexConnector.Library.NumberedList

namespace QomicexConnector
namespace Library

/-!
# Calls of a service over one connection

Any number of tasks call a service over one connection.  A lock is held for the whole of
a call: the caller writes its request, in parts as the stream takes them, and reads the
response.  The server takes one complete request at a time off what has arrived, changes
its state and writes the response.  Both streams are reliable and ordered; how their
bytes are cut into chunks is left open.

A run in which no call fails behaves as if each call were a single step of the server,
taken between the call's begin and its end, and every call of it can be brought to an
end.
-/

/-- How requests and responses are put into bytes and taken off a stream, and what the
server makes of a request.  `awaits` tells the errors of a decoder that only miss bytes
still to come. -/
structure Service (Request Response Error State : Type) where
  encodeRequest : Request → List UInt8
  decodeRequest : List (List UInt8) → Except Error (Request × List (List UInt8))
  encodeResponse : Response → List UInt8
  decodeResponse : List (List UInt8) → Except Error (Response × List (List UInt8))
  awaits : Error → Bool
  serve : Request → State → Response × State

/-- Where a call stands: waiting for the lock, writing, reading, or at its end. -/
inductive CallPhase (Request Response Error : Type) where
  | waiting (request : Request)
  | writing (request : Request) (unsent : List UInt8)
  | reading (request : Request)
  | returned (request : Request) (result : Except Error Response)

/-- The calls, numbered as they begin, and the connection: bytes on their way to the
server and arrived there, the rest of the response being written, bytes on their way back
and arrived at the client. -/
structure Exchange (Request Response Error State : Type) where
  calls : List (CallPhase Request Response Error)
  toServer : List UInt8
  atServer : List (List UInt8)
  serving : Bool
  outgoing : List UInt8
  toClient : List UInt8
  atClient : List (List UInt8)
  handlers : State

/-- `giveUp` ends a read that has taken some of the bytes that arrived; `failWrite` a
write. -/
inductive ExchangeStep (Request Error : Type) where
  | call (request : Request)
  | acquire (i : Nat)
  | send (i count : Nat)
  | flush (i : Nat)
  | deliver (count : Nat)
  | serve
  | answer (count : Nat)
  | deliverAnswer (count : Nat)
  | receive (i : Nat)
  | failWrite (i : Nat) (error : Error)
  | giveUp (i taken : Nat) (error : Error)
  | stopServer

section Exchanges

variable {Request Response Error State : Type}

namespace CallPhase

def request : CallPhase Request Response Error → Request
  | .waiting request | .writing request _ | .reading request | .returned request _ => request

/-- The call has the lock. -/
def holds : CallPhase Request Response Error → Bool
  | .writing _ _ | .reading _ => true
  | _ => false

def isReturned : CallPhase Request Response Error → Bool
  | .returned _ _ => true
  | _ => false

end CallPhase

namespace Exchange

/-- A fresh connection. -/
def new (handlers : State) : Exchange Request Response Error State :=
  ⟨[], [], [], true, [], [], [], handlers⟩

def put (state : Exchange Request Response Error State) (i : Nat)
    (phase : CallPhase Request Response Error) : Exchange Request Response Error State :=
  { state with calls := state.calls.set i phase }

/-- The call that has the lock. -/
def holder (state : Exchange Request Response Error State) : Option Nat :=
  state.calls.findIdx? CallPhase.holds

end Exchange

variable (service : Service Request Response Error State)

def exchangeStep (state : Exchange Request Response Error State) :
    ExchangeStep Request Error → Option (Exchange Request Response Error State)
  | .call request => some { state with calls := state.calls ++ [.waiting request] }
  | .acquire i =>
      match state.calls[i]? with
      | some (.waiting request) =>
          if state.calls.any CallPhase.holds then none
          else some (state.put i (.writing request (service.encodeRequest request)))
      | _ => none
  | .send i count =>
      match state.calls[i]? with
      | some (.writing request unsent) =>
          some { state.put i (.writing request (unsent.drop count)) with
            toServer := state.toServer ++ unsent.take count }
      | _ => none
  | .flush i =>
      match state.calls[i]? with
      | some (.writing request []) => some (state.put i (.reading request))
      | _ => none
  | .deliver count =>
      some { state with
        toServer := state.toServer.drop count
        atServer := state.atServer ++ [state.toServer.take count] }
  | .serve =>
      if state.serving = true ∧ state.outgoing = [] then
        match service.decodeRequest state.atServer with
        | .ok (request, rest) =>
            let result := service.serve request state.handlers
            some { state with
              atServer := rest
              outgoing := service.encodeResponse result.1
              handlers := result.2 }
        | .error error =>
            if service.awaits error then none else some { state with serving := false }
      else none
  | .answer count =>
      some { state with
        outgoing := state.outgoing.drop count
        toClient := state.toClient ++ state.outgoing.take count }
  | .deliverAnswer count =>
      some { state with
        toClient := state.toClient.drop count
        atClient := state.atClient ++ [state.toClient.take count] }
  | .receive i =>
      match state.calls[i]? with
      | some (.reading request) =>
          match service.decodeResponse state.atClient with
          | .ok (response, rest) =>
              some { state.put i (.returned request (.ok response)) with atClient := rest }
          | .error error =>
              if service.awaits error then none
              else some (state.put i (.returned request (.error error)))
      | _ => none
  | .failWrite i error =>
      match state.calls[i]? with
      | some (.writing request _) => some (state.put i (.returned request (.error error)))
      | _ => none
  | .giveUp i taken error =>
      match state.calls[i]? with
      | some (.reading request) =>
          some { state.put i (.returned request (.error error)) with
            atClient := [state.atClient.flatten.drop taken] }
      | _ => none
  | .stopServer => some { state with serving := false }

/-! ## What a step can do -/

/-- The steps, one constructor for each way to take one. -/
inductive ExchangeMove (state : Exchange Request Response Error State) :
    ExchangeStep Request Error → Exchange Request Response Error State → Prop
  | call (request : Request) :
      ExchangeMove state (.call request) { state with calls := state.calls ++ [.waiting request] }
  | acquire {i : Nat} {request : Request} (listed : state.calls[i]? = some (.waiting request))
      (free : state.calls.any CallPhase.holds = false) :
      ExchangeMove state (.acquire i)
        (state.put i (.writing request (service.encodeRequest request)))
  | send {i : Nat} {request : Request} {unsent : List UInt8}
      (listed : state.calls[i]? = some (.writing request unsent)) (count : Nat) :
      ExchangeMove state (.send i count)
        { state.put i (.writing request (unsent.drop count)) with
          toServer := state.toServer ++ unsent.take count }
  | flush {i : Nat} {request : Request} (listed : state.calls[i]? = some (.writing request [])) :
      ExchangeMove state (.flush i) (state.put i (.reading request))
  | deliver (count : Nat) :
      ExchangeMove state (.deliver count)
        { state with
          toServer := state.toServer.drop count
          atServer := state.atServer ++ [state.toServer.take count] }
  | serve {request : Request} {rest : List (List UInt8)} (idle : state.outgoing = [])
      (decoded : service.decodeRequest state.atServer = .ok (request, rest)) :
      ExchangeMove state .serve
        { state with
          atServer := rest
          outgoing := service.encodeResponse (service.serve request state.handlers).1
          handlers := (service.serve request state.handlers).2 }
  | malformed {error : Error} (failed : service.decodeRequest state.atServer = .error error)
      (final : service.awaits error = false) :
      ExchangeMove state .serve { state with serving := false }
  | answer (count : Nat) :
      ExchangeMove state (.answer count)
        { state with
          outgoing := state.outgoing.drop count
          toClient := state.toClient ++ state.outgoing.take count }
  | deliverAnswer (count : Nat) :
      ExchangeMove state (.deliverAnswer count)
        { state with
          toClient := state.toClient.drop count
          atClient := state.atClient ++ [state.toClient.take count] }
  | receive {i : Nat} {request : Request} {response : Response} {rest : List (List UInt8)}
      (listed : state.calls[i]? = some (.reading request))
      (decoded : service.decodeResponse state.atClient = .ok (response, rest)) :
      ExchangeMove state (.receive i)
        { state.put i (.returned request (.ok response)) with atClient := rest }
  | unreadable {i : Nat} {request : Request} {error : Error}
      (listed : state.calls[i]? = some (.reading request))
      (failed : service.decodeResponse state.atClient = .error error)
      (final : service.awaits error = false) :
      ExchangeMove state (.receive i) (state.put i (.returned request (.error error)))
  | failWrite {i : Nat} {request : Request} {unsent : List UInt8}
      (listed : state.calls[i]? = some (.writing request unsent)) (error : Error) :
      ExchangeMove state (.failWrite i error) (state.put i (.returned request (.error error)))
  | giveUp {i : Nat} {request : Request} (listed : state.calls[i]? = some (.reading request))
      (taken : Nat) (error : Error) :
      ExchangeMove state (.giveUp i taken error)
        { state.put i (.returned request (.error error)) with
          atClient := [state.atClient.flatten.drop taken] }
  | stopServer : ExchangeMove state .stopServer { state with serving := false }

theorem exchangeStep_eq_some {state next : Exchange Request Response Error State}
    {label : ExchangeStep Request Error} (taken : exchangeStep service state label = some next) :
    ExchangeMove service state label next := by
  cases label with
  | call request => cases taken; exact .call request
  | acquire i =>
      rw [exchangeStep] at taken
      split at taken
      · next request listed =>
          split at taken <;> cases taken
          exact .acquire listed (eq_false_of_ne_true ‹_›)
      · cases taken
  | send i count =>
      rw [exchangeStep] at taken
      split at taken <;> cases taken
      exact .send ‹_› count
  | flush i =>
      rw [exchangeStep] at taken
      split at taken <;> cases taken
      exact .flush ‹_›
  | deliver count => cases taken; exact .deliver count
  | serve =>
      rw [exchangeStep] at taken
      split at taken
      · next ready =>
          split at taken
          · cases taken
            exact .serve ready.2 ‹_›
          · next error failed =>
              split at taken <;> cases taken
              exact .malformed failed (eq_false_of_ne_true ‹_›)
      · cases taken
  | answer count => cases taken; exact .answer count
  | deliverAnswer count => cases taken; exact .deliverAnswer count
  | receive i =>
      rw [exchangeStep] at taken
      split at taken
      · next request listed =>
          split at taken
          · cases taken
            exact .receive listed ‹_›
          · next error failed =>
              split at taken <;> cases taken
              exact .unreadable listed failed (eq_false_of_ne_true ‹_›)
      · cases taken
  | failWrite i error =>
      rw [exchangeStep] at taken
      split at taken <;> cases taken
      exact .failWrite ‹_› error
  | giveUp i count error =>
      rw [exchangeStep] at taken
      split at taken <;> cases taken
      exact .giveUp ‹_› count error
  | stopServer => cases taken; exact .stopServer

/-! ## The calls as single steps of the server -/

/-- One request the server took up: who held the lock then, and what was answered. -/
structure Dispatch (Request Response : Type) where
  caller : Option Nat
  request : Request
  response : Response

/-- The responses to a sequence of requests, taken up one after the other. -/
def serveAll : List Request → State → List Response × State
  | [], handlers => ([], handlers)
  | request :: later, handlers =>
      let first := service.serve request handlers
      let others := serveAll later first.2
      (first.1 :: others.1, others.2)

theorem serveAll_append (first later : List Request) (handlers : State) :
    serveAll service (first ++ later) handlers =
      ((serveAll service first handlers).1 ++
          (serveAll service later (serveAll service first handlers).2).1,
        (serveAll service later (serveAll service first handlers).2).2) := by
  induction first generalizing handlers with
  | nil => rfl
  | cons request rest inductionHypothesis =>
      rw [List.cons_append, serveAll, inductionHypothesis, serveAll, List.cons_append]

theorem serveAll_concat (requests : List Request) (request : Request) (handlers : State) :
    serveAll service (requests ++ [request]) handlers =
      ((serveAll service requests handlers).1 ++
          [(service.serve request (serveAll service requests handlers).2).1],
        (service.serve request (serveAll service requests handlers).2).2) := by
  rw [serveAll_append]
  rfl

def dispatches (state : Exchange Request Response Error State) :
    ExchangeStep Request Error → List (Dispatch Request Response)
  | .serve =>
      match service.decodeRequest state.atServer with
      | .ok (request, _) =>
          [⟨state.holder, request, (service.serve request state.handlers).1⟩]
      | .error _ => []
  | _ => []

theorem dispatches_other {state : Exchange Request Response Error State}
    {label : ExchangeStep Request Error} (other : label ≠ .serve) :
    dispatches service state label = [] := by
  cases label with
  | serve => exact absurd rfl other
  | _ => rfl

/-- The requests the server took up during a run, in order. -/
def history (start : Exchange Request Response Error State)
    (labels : List (ExchangeStep Request Error)) : List (Dispatch Request Response) :=
  emitted (exchangeStep service) (dispatches service) start labels

/-- Both decoders take the frames of admissible messages apart, and wait for the rest of a
frame that has not arrived whole. -/
structure Service.Frames (sendable : Request → Prop) (fits : Response → Prop) : Prop where
  requests : SelfDelimiting List.flatten service.decodeRequest service.encodeRequest sendable
    fun error => service.awaits error = true
  responses : SelfDelimiting List.flatten service.decodeResponse service.encodeResponse fits
    fun error => service.awaits error = true

/-- No call fails, the requests can be sent and the response of the handler can be framed. -/
def Healthy (sendable : Request → Prop) (fits : Response → Prop)
    (state : Exchange Request Response Error State) : ExchangeStep Request Error → Prop
  | .call request => sendable request
  | .serve => ∀ request rest, service.decodeRequest state.atServer = .ok (request, rest) →
      fits (service.serve request state.handlers).1
  | .failWrite _ _ | .giveUp _ _ _ => False
  | _ => True

instance {sendable : Request → Prop} {fits : Response → Prop} [DecidablePred sendable]
    [DecidablePred fits] (state : Exchange Request Response Error State)
    (label : ExchangeStep Request Error) :
    Decidable (Healthy service sendable fits state label) :=
  match label with
  | .call request => inferInstanceAs (Decidable (sendable request))
  | .serve =>
      match decoded : service.decodeRequest state.atServer with
      | .ok (request, rest) =>
          decidable_of_iff (fits (service.serve request state.handlers).1) (by
            rw [Healthy, decoded]
            simp)
      | .error _ => isTrue (by
          intro request rest other
          rw [decoded] at other
          cases other)
  | .failWrite _ _ | .giveUp _ _ _ => isFalse id
  | .acquire _ | .send _ _ | .flush _ | .deliver _ | .answer _ | .deliverAnswer _ | .receive _
  | .stopServer => isTrue trivial

/-- Every dispatch has been answered to its caller, who has the answer of his own
request. -/
structure Settled (served : List (Dispatch Request Response))
    (calls : List (CallPhase Request Response Error)) : Prop where
  listed : ∀ entry ∈ served, ∃ i, entry.caller = some i ∧
    calls[i]? = some (.returned entry.request (.ok entry.response))
  once : (served.map Dispatch.caller).Nodup
  returned : ∀ i request result, calls[i]? = some (.returned request result) →
    ∃ response, result = .ok response ∧ ⟨some i, request, response⟩ ∈ served

/-- One call has the lock; `unsent` is what it has not written yet. -/
structure Alone (calls : List (CallPhase Request Response Error)) (i : Nat) (request : Request)
    (unsent : List UInt8) : Prop where
  holding : calls[i]? = some (.writing request unsent) ∨
    unsent = [] ∧ calls[i]? = some (.reading request)
  others : ∀ j phase, calls[j]? = some phase → phase.holds = true → j = i

/-- The bytes of requests that the server has not taken up. -/
def Exchange.asked (state : Exchange Request Response Error State) : List UInt8 :=
  state.atServer.flatten ++ state.toServer

/-- The bytes of responses that no call has read. -/
def Exchange.answered (state : Exchange Request Response Error State) : List UInt8 :=
  state.atClient.flatten ++ (state.toClient ++ state.outgoing)

/-- What is on the connection: nothing, the request of the one call that has the lock, or
the response to it. -/
inductive Situation (sendable : Request → Prop) (fits : Response → Prop)
    (served : List (Dispatch Request Response))
    (state : Exchange Request Response Error State) : Prop
  | idle (settled : Settled served state.calls)
      (free : ∀ phase ∈ state.calls, phase.holds = false)
      (asked : state.asked = []) (answered : state.answered = [])
  | asking {i : Nat} {request : Request} {unsent : List UInt8}
      (settled : Settled served state.calls) (alone : Alone state.calls i request unsent)
      (admissible : sendable request)
      (asked : state.asked ++ unsent = service.encodeRequest request)
      (answered : state.answered = [])
  | answering {i : Nat} {request : Request} {response : Response}
      {earlier : List (Dispatch Request Response)} (settled : Settled earlier state.calls)
      (alone : Alone state.calls i request []) (framed : fits response)
      (logged : served = earlier ++ [⟨some i, request, response⟩])
      (asked : state.asked = []) (answered : state.answered = service.encodeResponse response)

/-- The invariant of the runs in which no call fails. -/
structure Orderly (sendable : Request → Prop) (fits : Response → Prop) (start : State)
    (served : List (Dispatch Request Response))
    (state : Exchange Request Response Error State) : Prop where
  admissible : ∀ phase ∈ state.calls, sendable phase.request
  legal : serveAll service (served.map Dispatch.request) start =
    (served.map Dispatch.response, state.handlers)
  situation : Situation service sendable fits served state

/-! ## What one step preserves -/

namespace Settled

variable {served : List (Dispatch Request Response)}
  {calls : List (CallPhase Request Response Error)}

/-- A call that goes on without ending leaves the others' answers alone. -/
theorem set (settled : Settled served calls) {i : Nat}
    {before after : CallPhase Request Response Error} (listed : calls[i]? = some before)
    (unfinished : before.isReturned = false) (still : after.isReturned = false) :
    Settled served (calls.set i after) := by
  refine ⟨?_, settled.once, ?_⟩
  · intro entry member
    rcases settled.listed entry member with ⟨j, caller, ended⟩
    refine ⟨j, caller, ?_⟩
    rw [getElem?_set_listed listed, if_neg, ended]
    rintro rfl
    rw [listed, Option.some.injEq] at ended
    rw [ended] at unfinished
    cases unfinished
  · intro j request result ended
    rw [getElem?_set_listed listed] at ended
    split at ended
    · rw [Option.some.injEq] at ended
      rw [ended] at still
      cases still
    · exact settled.returned j request result ended

theorem concat (settled : Settled served calls) (request : Request) :
    Settled served (calls ++ [.waiting request]) := by
  refine ⟨?_, settled.once, ?_⟩
  · intro entry member
    rcases settled.listed entry member with ⟨j, caller, ended⟩
    refine ⟨j, caller, ?_⟩
    rw [List.getElem?_append_left (List.getElem?_eq_some_iff.mp ended).1, ended]
  · intro j asked result ended
    rcases getElem?_concat ended with old | ⟨_, new⟩
    · exact settled.returned j asked result old
    · cases new

/-- The caller of a call that has not ended is in no dispatch. -/
theorem absent (settled : Settled served calls) {i : Nat}
    {phase : CallPhase Request Response Error} (listed : calls[i]? = some phase)
    (unfinished : phase.isReturned = false) : some i ∉ served.map Dispatch.caller := by
  intro member
  rcases List.mem_map.mp member with ⟨entry, logged, caller⟩
  rcases settled.listed entry logged with ⟨j, other, ended⟩
  rw [caller, Option.some.injEq] at other
  subst other
  rw [listed, Option.some.injEq] at ended
  rw [ended] at unfinished
  cases unfinished

/-- The caller of the last dispatch gets its answer. -/
theorem answer (settled : Settled served calls) {i : Nat} {request : Request}
    (listed : calls[i]? = some (.reading request)) (response : Response) :
    Settled (served ++ [⟨some i, request, response⟩])
      (calls.set i (.returned request (.ok response))) := by
  refine ⟨?_, ?_, ?_⟩
  · intro entry member
    rcases List.mem_append.mp member with old | new
    · rcases settled.listed entry old with ⟨j, caller, ended⟩
      refine ⟨j, caller, ?_⟩
      rw [getElem?_set_listed listed, if_neg, ended]
      rintro rfl
      rw [listed] at ended
      cases ended
    · rw [List.mem_singleton] at new
      subst new
      exact ⟨i, rfl, by rw [getElem?_set_listed listed, if_pos rfl]⟩
  · rw [List.map_append, List.map_singleton, List.nodup_append]
    refine ⟨settled.once, List.nodup_singleton _, ?_⟩
    intro caller old other new same
    rw [List.mem_singleton] at new
    rw [same, new] at old
    exact settled.absent listed rfl old
  · intro j asked result ended
    rw [getElem?_set_listed listed] at ended
    split at ended
    · next here =>
        cases ended
        exact ⟨response, rfl, by rw [here]; exact List.mem_append_right _ List.mem_cons_self⟩
    · rcases settled.returned j asked result ended with ⟨given, ok, logged⟩
      exact ⟨given, ok, List.mem_append_left _ logged⟩

end Settled

namespace Alone

variable {calls : List (CallPhase Request Response Error)} {i : Nat} {request : Request}
  {unsent : List UInt8}

/-- The lock is held by exactly this call. -/
theorem findIdx?_holds (alone : Alone calls i request unsent) :
    calls.findIdx? CallPhase.holds = some i := by
  have holds : ∃ phase, calls[i]? = some phase ∧ phase.holds = true := by
    rcases alone.holding with writing | ⟨_, reading⟩
    · exact ⟨_, writing, rfl⟩
    · exact ⟨_, reading, rfl⟩
  rcases holds with ⟨phase, listed, held⟩
  rcases List.getElem?_eq_some_iff.mp listed with ⟨inside, found⟩
  rw [List.findIdx?_eq_some_iff_getElem]
  refine ⟨inside, by rw [found, held], ?_⟩
  intro j before other
  have same := alone.others j calls[j] (List.getElem?_eq_getElem _) other
  omega

/-- Only the call that has the lock writes or reads. -/
theorem unsent_of_writing (alone : Alone calls i request unsent) {j : Nat} {other : Request}
    {rest : List UInt8} (listed : calls[j]? = some (.writing other rest)) :
    j = i ∧ other = request ∧ rest = unsent := by
  have same := alone.others j _ listed rfl
  subst same
  rcases alone.holding with writing | ⟨_, reading⟩
  · rw [listed] at writing
    cases writing
    exact ⟨rfl, rfl, rfl⟩
  · rw [listed] at reading
    cases reading

theorem unsent_of_reading (alone : Alone calls i request unsent) {j : Nat} {other : Request}
    (listed : calls[j]? = some (.reading other)) : j = i ∧ other = request ∧ unsent = [] := by
  have same := alone.others j _ listed rfl
  subst same
  rcases alone.holding with writing | ⟨nothing, reading⟩
  · rw [listed] at writing
    cases writing
  · rw [listed] at reading
    cases reading
    exact ⟨rfl, rfl, nothing⟩

/-- The call goes on with its writing, or to its reading. -/
theorem set {before after : CallPhase Request Response Error} (alone : Alone calls i request unsent)
    (listed : calls[i]? = some before) {rest : List UInt8}
    (goesOn : after = .writing request rest ∨ rest = [] ∧ after = .reading request) :
    Alone (calls.set i after) i request rest := by
  have now : (calls.set i after)[i]? = some after := by
    rw [getElem?_set_listed listed, if_pos rfl]
  refine ⟨?_, ?_⟩
  · rcases goesOn with rfl | ⟨rfl, rfl⟩
    · exact Or.inl now
    · exact Or.inr ⟨rfl, now⟩
  · intro j phase other held
    rw [getElem?_set_listed listed] at other
    split at other
    · assumption
    · exact alone.others j phase other held

theorem concat (alone : Alone calls i request unsent) (waiting : Request) :
    Alone (calls ++ [.waiting waiting]) i request unsent := by
  have kept : ∀ phase, calls[i]? = some phase → (calls ++ [.waiting waiting])[i]? = some phase :=
    fun phase listed =>
      (List.getElem?_append_left (List.getElem?_eq_some_iff.mp listed).1).trans listed
  refine ⟨?_, ?_⟩
  · rcases alone.holding with writing | ⟨nothing, reading⟩
    · exact Or.inl (kept _ writing)
    · exact Or.inr ⟨nothing, kept _ reading⟩
  · intro j phase other held
    rcases getElem?_concat other with old | ⟨_, rfl⟩
    · exact alone.others j phase old held
    · cases held

/-- Nobody has the lock once the call has returned. -/
theorem free (alone : Alone calls i request unsent) {before : CallPhase Request Response Error}
    (listed : calls[i]? = some before) (result : Except Error Response) :
    ∀ phase ∈ calls.set i (.returned request result), phase.holds = false := by
  intro phase member
  rcases List.mem_iff_getElem?.mp member with ⟨j, other⟩
  rw [getElem?_set_listed listed] at other
  split at other
  · cases other
    rfl
  · next different =>
      exact eq_false_of_ne_true fun held => different (alone.others j phase other held)

end Alone

section Steps

variable {service} {sendable : Request → Prop} {fits : Response → Prop} {start : State}
  {served : List (Dispatch Request Response)}
  {state next : Exchange Request Response Error State} {label : ExchangeStep Request Error}

namespace Situation

/-- How the bytes are spread over a stream and its chunks does not matter. -/
theorem congr (situation : Situation service sendable fits served state)
    (calls : next.calls = state.calls) (asked : next.asked = state.asked)
    (answered : next.answered = state.answered) :
    Situation service sendable fits served next := by
  cases situation with
  | idle settled free nothing silent =>
      exact .idle (calls ▸ settled) (calls ▸ free) (asked ▸ nothing) (answered ▸ silent)
  | asking settled alone admissible sent silent =>
      exact .asking (calls ▸ settled) (calls ▸ alone) admissible (asked ▸ sent) (answered ▸ silent)
  | answering settled alone framed logged nothing given =>
      exact .answering (calls ▸ settled) (calls ▸ alone) framed logged (asked ▸ nothing)
        (answered ▸ given)

theorem call (situation : Situation service sendable fits served state) (request : Request) :
    Situation service sendable fits served
      { state with calls := state.calls ++ [.waiting request] } := by
  cases situation with
  | idle settled free nothing silent =>
      refine .idle (settled.concat request) ?_ nothing silent
      intro phase member
      rcases List.mem_append.mp member with old | new
      · exact free phase old
      · rw [List.mem_singleton] at new
        subst new
        rfl
  | asking settled alone admissible sent silent =>
      exact .asking (settled.concat request) (alone.concat request) admissible sent silent
  | answering settled alone framed logged nothing given =>
      exact .answering (settled.concat request) (alone.concat request) framed logged nothing given

/-- The lock is free only where nothing is on the connection. -/
theorem acquire (situation : Situation service sendable fits served state) {i : Nat}
    {request : Request} (listed : state.calls[i]? = some (.waiting request))
    (admissible : sendable request) (free : state.calls.any CallPhase.holds = false) :
    Situation service sendable fits served
      (state.put i (.writing request (service.encodeRequest request))) := by
  have nobody : ∀ phase ∈ state.calls, phase.holds = false := by
    intro phase member
    exact eq_false_of_ne_true fun held =>
      Bool.false_ne_true (free.symm.trans (List.any_eq_true.mpr ⟨phase, member, held⟩))
  have taken : ∀ {j other unsent}, ¬Alone state.calls j other unsent := by
    intro j other unsent alone
    rcases alone.holding with writing | ⟨_, reading⟩
    · exact Bool.noConfusion (nobody _ (List.mem_of_getElem? writing))
    · exact Bool.noConfusion (nobody _ (List.mem_of_getElem? reading))
  cases situation with
  | idle settled _ nothing silent =>
      have now : (state.put i (.writing request (service.encodeRequest request))).calls[i]? =
          some (.writing request (service.encodeRequest request)) := by
        rw [Exchange.put, getElem?_set_listed listed, if_pos rfl]
      refine .asking (settled.set listed rfl rfl) ⟨Or.inl now, ?_⟩ admissible ?_ silent
      · intro j phase other held
        rw [Exchange.put, getElem?_set_listed listed] at other
        split at other
        · assumption
        · rw [nobody phase (List.mem_of_getElem? other)] at held
          cases held
      · change state.asked ++ _ = _
        rw [nothing, List.nil_append]
  | asking _ alone => exact absurd alone taken
  | answering _ alone => exact absurd alone taken

/-- Nobody writes or reads without the lock. -/
theorem not_idle {i : Nat} {phase : CallPhase Request Response Error}
    (listed : state.calls[i]? = some phase) (held : phase.holds = true)
    (free : ∀ phase ∈ state.calls, phase.holds = false) : False := by
  rw [free phase (List.mem_of_getElem? listed)] at held
  cases held

theorem send (situation : Situation service sendable fits served state) {i : Nat}
    {request : Request} {unsent : List UInt8}
    (listed : state.calls[i]? = some (.writing request unsent)) (count : Nat) :
    Situation service sendable fits served
      { state.put i (.writing request (unsent.drop count)) with
        toServer := state.toServer ++ unsent.take count } := by
  cases situation with
  | idle settled free => exact (not_idle listed rfl free).elim
  | asking settled alone admissible sent silent =>
      rcases alone.unsent_of_writing listed with ⟨rfl, rfl, rfl⟩
      refine .asking (settled.set listed rfl rfl) (alone.set listed (Or.inl rfl)) admissible ?_
        silent
      rw [← sent]
      simp only [Exchange.asked, Exchange.put, List.append_assoc, List.take_append_drop]
  | answering settled alone framed logged nothing given =>
      rcases alone.unsent_of_writing listed with ⟨rfl, rfl, rfl⟩
      rw [List.drop_nil, List.take_nil, List.append_nil]
      exact .answering (settled.set listed rfl rfl) (alone.set listed (Or.inl rfl)) framed logged
        nothing given

theorem flush (situation : Situation service sendable fits served state) {i : Nat}
    {request : Request} (listed : state.calls[i]? = some (.writing request [])) :
    Situation service sendable fits served (state.put i (.reading request)) := by
  cases situation with
  | idle settled free => exact (not_idle listed rfl free).elim
  | asking settled alone admissible sent silent =>
      rcases alone.unsent_of_writing listed with ⟨rfl, rfl, rfl⟩
      exact .asking (settled.set listed rfl rfl) (alone.set listed (Or.inr ⟨rfl, rfl⟩)) admissible
        sent silent
  | answering settled alone framed logged nothing given =>
      rcases alone.unsent_of_writing listed with ⟨rfl, rfl, _⟩
      exact .answering (settled.set listed rfl rfl) (alone.set listed (Or.inr ⟨rfl, rfl⟩)) framed
        logged nothing given

/-- A request that is taken up is the one whose call has the lock. -/
theorem serve (frames : service.Frames sendable fits)
    (situation : Situation service sendable fits served state) {request : Request}
    {rest : List (List UInt8)}
    (decoded : service.decodeRequest state.atServer = .ok (request, rest))
    (framed : fits (service.serve request state.handlers).1) :
    Situation service sendable fits
      (served ++ [⟨state.holder, request, (service.serve request state.handlers).1⟩])
      { state with
        atServer := rest
        outgoing := service.encodeResponse (service.serve request state.handlers).1
        handlers := (service.serve request state.handlers).2 } := by
  cases situation with
  | idle settled free nothing silent =>
      exact absurd decoded (frames.requests.nothing (List.append_eq_nil_iff.mp nothing).1)
  | @asking i asked unsent settled alone admissible sent silent =>
      rw [Exchange.asked, List.append_assoc] at sent
      rcases frames.requests.decoded_part admissible sent decoded with ⟨rfl, missing, left⟩
      rcases List.append_eq_nil_iff.mp missing with ⟨toServer, rfl⟩
      rcases List.append_eq_nil_iff.mp silent with ⟨atClient, between⟩
      rcases List.append_eq_nil_iff.mp between with ⟨toClient, _⟩
      have holder : state.holder = some i := alone.findIdx?_holds
      rw [holder]
      refine .answering settled alone framed rfl ?_ ?_
      · rw [Exchange.asked, left, toServer, List.append_nil]
      · rw [Exchange.answered, atClient, toClient, List.nil_append, List.nil_append]
  | answering settled alone framed logged nothing given =>
      exact absurd decoded (frames.requests.nothing (List.append_eq_nil_iff.mp nothing).1)

theorem sendable_of_decoded (frames : service.Frames sendable fits)
    (situation : Situation service sendable fits served state) {request : Request}
    {rest : List (List UInt8)}
    (decoded : service.decodeRequest state.atServer = .ok (request, rest)) : sendable request := by
  cases situation with
  | idle settled free nothing | answering settled alone framed logged nothing =>
      exact absurd decoded (frames.requests.nothing (List.append_eq_nil_iff.mp nothing).1)
  | asking settled alone admissible sent silent =>
      rw [Exchange.asked, List.append_assoc] at sent
      rcases frames.requests.decoded_part admissible sent decoded with ⟨rfl, _, _⟩
      exact admissible

/-- No request of an admissible caller is malformed. -/
theorem not_malformed (frames : service.Frames sendable fits)
    (situation : Situation service sendable fits served state) {error : Error}
    (failed : service.decodeRequest state.atServer = .error error) :
    service.awaits error = true := by
  have silent : state.asked = [] → service.awaits error = true := by
    intro nothing
    rcases frames.requests.silent _ (List.append_eq_nil_iff.mp nothing).1 with
      ⟨other, result, waits⟩
    rw [failed] at result
    cases result
    exact waits
  cases situation with
  | idle settled free nothing _ => exact silent nothing
  | asking settled alone admissible sent _ =>
      rw [Exchange.asked, List.append_assoc] at sent
      exact frames.requests.failed_part admissible sent failed
  | answering settled alone framed logged nothing _ => exact silent nothing

/-- The response that arrives is the answer to the request of the call that reads it. -/
theorem receive (frames : service.Frames sendable fits)
    (situation : Situation service sendable fits served state) {i : Nat} {request : Request}
    (listed : state.calls[i]? = some (.reading request)) {response : Response}
    {rest : List (List UInt8)}
    (decoded : service.decodeResponse state.atClient = .ok (response, rest)) :
    Situation service sendable fits served
      { state.put i (.returned request (.ok response)) with atClient := rest } := by
  cases situation with
  | idle settled free => exact (not_idle listed rfl free).elim
  | asking settled alone admissible sent silent =>
      exact absurd decoded (frames.responses.nothing (List.append_eq_nil_iff.mp silent).1)
  | @answering j asked answer earlier settled alone framed logged nothing given =>
      rcases alone.unsent_of_reading listed with ⟨rfl, rfl, _⟩
      rcases frames.responses.decoded_part framed given decoded with ⟨rfl, missing, left⟩
      refine .idle (logged ▸ settled.answer listed response) (alone.free listed _) nothing ?_
      rw [Exchange.answered, left]
      exact missing

theorem not_unreadable (frames : service.Frames sendable fits)
    (situation : Situation service sendable fits served state) {i : Nat} {request : Request}
    (listed : state.calls[i]? = some (.reading request)) {error : Error}
    (failed : service.decodeResponse state.atClient = .error error) :
    service.awaits error = true := by
  cases situation with
  | idle settled free => exact (not_idle listed rfl free).elim
  | asking settled alone admissible sent silent =>
      rcases frames.responses.silent _ (List.append_eq_nil_iff.mp silent).1 with
        ⟨other, result, waits⟩
      rw [failed] at result
      cases result
      exact waits
  | answering settled alone framed logged nothing given =>
      exact frames.responses.failed_part framed given failed

end Situation

/-- A step of a healthy run keeps the invariant. -/
theorem Orderly.step (frames : service.Frames sendable fits)
    (orderly : Orderly service sendable fits start served state)
    (healthy : Healthy service sendable fits state label)
    (move : ExchangeMove service state label next) :
    Orderly service sendable fits start (served ++ dispatches service state label) next := by
  have situation := orderly.situation
  have silent : label ≠ .serve → served ++ dispatches service state label = served := by
    intro other
    rw [dispatches_other service other, List.append_nil]
  have put : ∀ {i : Nat} {before after : CallPhase Request Response Error},
      state.calls[i]? = some before → after.request = before.request →
        ∀ phase ∈ (state.put i after).calls, sendable phase.request := by
    intro i before after listed same phase member
    rcases List.mem_or_eq_of_mem_set member with old | rfl
    · exact orderly.admissible phase old
    · rw [same]
      exact orderly.admissible before (List.mem_of_getElem? listed)
  cases move with
  | call request =>
      refine ⟨?_, ?_, ?_⟩
      · intro phase member
        rcases List.mem_append.mp member with old | new
        · exact orderly.admissible phase old
        · rw [List.mem_singleton] at new
          subst new
          exact healthy
      · rw [silent nofun]
        exact orderly.legal
      · rw [silent nofun]
        exact situation.call request
  | acquire listed free =>
      rw [silent nofun]
      exact ⟨put listed rfl, orderly.legal, situation.acquire listed
        (orderly.admissible _ (List.mem_of_getElem? listed)) free⟩
  | send listed count =>
      rw [silent nofun]
      exact ⟨put listed rfl, orderly.legal, situation.send listed count⟩
  | flush listed =>
      rw [silent nofun]
      exact ⟨put listed rfl, orderly.legal, situation.flush listed⟩
  | deliver count =>
      rw [silent nofun]
      refine ⟨orderly.admissible, orderly.legal, situation.congr rfl ?_ rfl⟩
      simp only [Exchange.asked, List.flatten_append, List.flatten_singleton, List.append_assoc,
        List.take_append_drop]
  | @serve request rest idle decoded =>
      rw [dispatches, decoded]
      refine ⟨orderly.admissible, ?_, situation.serve frames decoded (healthy request rest decoded)⟩
      rw [List.map_append, List.map_singleton, serveAll_concat, orderly.legal, List.map_append,
        List.map_singleton]
  | malformed failed final =>
      rw [situation.not_malformed frames failed] at final
      cases final
  | answer count =>
      rw [silent nofun]
      refine ⟨orderly.admissible, orderly.legal, situation.congr rfl rfl ?_⟩
      simp only [Exchange.answered, List.append_assoc, List.take_append_drop]
  | deliverAnswer count =>
      rw [silent nofun]
      refine ⟨orderly.admissible, orderly.legal, situation.congr rfl rfl ?_⟩
      simp only [Exchange.answered, List.flatten_append, List.flatten_singleton, List.append_assoc]
      rw [← List.append_assoc (state.toClient.take count), List.take_append_drop]
  | receive listed decoded =>
      rw [silent nofun]
      exact ⟨put listed rfl, orderly.legal, situation.receive frames listed decoded⟩
  | unreadable listed failed final =>
      rw [situation.not_unreadable frames listed failed] at final
      cases final
  | failWrite listed error => exact healthy.elim
  | giveUp listed taken error => exact healthy.elim
  | stopServer =>
      rw [silent nofun]
      exact ⟨orderly.admissible, orderly.legal, situation.congr rfl rfl rfl⟩

end Steps

/-! ## Healthy runs -/

section Runs

variable {service} {sendable : Request → Prop} {fits : Response → Prop} {start : State}
  {labels : List (ExchangeStep Request Error)}
  {final : Exchange Request Response Error State}

theorem orderly_new : Orderly service sendable fits start [] (Exchange.new start) := by
  refine ⟨fun _ member => absurd member List.not_mem_nil, rfl, ?_⟩
  refine .idle ⟨fun _ member => absurd member List.not_mem_nil, List.nodup_nil, ?_⟩
    (fun _ member => absurd member List.not_mem_nil) rfl rfl
  intro i request result listed
  rw [Exchange.new, List.getElem?_nil] at listed
  cases listed

theorem orderly_of_run (frames : service.Frames sendable fits)
    (healthy : EveryStep (exchangeStep service) (Exchange.new start)
      (fun _ => Healthy service sendable fits) labels)
    (reached : run (exchangeStep service) (Exchange.new start) labels = some final) :
    Orderly service sendable fits start (history service (Exchange.new start) labels) final := by
  refine run_invariant (fun past state =>
    Orderly service sendable fits start (history service (Exchange.new start) past) state)
    orderly_new ?_ healthy reached
  intro past state label next arrived orderly allowed taken
  rw [history, emitted_concat arrived]
  exact orderly.step frames allowed (exchangeStep_eq_some service taken)

namespace Orderly

variable {served : List (Dispatch Request Response)}

theorem once (orderly : Orderly service sendable fits start served final) :
    (served.map Dispatch.caller).Nodup := by
  cases orderly.situation with
  | idle settled | asking settled => exact settled.once
  | @answering i request response earlier settled alone framed logged =>
      have unfinished : ∃ phase : CallPhase Request Response Error,
          final.calls[i]? = some phase ∧ phase.isReturned = false := by
        rcases alone.holding with writing | ⟨_, reading⟩
        · exact ⟨_, writing, rfl⟩
        · exact ⟨_, reading, rfl⟩
      rcases unfinished with ⟨phase, listed, still⟩
      rw [logged, List.map_append, List.map_singleton, List.nodup_append]
      refine ⟨settled.once, List.nodup_singleton _, ?_⟩
      intro caller old other new same
      rw [List.mem_singleton] at new
      rw [same, new] at old
      exact settled.absent listed still old

theorem returned (orderly : Orderly service sendable fits start served final) {i : Nat}
    {request : Request} {result : Except Error Response}
    (ended : final.calls[i]? = some (.returned request result)) :
    ∃ response, result = .ok response ∧ ⟨some i, request, response⟩ ∈ served := by
  cases orderly.situation with
  | idle settled | asking settled => exact settled.returned i request result ended
  | answering settled alone framed logged =>
      rcases settled.returned i request result ended with ⟨response, ok, old⟩
      exact ⟨response, ok, logged ▸ List.mem_append_left _ old⟩

theorem called (orderly : Orderly service sendable fits start served final) :
    ∀ entry ∈ served, ∃ i phase, entry.caller = some i ∧ final.calls[i]? = some phase ∧
      phase.request = entry.request := by
  have ended : ∀ {earlier : List (Dispatch Request Response)}, Settled earlier final.calls →
      ∀ entry ∈ earlier, ∃ i phase, entry.caller = some i ∧ final.calls[i]? = some phase ∧
        phase.request = entry.request := by
    intro earlier settled entry member
    rcases settled.listed entry member with ⟨i, caller, listed⟩
    exact ⟨i, _, caller, listed, rfl⟩
  cases orderly.situation with
  | idle settled | asking settled => exact ended settled
  | @answering i request response earlier settled alone framed logged =>
      intro entry member
      rw [logged] at member
      rcases List.mem_append.mp member with old | new
      · exact ended settled entry old
      · rw [List.mem_singleton] at new
        subst new
        rcases alone.holding with writing | ⟨_, reading⟩
        · exact ⟨i, _, rfl, writing, rfl⟩
        · exact ⟨i, _, rfl, reading, rfl⟩

end Orderly

end Runs

end Exchanges

end Library
end QomicexConnector
