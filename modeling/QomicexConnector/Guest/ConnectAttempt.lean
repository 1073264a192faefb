import QomicexConnector.Guest.SessionIsolation

namespace QomicexConnector
namespace Guest

open Library Easytier
open QomicexConnector.Core

/-!
# What a successful attempt to connect says about the host

`try_connect_once` promises `true` only if the connection, the player ping and the
negotiation have all succeeded.  A request succeeds for it as soon as some answer has
arrived: `send_player_ping` drops the response and `negotiate_protocols` skips one with an
error status.  The main result says for which answers the promise is kept all the same, by
an attempt, by `connect` and by `join_room`.
-/

/-! ## The answers that an attempt reads -/

/-- The answers to `c:player_ping` and to `c:protocols`, if both arrive. -/
def Attempt.reads (attempt : Attempt) : Option (ProtocolResponse × ProtocolResponse) :=
  if attempt.established then
    match TcpClient.connected.receive attempt.ping with
    | (some ping, pinged) =>
        (pinged.receive attempt.protocols).1.map fun protocols => (ping, protocols)
    | (none, _) => none
  else none

/-- The attempt is established and the host answers both of its requests with status 0. -/
structure Attempt.Accepted (attempt : Attempt) (protocols : ProtocolResponse) : Prop where
  established : attempt.established = true
  answered : ∃ ping, attempt.reads = some (ping, protocols) ∧ ping.status = 0
  protocols : protocols.status = 0

/-- No answer to the player ping refuses the player. -/
def Attempt.Unrejected (attempt : Attempt) : Prop :=
  ∀ ping protocols, attempt.reads = some (ping, protocols) → ping.status = 0

/-- No answer that the attempt reads refuses its request. -/
def Attempt.Unrefused (attempt : Attempt) : Prop :=
  ∀ ping protocols, attempt.reads = some (ping, protocols) → ping.status = 0 ∧ protocols.status = 0

/-- On a fresh connection only the host's answer to the request can be read. -/
theorem receive_connected_eq_some {delivery : Delivery}
    (framed : delivery.answer.body.length < 4294967296) {response : ProtocolResponse}
    {client : TcpClient}
    (received : TcpClient.connected.receive delivery = (some response, client)) :
    response = delivery.answer ∧ client = TcpClient.connected := by
  let call := delivery.of ⟨"", "", []⟩
  have result : (TcpClient.connected.send call).1.toOption = some response :=
    congrArg Prod.fst received
  have after : (TcpClient.connected.send call).2 = client := congrArg Prod.snd received
  have ok : (TcpClient.connected.send call).1 = .ok response := by
    cases sent : (TcpClient.connected.send call).1 with
    | error error =>
        rw [sent] at result
        cases result
    | ok other =>
        rw [sent] at result
        cases result
        rfl
  have isFramed : call.Framed := framed
  have own : response = delivery.answer := send_connected_eq_ok isFramed ok
  have answered : call.Answered := by
    intro written
    rw [TcpClient.send, TcpClient.connected] at ok
    dsimp only at ok
    cases outcome : call.written with
    | error message =>
        rw [outcome] at written
        cases written
    | ok _ =>
        rw [outcome] at ok
        dsimp only at ok
        split at ok
        · next other rest decoded =>
            cases ok
            -- the whole frame has been read, so that many bytes have arrived
            have shown := (decodeResponse_eq_ok exactReads_readExactAsync decoded).1
            rw [List.nil_append, List.flatten_singleton] at shown
            have lengths := congrArg List.length shown
            rw [List.length_take, List.length_append, own] at lengths
            change (serializeResponse delivery.answer).length ≤ delivery.arrived
            change min delivery.arrived (serializeResponse delivery.answer).length = _ at lengths
            omega
        · cases ok
  exact ⟨own, after.symm.trans (send_answered framed answered)⟩

/-- The answers that an attempt reads are those of the host to its own requests. -/
theorem Attempt.reads_own {attempt : Attempt}
    (pingFramed : attempt.ping.answer.body.length < 4294967296)
    (protocolsFramed : attempt.protocols.answer.body.length < 4294967296)
    {ping protocols : ProtocolResponse} (read : attempt.reads = some (ping, protocols)) :
    ping = attempt.ping.answer ∧ protocols = attempt.protocols.answer := by
  rw [Attempt.reads] at read
  split at read
  · split at read
    · next response pinged received =>
        rcases receive_connected_eq_some pingFramed received with ⟨own, fresh⟩
        subst fresh
        rcases Option.map_eq_some_iff.mp read with ⟨answer, negotiated, same⟩
        cases same
        refine ⟨own, ?_⟩
        exact (receive_connected_eq_some protocolsFramed (Prod.ext negotiated rfl)).1
    · cases read
  · cases read

theorem Attempt.established_of_reads {attempt : Attempt}
    {answers : ProtocolResponse × ProtocolResponse} (read : attempt.reads = some answers) :
    attempt.established = true := by
  by_contra refused
  rw [Attempt.reads, if_neg refused] at read
  cases read

/-- An attempt comes through as soon as both answers arrive. -/
theorem Attempt.comesThrough_map (attempt : Attempt) :
    attempt.comesThrough.map Prod.fst = attempt.reads.map Prod.snd := by
  rw [Attempt.comesThrough, Attempt.reads]
  split
  · cases TcpClient.connected.receive attempt.ping with
    | mk answered pinged =>
        cases answered with
        | none => rfl
        | some ping =>
            dsimp only
            cases pinged.receive attempt.protocols with
            | mk response client =>
                cases response with
                | none => rfl
                | some protocols => rfl
  · rfl

theorem Attempt.reads_of_comesThrough {attempt : Attempt} {response : ProtocolResponse}
    {client : TcpClient} (through : attempt.comesThrough = some (response, client)) :
    ∃ ping, attempt.reads = some (ping, response) := by
  have same := attempt.comesThrough_map
  rw [through] at same
  rcases Option.map_eq_some_iff.mp same.symm with ⟨⟨ping, protocols⟩, read, isResponse⟩
  cases isResponse
  exact ⟨ping, read⟩

theorem Attempt.comesThrough_of_reads {attempt : Attempt} {ping protocols : ProtocolResponse}
    (read : attempt.reads = some (ping, protocols)) :
    ∃ client, attempt.comesThrough = some (protocols, client) := by
  have same := attempt.comesThrough_map
  rw [read] at same
  rcases Option.map_eq_some_iff.mp same with ⟨⟨response, client⟩, through, isResponse⟩
  cases isResponse
  exact ⟨client, through⟩

/-! ## The attempts of a call -/

/-- The attempts over the port forward until the token is cancelled. -/
def triedAttempts (tries : Nat → Option Attempt) : Nat → List Attempt
  | 0 => []
  | remaining + 1 =>
      match tries remaining with
      | none => []
      | some attempt => attempt :: triedAttempts tries remaining

/-- The attempt with which a guest joins, if it does: the first one whose requests are both
answered. -/
def JoinOutcome.joining (outcome : JoinOutcome) : Option Attempt :=
  (outcome.direct :: triedAttempts outcome.tries 10).find? fun attempt => attempt.reads.isSome

theorem firstThrough_map (tries : Nat → Option Attempt) (remaining : Nat) :
    (firstThrough tries remaining).map Prod.fst =
      ((triedAttempts tries remaining).find? fun attempt => attempt.reads.isSome).bind
        fun attempt => attempt.reads.map Prod.snd := by
  induction remaining with
  | zero => rfl
  | succ remaining inductionHypothesis =>
      rw [firstThrough, triedAttempts]
      cases tries remaining with
      | none => rfl
      | some attempt =>
          have same := attempt.comesThrough_map
          dsimp only
          rw [List.find?_cons]
          cases read : attempt.reads with
          | none =>
              rw [read] at same
              rw [Option.map_eq_none_iff.mp same]
              exact inductionHypothesis
          | some answers =>
              rw [read] at same
              rcases Option.map_eq_some_iff.mp same with ⟨joined, through, isResponse⟩
              rw [through]
              dsimp only [Option.isSome, Option.bind]
              rw [read]
              exact congrArg some isResponse

/-- The answer with which a guest joins is one that the joining attempt reads. -/
theorem JoinOutcome.joining_of_comesThrough {outcome : JoinOutcome} {forwarded : Bool}
    {response : ProtocolResponse} {client : TcpClient}
    (through : outcome.comesThrough = some (forwarded, response, client)) :
    ∃ attempt ping, outcome.joining = some attempt ∧ attempt.reads = some (ping, response) := by
  rw [JoinOutcome.comesThrough] at through
  rw [JoinOutcome.joining, List.find?_cons]
  cases direct : outcome.direct.comesThrough with
  | some joined =>
      rw [direct] at through
      cases through
      rcases Attempt.reads_of_comesThrough direct with ⟨ping, read⟩
      rw [read]
      exact ⟨outcome.direct, ping, rfl, read⟩
  | none =>
      rw [direct] at through
      rcases Option.map_eq_some_iff.mp through with ⟨joined, retried, same⟩
      cases same
      have unread : outcome.direct.reads = none := by
        have same := outcome.direct.comesThrough_map
        rw [direct] at same
        exact Option.map_eq_none_iff.mp same.symm
      rw [unread]
      have found := firstThrough_map outcome.tries 10
      rw [retried] at found
      rcases Option.bind_eq_some_iff.mp found.symm with ⟨attempt, listed, answered⟩
      rcases Option.map_eq_some_iff.mp answered with ⟨⟨ping, protocols⟩, read, isResponse⟩
      cases isResponse
      exact ⟨attempt, ping, listed, read⟩

/-! ## Exactly when success means acceptance -/

section Calls

variable {Inet Uri Addr : Type} (parsers : AddressParsers Inet Uri Addr) (setup : GuestConfig)

/-- The keys that both sides have, by the host's answer to `c:protocols`. -/
def negotiatedWith (answer : ProtocolResponse) : List String :=
  negotiate (myProtocols setup.customProtocolKeys) (splitNul (fromUtf8Lossy answer.body))

/-- An attempt returns `true` only when the host has accepted all of it, with the keys of
this very answer negotiated; otherwise it leaves the client disconnected. -/
def SucceedsAccepted (guest : ScaffoldingGuest) (attempt : Attempt) : Prop :=
  match guest.tryConnectOnce setup attempt with
  | (true, joined) =>
      ∃ protocols, attempt.Accepted protocols ∧ joined.negotiated = negotiatedWith setup protocols
  | (false, failed) => failed.tcp = ⟨none⟩

/-- The ping of the attempt with which the guest joins was answered with status 0. -/
def JoinsAccepted (outcome : JoinOutcome) : Prop :=
  ∃ attempt ping protocols, outcome.joining = some attempt ∧
    attempt.reads = some (ping, protocols) ∧ ping.status = 0

/-- `join_room` from the parsed room code on: a new guest connects, and leaves again if that
fails. -/
def joinRoom (parsed : Except ScaffoldingError (String × String)) (ct : HeartbeatCt)
    (outcome : JoinOutcome) : Except ScaffoldingError ScaffoldingGuest :=
  match parsed with
  | .error error => .error error
  | .ok networkIdentity =>
      match ScaffoldingGuest.new.connect parsers setup networkIdentity ct outcome with
      | (.error error, _) => .error error
      | (.ok _, guest) => .ok guest

end Calls

section Exactly

variable {Inet Uri Addr : Type} {parsers : AddressParsers Inet Uri Addr} {setup : GuestConfig}

/-- A host that answers with status 0 decides over what is negotiated. -/
theorem negotiateProtocols_of_success {response : ProtocolResponse} (success : response.status = 0)
    (negotiated : List String) :
    negotiateProtocols setup.customProtocolKeys negotiated response =
      negotiatedWith setup response := by
  have isSuccess : response.isSuccess = true := beq_iff_eq.mpr success
  rw [negotiateProtocols, if_pos isSuccess, negotiatedWith]

theorem succeedsAccepted_iff (guest : ScaffoldingGuest) (attempt : Attempt) :
    SucceedsAccepted setup guest attempt ↔ attempt.Unrefused := by
  rw [SucceedsAccepted, ScaffoldingGuest.tryConnectOnce_eq]
  cases through : attempt.comesThrough with
  | none =>
      refine iff_of_true rfl ?_
      intro ping protocols read
      rcases Attempt.comesThrough_of_reads read with ⟨client, comes⟩
      cases through.symm.trans comes
  | some joined =>
      rcases joined with ⟨response, client⟩
      rcases Attempt.reads_of_comesThrough through with ⟨ping, read⟩
      dsimp only
      constructor
      · rintro ⟨protocols, accepted, _⟩ otherPing otherProtocols otherRead
        rcases accepted.answered with ⟨acceptedPing, acceptedRead, success⟩
        cases acceptedRead.symm.trans otherRead
        exact ⟨success, accepted.protocols⟩
      · intro unrefused
        rcases unrefused ping response read with ⟨pingSuccess, success⟩
        refine ⟨response, ⟨Attempt.established_of_reads read, ⟨ping, read, pingSuccess⟩, success⟩, ?_⟩
        exact negotiateProtocols_of_success success guest.negotiated

/-- A joining guest was accepted exactly if the joining attempt was not rejected. -/
theorem joinsAccepted_iff {outcome : JoinOutcome} {networkIdentity : String × String}
    {join : ScaffoldingGuest.Join}
    (joins : ScaffoldingGuest.Joins parsers setup networkIdentity outcome join) :
    JoinsAccepted outcome ↔ ∀ attempt, outcome.joining = some attempt → attempt.Unrejected := by
  rcases JoinOutcome.joining_of_comesThrough joins.through with ⟨attempt, ping, first, read⟩
  constructor
  · rintro ⟨other, otherPing, protocols, otherFirst, otherRead, success⟩ joining isJoining
    cases otherFirst.symm.trans isJoining
    intro joiningPing joiningProtocols joiningRead
    cases otherRead.symm.trans joiningRead
    exact success
  · intro unrejected
    exact ⟨attempt, ping, join.response, first, read, unrejected attempt first ping _ read⟩

variable (parsers setup) in
/-- The outcome lets a guest in only by an attempt whose ping was not rejected. -/
def LetsInUnrejected (networkIdentity : String × String) (outcome : JoinOutcome) : Prop :=
  (∃ join, ScaffoldingGuest.Joins parsers setup networkIdentity outcome join) →
    ∀ attempt, outcome.joining = some attempt → attempt.Unrejected

theorem connect_accepted_iff (guest : ScaffoldingGuest) (networkIdentity : String × String)
    (ct : HeartbeatCt) (outcome : JoinOutcome) :
    ((guest.connect parsers setup networkIdentity ct outcome).1 = .ok () → JoinsAccepted outcome) ↔
      (guest.easyTier.isRunning = false →
        LetsInUnrejected parsers setup networkIdentity outcome) := by
  constructor
  · rintro accepted idle ⟨join, joins⟩
    apply (joinsAccepted_iff joins).mp
    apply accepted
    rw [ScaffoldingGuest.connect_of_joins idle joins]
  · intro unrejected ok
    rcases ScaffoldingGuest.joins_of_connect_ok ok with ⟨idle, join, joins⟩
    exact (joinsAccepted_iff joins).mpr (unrejected idle ⟨join, joins⟩)

theorem joinRoom_eq_ok {parsed : Except ScaffoldingError (String × String)} {ct : HeartbeatCt}
    {outcome : JoinOutcome} :
    (∃ guest, joinRoom parsers setup parsed ct outcome = .ok guest) ↔
      ∃ networkIdentity, parsed = .ok networkIdentity ∧
        (ScaffoldingGuest.new.connect parsers setup networkIdentity ct outcome).1 = .ok () := by
  rw [joinRoom.eq_def]
  cases parsed with
  | error error =>
      constructor
      · rintro ⟨guest, ok⟩
        cases ok
      · rintro ⟨networkIdentity, ok, _⟩
        cases ok
  | ok networkIdentity =>
      dsimp only
      cases connected : ScaffoldingGuest.new.connect parsers setup networkIdentity ct outcome with
      | mk result guest =>
          cases result with
          | error error =>
              constructor
              · rintro ⟨joined, ok⟩
                cases ok
              · rintro ⟨other, same, ok⟩
                cases same
                rw [connected] at ok
                cases ok
          | ok _ =>
              refine iff_of_true ⟨guest, rfl⟩ ⟨networkIdentity, rfl, ?_⟩
              rw [connected]

theorem joinRoom_accepted_iff (parsed : Except ScaffoldingError (String × String))
    (ct : HeartbeatCt) (outcome : JoinOutcome) :
    ((∃ guest, joinRoom parsers setup parsed ct outcome = .ok guest) → JoinsAccepted outcome) ↔
      ∀ networkIdentity, parsed = .ok networkIdentity →
        LetsInUnrejected parsers setup networkIdentity outcome := by
  rw [joinRoom_eq_ok]
  constructor
  · intro accepted networkIdentity isParsed
    refine (connect_accepted_iff .new networkIdentity ct outcome).mp ?_ new_idle
    intro ok
    exact accepted ⟨networkIdentity, isParsed, ok⟩
  · rintro unrejected ⟨networkIdentity, isParsed, ok⟩
    refine (connect_accepted_iff .new networkIdentity ct outcome).mpr ?_ ok
    intro _
    exact unrejected networkIdentity isParsed

/-- Success means acceptance exactly where no answer with an error status is read: both
answers of the attempt for `try_connect_once`, the ping of the joining attempt for `connect`
and `join_room`. -/
theorem success_accepted_iff (guest : ScaffoldingGuest) (attempt : Attempt) (ct : HeartbeatCt)
    (outcome : JoinOutcome) (networkIdentity : String × String)
    (parsed : Except ScaffoldingError (String × String)) :
    (SucceedsAccepted setup guest attempt ↔ attempt.Unrefused) ∧
      (((guest.connect parsers setup networkIdentity ct outcome).1 = .ok () →
          JoinsAccepted outcome) ↔
        (guest.easyTier.isRunning = false →
          LetsInUnrejected parsers setup networkIdentity outcome)) ∧
      (((∃ joined, joinRoom parsers setup parsed ct outcome = .ok joined) →
          JoinsAccepted outcome) ↔
        ∀ networkIdentity, parsed = .ok networkIdentity →
          LetsInUnrejected parsers setup networkIdentity outcome) :=
  ⟨succeedsAccepted_iff guest attempt, connect_accepted_iff guest networkIdentity ct outcome,
    joinRoom_accepted_iff parsed ct outcome⟩

end Exactly

/-- A host whose handler rejects the player; it negotiates all the same. -/
def sampleRejection : Attempt := ⟨true, sampleDelivery ⟨255, []⟩, sampleDelivery sampleProtocols⟩

/-- The rejected player is in the room all the same. -/
theorem rejected_player_joins :
    (ScaffoldingGuest.new.tryConnectOnce sampleSetup sampleRejection).1 = true ∧
      ¬ SucceedsAccepted sampleSetup .new sampleRejection ∧
      (∃ joined, joinRoom sampleParsers sampleSetup (.ok ("first", "secret")) 0
        { sampleJoin 7 "10.0.0.1" sampleProtocols with direct := sampleRejection } = .ok joined) ∧
      ¬ JoinsAccepted
        { sampleJoin 7 "10.0.0.1" sampleProtocols with direct := sampleRejection } := by
  have read : sampleRejection.reads = some (⟨255, []⟩, sampleProtocols) := by decide +kernel
  refine ⟨by decide +kernel, ?_, ?_, ?_⟩
  · intro accepted
    have refused := ((succeedsAccepted_iff .new sampleRejection).mp accepted _ _ read).1
    cases refused
  · apply joinRoom_eq_ok.mpr
    exact ⟨("first", "secret"), rfl, by decide +kernel⟩
  · rintro ⟨attempt, ping, protocols, first, answered, success⟩
    have isFirst : JoinOutcome.joining { sampleJoin 7 "10.0.0.1" sampleProtocols with
        direct := sampleRejection } = some sampleRejection := by
      rw [JoinOutcome.joining, List.find?_cons, read]
      rfl
    cases isFirst.symm.trans first
    cases read.symm.trans answered
    cases success

end Guest
end QomicexConnector
