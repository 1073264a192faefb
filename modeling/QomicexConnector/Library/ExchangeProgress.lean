import Mathlib.Data.Nat.Init
import QomicexConnector.Library.LockedExchange

namespace QomicexConnector
namespace Library

/-!
# Bringing the calls over one connection to an end

From every state of a run in which no call has failed, as long as the server runs, there
is a way to go on in which every call that has begun returns: nobody waits for a lock that
is never released, and no byte of a request or response is missing.
-/

section Exchanges

variable {Request Response Error State : Type}

section Runs

variable {service : Service Request Response Error State} {sendable : Request → Prop}
  {fits : Response → Prop} {start : State} {labels : List (ExchangeStep Request Error)}
  {final : Exchange Request Response Error State}

/-- The steps that neither begin a call nor fail one nor stop the server. -/
def ExchangeStep.goesOn : ExchangeStep Request Error → Bool
  | .call _ | .failWrite _ _ | .giveUp _ _ _ | .stopServer => false
  | _ => true

/-- A run of such steps leads from one state to another. -/
def GoesOnTo (service : Service Request Response Error State)
    (state next : Exchange Request Response Error State) : Prop :=
  ∃ labels : List (ExchangeStep Request Error), (∀ label ∈ labels, label.goesOn = true) ∧
    run (exchangeStep service) state labels = some next

namespace GoesOnTo

variable {state middle next : Exchange Request Response Error State}

theorem refl (state : Exchange Request Response Error State) : GoesOnTo service state state :=
  ⟨[], fun _ member => absurd member List.not_mem_nil, rfl⟩

theorem trans (first : GoesOnTo service state middle) (second : GoesOnTo service middle next) :
    GoesOnTo service state next := by
  rcases first with ⟨labels, goOn, reached⟩
  rcases second with ⟨more, alsoGoOn, arrived⟩
  refine ⟨labels ++ more, ?_, run_append_eq_some.mpr ⟨middle, reached, arrived⟩⟩
  intro label member
  exact (List.mem_append.mp member).elim (goOn label) (alsoGoOn label)

theorem step {label : ExchangeStep Request Error} (goesOn : label.goesOn = true)
    (taken : exchangeStep service state label = some next) : GoesOnTo service state next := by
  refine ⟨[label], ?_, run_cons_eq_some.mpr ⟨next, taken, rfl⟩⟩
  intro other member
  rw [List.mem_singleton] at member
  exact member ▸ goesOn

/-- Where the handlers' responses can always be framed, such a run is a healthy one. -/
theorem orderly (frames : service.Frames sendable fits)
    (framed : ∀ request handlers, sendable request → fits (service.serve request handlers).1)
    {served : List (Dispatch Request Response)}
    (before : Orderly service sendable fits start served state)
    (goes : GoesOnTo service state next) :
    ∃ more, Orderly service sendable fits start more next := by
  rcases goes with ⟨labels, goOn, reached⟩
  induction labels generalizing state served with
  | nil =>
      rw [run_nil, Option.some.injEq] at reached
      exact ⟨served, reached ▸ before⟩
  | cons label later inductionHypothesis =>
      rcases run_cons_eq_some.mp reached with ⟨between, taken, arrived⟩
      have healthy : Healthy service sendable fits state label := by
        have allowed := goOn label List.mem_cons_self
        cases label with
        | call request | failWrite i error | giveUp i count error => cases allowed
        | serve =>
            intro request rest decoded
            exact framed request state.handlers
              (before.situation.sendable_of_decoded frames decoded)
        | _ => trivial
      exact inductionHypothesis (before.step frames healthy (exchangeStep_eq_some service taken))
        (fun other member => goOn other (List.mem_cons_of_mem _ member)) arrived

end GoesOnTo

/-- A call that writes gets to its reading. -/
theorem goesOn_writing {state : Exchange Request Response Error State} {i : Nat} {request : Request}
    {unsent : List UInt8} (listed : state.calls[i]? = some (.writing request unsent)) :
    GoesOnTo service state
      { state.put i (.reading request) with toServer := state.toServer ++ unsent } := by
  have sent : exchangeStep service state (.send i unsent.length) =
      some { state.put i (.writing request []) with toServer := state.toServer ++ unsent } := by
    rw [exchangeStep, listed]
    dsimp only
    rw [List.drop_length, List.take_length]
  have now : ({ state.put i (.writing request []) with
      toServer := state.toServer ++ unsent } : Exchange Request Response Error State).calls[i]? =
        some (.writing request []) := by
    rw [Exchange.put, getElem?_set_listed listed, if_pos rfl]
  have flushed : exchangeStep service
      { state.put i (.writing request []) with toServer := state.toServer ++ unsent } (.flush i) =
        some { state.put i (.reading request) with toServer := state.toServer ++ unsent } := by
    rw [exchangeStep, now]
    simp only [Exchange.put, List.set_set]
  exact (GoesOnTo.step rfl sent).trans (GoesOnTo.step rfl flushed)

/-- A request that was sent whole is answered. -/
theorem goesOn_asked {state : Exchange Request Response Error State}
    (frames : service.Frames sendable fits) {request : Request} (admissible : sendable request)
    (asked : state.asked = service.encodeRequest request) (serving : state.serving = true)
    (idle : state.outgoing = []) :
    ∃ rest : List (List UInt8), rest.flatten = [] ∧
      GoesOnTo service state
        { state with
          toServer := []
          atServer := rest
          outgoing := service.encodeResponse (service.serve request state.handlers).1
          handlers := (service.serve request state.handlers).2 } := by
  have whole : (state.atServer ++ [state.toServer]).flatten =
      service.encodeRequest request ++ [] := by
    rw [List.flatten_append, List.flatten_singleton, List.append_nil, ← asked, Exchange.asked]
  rcases frames.requests.whole request admissible _ [] whole with ⟨rest, left, decoded⟩
  have delivered : exchangeStep service state (.deliver state.toServer.length) =
      some { state with toServer := [], atServer := state.atServer ++ [state.toServer] } := by
    rw [exchangeStep, List.drop_length, List.take_length]
  have served : exchangeStep service
      { state with toServer := [], atServer := state.atServer ++ [state.toServer] } .serve =
        some { state with
          toServer := []
          atServer := rest
          outgoing := service.encodeResponse (service.serve request state.handlers).1
          handlers := (service.serve request state.handlers).2 } := by
    rw [exchangeStep, if_pos ⟨serving, idle⟩]
    dsimp only
    rw [decoded]
  exact ⟨rest, left, (GoesOnTo.step rfl delivered).trans (GoesOnTo.step rfl served)⟩

/-- A response that was given is read. -/
theorem goesOn_answered {state : Exchange Request Response Error State}
    (frames : service.Frames sendable fits) {i : Nat} {request : Request} {response : Response}
    (listed : state.calls[i]? = some (.reading request)) (framed : fits response)
    (answered : state.answered = service.encodeResponse response) :
    ∃ rest : List (List UInt8),
      GoesOnTo service state
        { state.put i (.returned request (.ok response)) with
          outgoing := []
          toClient := []
          atClient := rest } := by
  have whole : (state.atClient ++ [state.toClient ++ state.outgoing]).flatten =
      service.encodeResponse response ++ [] := by
    rw [List.flatten_append, List.flatten_singleton, List.append_nil, ← answered,
      Exchange.answered]
  rcases frames.responses.whole response framed _ [] whole with ⟨rest, left, decoded⟩
  have written : exchangeStep service state (.answer state.outgoing.length) =
      some { state with outgoing := [], toClient := state.toClient ++ state.outgoing } := by
    rw [exchangeStep, List.drop_length, List.take_length]
  have delivered : exchangeStep service
      { state with outgoing := [], toClient := state.toClient ++ state.outgoing }
        (.deliverAnswer (state.toClient ++ state.outgoing).length) =
      some { state with
        outgoing := []
        toClient := []
        atClient := state.atClient ++ [state.toClient ++ state.outgoing] } := by
    rw [exchangeStep, List.drop_length, List.take_length]
  have received : exchangeStep service
      { state with
        outgoing := []
        toClient := []
        atClient := state.atClient ++ [state.toClient ++ state.outgoing] } (.receive i) =
        some { state.put i (.returned request (.ok response)) with
          outgoing := []
          toClient := []
          atClient := rest } := by
    rw [exchangeStep, listed]
    dsimp only
    rw [decoded]
    rfl
  exact ⟨rest, ((GoesOnTo.step rfl written).trans (GoesOnTo.step rfl delivered)).trans
    (GoesOnTo.step rfl received)⟩

/-- The number of calls that have not returned. -/
def Exchange.pending (state : Exchange Request Response Error State) : Nat :=
  state.calls.countP fun phase => !phase.isReturned

/-- Ending a call leaves one fewer to end. -/
theorem pending_set {state next : Exchange Request Response Error State} {i : Nat}
    {before : CallPhase Request Response Error} (listed : state.calls[i]? = some before)
    (unfinished : before.isReturned = false) {request : Request} {result : Except Error Response}
    (ended : next.calls = state.calls.set i (.returned request result)) :
    next.pending < state.pending := by
  rcases List.getElem?_eq_some_iff.mp listed with ⟨inside, found⟩
  have counted : 0 < state.pending := by
    rw [Exchange.pending, List.countP_pos_iff]
    exact ⟨before, List.mem_of_getElem? listed, by rw [unfinished]; rfl⟩
  have lost : next.pending = state.pending - 1 := by
    rw [Exchange.pending, ended, List.countP_set inside, found, unfinished]
    rfl
  rw [lost]
  exact Nat.sub_one_lt_of_lt counted

/-- The call that has the lock gets to its reading. -/
theorem goesOn_reading {state : Exchange Request Response Error State} {i : Nat} {request : Request}
    {unsent : List UInt8} (alone : Alone state.calls i request unsent) :
    GoesOnTo service state
      { state.put i (.reading request) with toServer := state.toServer ++ unsent } := by
  rcases alone.holding with writing | ⟨rfl, reading⟩
  · exact goesOn_writing writing
  · rcases List.getElem?_eq_some_iff.mp reading with ⟨inside, found⟩
    rw [Exchange.put, ← found, List.set_getElem_self inside, List.append_nil]
    exact .refl state

/-- Wherever the call that has the lock stands, it can be brought to its end. -/
theorem goesOn_holder (frames : service.Frames sendable fits)
    (framed : ∀ request handlers, sendable request → fits (service.serve request handlers).1)
    {served : List (Dispatch Request Response)} {state : Exchange Request Response Error State}
    (situation : Situation service sendable fits served state) (serving : state.serving = true)
    {i : Nat} {phase : CallPhase Request Response Error} (listed : state.calls[i]? = some phase)
    (held : phase.holds = true) :
    ∃ next, GoesOnTo service state next ∧ next.serving = true ∧
      ∃ request result, next.calls = state.calls.set i (.returned request result) := by
  -- from a response that was given on, the call only has to read
  have answered : ∀ {request : Request} {response : Response}
      {middle : Exchange Request Response Error State}, GoesOnTo service state middle →
        middle.serving = true → middle.calls = state.calls.set i (.reading request) →
          fits response → middle.answered = service.encodeResponse response →
            ∃ next, GoesOnTo service state next ∧ next.serving = true ∧
              ∃ request result, next.calls = state.calls.set i (.returned request result) := by
    intro request response middle goes running calls fitting given
    have reading : middle.calls[i]? = some (.reading request) := by
      rw [calls, getElem?_set_listed listed, if_pos rfl]
    rcases goesOn_answered frames reading fitting given with ⟨rest, ended⟩
    refine ⟨_, goes.trans ended, running, request, .ok response, ?_⟩
    simp only [Exchange.put, calls, List.set_set]
  cases situation with
  | idle settled free => exact (Situation.not_idle listed held free).elim
  | @asking j request unsent settled alone admissible asked silent =>
      have here := alone.others i phase listed held
      subst here
      have reading : GoesOnTo service state _ := goesOn_reading alone
      rcases List.append_eq_nil_iff.mp silent with ⟨atClient, between⟩
      rcases List.append_eq_nil_iff.mp between with ⟨toClient, outgoing⟩
      have whole : ({ state.put i (.reading request) with toServer := state.toServer ++ unsent } :
          Exchange Request Response Error State).asked = service.encodeRequest request := by
        rw [← asked, Exchange.asked, Exchange.asked, List.append_assoc]
        rfl
      rcases goesOn_asked frames admissible whole serving outgoing with ⟨rest, left, goes⟩
      refine answered (reading.trans goes) serving rfl (framed _ state.handlers admissible) ?_
      rw [Exchange.answered]
      change state.atClient.flatten ++ (state.toClient ++ _) = _
      rw [atClient, toClient, List.nil_append, List.nil_append]
      rfl
  | answering settled alone fitting logged nothing given =>
      have here := alone.others i phase listed held
      subst here
      exact answered (goesOn_reading alone) serving rfl fitting given

theorem complete_of_orderly (frames : service.Frames sendable fits)
    (framed : ∀ request handlers, sendable request → fits (service.serve request handlers).1)
    {served : List (Dispatch Request Response)} {state : Exchange Request Response Error State}
    (orderly : Orderly service sendable fits start served state) (serving : state.serving = true) :
    ∃ last, GoesOnTo service state last ∧ last.calls.length = state.calls.length ∧
      ∀ phase ∈ last.calls, ∃ request response, phase = .returned request (.ok response) := by
  generalize count : state.pending = remaining
  induction remaining using Nat.strong_induction_on generalizing state served with
  | _ remaining inductionHypothesis =>
  -- ending one call, and all others after it
  have next : ∀ {i : Nat} {phase : CallPhase Request Response Error}
      {middle : Exchange Request Response Error State}, state.calls[i]? = some phase →
        phase.isReturned = false → GoesOnTo service state middle → middle.serving = true →
          (∃ request result, middle.calls = state.calls.set i (.returned request result)) →
            ∃ last, GoesOnTo service state last ∧ last.calls.length = state.calls.length ∧
              ∀ phase ∈ last.calls, ∃ request response,
                phase = .returned request (.ok response) := by
    rintro i phase middle listed unfinished goes running ⟨request, result, ended⟩
    rcases goes.orderly frames framed orderly with ⟨more, kept⟩
    have fewer := pending_set listed unfinished ended
    rcases inductionHypothesis _ (count ▸ fewer) kept running rfl with ⟨last, onward, same, all⟩
    refine ⟨last, goes.trans onward, ?_, all⟩
    rw [same, ended, List.length_set]
  by_cases lock : ∃ phase ∈ state.calls, phase.holds = true
  · rcases lock with ⟨phase, member, held⟩
    rcases List.mem_iff_getElem?.mp member with ⟨i, listed⟩
    rcases goesOn_holder frames framed orderly.situation serving listed held with
      ⟨middle, goes, running, ended⟩
    refine next listed ?_ goes running ended
    cases phase with
    | returned request result => cases held
    | _ => rfl
  by_cases open_ : ∃ phase ∈ state.calls, phase.isReturned = false
  · rcases open_ with ⟨phase, member, unfinished⟩
    rcases List.mem_iff_getElem?.mp member with ⟨i, listed⟩
    cases phase with
    | returned request result => cases unfinished
    | writing request unsent => exact absurd ⟨_, member, rfl⟩ lock
    | reading request => exact absurd ⟨_, member, rfl⟩ lock
    | waiting request =>
        have free : state.calls.any CallPhase.holds = false := by
          refine eq_false_of_ne_true fun any => ?_
          exact lock (List.any_eq_true.mp any)
        have taken : exchangeStep service state (.acquire i) =
            some (state.put i (.writing request (service.encodeRequest request))) := by
          rw [exchangeStep, listed]
          dsimp only
          rw [free]
          rfl
        have acquired := GoesOnTo.step rfl taken
        rcases acquired.orderly frames framed orderly with ⟨more, kept⟩
        have writing : (state.put i (.writing request (service.encodeRequest request))).calls[i]? =
            some (.writing request (service.encodeRequest request)) := by
          rw [Exchange.put, getElem?_set_listed listed, if_pos rfl]
        rcases goesOn_holder frames framed kept.situation serving writing rfl with
          ⟨middle, goes, running, asked, result, ended⟩
        refine next listed rfl (acquired.trans goes) running ⟨asked, result, ?_⟩
        rw [ended, Exchange.put, List.set_set]
  · refine ⟨state, .refl state, rfl, ?_⟩
    intro phase member
    cases phase with
    | returned request result =>
        rcases List.mem_iff_getElem?.mp member with ⟨i, listed⟩
        rcases orderly.returned listed with ⟨response, rfl, _⟩
        exact ⟨request, response, rfl⟩
    | waiting request | writing request unsent | reading request =>
        exact absurd ⟨_, member, rfl⟩ open_

/-- Where no call has failed and the server runs, every call can be brought to its end. -/
theorem runs_complete (frames : service.Frames sendable fits)
    (framed : ∀ request handlers, sendable request → fits (service.serve request handlers).1)
    (healthy : EveryStep (exchangeStep service) (Exchange.new start)
      (fun _ => Healthy service sendable fits) labels)
    (reached : run (exchangeStep service) (Exchange.new start) labels = some final)
    (serving : final.serving = true) :
    ∃ last, GoesOnTo service final last ∧ last.calls.length = final.calls.length ∧
      ∀ phase ∈ last.calls, ∃ request response, phase = .returned request (.ok response) :=
  complete_of_orderly frames framed (orderly_of_run frames healthy reached) serving

end Runs

end Exchanges

end Library
end QomicexConnector
