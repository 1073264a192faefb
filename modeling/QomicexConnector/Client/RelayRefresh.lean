import QomicexConnector.Client.RelayCache
import QomicexConnector.Library.NumberedList

namespace QomicexConnector
namespace Client

open Library Relay

/-!
# How old relay nodes can be

The cache of `resolve_relay_nodes` under calls that overlap: a client may create and join
several rooms at once, and a call gives up the lock on the cache while it fetches.  Two calls
that find no fresh list both fetch, and the slower one replaces the list of the faster one,
even by an older time.  What a caller gets is bounded all the same.
-/

namespace ScaffoldingClient

/-- A call has read the clock, has read the cache in vain, or has returned. -/
inductive ResolvePhase where
  | timed (now : Instant)
  | fetching (now : Instant) (cached : Option (Instant × List String))
  | returned (now : Instant) (nodes : List String)
  deriving DecidableEq

def ResolvePhase.now : ResolvePhase → Instant
  | .timed now | .fetching now _ | .returned now _ => now

/-- A client and the calls that have begun, numbered as they begin. -/
structure Resolving where
  client : ScaffoldingClient
  calls : List ResolvePhase

/-- `begin` reads the clock, `read` the cache; `finish` is the fetch and what follows. -/
inductive ResolveStep where
  | begin (now : Instant)
  | read (i : Nat)
  | finish (i : Nat) (locale : Option String) (service : HttpService)

/-- The end of `resolve_relay_nodes`, with the cache as it was read at the beginning. -/
def settle (client : ScaffoldingClient) (now : Instant) (cached : Option (Instant × List String))
    (nodes : List String) : List String × ScaffoldingClient :=
  if nodes = [] then
    match cached with
    | some (_, stale) => if stale ≠ [] then (stale, client) else (nodes, client)
    | none => (nodes, client)
  else (nodes, { client with cachedRelayNodes := some (now, nodes) })

def resolveStep (fromStr : String → Option Json) (state : Resolving) :
    ResolveStep → Option Resolving
  | .begin now => some { state with calls := state.calls ++ [.timed now] }
  | .read i =>
      match state.calls[i]? with
      | some (.timed now) =>
          match state.client.cachedAnswer now with
          | some nodes => some { state with calls := state.calls.set i (.returned now nodes) }
          | none =>
              some { state with
                calls := state.calls.set i (.fetching now state.client.cachedRelayNodes) }
      | _ => none
  | .finish i locale service =>
      match state.calls[i]? with
      | some (.fetching now cached) =>
          let settled := state.client.settle now cached
            (state.client.freshNodes fromStr ⟨now, locale, service⟩)
          some ⟨settled.2, state.calls.set i (.returned now settled.1)⟩
      | _ => none

variable {fromStr : String → Option Json}

/-- The steps of a call that nothing comes between are `resolve_relay_nodes`. -/
theorem resolve_alone (client : ScaffoldingClient) (call : ResolveCall)
    (others : List ResolvePhase) :
    ∃ steps, run (resolveStep fromStr) ⟨client, others⟩
        (.begin call.now :: .read others.length :: steps) =
      some ⟨(client.resolveRelayNodes fromStr call).2,
        others ++ [.returned call.now (client.resolveRelayNodes fromStr call).1]⟩ := by
  have last (phase : ResolvePhase) : (others ++ [phase])[others.length]? = some phase :=
    List.getElem?_concat_length
  have put (phase other : ResolvePhase) :
      (others ++ [phase]).set others.length other = others ++ [other] := by
    rw [List.set_append_right _ _ (Nat.le_refl _), Nat.sub_self]
    rfl
  cases answered : client.cachedAnswer call.now with
  | some nodes =>
      refine ⟨[], ?_⟩
      simp only [run, resolveStep, Option.bind_some, last, answered, put, resolveRelayNodes]
  | none =>
      refine ⟨[.finish others.length call.locale call.service], ?_⟩
      simp only [run, resolveStep, Option.bind_some, last, answered, put, resolveRelayNodes]
      rfl

/-! ## What a step can do -/

inductive ResolveMove (fromStr : String → Option Json) (state : Resolving) :
    ResolveStep → Resolving → Prop
  | begin (now : Instant) :
      ResolveMove fromStr state (.begin now) { state with calls := state.calls ++ [.timed now] }
  | answered {i : Nat} {now : Instant} {nodes : List String}
      (listed : state.calls[i]? = some (.timed now))
      (fresh : state.client.cachedAnswer now = some nodes) :
      ResolveMove fromStr state (.read i)
        { state with calls := state.calls.set i (.returned now nodes) }
  | missed {i : Nat} {now : Instant} (listed : state.calls[i]? = some (.timed now)) :
      ResolveMove fromStr state (.read i)
        { state with calls := state.calls.set i (.fetching now state.client.cachedRelayNodes) }
  | finish {i : Nat} {now : Instant} {cached : Option (Instant × List String)}
      (listed : state.calls[i]? = some (.fetching now cached)) (locale : Option String)
      (service : HttpService) {answer : List String} {client : ScaffoldingClient}
      (settled : state.client.settle now cached
        (state.client.freshNodes fromStr ⟨now, locale, service⟩) = (answer, client)) :
      ResolveMove fromStr state (.finish i locale service)
        ⟨client, state.calls.set i (.returned now answer)⟩

theorem resolveStep_eq_some {state next : Resolving} {label : ResolveStep}
    (taken : resolveStep fromStr state label = some next) :
    ResolveMove fromStr state label next := by
  cases label with
  | begin now =>
      cases taken
      exact .begin now
  | read i =>
      rw [resolveStep] at taken
      split at taken
      · next now listed =>
          split at taken <;> cases taken
          · exact .answered listed ‹_›
          · exact .missed listed
      · cases taken
  | finish i locale service =>
      rw [resolveStep] at taken
      split at taken
      · next now cached listed =>
          cases taken
          exact .finish listed locale service rfl
      · cases taken

/-- The clock is read once. -/
theorem ResolveMove.now {state next : Resolving} {label : ResolveStep}
    (move : ResolveMove fromStr state label next) {j : Nat} {since : Instant}
    (read : (state.calls[j]?).map ResolvePhase.now = some since) :
    (next.calls[j]?).map ResolvePhase.now = some since := by
  have kept : ∀ {i : Nat} {phase other : ResolvePhase}, state.calls[i]? = some phase →
      other.now = phase.now → ((state.calls.set i other)[j]?).map ResolvePhase.now = some since := by
    intro i phase other listed same
    rw [getElem?_set_listed listed]
    split
    · next here =>
        rw [here, listed, Option.map_some] at read
        rw [Option.map_some, same, read]
    · exact read
  cases move with
  | begin now =>
      rcases Option.map_eq_some_iff.mp read with ⟨phase, listed, rfl⟩
      rw [List.getElem?_append_left (List.getElem?_eq_some_iff.mp listed).1, listed]
      rfl
  | answered listed fresh => exact kept listed rfl
  | missed listed => exact kept listed rfl
  | finish listed locale service settled => exact kept listed rfl

/-! ## Lists that are resolved afresh -/

/-- Nothing but the configuration decides what is resolved afresh. -/
theorem SameConfig.freshNodes {start client : ScaffoldingClient} (same : SameConfig start client)
    (call : ResolveCall) : client.freshNodes fromStr call = start.freshNodes fromStr call := by
  rcases same with ⟨cache, rfl⟩
  rfl

/-- A client resolves an empty list always or never. -/
theorem freshNodes_eq_nil_alike {client : ScaffoldingClient} {call : ResolveCall}
    (empty : client.freshNodes fromStr call = []) (other : ResolveCall) :
    client.freshNodes fromStr other = [] := by
  rw [ScaffoldingClient.freshNodes] at empty ⊢
  cases overridden : client.overrideRelayNodes with
  | some nodes =>
      rw [overridden] at empty
      exact empty
  | none =>
      rw [overridden] at empty
      have some := RelayNodeProvider.fetch_ne_nil fromStr (client.provider call.locale) call.service []
      exact absurd (List.append_eq_nil_iff.mp empty).1 some

/-- The list was resolved by this call, which had read this time. -/
def ResolvedBy (fromStr : String → Option Json) (start : ScaffoldingClient)
    (past : List ResolveStep) (state : Resolving) (j : Nat) (since : Instant)
    (nodes : List String) : Prop :=
  (state.calls[j]?).map ResolvePhase.now = some since ∧
    ∃ locale service, .finish j locale service ∈ past ∧
      nodes = start.freshNodes fromStr ⟨since, locale, service⟩

/-- Every list that is cached, or was when a call looked, was resolved and is not empty; every
list that was returned was resolved by its own call, or by one that is less than the lifetime
of the cache behind. -/
structure Recent (fromStr : String → Option Json) (start : ScaffoldingClient)
    (past : List ResolveStep) (state : Resolving) : Prop where
  config : SameConfig start state.client
  cached : ∀ since nodes, state.client.cachedRelayNodes = some (since, nodes) → nodes ≠ [] ∧
    ∃ j, ResolvedBy fromStr start past state j since nodes
  seen : ∀ (i : Nat) now since nodes,
    state.calls[i]? = some (.fetching now (some (since, nodes))) → nodes ≠ [] ∧
      ∃ j, ResolvedBy fromStr start past state j since nodes
  returned : ∀ (i : Nat) now nodes, state.calls[i]? = some (.returned now nodes) →
    ∃ j since, ResolvedBy fromStr start past state j since nodes ∧
      (j = i ∨ now - since < relayNodeCacheTtl)

theorem recent_new {client : ScaffoldingClient} (empty : client.cachedRelayNodes = none) :
    Recent fromStr client [] ⟨client, []⟩ where
  config := ⟨client.cachedRelayNodes, rfl⟩
  cached since nodes found := by
    rw [empty] at found
    cases found
  seen _ _ _ _ listed := by cases listed
  returned _ _ _ listed := by cases listed

section Step

variable {start : ScaffoldingClient} {past : List ResolveStep} {state next : Resolving}
  {label : ResolveStep}

theorem ResolvedBy.step {j : Nat} {since : Instant} {nodes : List String}
    (resolved : ResolvedBy fromStr start past state j since nodes)
    (move : ResolveMove fromStr state label next) :
    ResolvedBy fromStr start (past ++ [label]) next j since nodes := by
  rcases resolved with ⟨read, locale, service, listed, same⟩
  exact ⟨move.now read, locale, service, List.mem_append_left _ listed, same⟩

/-- The branch that falls back to an expired list is never taken. -/
theorem Recent.settled (recent : Recent fromStr start past state) {i : Nat} {now : Instant}
    {cached : Option (Instant × List String)} (listed : state.calls[i]? = some (.fetching now cached))
    (call : ResolveCall) :
    let nodes := start.freshNodes fromStr call
    state.client.settle now cached (state.client.freshNodes fromStr call) =
      (nodes, if nodes = [] then state.client
        else { state.client with cachedRelayNodes := some (now, nodes) }) := by
  intro nodes
  rw [recent.config.freshNodes, settle.eq_def]
  by_cases empty : nodes = []
  · rw [if_pos empty, if_pos empty]
    cases cached with
    | none => rfl
    | some entry =>
        rcases recent.seen i now entry.1 entry.2 listed with ⟨nonempty, j, _, locale, service, _, same⟩
        exact absurd (same.trans (freshNodes_eq_nil_alike empty _)) nonempty
  · rw [if_neg empty, if_neg empty]

theorem Recent.step (recent : Recent fromStr start past state)
    (move : ResolveMove fromStr state label next) :
    Recent fromStr start (past ++ [label]) next := by
  have again : ∀ {since : Instant} {nodes : List String},
      (∃ j, ResolvedBy fromStr start past state j since nodes) →
        ∃ j, ResolvedBy fromStr start (past ++ [label]) next j since nodes :=
    fun ⟨j, resolved⟩ => ⟨j, resolved.step move⟩
  have seen : ∀ (i : Nat) now since nodes,
      state.calls[i]? = some (.fetching now (some (since, nodes))) →
        nodes ≠ [] ∧ ∃ j, ResolvedBy fromStr start (past ++ [label]) next j since nodes :=
    fun i now since nodes listed => (recent.seen i now since nodes listed).imp id again
  have returned : ∀ (i : Nat) now nodes, state.calls[i]? = some (.returned now nodes) →
      ∃ j since, ResolvedBy fromStr start (past ++ [label]) next j since nodes ∧
        (j = i ∨ now - since < relayNodeCacheTtl) := by
    intro i now nodes listed
    rcases recent.returned i now nodes listed with ⟨j, since, resolved, near⟩
    exact ⟨j, since, resolved.step move, near⟩
  have cached : ∀ since nodes, state.client.cachedRelayNodes = some (since, nodes) → nodes ≠ [] ∧
      ∃ j, ResolvedBy fromStr start (past ++ [label]) next j since nodes :=
    fun since nodes found => (recent.cached since nodes found).imp id again
  cases move with
  | begin now =>
      refine ⟨recent.config, cached, ?_, ?_⟩
      · intro i now since nodes listed
        rcases getElem?_concat listed with old | ⟨_, new⟩
        · exact seen i now since nodes old
        · cases new
      · intro i now nodes listed
        rcases getElem?_concat listed with old | ⟨_, new⟩
        · exact returned i now nodes old
        · cases new
  | @answered i now nodes listed fresh =>
      refine ⟨recent.config, cached, ?_, ?_⟩
      · intro j _ since others found
        rw [getElem?_set_listed listed] at found
        split at found
        · cases found
        · exact seen j _ since others found
      · intro j _ others found
        rw [getElem?_set_listed listed] at found
        split at found
        · next here =>
            cases found
            rw [cachedAnswer] at fresh
            split at fresh
            · next since kept known =>
                split at fresh <;> cases fresh
                rcases cached since _ known with ⟨_, origin, resolved⟩
                exact ⟨origin, since, resolved, .inr (And.right ‹_›)⟩
            · cases fresh
        · exact returned j _ others found
  | @missed i now listed =>
      refine ⟨recent.config, cached, ?_, ?_⟩
      · intro j _ since nodes found
        rw [getElem?_set_listed listed] at found
        split at found
        · rw [Option.some.injEq, ResolvePhase.fetching.injEq] at found
          exact cached since nodes found.2
        · exact seen j _ since nodes found
      · intro j _ nodes found
        rw [getElem?_set_listed listed] at found
        split at found
        · cases found
        · exact returned j _ nodes found
  | @finish i now snapshot listed locale service answer client settled =>
      rw [recent.settled listed, Prod.mk.injEq] at settled
      rcases settled with ⟨rfl, rfl⟩
      have own (client : ScaffoldingClient) :
          ResolvedBy fromStr start (past ++ [.finish i locale service])
            ⟨client,
              state.calls.set i (.returned now (start.freshNodes fromStr ⟨now, locale, service⟩))⟩
            i now (start.freshNodes fromStr ⟨now, locale, service⟩) := by
        refine ⟨?_, locale, service, List.mem_append_right _ List.mem_cons_self, rfl⟩
        rw [getElem?_set_listed listed, if_pos rfl]
        rfl
      refine ⟨?_, ?_, ?_, ?_⟩
      · rcases recent.config with ⟨cache, same⟩
        rw [same]
        split
        · exact ⟨cache, rfl⟩
        · exact ⟨_, rfl⟩
      · intro since nodes found
        dsimp only at found
        split at found
        · exact cached since nodes found
        · next some =>
            cases found
            exact ⟨some, i, own _⟩
      · intro j _ since nodes found
        rw [getElem?_set_listed listed] at found
        split at found
        · cases found
        · exact seen j _ since nodes found
      · intro j _ nodes found
        rw [getElem?_set_listed listed] at found
        split at found
        · next here =>
            cases found
            exact ⟨i, now, own _, .inl here.symm⟩
        · exact returned j _ nodes found

end Step

/-- However the calls overlap and whatever the services answer, a caller gets a list that some
call has resolved, and unless it is the caller's own, that call had read the clock less than
300 s before.  No expired list is handed out.  The additional nodes are at the end of every
list, and without override nodes something stands before them. -/
theorem answers_recent (fromStr : String → Option Json) {client : ScaffoldingClient}
    (empty : client.cachedRelayNodes = none) {labels : List ResolveStep} {final : Resolving}
    (reached : run (resolveStep fromStr) ⟨client, []⟩ labels = some final) {i : Nat}
    {now : Instant} {nodes : List String}
    (returned : final.calls[i]? = some (.returned now nodes)) :
    (∃ j since, ResolvedBy fromStr client labels final j since nodes ∧
        (j = i ∨ now - since < secs 300)) ∧
      ∃ own, nodes = own ++ client.additionalRelayNodes.getD [] ∧
        (client.overrideRelayNodes = none → own ≠ []) := by
  have recent : Recent fromStr client labels final :=
    history_invariant (Recent fromStr client) (recent_new empty)
      (fun _ _ _ _ _ before taken => before.step (resolveStep_eq_some taken)) reached
  rcases recent.returned i now nodes returned with ⟨j, since, resolved, near⟩
  refine ⟨⟨j, since, resolved, near⟩, ?_⟩
  rcases resolved with ⟨_, locale, service, _, rfl⟩
  rw [ScaffoldingClient.freshNodes]
  cases client.overrideRelayNodes with
  | some nodes => exact ⟨nodes, rfl, fun unset => by cases unset⟩
  | none => exact ⟨_, rfl, fun _ => RelayNodeProvider.fetch_ne_nil _ _ _ _⟩

/-- Two calls find no list and fetch; the second one to begin is the first one to finish. -/
def overlappingCalls : List ResolveStep :=
  [.begin 0, .read 0, .begin 1, .read 1, .finish 1 none sampleCalls.1.service,
    .finish 0 none sampleCalls.2.service, .begin (secs 299), .read 2]

/-- The slower call has replaced the list, and a third call gets what it has resolved. -/
theorem answers_recent_overlapping :
    ∃ final, run (resolveStep sampleFromStr) ⟨new none none none none, []⟩ overlappingCalls =
        some final ∧
      final.calls[2]? = some (.returned (secs 299) defaultNodes) ∧
      ∃ j since, ResolvedBy sampleFromStr (new none none none none) overlappingCalls final j since
        defaultNodes ∧ (j = 2 ∨ secs 299 - since < secs 300) := by
  rcases Option.isSome_iff_exists.mp (by decide +kernel : (run (resolveStep sampleFromStr)
    ⟨new none none none none, []⟩ overlappingCalls).isSome = true) with ⟨final, reached⟩
  have returned : (run (resolveStep sampleFromStr) ⟨new none none none none, []⟩
      overlappingCalls).bind (fun state => state.calls[2]?) =
        some (.returned (secs 299) defaultNodes) := by decide +kernel
  rw [reached, Option.bind_some] at returned
  exact ⟨final, reached, returned, (answers_recent sampleFromStr rfl reached returned).1⟩

/-! ## How often the services are asked -/

/-- When the calls fetch that do not find their answer in the cache. -/
def fetchTimes (fromStr : String → Option Json) :
    ScaffoldingClient → List ResolveCall → List Instant
  | _, [] => []
  | client, call :: later =>
      let rest := fetchTimes fromStr (client.resolveRelayNodes fromStr call).2 later
      match client.cachedAnswer call.now with
      | some _ => rest
      | none => call.now :: rest

section Fetches

theorem sub_lt_of_early {now since lifetime : Nat} (positive : 0 < lifetime)
    (early : ¬ since + lifetime ≤ now) : now - since < lifetime := by
  omega

variable {client : ScaffoldingClient}

/-- A call that fetches caches what it has fetched, at its own time. -/
theorem resolveRelayNodes_fetching (fromStr : String → Option Json) {call : ResolveCall}
    (unset : client.overrideRelayNodes = none)
    (unanswered : client.cachedAnswer call.now = none) :
    ∃ nodes, nodes ≠ [] ∧ (client.resolveRelayNodes fromStr call).2 =
      { client with cachedRelayNodes := some (call.now, nodes) } := by
  refine ⟨client.freshNodes fromStr call, ?_, ?_⟩
  · rw [ScaffoldingClient.freshNodes, unset]
    exact List.append_ne_nil_of_left_ne_nil (RelayNodeProvider.fetch_ne_nil _ _ _ _) _
  · rw [resolveRelayNodes_refreshes unset unanswered]

/-- While a list is fresh no call fetches. -/
theorem fetchTimes_after {calls : List ResolveCall} {since : Instant} {nodes : List String}
    (unset : client.overrideRelayNodes = none)
    (cached : client.cachedRelayNodes = some (since, nodes)) (nonempty : nodes ≠ [])
    (ordered : calls.Pairwise fun first second => first.now ≤ second.now) :
    ∀ time ∈ fetchTimes fromStr client calls, since + relayNodeCacheTtl ≤ time := by
  induction calls generalizing client since nodes with
  | nil => exact fun time listed => absurd listed List.not_mem_nil
  | cons call later inductionHypothesis =>
      rw [List.pairwise_cons] at ordered
      rw [fetchTimes]
      cases answered : client.cachedAnswer call.now with
      | some answer =>
          have unchanged : (client.resolveRelayNodes fromStr call).2 = client := by
            rw [resolveRelayNodes, answered]
          dsimp only
          rw [unchanged]
          exact inductionHypothesis unset cached nonempty ordered.2
      | none =>
          have expired : since + relayNodeCacheTtl ≤ call.now := by
            by_contra early
            have fresh : call.now - since < relayNodeCacheTtl :=
              sub_lt_of_early (by decide) early
            rw [cachedAnswer, cached] at answered
            dsimp only at answered
            rw [if_pos ⟨nonempty, fresh⟩] at answered
            cases answered
          rcases resolveRelayNodes_fetching fromStr unset answered with
            ⟨fetched, filled, after⟩
          have rest : ∀ time ∈ fetchTimes fromStr
              { client with cachedRelayNodes := some (call.now, fetched) } later,
                call.now + relayNodeCacheTtl ≤ time :=
            inductionHypothesis unset rfl filled ordered.2
          dsimp only
          rw [after]
          intro time listed
          rcases List.mem_cons.mp listed with rfl | listed
          · exact expired
          · exact (expired.trans (Nat.le_add_right _ _)).trans (rest time listed)

/-- Of calls one after the other, those that ask the services are 300 s apart, whatever the
answers are: a failure is not asked again at once. -/
theorem fetches_apart (fromStr : String → Option Json) (unset : client.overrideRelayNodes = none)
    {calls : List ResolveCall}
    (ordered : calls.Pairwise fun first second => first.now ≤ second.now) :
    (fetchTimes fromStr client calls).Pairwise fun first second =>
      first + secs 300 ≤ second := by
  induction calls generalizing client with
  | nil => exact List.Pairwise.nil
  | cons call later inductionHypothesis =>
      rw [List.pairwise_cons] at ordered
      rw [fetchTimes]
      cases answered : client.cachedAnswer call.now with
      | some answer =>
          have unchanged : (client.resolveRelayNodes fromStr call).2 = client := by
            rw [resolveRelayNodes, answered]
          dsimp only
          rw [unchanged]
          exact inductionHypothesis unset ordered.2
      | none =>
          rcases resolveRelayNodes_fetching fromStr unset answered with
            ⟨fetched, filled, after⟩
          have rest : ∀ time ∈ fetchTimes fromStr
              { client with cachedRelayNodes := some (call.now, fetched) } later,
                call.now + relayNodeCacheTtl ≤ time :=
            fetchTimes_after unset rfl filled ordered.2
          dsimp only
          rw [after, List.pairwise_cons]
          exact ⟨rest, inductionHypothesis unset ordered.2⟩

end Fetches

/-- The last two of four calls are answered by the cache; the second one was not. -/
theorem fetches_apart_sample :
    fetchTimes sampleFromStr (new none none none none)
        [sampleCalls.1, sampleCalls.2, ⟨secs 400, none, sampleCalls.1.service⟩,
          ⟨secs 600, none, sampleCalls.1.service⟩] = [0, secs 301] ∧
      [0, secs 301].Pairwise fun first second => first + secs 300 ≤ second := by
  have times : fetchTimes sampleFromStr (new none none none none)
      [sampleCalls.1, sampleCalls.2, ⟨secs 400, none, sampleCalls.1.service⟩,
        ⟨secs 600, none, sampleCalls.1.service⟩] = [0, secs 301] := by decide +kernel
  refine ⟨times, ?_⟩
  rw [← times]
  refine fetches_apart sampleFromStr rfl ?_
  decide

end ScaffoldingClient

end Client
end QomicexConnector
