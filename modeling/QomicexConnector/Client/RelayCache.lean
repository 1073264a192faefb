import QomicexConnector.Library.LabelledRun
import QomicexConnector.Relay.Provider

namespace QomicexConnector
namespace Client

open Library Relay

/-!
# The cached relay nodes of a client

`ScaffoldingClient::resolve_relay_nodes` of `client.rs` and the runs of its calls.  A
fetch never reports a failure to this function: `fetch_from` has already replaced it by
the built-in nodes.  The branch that falls back to the old cached list is therefore dead
for a client without override nodes, and a failed refresh overwrites the list.
-/

/-- The part of `ScaffoldingClient` that concerns relay nodes. -/
structure ScaffoldingClient where
  overrideRelayNodes : Option (List String)
  additionalRelayNodes : Option (List String)
  userAgent : Option String
  preferredRegion : Option String
  relayEndpoint : Option String
  cachedRelayNodes : Option (Instant × List String)
  deriving DecidableEq, Repr

/-- `RELAY_NODE_CACHE_TTL`. -/
def relayNodeCacheTtl : Nat := secs 300

/-- One call of `resolve_relay_nodes`: when it is made, the locale of the system and how
the services answer its requests. -/
structure ResolveCall where
  now : Instant
  locale : Option String
  service : HttpService

namespace ScaffoldingClient

def new (overrideRelayNodes additionalRelayNodes : Option (List String))
    (userAgent preferredRegion : Option String) : ScaffoldingClient :=
  ⟨overrideRelayNodes, additionalRelayNodes, userAgent, preferredRegion, none, none⟩

def withRelayEndpoint (client : ScaffoldingClient) (endpoint : String) : ScaffoldingClient :=
  { client with relayEndpoint := some endpoint }

/-- The provider a call sets up. -/
def provider (client : ScaffoldingClient) (locale : Option String) : RelayNodeProvider :=
  let provider := RelayNodeProvider.new locale client.userAgent client.preferredRegion
  match client.relayEndpoint with
  | some endpoint => provider.withEndpoint endpoint
  | none => provider

/-- The list a call resolves when the cache does not answer it. -/
def freshNodes (fromStr : String → Option Json) (client : ScaffoldingClient)
    (call : ResolveCall) : List String :=
  match client.overrideRelayNodes with
  | some overrideNodes => resolve (some overrideNodes) client.additionalRelayNodes
  | none =>
      let fetched := ((client.provider call.locale).fetch fromStr call.service []).1
      resolve (some fetched) client.additionalRelayNodes

/-- The cached list, while it is fresh and not empty. -/
def cachedAnswer (client : ScaffoldingClient) (now : Instant) : Option (List String) :=
  match client.cachedRelayNodes with
  | some (cachedAt, nodes) =>
      if nodes ≠ [] ∧ now - cachedAt < relayNodeCacheTtl then some nodes else none
  | none => none

/-- `resolve_relay_nodes`. -/
def resolveRelayNodes (fromStr : String → Option Json) (client : ScaffoldingClient)
    (call : ResolveCall) : List String × ScaffoldingClient :=
  match client.cachedAnswer call.now with
  | some nodes => (nodes, client)
  | none =>
      let nodes := client.freshNodes fromStr call
      if nodes = [] then
        match client.cachedRelayNodes with
        | some (_, stale) => if stale ≠ [] then (stale, client) else (nodes, client)
        | none => (nodes, client)
      else (nodes, { client with cachedRelayNodes := some (call.now, nodes) })

/-- A call as a step of the client. -/
def step (fromStr : String → Option Json) (client : ScaffoldingClient) (call : ResolveCall) :
    Option ScaffoldingClient :=
  some (client.resolveRelayNodes fromStr call).2

/-! ## Refreshes that fail -/

/-- The call finds a non-empty list that has expired, and both attempts to fetch a new
one fail. -/
structure FailedRefresh (fromStr : String → Option Json) (client : ScaffoldingClient)
    (call : ResolveCall) (cachedAt : Instant) (stale : List String) : Prop where
  cached : client.cachedRelayNodes = some (cachedAt, stale)
  nonempty : stale ≠ []
  expired : relayNodeCacheTtl ≤ call.now - cachedAt
  fails : (client.provider call.locale).FetchFails fromStr call.service []

/-- A failed refresh returns the old list and leaves it in the cache. -/
def FallsBack (fromStr : String → Option Json) (client : ScaffoldingClient)
    (call : ResolveCall) : Prop :=
  ∀ cachedAt stale, FailedRefresh fromStr client call cachedAt stale →
    (client.resolveRelayNodes fromStr call).1 = stale ∧
      (client.resolveRelayNodes fromStr call).2.cachedRelayNodes.map Prod.snd = some stale

/-- A failed refresh also leaves the time at which the old list was cached. -/
def KeepsCache (fromStr : String → Option Json) (client : ScaffoldingClient)
    (call : ResolveCall) : Prop :=
  ∀ cachedAt stale, FailedRefresh fromStr client call cachedAt stale →
    (client.resolveRelayNodes fromStr call).2.cachedRelayNodes = some (cachedAt, stale)

/-- The list that failed refreshes put into the cache. -/
def builtinNodes (client : ScaffoldingClient) : List String :=
  resolve none client.additionalRelayNodes

/-- Without override nodes a call always resolves some node, so where the cache does not
answer it, it overwrites the cache: the fallback to the old list is never taken. -/
theorem resolveRelayNodes_refreshes {fromStr : String → Option Json} {client : ScaffoldingClient}
    {call : ResolveCall} (unset : client.overrideRelayNodes = none)
    (unanswered : client.cachedAnswer call.now = none) :
    client.resolveRelayNodes fromStr call =
      (client.freshNodes fromStr call,
        { client with cachedRelayNodes := some (call.now, client.freshNodes fromStr call) }) := by
  have found : client.freshNodes fromStr call ≠ [] := by
    rw [freshNodes, unset]
    exact List.append_ne_nil_of_left_ne_nil (RelayNodeProvider.fetch_ne_nil _ _ _ _) _
  rw [resolveRelayNodes, unanswered]
  exact if_neg found

/-- A failed refresh of a client without override nodes caches the built-in list. -/
theorem resolveRelayNodes_failed {fromStr : String → Option Json} {client : ScaffoldingClient}
    {call : ResolveCall} {cachedAt : Instant} {stale : List String}
    (unset : client.overrideRelayNodes = none)
    (failed : FailedRefresh fromStr client call cachedAt stale) :
    client.resolveRelayNodes fromStr call =
      (client.builtinNodes,
        { client with cachedRelayNodes := some (call.now, client.builtinNodes) }) := by
  have unanswered : client.cachedAnswer call.now = none := by
    rw [cachedAnswer, failed.cached]
    exact if_neg fun fresh => Nat.not_le_of_lt fresh.2 failed.expired
  have fresh : client.freshNodes fromStr call = client.builtinNodes := by
    rw [freshNodes, unset]
    dsimp only
    rw [RelayNodeProvider.fetch_of_fails failed.fails]
    rfl
  rw [resolveRelayNodes_refreshes unset unanswered, fresh]

/-- A failed refresh falls back to the old list only where that is the built-in one. -/
theorem fallsBack_iff_builtin {fromStr : String → Option Json} {client : ScaffoldingClient}
    {call : ResolveCall} (unset : client.overrideRelayNodes = none) :
    FallsBack fromStr client call ↔
      ∀ cachedAt stale, FailedRefresh fromStr client call cachedAt stale →
        stale = client.builtinNodes := by
  constructor
  · intro fallsBack cachedAt stale failed
    have returned := (fallsBack cachedAt stale failed).1
    rw [resolveRelayNodes_failed unset failed] at returned
    exact returned.symm
  · rintro builtin cachedAt stale failed
    rw [resolveRelayNodes_failed unset failed, builtin cachedAt stale failed]
    exact ⟨rfl, rfl⟩

/-- A failed refresh always moves the time stamp. -/
theorem keepsCache_iff_none {fromStr : String → Option Json} {client : ScaffoldingClient}
    {call : ResolveCall} (unset : client.overrideRelayNodes = none) :
    KeepsCache fromStr client call ↔
      ∀ cachedAt stale, ¬ FailedRefresh fromStr client call cachedAt stale := by
  constructor
  · intro keeps cachedAt stale failed
    have kept := keeps cachedAt stale failed
    rw [resolveRelayNodes_failed unset failed, Option.some.injEq, Prod.mk.injEq] at kept
    have expired := failed.expired
    rw [kept.1, Nat.sub_self] at expired
    exact absurd expired (by decide)
  · intro never cachedAt stale failed
    exact absurd failed (never cachedAt stale)

/-! ## Runs of calls -/

/-- A call changes nothing but the cache. -/
theorem resolveRelayNodes_frame (fromStr : String → Option Json) (client : ScaffoldingClient)
    (call : ResolveCall) :
    ∃ cache, (client.resolveRelayNodes fromStr call).2 =
      { client with cachedRelayNodes := cache } := by
  rw [resolveRelayNodes]
  split
  · exact ⟨client.cachedRelayNodes, rfl⟩
  · dsimp only
    split
    · split
      · split
        · exact ⟨client.cachedRelayNodes, rfl⟩
        · exact ⟨client.cachedRelayNodes, rfl⟩
      · exact ⟨client.cachedRelayNodes, rfl⟩
    · exact ⟨_, rfl⟩

/-- Two states of one client: everything but the cache agrees. -/
def SameConfig (start client : ScaffoldingClient) : Prop :=
  ∃ cache, client = { start with cachedRelayNodes := cache }

theorem reached_sameConfig {fromStr : String → Option Json} {start client : ScaffoldingClient}
    {calls : List ResolveCall} (reached : run (step fromStr) start calls = some client) :
    SameConfig start client := by
  refine reachable_invariant ⟨start.cachedRelayNodes, rfl⟩ ?_ reached
  rintro earlier call next ⟨cache, rfl⟩ taken
  rcases resolveRelayNodes_frame fromStr { start with cachedRelayNodes := cache } call with
    ⟨later, changed⟩
  rw [step, Option.some.injEq] at taken
  exact ⟨later, by rw [← taken, changed]⟩

/-- In the runs of a client without override nodes, failed refreshes fall back to the
cached list exactly where that list is already the built-in one with the additional
nodes; the time stamp is kept only where no refresh fails. -/
theorem fallsBack_run_iff (fromStr : String → Option Json)
    (additionalRelayNodes : Option (List String)) (userAgent preferredRegion : Option String)
    (relayEndpoint : Option String) (calls : List ResolveCall) :
    let client := new none additionalRelayNodes userAgent preferredRegion
    let start := relayEndpoint.elim client client.withRelayEndpoint
    (EveryStep (step fromStr) start (fun _ client call => FallsBack fromStr client call) calls ↔
      EveryStep (step fromStr) start (fun _ client call => ∀ cachedAt stale,
        FailedRefresh fromStr client call cachedAt stale →
          stale = defaultNodes ++ additionalRelayNodes.getD []) calls) ∧
    (EveryStep (step fromStr) start (fun _ client call => KeepsCache fromStr client call) calls ↔
      EveryStep (step fromStr) start (fun _ client call => ∀ cachedAt stale,
        ¬ FailedRefresh fromStr client call cachedAt stale) calls) := by
  intro client start
  have alike : start.overrideRelayNodes = none ∧
      start.additionalRelayNodes = additionalRelayNodes := by
    cases relayEndpoint <;> exact ⟨rfl, rfl⟩
  have reachedAlike : ∀ {past client}, run (step fromStr) start past = some client →
      client.overrideRelayNodes = none ∧
        client.builtinNodes = defaultNodes ++ additionalRelayNodes.getD [] := by
    intro past client reached
    rcases reached_sameConfig reached with ⟨cache, rfl⟩
    refine ⟨alike.1, ?_⟩
    rw [builtinNodes, alike.2]
    rfl
  constructor
  · apply EveryStep.congr_reached
    intro past client call reached
    rw [fallsBack_iff_builtin (reachedAlike reached).1, (reachedAlike reached).2]
  · apply EveryStep.congr_reached
    intro past client call reached
    exact keepsCache_iff_none (reachedAlike reached).1

/-- A service that lists one node in its first answer and is unreachable later. -/
def sampleCalls : ResolveCall × ResolveCall :=
  (⟨0, none, fun _ _ => some ⟨200, some "[\x7b\"url\":\"tcp://a.example.com:11010\"\x7d]"⟩⟩,
    ⟨secs 301, none, fun _ _ => none⟩)

/-- What a JSON parser makes of that answer. -/
def sampleFromStr (json : String) : Option Json :=
  if json = "[\x7b\"url\":\"tcp://a.example.com:11010\"\x7d]" then
    some (.array [.object [("url", .string "tcp://a.example.com:11010")]])
  else none

/-- The second call of the sample fails to refresh and replaces the node of the service
by the built-in nodes. -/
theorem refresh_forgets_nodes :
    ∃ client, run (step sampleFromStr) (new none none none none) [sampleCalls.1] = some client ∧
      FailedRefresh sampleFromStr client sampleCalls.2 0 ["tcp://a.example.com:11010"] ∧
      client.resolveRelayNodes sampleFromStr sampleCalls.2 =
        (defaultNodes, { client with cachedRelayNodes := some (secs 301, defaultNodes) }) ∧
      ¬ FallsBack sampleFromStr client sampleCalls.2 := by
  have resolved : ((new none none none none).resolveRelayNodes sampleFromStr sampleCalls.1).2 =
      ⟨none, none, none, none, none, some (0, ["tcp://a.example.com:11010"])⟩ := by
    decide +kernel
  have failed : FailedRefresh sampleFromStr
      ⟨none, none, none, none, none, some (0, ["tcp://a.example.com:11010"])⟩ sampleCalls.2 0
      ["tcp://a.example.com:11010"] :=
    ⟨rfl, by decide, by decide, by decide +kernel⟩
  refine ⟨_, congrArg some resolved, failed, resolveRelayNodes_failed rfl failed, ?_⟩
  rw [fallsBack_iff_builtin rfl]
  intro builtin
  exact absurd (builtin 0 _ failed) (by decide)

end ScaffoldingClient

end Client
end QomicexConnector
