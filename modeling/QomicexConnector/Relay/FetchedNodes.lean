import QomicexConnector.Relay.NodeOrder

namespace QomicexConnector
namespace Relay

open Library

/-!
# Fetched nodes and the requests for them

`fetch_from` asks the endpoint once or twice and each http(s) node of a valid answer once or
twice.  `NodesRun` says what a list of nodes becomes and which requests are made for it, given
what was requested before; `AttemptRun` does so for one request of the endpoint.  The loops of
the source follow these relations, for every service.

The relations also show which texts reach the result unchecked: a url that only its leading
white space keeps from being an http(s) url, and the body of a node's own answer.
-/

/-- The text that a reply resolves an http(s) node to. -/
def resolvedText (reply : Option HttpReply) : Option String :=
  (successText reply).bind fun body => if trim body = "" then none else some (trim body)

/-- The request of a provider for a url. -/
def RelayNodeProvider.request (provider : RelayNodeProvider) (url : String) : HttpRequest :=
  ⟨url, provider.userAgent⟩

/-- The list of a valid response. -/
def validNodes (fromStr : String → Option Json) (preferredRegion : Option String)
    (reply : Option HttpReply) : Option (List String) :=
  (successText reply).bind fun json => parseNodes fromStr json preferredRegion

/-- The ways in which a request for the list can fail. -/
inductive NoValidResponse (fromStr : String → Option Json) : Option HttpReply → Prop
  | networkError : NoValidResponse fromStr none
  | refused {reply : HttpReply} (status : reply.isSuccess = false) :
      NoValidResponse fromStr (some reply)
  | unreadable {reply : HttpReply} (missing : reply.text = none) :
      NoValidResponse fromStr (some reply)
  | noArray {reply : HttpReply} {json : String} (text : reply.text = some json)
      (invalid : ¬ ∃ elements, fromStr json = some (.array elements)) :
      NoValidResponse fromStr (some reply)

theorem validNodes_eq_none_iff {fromStr : String → Option Json} {preferredRegion : Option String}
    {reply : Option HttpReply} :
    validNodes fromStr preferredRegion reply = none ↔ NoValidResponse fromStr reply := by
  cases reply with
  | none => exact iff_of_true rfl .networkError
  | some reply =>
      rw [validNodes, successText]
      cases status : reply.isSuccess with
      | false => exact iff_of_true rfl (.refused status)
      | true =>
          rw [if_pos rfl]
          cases text : reply.text with
          | none => exact iff_of_true rfl (.unreadable text)
          | some json =>
              rw [Option.bind_some, (parseNodes_orders preferredRegion fromStr json).1]
              constructor
              · exact fun invalid => .noArray text invalid
              · rintro (_ | ⟨refused⟩ | ⟨missing⟩ | ⟨isText, invalid⟩)
                · cases status.symm.trans refused
                · cases text.symm.trans missing
                · cases text.symm.trans isText
                  exact invalid

section Runs

variable (provider : RelayNodeProvider) (service : HttpService)

/-- What becomes of a node of the list, and the requests that are made for it: none for a node
that is no http(s) url, and else one or two, the second if the first gets no usable answer. -/
inductive NodeRun (sent : List HttpRequest) (node : String) :
    Option String → List HttpRequest → Prop
  | kept (direct : isHttpUrl node = false) : NodeRun sent node (some node) []
  | resolved {actual : String} (indirect : isHttpUrl node = true)
      (answered : resolvedText (service sent (provider.request node)) = some actual) :
      NodeRun sent node (some actual) [provider.request node]
  | retried {actual : Option String} (indirect : isHttpUrl node = true)
      (failed : resolvedText (service sent (provider.request node)) = none)
      (last : resolvedText (service (sent ++ [provider.request node]) (provider.request node)) =
        actual) :
      NodeRun sent node actual [provider.request node, provider.request node]

/-- The nodes of a list one after another; a node that becomes nothing is left out. -/
inductive NodesRun : List HttpRequest → List String → List String → List HttpRequest → Prop
  | nil {sent : List HttpRequest} : NodesRun sent [] [] []
  | cons {sent requests more : List HttpRequest} {node : String} {later resolved : List String}
      {actual : Option String} (first : NodeRun provider service sent node actual requests)
      (rest : NodesRun (sent ++ requests) later resolved more) :
      NodesRun sent (node :: later) (actual.toList ++ resolved) (requests ++ more)

/-- The texts that take the place of the nodes are no http(s) urls: neither is a url that is
kept as it is behind the white space it begins with, nor the trimmed body of the answer that
resolves an http(s) node. -/
def CleanNodes : List HttpRequest → List String → Prop
  | _, [] => True
  | sent, node :: later =>
      let request := provider.request node
      if isHttpUrl node then
        match resolvedText (service sent request) with
        | some body => isHttpUrl body = false ∧ CleanNodes (sent ++ [request]) later
        | none =>
            (∀ body, resolvedText (service (sent ++ [request]) request) = some body →
              isHttpUrl body = false) ∧ CleanNodes (sent ++ [request, request]) later
      else isHttpUrl (trim node) = false ∧ CleanNodes sent later

/-- One request of the endpoint: the list of its response if that is valid, what this list
becomes, and the requests that are made for its nodes. -/
structure Attempt where
  parsed : Option (List String)
  resolved : List String
  nodeRequests : List HttpRequest

/-- What `fetch_from` returns when this is its last attempt. -/
def Attempt.outcome (attempt : Attempt) : List String :=
  match attempt.parsed with
  | some _ => if attempt.resolved = [] then defaultNodes else attempt.resolved
  | none => defaultNodes

structure AttemptRun (fromStr : String → Option Json) (url : String) (sent : List HttpRequest)
    (attempt : Attempt) : Prop where
  parsed : attempt.parsed =
    validNodes fromStr provider.preferredRegion (service sent (provider.request url))
  resolved : NodesRun provider service (sent ++ [provider.request url]) (attempt.parsed.getD [])
    attempt.resolved attempt.nodeRequests
  bounded : attempt.nodeRequests.length ≤ 2 * (attempt.parsed.getD []).countP isHttpUrl

end Runs

section Loops

variable {provider : RelayNodeProvider} {service : HttpService}

theorem resolveHttpNodeOnce_eq (node : String) (sent : List HttpRequest) :
    provider.resolveHttpNodeOnce service node sent =
      (resolvedText (service sent (provider.request node)), sent ++ [provider.request node]) := by
  unfold RelayNodeProvider.resolveHttpNodeOnce RelayNodeProvider.get RelayNodeProvider.request
  rw [resolvedText]
  dsimp only
  cases successText (service sent ⟨node, provider.userAgent⟩) with
  | none => simp only [Option.bind_none]
  | some body => simp only [Option.bind_some]

variable (provider service) in
theorem nodeRun_of_http {node : String} (indirect : isHttpUrl node = true)
    (sent : List HttpRequest) :
    ∃ requests, NodeRun provider service sent node
        (provider.resolveHttpNode service node sent).1 requests ∧
      (provider.resolveHttpNode service node sent).2 = sent ++ requests := by
  rw [RelayNodeProvider.resolveHttpNode, resolveHttpNodeOnce_eq]
  cases answered : resolvedText (service sent (provider.request node)) with
  | some actual => exact ⟨_, .resolved indirect answered, rfl⟩
  | none =>
      dsimp only
      rw [resolveHttpNodeOnce_eq]
      exact ⟨_, .retried indirect answered rfl, by rw [List.append_assoc]; rfl⟩

variable (provider service) in
/-- The loop of `fetch_nodes` appends what the nodes become. -/
theorem resolveNodes_run (resolved nodes : List String) (sent : List HttpRequest) :
    ∃ actual requests, NodesRun provider service sent nodes actual requests ∧
      provider.resolveNodes service resolved nodes sent =
        (resolved ++ actual, sent ++ requests) := by
  induction nodes generalizing resolved sent with
  | nil =>
      refine ⟨[], [], .nil, ?_⟩
      rw [RelayNodeProvider.resolveNodes, List.append_nil, List.append_nil]
  | cons node later inductionHypothesis =>
      rw [RelayNodeProvider.resolveNodes]
      cases isHttp : isHttpUrl node with
      | false =>
          rcases inductionHypothesis (resolved ++ [node]) sent with ⟨actual, requests, run, result⟩
          refine ⟨_, _, .cons (.kept isHttp) ((List.append_nil sent).symm ▸ run), ?_⟩
          rw [if_neg Bool.false_ne_true, result, List.append_assoc]
          rfl
      | true =>
          rcases nodeRun_of_http provider service isHttp sent with ⟨made, first, after⟩
          rw [if_pos rfl]
          generalize provider.resolveHttpNode service node sent = outcome at first after
          rcases outcome with ⟨_ | actual, told⟩
          · dsimp only at after
            subst after
            rcases inductionHypothesis resolved (sent ++ made) with ⟨others, requests, run, result⟩
            refine ⟨_, _, .cons first run, ?_⟩
            dsimp only
            rw [result, List.append_assoc]
            rfl
          · dsimp only at after
            subst after
            rcases inductionHypothesis (resolved ++ [actual]) (sent ++ made) with
              ⟨others, requests, run, result⟩
            refine ⟨_, _, .cons first run, ?_⟩
            dsimp only
            rw [result, List.append_assoc, List.append_assoc]
            rfl

/-- At most two requests are made for each http(s) node. -/
theorem NodesRun.bounded {sent requests : List HttpRequest} {nodes resolved : List String}
    (run : NodesRun provider service sent nodes resolved requests) :
    requests.length ≤ 2 * nodes.countP isHttpUrl := by
  induction run with
  | nil => exact Nat.le_refl 0
  | cons first rest inductionHypothesis =>
      rw [List.length_append, List.countP_cons]
      cases first with
      | kept direct =>
          rw [direct]
          simpa using inductionHypothesis
      | resolved indirect answered =>
          rw [indirect, if_pos rfl, List.length_singleton]
          omega
      | retried indirect failed last =>
          rw [indirect, if_pos rfl]
          simp only [List.length_cons, List.length_nil]
          omega

theorem fetchNodes_eq (fromStr : String → Option Json) (url : String) (sent : List HttpRequest) :
    provider.fetchNodes fromStr service url sent =
      match validNodes fromStr provider.preferredRegion (service sent (provider.request url)) with
      | some nodes =>
          (some (provider.resolveNodes service [] nodes (sent ++ [provider.request url])).1,
            (provider.resolveNodes service [] nodes (sent ++ [provider.request url])).2)
      | none => (none, sent ++ [provider.request url]) := rfl

variable (provider service) in
/-- One request of the endpoint with everything that follows from it. -/
theorem fetchNodes_run (fromStr : String → Option Json) (url : String) (sent : List HttpRequest) :
    ∃ attempt, AttemptRun provider service fromStr url sent attempt ∧
      provider.fetchNodes fromStr service url sent =
        (attempt.parsed.map fun _ => attempt.resolved,
          sent ++ provider.request url :: attempt.nodeRequests) := by
  rw [fetchNodes_eq]
  cases answered : validNodes fromStr provider.preferredRegion
      (service sent (provider.request url)) with
  | none => exact ⟨⟨none, [], []⟩, ⟨answered.symm, .nil, Nat.le_refl 0⟩, rfl⟩
  | some nodes =>
      rcases resolveNodes_run provider service [] nodes
        (sent ++ [provider.request url]) with ⟨actual, requests, run, result⟩
      refine ⟨⟨some nodes, actual, requests⟩, ⟨answered.symm, run, run.bounded⟩, ?_⟩
      dsimp only
      rw [result, List.append_assoc]
      rfl

end Loops

/-! ## `fetch_from` -/

section Fetch

variable {provider : RelayNodeProvider} {service : HttpService} {fromStr : String → Option Json}
  {url : String} {sent : List HttpRequest}

theorem fetchFrom_of_valid {nodes : List String} {after : List HttpRequest}
    (fetched : provider.fetchNodes fromStr service url sent = (some nodes, after)) :
    provider.fetchFrom fromStr service url sent =
      (RelayNodeProvider.orDefault nodes, after) := by
  rw [RelayNodeProvider.fetchFrom, fetched]

theorem fetchFrom_of_invalid {after : List HttpRequest}
    (fetched : provider.fetchNodes fromStr service url sent = (none, after)) :
    provider.fetchFrom fromStr service url sent =
      (((provider.fetchNodes fromStr service url after).1.map RelayNodeProvider.orDefault).getD
        defaultNodes, (provider.fetchNodes fromStr service url after).2) := by
  rw [RelayNodeProvider.fetchFrom, fetched]
  dsimp only
  rcases provider.fetchNodes fromStr service url after with ⟨_ | nodes, last⟩ <;> rfl

theorem AttemptRun.parsed_eq_none_iff {attempt : Attempt}
    (ran : AttemptRun provider service fromStr url sent attempt) :
    attempt.parsed = none ↔ NoValidResponse fromStr (service sent (provider.request url)) := by
  rw [ran.parsed, validNodes_eq_none_iff]

/-- An attempt that gets no valid response asks for no node. -/
theorem AttemptRun.nodeRequests_eq_nil {attempt : Attempt}
    (ran : AttemptRun provider service fromStr url sent attempt) (failed : attempt.parsed = none) :
    attempt.nodeRequests = [] := by
  have bounded := ran.bounded
  rw [failed] at bounded
  exact List.eq_nil_of_length_eq_zero (Nat.le_zero.mp bounded)

theorem outcome_eq_of_some {attempt : Attempt} {nodes : List String}
    (parsed : attempt.parsed = some nodes) :
    attempt.outcome = RelayNodeProvider.orDefault attempt.resolved := by
  rw [Attempt.outcome, parsed]
  rfl

theorem outcome_eq_getD (attempt : Attempt) :
    attempt.outcome = ((attempt.parsed.map fun _ => attempt.resolved).map
      RelayNodeProvider.orDefault).getD defaultNodes := by
  rw [Attempt.outcome]
  cases attempt.parsed <;> rfl

variable (provider service fromStr url sent) in
/-- `fetch_from` asks the endpoint a second time exactly when the first request has no valid
response.  It returns what the list of its last request has become, or the built-in nodes when
there is no list or nothing is left of it; so it returns some node. -/
theorem fetchFrom_attempts :
    (provider.fetchFrom fromStr service url sent).1 ≠ [] ∧
      ∃ first, AttemptRun provider service fromStr url sent first ∧
        (¬ NoValidResponse fromStr (service sent (provider.request url)) →
          provider.fetchFrom fromStr service url sent =
            (first.outcome, sent ++ provider.request url :: first.nodeRequests)) ∧
        (NoValidResponse fromStr (service sent (provider.request url)) →
          ∃ second, AttemptRun provider service fromStr url (sent ++ [provider.request url]) second ∧
            provider.fetchFrom fromStr service url sent = (second.outcome,
              sent ++ [provider.request url] ++ provider.request url :: second.nodeRequests)) := by
  have nonempty : ∀ attempt : Attempt, attempt.outcome ≠ [] := by
    intro attempt
    rw [Attempt.outcome]
    split
    · split
      · exact List.cons_ne_nil _ _
      · assumption
    · exact List.cons_ne_nil _ _
  rcases fetchNodes_run provider service fromStr url sent with
    ⟨first, ran, fetched⟩
  cases parsed : first.parsed with
  | some nodes =>
      have valid := mt ran.parsed_eq_none_iff.mpr (by rw [parsed]; exact nofun)
      rw [parsed, Option.map_some] at fetched
      have result := fetchFrom_of_valid fetched
      rw [← outcome_eq_of_some parsed] at result
      refine ⟨by rw [result]; exact nonempty first, first, ran, fun _ => result, ?_⟩
      exact fun invalid => absurd invalid valid
  | none =>
      have invalid := ran.parsed_eq_none_iff.mp parsed
      rw [parsed, Option.map_none, ran.nodeRequests_eq_nil parsed] at fetched
      have result := fetchFrom_of_invalid fetched
      rcases fetchNodes_run provider service fromStr url
        (sent ++ [provider.request url]) with ⟨second, again, fetchedAgain⟩
      rw [fetchedAgain, ← outcome_eq_getD] at result
      refine ⟨by rw [result]; exact nonempty second, first, ran, ?_, fun _ => ⟨second, again, result⟩⟩
      exact fun valid => absurd invalid valid

/-! ## http(s) urls in the result -/

/-- None of the nodes is an http(s) url, white space around it apart. -/
def NoHttpNodes (nodes : List String) : Prop := ∀ node ∈ nodes, isHttpUrl (trim node) = false

theorem trim_resolvedText {reply : Option HttpReply} {text : String}
    (resolved : resolvedText reply = some text) : trim text = text := by
  rcases Option.bind_eq_some_iff.mp resolved with ⟨body, _, same⟩
  split at same
  · cases same
  · cases same
    exact trim_trim body

theorem noHttpNodes_toList_append {actual : Option String} {others : List String} :
    NoHttpNodes (actual.toList ++ others) ↔
      (∀ node, actual = some node → isHttpUrl (trim node) = false) ∧ NoHttpNodes others := by
  cases actual with
  | none => simp [NoHttpNodes]
  | some node => simp [NoHttpNodes]

/-- The texts that take the place of the nodes are all that can be http(s) urls. -/
theorem NodesRun.noHttpNodes_iff {requests : List HttpRequest} {nodes resolved : List String}
    (run : NodesRun provider service sent nodes resolved requests) :
    NoHttpNodes resolved ↔ CleanNodes provider service sent nodes := by
  induction run with
  | nil => exact iff_of_true (fun _ listed => absurd listed List.not_mem_nil) trivial
  | cons first rest inductionHypothesis =>
      rw [noHttpNodes_toList_append, inductionHypothesis, CleanNodes]
      cases first with
      | kept direct =>
          rw [direct, if_neg Bool.false_ne_true, List.append_nil]
          simp only [Option.some.injEq, forall_eq']
      | resolved indirect answered =>
          rw [if_pos indirect, answered]
          simp only [Option.some.injEq, forall_eq', trim_resolvedText answered]
      | retried indirect failed last =>
          rw [if_pos indirect, failed, ← last]
          dsimp only
          refine and_congr_left fun _ => forall_congr' fun body => ?_
          refine imp_congr_right fun resolved => ?_
          rw [trim_resolvedText resolved]

theorem noHttpNodes_default : NoHttpNodes defaultNodes := by
  rw [NoHttpNodes]
  decide +kernel

/-- The condition on one request of the endpoint: where its response is valid, the texts that
take the place of the nodes are clean. -/
def CleanAttempt (provider : RelayNodeProvider) (service : HttpService)
    (fromStr : String → Option Json) (url : String) (sent : List HttpRequest) : Prop :=
  ∀ nodes, validNodes fromStr provider.preferredRegion (service sent (provider.request url)) =
    some nodes → CleanNodes provider service (sent ++ [provider.request url]) nodes

theorem AttemptRun.noHttpNodes_iff {attempt : Attempt}
    (ran : AttemptRun provider service fromStr url sent attempt) :
    NoHttpNodes attempt.outcome ↔ CleanAttempt provider service fromStr url sent := by
  rw [CleanAttempt, ← ran.parsed]
  have run := ran.resolved
  cases parsed : attempt.parsed with
  | none =>
      rw [Attempt.outcome, parsed]
      exact iff_of_true noHttpNodes_default nofun
  | some nodes =>
      rw [parsed, Option.getD_some] at run
      simp only [Option.some.injEq, forall_eq']
      rw [Attempt.outcome, parsed, ← run.noHttpNodes_iff]
      dsimp only
      split
      · next nothing =>
          rw [nothing]
          exact iff_of_true noHttpNodes_default fun _ listed => absurd listed List.not_mem_nil
      · rfl

variable (provider service fromStr url sent) in
/-- The list that `fetch_from` returns is free of http(s) urls exactly if, in the attempt whose
response is used, no url begins with white space before `http(s)://` and no http(s) node answers
with an http(s) url. -/
theorem fetchFrom_noHttpNodes_iff :
    NoHttpNodes (provider.fetchFrom fromStr service url sent).1 ↔
      (¬ NoValidResponse fromStr (service sent (provider.request url)) →
        CleanAttempt provider service fromStr url sent) ∧
      (NoValidResponse fromStr (service sent (provider.request url)) →
        CleanAttempt provider service fromStr url (sent ++ [provider.request url])) := by
  rcases (fetchFrom_attempts provider service fromStr url sent).2 with ⟨first, ran, valid, invalid⟩
  by_cases failed : NoValidResponse fromStr (service sent (provider.request url))
  · rcases invalid failed with ⟨second, again, result⟩
    rw [result, again.noHttpNodes_iff]
    exact ⟨fun clean => ⟨fun ok => absurd failed ok, fun _ => clean⟩, fun both => both.2 failed⟩
  · rw [valid failed, ran.noHttpNodes_iff]
    exact ⟨fun clean => ⟨fun _ => clean, fun bad => absurd bad failed⟩, fun both => both.1 failed⟩

end Fetch

/-- A node service whose list has one node, and what that node answers if it is asked. -/
def sampleService (body : String) : HttpService := fun _ request =>
  some ⟨200, some (if request.url = "https://nodes.qomicex.top/api/nodes" then "nodes" else body)⟩

/-- A parser that knows the list of the sample. -/
def sampleNodes (node json : String) : Option Json :=
  if json = "nodes" then some (.array [.object [("url", .string node)]]) else none

def sampleProvider : RelayNodeProvider := RelayNodeProvider.new none none none

/-- White space before a url, and an answer that is a url again, let http(s) urls through. -/
theorem http_nodes_come_through :
    (sampleProvider.fetchFrom (sampleNodes " http://node.example.com") (sampleService "")
        defaultEndpoint []).1 = [" http://node.example.com"] ∧
      ¬ NoHttpNodes [" http://node.example.com"] ∧
      (sampleProvider.fetchFrom (sampleNodes "http://node.example.com")
        (sampleService "https://other.example.com\n") defaultEndpoint []).1 =
          ["https://other.example.com"] ∧
      ¬ NoHttpNodes ["https://other.example.com"] := by
  refine ⟨by decide +kernel, ?_, by decide +kernel, ?_⟩
  · intro clean
    exact absurd (clean _ List.mem_cons_self) (by decide +kernel)
  · intro clean
    exact absurd (clean _ List.mem_cons_self) (by decide +kernel)

end Relay
end QomicexConnector
