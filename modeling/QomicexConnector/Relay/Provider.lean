import QomicexConnector.Models

namespace QomicexConnector
namespace Relay

open Library

/-!
# Relay nodes from the node service

`relay/nodes.rs` and `relay/provider.rs`.  What the services answer is decided from
outside: an `HttpService` gives the reply to each request, which may depend on how many
requests went before.  The functions below thread the list of requests made so far, so
that their number and their order can be spoken about.  JSON text is read by the
parameter `fromStr`.
-/

/-- One GET request. -/
structure HttpRequest where
  url : String
  userAgent : String
  deriving DecidableEq, Repr

/-- A response that arrived; the text is missing when reading the body failed. -/
structure HttpReply where
  status : Nat
  text : Option String
  deriving DecidableEq, Repr

/-- The reply to a request after the given earlier ones, or none on a network error. -/
abbrev HttpService := List HttpRequest → HttpRequest → Option HttpReply

def HttpReply.isSuccess (reply : HttpReply) : Bool := 200 ≤ reply.status && reply.status < 300

/-! ## Node lists -/

/-- `DEFAULT_NODES`. -/
def defaultNodes : List String :=
  ["tcp://cgk1.clusters.zeabur.com:22171", "tcp://tcp.ap-northeast-1.clawcloudrun.com:45146"]

/-- `resolve`: the overriding nodes or else the built-in ones, then the additional ones. -/
def resolve (overrideNodes additional : Option (List String)) : List String :=
  overrideNodes.getD defaultNodes ++ additional.getD []

/-- `is_http_url`. -/
def isHttpUrl (node : String) : Bool :=
  eqIgnoreAsciiCase (String.ofList (node.toList.take 7)) "http://" ||
    eqIgnoreAsciiCase (String.ofList (node.toList.take 8)) "https://"

/-- The `url` of an element when it is a string that is not blank. -/
def elementUrl (element : Json) : Option String :=
  match element.get "url" with
  | some (.string url) => if trim url = "" then none else some url
  | _ => none

/-- Whether the `region` of an element is the preferred one. -/
def isPreferred (preferredRegion : Option String) (element : Json) : Bool :=
  match preferredRegion, element.get "region" with
  | some preferred, some (.string region) => eqIgnoreAsciiCase region preferred
  | _, _ => false

/-- The loop of `parse_nodes` over the elements, with its two accumulators. -/
def partitionNodes (preferredRegion : Option String) :
    List String → List String → List Json → List String × List String
  | preferred, rest, [] => (preferred, rest)
  | preferred, rest, element :: later =>
      match elementUrl element with
      | none => partitionNodes preferredRegion preferred rest later
      | some url =>
          if isPreferred preferredRegion element then
            partitionNodes preferredRegion (preferred ++ [url]) rest later
          else partitionNodes preferredRegion preferred (rest ++ [url]) later

/-- `parse_nodes`: none when the text is not a JSON array. -/
def parseNodes (fromStr : String → Option Json) (json : String)
    (preferredRegion : Option String) : Option (List String) :=
  match fromStr json with
  | some (.array elements) =>
      let (preferred, rest) := partitionNodes preferredRegion [] [] elements
      some (preferred ++ rest)
  | _ => none

/-! ## The provider -/

structure RelayNodeProvider where
  userAgent : String
  preferredRegion : Option String
  endpoint : Option String
  deriving DecidableEq, Repr

/-- `ENDPOINT`. -/
def defaultEndpoint : String := "https://nodes.qomicex.top/api/nodes"

/-- `DEFAULT_USER_AGENT`. -/
def defaultUserAgent : String := "Qomicex.Connector/1.0"

/-- `detect_system_region`, given the locale of the system if it has one. -/
def detectSystemRegion (locale : Option String) : String :=
  match locale with
  | some locale =>
      match (locale.toList.splitOn '-')[1]? with
      | some region => String.ofList (region.map Char.toUpper)
      | none => "CN"
  | none => "CN"

/-- The response body when the request is answered with success. -/
def successText (reply : Option HttpReply) : Option String :=
  match reply with
  | some reply => if reply.isSuccess then reply.text else none
  | none => none

namespace RelayNodeProvider

def new (locale userAgent preferredRegion : Option String) : RelayNodeProvider where
  userAgent := (userAgent.filter fun agent => trim agent ≠ "").getD defaultUserAgent
  preferredRegion := some (preferredRegion.getD (detectSystemRegion locale))
  endpoint := none

def withEndpoint (provider : RelayNodeProvider) (endpoint : String) : RelayNodeProvider :=
  { provider with endpoint := some endpoint }

/-- Send one request and note it. -/
def get (provider : RelayNodeProvider) (service : HttpService) (url : String)
    (sent : List HttpRequest) : Option HttpReply × List HttpRequest :=
  let request : HttpRequest := ⟨url, provider.userAgent⟩
  (service sent request, sent ++ [request])

/-- `resolve_http_node_once`. -/
def resolveHttpNodeOnce (provider : RelayNodeProvider) (service : HttpService)
    (nodeUrl : String) (sent : List HttpRequest) : Option String × List HttpRequest :=
  match provider.get service nodeUrl sent with
  | (reply, sent) =>
      match successText reply with
      | some body => (if trim body = "" then none else some (trim body), sent)
      | none => (none, sent)

/-- `resolve_http_node`: a failure is retried once. -/
def resolveHttpNode (provider : RelayNodeProvider) (service : HttpService) (nodeUrl : String)
    (sent : List HttpRequest) : Option String × List HttpRequest :=
  match provider.resolveHttpNodeOnce service nodeUrl sent with
  | (some actual, sent) => (some actual, sent)
  | (none, sent) => provider.resolveHttpNodeOnce service nodeUrl sent

/-- The loop of `fetch_nodes` that replaces each http(s) node by what it resolves to. -/
def resolveNodes (provider : RelayNodeProvider) (service : HttpService) :
    List String → List String → List HttpRequest → List String × List HttpRequest
  | resolved, [], sent => (resolved, sent)
  | resolved, node :: later, sent =>
      if isHttpUrl node then
        match provider.resolveHttpNode service node sent with
        | (some actual, sent) => provider.resolveNodes service (resolved ++ [actual]) later sent
        | (none, sent) => provider.resolveNodes service resolved later sent
      else provider.resolveNodes service (resolved ++ [node]) later sent

/-- `fetch_nodes`: none when there is no valid answer. -/
def fetchNodes (fromStr : String → Option Json) (provider : RelayNodeProvider)
    (service : HttpService) (url : String) (sent : List HttpRequest) :
    Option (List String) × List HttpRequest :=
  match provider.get service url sent with
  | (reply, sent) =>
      match (successText reply).bind fun json => parseNodes fromStr json provider.preferredRegion with
      | some nodes =>
          match provider.resolveNodes service [] nodes sent with
          | (resolved, sent) => (some resolved, sent)
      | none => (none, sent)

/-- What `fetch_from` makes of a valid answer: an empty list gives way to the built-in
nodes. -/
def orDefault (nodes : List String) : List String := if nodes = [] then defaultNodes else nodes

/-- `fetch_from`: no valid answer is retried once. -/
def fetchFrom (fromStr : String → Option Json) (provider : RelayNodeProvider)
    (service : HttpService) (url : String) (sent : List HttpRequest) :
    List String × List HttpRequest :=
  match provider.fetchNodes fromStr service url sent with
  | (some nodes, sent) => (orDefault nodes, sent)
  | (none, sent) =>
      match provider.fetchNodes fromStr service url sent with
      | (some nodes, sent) => (orDefault nodes, sent)
      | (none, sent) => (defaultNodes, sent)

/-- `fetch`. -/
def fetch (fromStr : String → Option Json) (provider : RelayNodeProvider)
    (service : HttpService) (sent : List HttpRequest) : List String × List HttpRequest :=
  provider.fetchFrom fromStr service (provider.endpoint.getD defaultEndpoint) sent

/-- Both attempts of `fetch` end without a valid answer. -/
def FetchFails (fromStr : String → Option Json) (provider : RelayNodeProvider)
    (service : HttpService) (sent : List HttpRequest) : Prop :=
  let url := provider.endpoint.getD defaultEndpoint
  let first := provider.fetchNodes fromStr service url sent
  first.1 = none ∧ (provider.fetchNodes fromStr service url first.2).1 = none

instance (fromStr : String → Option Json) (provider : RelayNodeProvider)
    (service : HttpService) (sent : List HttpRequest) :
    Decidable (provider.FetchFails fromStr service sent) :=
  inferInstanceAs (Decidable (_ ∧ _))

/-- A fetch that fails looks to its caller like one that returned the built-in nodes. -/
theorem fetch_of_fails {fromStr : String → Option Json} {provider : RelayNodeProvider}
    {service : HttpService} {sent : List HttpRequest}
    (fails : provider.FetchFails fromStr service sent) :
    (provider.fetch fromStr service sent).1 = defaultNodes := by
  rcases fails with ⟨first, second⟩
  rw [fetch, fetchFrom]
  split
  · next nodes later answered =>
      rw [answered] at first
      cases first
  · next later unanswered =>
      rw [unanswered] at second
      split
      · next nodes last answered =>
          rw [answered] at second
          cases second
      · rfl

/-- Whatever the service does, `fetch` returns some node. -/
theorem fetch_ne_nil (fromStr : String → Option Json) (provider : RelayNodeProvider)
    (service : HttpService) (sent : List HttpRequest) :
    (provider.fetch fromStr service sent).1 ≠ [] := by
  have nonempty : ∀ nodes, orDefault nodes ≠ [] := by
    intro nodes
    rw [orDefault]
    split
    · exact List.cons_ne_nil _ _
    · assumption
  rw [fetch, fetchFrom]
  split
  · exact nonempty _
  · split
    · exact nonempty _
    · exact List.cons_ne_nil _ _

end RelayNodeProvider

end Relay
end QomicexConnector
