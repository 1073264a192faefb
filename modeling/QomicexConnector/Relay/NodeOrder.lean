import QomicexConnector.Relay.Provider

namespace QomicexConnector
namespace Relay

open Library

/-!
# The order of parsed nodes

`parse_nodes` walks the elements of the answer once and fills two lists, one for the
preferred region and one for the others.  The result is a stable partition of the urls of
the usable elements: nothing is lost, doubled or changed, and both groups keep their order.
-/

/-- The urls of the elements that have a usable one. -/
def usableUrls (elements : List Json) : List String := elements.filterMap elementUrl

theorem elementUrl_eq_some_iff {element : Json} {url : String} :
    elementUrl element = some url ↔
      element.get "url" = some (.string url) ∧ ¬ ∀ char ∈ url.toList, isWhitespace char = true := by
  rw [← trim_eq_empty_iff, elementUrl]
  split
  · next other found =>
      rw [found, Option.some.injEq, Json.string.injEq]
      by_cases blank : trim other = ""
      · rw [if_pos blank]
        constructor
        · intro none
          cases none
        · rintro ⟨rfl, visible⟩
          exact absurd blank visible
      · rw [if_neg blank, Option.some.injEq]
        constructor
        · rintro rfl
          exact ⟨rfl, blank⟩
        · rintro ⟨same, _⟩
          exact same
  · next noString =>
      constructor
      · intro none
        cases none
      · rintro ⟨found, _⟩
        exact absurd found (noString url)

theorem isPreferred_eq_true_iff {preferredRegion : Option String} {element : Json} :
    isPreferred preferredRegion element = true ↔
      ∃ preferred region, preferredRegion = some preferred ∧
        element.get "region" = some (.string region) ∧
        eqIgnoreAsciiCase region preferred = true := by
  unfold isPreferred
  split
  · next preferred region found =>
      rw [found]
      constructor
      · intro same
        exact ⟨preferred, region, rfl, rfl, same⟩
      · rintro ⟨_, _, isPreferred, isRegion, same⟩
        cases isPreferred
        cases isRegion
        exact same
  · next noRegion =>
      constructor
      · intro impossible
        cases impossible
      · rintro ⟨preferred, region, rfl, found, _⟩
        exact absurd found (noRegion preferred region rfl)

variable (preferredRegion : Option String)

/-- The usable urls of the preferred region, then the others. -/
def orderedUrls (elements : List Json) : List String :=
  usableUrls (elements.filter (isPreferred preferredRegion)) ++
    usableUrls (elements.filter fun element => !isPreferred preferredRegion element)

/-- The loop appends each group to its accumulator. -/
theorem partitionNodes_eq (preferred rest : List String) (elements : List Json) :
    partitionNodes preferredRegion preferred rest elements =
      (preferred ++ usableUrls (elements.filter (isPreferred preferredRegion)),
        rest ++ usableUrls (elements.filter fun element =>
          !isPreferred preferredRegion element)) := by
  induction elements generalizing preferred rest with
  | nil =>
      rw [partitionNodes]
      simp only [List.filter_nil, usableUrls, List.filterMap_nil, List.append_nil]
  | cons element later inductionHypothesis =>
      rw [partitionNodes, List.filter_cons, List.filter_cons]
      cases isFirst : isPreferred preferredRegion element with
      | true =>
          cases found : elementUrl element with
          | none => simp [inductionHypothesis, usableUrls, found]
          | some url => simp [inductionHypothesis, usableUrls, found]
      | false =>
          cases found : elementUrl element with
          | none => simp [inductionHypothesis, usableUrls, found]
          | some url => simp [inductionHypothesis, usableUrls, found]

theorem parseNodes_of_array {fromStr : String → Option Json} {json : String} {elements : List Json}
    (isArray : fromStr json = some (.array elements)) :
    parseNodes fromStr json preferredRegion = some (orderedUrls preferredRegion elements) := by
  rw [parseNodes, isArray]
  dsimp only
  rw [partitionNodes_eq]
  rfl

/-- An element without a usable url leaves no trace. -/
theorem orderedUrls_skip {odd : Json} (unusable : elementUrl odd = none) (before later : List Json) :
    orderedUrls preferredRegion (before ++ odd :: later) =
      orderedUrls preferredRegion (before ++ later) := by
  simp only [orderedUrls, usableUrls, List.filter_append, List.filter_cons, List.filterMap_append]
  cases isPreferred preferredRegion odd with
  | true => simp [unusable]
  | false => simp [unusable]

theorem orderedUrls_perm (elements : List Json) :
    (orderedUrls preferredRegion elements).Perm (usableUrls elements) := by
  rw [orderedUrls, usableUrls, usableUrls, ← List.filterMap_append]
  exact (List.filter_append_perm (isPreferred preferredRegion) elements).filterMap elementUrl

/-- Where no usable element is of the preferred region the order is that of the answer. -/
theorem orderedUrls_of_unmatched {elements : List Json}
    (unmatched : ∀ element ∈ elements, elementUrl element ≠ none →
      isPreferred preferredRegion element = false) :
    orderedUrls preferredRegion elements = usableUrls elements := by
  induction elements with
  | nil => rfl
  | cons element later inductionHypothesis =>
      have laterUnmatched := inductionHypothesis fun other listed =>
        unmatched other (List.mem_cons_of_mem element listed)
      cases found : elementUrl element with
      | none =>
          have skipped := orderedUrls_skip preferredRegion found [] later
          rw [List.nil_append, List.nil_append] at skipped
          rw [skipped, laterUnmatched, usableUrls, usableUrls, List.filterMap_cons_none found]
      | some url =>
          have notFirst := unmatched element List.mem_cons_self (by rw [found]; exact nofun)
          have noneFirst : usableUrls (later.filter (isPreferred preferredRegion)) = [] := by
            rw [usableUrls, List.filterMap_eq_nil_iff]
            intro other listed
            have ⟨present, isFirst⟩ := List.mem_filter.mp listed
            by_contra usable
            rw [unmatched other (List.mem_cons_of_mem element present) usable] at isFirst
            cases isFirst
          rw [orderedUrls, noneFirst, List.nil_append] at laterUnmatched
          simp only [orderedUrls, List.filter_cons, notFirst, Bool.not_false, if_true]
          rw [if_neg Bool.false_ne_true, noneFirst, List.nil_append, usableUrls, usableUrls,
            List.filterMap_cons_some found, List.filterMap_cons_some found]
          exact congrArg (url :: ·) laterUnmatched

/-- `parse_nodes` answers with a list exactly for a JSON array.  The list has the usable urls
of the preferred region first and then the others, each group in its order, every url as often
as it stands in the array; an element without a usable url changes nothing, and where no usable
element is of the preferred region the order is that of the array. -/
theorem parseNodes_orders (fromStr : String → Option Json) (json : String) :
    (parseNodes fromStr json preferredRegion = none ↔
        ¬ ∃ elements, fromStr json = some (.array elements)) ∧
      ∀ elements, fromStr json = some (.array elements) →
        parseNodes fromStr json preferredRegion = some (orderedUrls preferredRegion elements) ∧
        (∀ url, (orderedUrls preferredRegion elements).count url =
          (usableUrls elements).count url) ∧
        (∀ before odd later other, elements = before ++ odd :: later → elementUrl odd = none →
          fromStr other = some (.array (before ++ later)) →
            parseNodes fromStr other preferredRegion = parseNodes fromStr json preferredRegion) ∧
        ((∀ element ∈ elements, elementUrl element ≠ none →
            isPreferred preferredRegion element = false) →
          parseNodes fromStr json preferredRegion = some (usableUrls elements)) := by
  constructor
  · constructor
    · rintro nothing ⟨elements, isArray⟩
      rw [parseNodes_of_array preferredRegion isArray] at nothing
      cases nothing
    · intro noArray
      rw [parseNodes]
      split
      · next elements isArray => exact absurd ⟨elements, isArray⟩ noArray
      · rfl
  · intro elements isArray
    have parsed := parseNodes_of_array preferredRegion isArray
    refine ⟨parsed, ?_, ?_, ?_⟩
    · exact fun url => (orderedUrls_perm preferredRegion elements).count_eq url
    · rintro before odd later other rfl unusable otherArray
      rw [parsed, parseNodes_of_array preferredRegion otherArray,
        orderedUrls_skip preferredRegion unusable]
    · intro unmatched
      rw [parsed, orderedUrls_of_unmatched preferredRegion unmatched]

/-- The array of a test: the nodes of the preferred region come first. -/
example : orderedUrls (some "CN") [
    .object [("url", .string "https://node-jp"), ("region", .string "JP")],
    .object [("url", .string "https://node-cn1"), ("region", .string "cn")],
    .object [("url", .number (.posInt 1))],
    .object [("url", .string "https://node-none")]] =
      ["https://node-cn1", "https://node-jp", "https://node-none"] := by
  decide +kernel

end Relay
end QomicexConnector
