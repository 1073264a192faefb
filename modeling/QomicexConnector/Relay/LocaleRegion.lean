import Mathlib
import QomicexConnector.Relay.NodeOrder

namespace QomicexConnector
namespace Relay

open Library

/-!
# The region of the system's locale

A provider without a preferred region takes the second subtag of the locale for it.  In a
locale tag this is the region, unless a script stands in front of it: of `zh-Hans-CN` the
provider takes `HANS`, and the nodes in `CN` are not preferred.
-/

/-! ## Locale tags -/

/-- A subtag of so many letters. -/
def IsSubtag (least most : Nat) (subtag : String) : Prop :=
  (∀ char ∈ subtag.toList, char.isAlpha = true) ∧
    least ≤ subtag.toList.length ∧ subtag.toList.length ≤ most

/-- A tag `language[-Script]-REGION` with whatever subtags follow. -/
structure LocaleTag where
  language : String
  script : Option String
  region : String
  further : List String
  isLanguage : IsSubtag 2 3 language
  isScript : ∀ subtag ∈ script, IsSubtag 4 4 subtag
  isRegion : IsSubtag 2 2 region

namespace LocaleTag

def subtags (tag : LocaleTag) : List String :=
  tag.language :: (tag.script.toList ++ tag.region :: tag.further)

/-- The tag as it is written. -/
def text (tag : LocaleTag) : String :=
  String.ofList (['-'].intercalate (tag.subtags.map String.toList))

end LocaleTag

theorem IsSubtag.splitOn_hyphen {least most : Nat} {subtag : String}
    (form : IsSubtag least most subtag) : subtag.toList.splitOn '-' = [subtag.toList] := by
  apply List.splitOn_eq_singleton
  intro hyphen
  have letter := form.1 '-' hyphen
  cases letter

theorem LocaleTag.isSubtag_second (tag : LocaleTag) :
    ∃ least most, IsSubtag least most (tag.script.getD tag.region) := by
  cases script : tag.script with
  | none => exact ⟨2, 2, tag.isRegion⟩
  | some subtag => exact ⟨4, 4, tag.isScript subtag script⟩

/-- The second subtag is taken for the region. -/
theorem detectSystemRegion_text (tag : LocaleTag) :
    detectSystemRegion (some tag.text) =
      String.ofList ((tag.script.getD tag.region).toList.map Char.toUpper) := by
  rcases tag.isSubtag_second with ⟨least, most, second⟩
  have subtags : ∃ later, tag.subtags = tag.language :: tag.script.getD tag.region :: later := by
    unfold LocaleTag.subtags
    cases tag.script with
    | none => exact ⟨tag.further, rfl⟩
    | some script => exact ⟨tag.region :: tag.further, rfl⟩
  rcases subtags with ⟨later, subtags⟩
  have split : (tag.text.toList.splitOn '-')[1]? =
      some (tag.script.getD tag.region).toList := by
    rw [LocaleTag.text, String.toList_ofList, splitOn_intercalate_eq_flatMap '-' (by simp [subtags]),
      subtags]
    simp only [List.map_cons, List.flatMap_cons, tag.isLanguage.splitOn_hyphen,
      second.splitOn_hyphen, List.singleton_append, List.getElem?_cons_succ,
      List.getElem?_cons_zero]
  simp only [detectSystemRegion, split]

/-- A region in capitals prefers the same nodes. -/
theorem isPreferred_toUpper (region : String) :
    isPreferred (some (String.ofList (region.toList.map Char.toUpper))) =
      isPreferred (some region) := by
  have same : ∀ other, eqIgnoreAsciiCase other (String.ofList (region.toList.map Char.toUpper)) =
      eqIgnoreAsciiCase other region := by
    intro other
    simp only [eqIgnoreAsciiCase, String.toList_ofList, List.map_map, Function.comp_def,
      Char.toLower_toUpper_eq_toLower]
  funext element
  unfold isPreferred
  cases element.get "region" with
  | none => rfl
  | some value =>
      cases value with
      | string other => exact same other
      | _ => rfl

/-- A new provider lists the nodes of the second subtag first. -/
theorem parseNodes_new (tag : LocaleTag) (userAgent : Option String)
    {fromStr : String → Option Json} {json : String} {elements : List Json}
    (isArray : fromStr json = some (.array elements)) :
    parseNodes fromStr json (RelayNodeProvider.new (some tag.text) userAgent none).preferredRegion =
      some (orderedUrls (some (tag.script.getD tag.region)) elements) := by
  rw [parseNodes_of_array _ isArray, RelayNodeProvider.new, Option.getD_none,
    detectSystemRegion_text, orderedUrls, orderedUrls, isPreferred_toUpper]

/-! ## The nodes of a region -/

section Region

variable {region script : String} {elements : List Json}

/-- The urls of the usable nodes of a region. -/
def regionUrls (region : String) (elements : List Json) : List String :=
  usableUrls (elements.filter (isPreferred (some region)))

def otherUrls (region : String) (elements : List Json) : List String :=
  usableUrls (elements.filter fun element => !isPreferred (some region) element)

/-- The nodes of the region stand before all others. -/
def RegionFirst (region : String) (elements : List Json) (nodes : List String) : Prop :=
  ∃ first rest, nodes = first ++ rest ∧ first.Perm (regionUrls region elements) ∧
    rest.Perm (otherUrls region elements)

theorem orderedUrls_eq (region : String) (elements : List Json) :
    orderedUrls (some region) elements = regionUrls region elements ++ otherUrls region elements :=
  rfl

theorem regionUrls_sublist (region : String) (elements : List Json) :
    (regionUrls region elements).Sublist (usableUrls elements) :=
  List.filter_sublist.filterMap elementUrl

theorem otherUrls_sublist (region : String) (elements : List Json) :
    (otherUrls region elements).Sublist (usableUrls elements) :=
  List.filter_sublist.filterMap elementUrl

/-- Where urls are not repeated, no url is that of a node of the region and that of another. -/
theorem not_mem_otherUrls (distinct : (usableUrls elements).Nodup) {url : String}
    (listed : url ∈ regionUrls region elements) : url ∉ otherUrls region elements := by
  have ordered := (orderedUrls_perm (some region) elements).nodup_iff.mpr distinct
  rw [orderedUrls_eq, List.nodup_append] at ordered
  intro other
  exact ordered.2.2 url listed url other rfl

theorem regionUrls_eq_nil_iff :
    regionUrls region elements = [] ↔ ∀ element ∈ elements, elementUrl element ≠ none →
      isPreferred (some region) element = false := by
  rw [regionUrls, usableUrls, List.filterMap_eq_nil_iff]
  simp only [List.mem_filter, and_imp]
  constructor
  · intro unusable element listed usable
    by_contra preferred
    exact usable (unusable element listed (Bool.eq_true_of_not_eq_false preferred))
  · intro unmatched element listed preferred
    by_contra usable
    rw [unmatched element listed usable] at preferred
    cases preferred

/-- What an array has to be like for the nodes of the region to come first, where another text
is taken for the region. -/
theorem regionFirst_iff (distinct : (usableUrls elements).Nodup)
    (apart : ∀ element, isPreferred (some script) element = true →
      isPreferred (some region) element = false) :
    RegionFirst region elements (orderedUrls (some script) elements) ↔
      regionUrls region elements = [] ∨
        regionUrls script elements = [] ∧
          usableUrls elements = regionUrls region elements ++ otherUrls region elements := by
  constructor
  · rintro ⟨first, rest, split, firstPerm, restPerm⟩
    by_cases absent : regionUrls region elements = []
    · exact Or.inl absent
    · have noScript : regionUrls script elements = [] := by
        cases begins : regionUrls script elements with
        | nil => rfl
        | cons url later =>
            -- the first url belongs to a node of the region and to one of the script
            rw [orderedUrls_eq, begins, List.cons_append] at split
            cases first with
            | nil => exact absurd (List.nil_perm.mp firstPerm) absent
            | cons head others =>
                cases (List.cons.inj split).1
                have ofRegion := firstPerm.mem_iff.mp List.mem_cons_self
                have ofScript : url ∈ regionUrls script elements := begins ▸ List.mem_cons_self
                rcases List.mem_filterMap.mp ofScript with ⟨element, listed, isUrl⟩
                have ⟨present, preferred⟩ := List.mem_filter.mp listed
                have other : url ∈ otherUrls region elements := by
                  apply List.mem_filterMap.mpr
                  refine ⟨element, List.mem_filter.mpr ⟨present, ?_⟩, isUrl⟩
                  rw [apart element preferred, Bool.not_false]
                exact absurd other (not_mem_otherUrls distinct ofRegion)
      have unchanged := orderedUrls_of_unmatched (some script) (regionUrls_eq_nil_iff.mp noScript)
      rw [unchanged] at split
      have firstSublist : first.Sublist (usableUrls elements) :=
        split ▸ List.sublist_append_left first rest
      have restSublist : rest.Sublist (usableUrls elements) :=
        split ▸ List.sublist_append_right first rest
      have sameFirst := (distinct.perm_iff_eq_of_sublist firstSublist
        (regionUrls_sublist region elements)).mp firstPerm
      have sameRest := (distinct.perm_iff_eq_of_sublist restSublist
        (otherUrls_sublist region elements)).mp restPerm
      rw [← sameFirst, ← sameRest]
      exact Or.inr ⟨noScript, split⟩
  · rintro (absent | ⟨noScript, already⟩)
    · have whole := (orderedUrls_perm (some script) elements).trans
        (orderedUrls_perm (some region) elements).symm
      rw [orderedUrls_eq region, absent, List.nil_append] at whole
      refine ⟨[], orderedUrls (some script) elements, rfl, ?_, whole⟩
      rw [absent]
    · have unchanged := orderedUrls_of_unmatched (some script) (regionUrls_eq_nil_iff.mp noScript)
      exact ⟨_, _, unchanged.trans already, .refl _, .refl _⟩

end Region

theorem length_eq_of_eqIgnoreAsciiCase {first second : String}
    (same : eqIgnoreAsciiCase first second = true) :
    first.toList.length = second.toList.length := by
  have lengths := congrArg List.length (beq_iff_eq.mp same)
  rw [List.length_map, List.length_map] at lengths
  exact lengths

/-- No node has a script and a region of a tag for its region. -/
theorem LocaleTag.isPreferred_apart (tag : LocaleTag) {script : String}
    (written : tag.script = some script) {element : Json}
    (preferred : isPreferred (some script) element = true) :
    isPreferred (some tag.region) element = false := by
  by_contra both
  rcases isPreferred_eq_true_iff.mp preferred with ⟨_, region, ⟨rfl⟩, found, isScript⟩
  rcases isPreferred_eq_true_iff.mp (Bool.eq_true_of_not_eq_false both) with
    ⟨_, other, ⟨rfl⟩, foundOther, isRegion⟩
  cases found.symm.trans foundOther
  have four := (tag.isScript script written).2
  have two := tag.isRegion.2
  rw [← length_eq_of_eqIgnoreAsciiCase isScript] at four
  rw [← length_eq_of_eqIgnoreAsciiCase isRegion] at two
  omega

/-! ## What a provider makes of a locale -/

/-- A provider that is created in this locale without a preferred region lists the nodes of the
locale's region first. -/
def ListsRegionFirst (tag : LocaleTag) (userAgent : Option String)
    (fromStr : String → Option Json) (json : String) : Prop :=
  ∀ elements, fromStr json = some (.array elements) → ∃ nodes,
    parseNodes fromStr json (RelayNodeProvider.new (some tag.text) userAgent none).preferredRegion =
        some nodes ∧
      RegionFirst tag.region elements nodes

theorem listsRegionFirst_of_array {tag : LocaleTag} {userAgent : Option String}
    {fromStr : String → Option Json} {json : String} {elements : List Json}
    (isArray : fromStr json = some (.array elements)) :
    ListsRegionFirst tag userAgent fromStr json ↔
      RegionFirst tag.region elements
        (orderedUrls (some (tag.script.getD tag.region)) elements) := by
  have parsed := parseNodes_new tag userAgent isArray
  constructor
  · intro lists
    rcases lists elements isArray with ⟨nodes, answer, first⟩
    cases parsed.symm.trans answer
    exact first
  · intro first others isOthers
    cases isArray.symm.trans isOthers
    exact ⟨_, parsed, first⟩

theorem listsRegionFirst_of_none {tag : LocaleTag} (none : tag.script = none)
    (userAgent : Option String) (fromStr : String → Option Json) (json : String) :
    ListsRegionFirst tag userAgent fromStr json := by
  intro elements isArray
  apply (listsRegionFirst_of_array isArray).mpr ?_ elements isArray
  rw [none]
  exact ⟨_, _, rfl, .refl _, .refl _⟩

theorem listsRegionFirst_script_iff {tag : LocaleTag} {script : String}
    (written : tag.script = some script) {userAgent : Option String}
    {fromStr : String → Option Json} {json : String} {elements : List Json}
    (isArray : fromStr json = some (.array elements)) (distinct : (usableUrls elements).Nodup) :
    ListsRegionFirst tag userAgent fromStr json ↔
      regionUrls tag.region elements = [] ∨
        regionUrls script elements = [] ∧ usableUrls elements =
          regionUrls tag.region elements ++ otherUrls tag.region elements := by
  rw [listsRegionFirst_of_array isArray, written, Option.getD_some]
  apply regionFirst_iff distinct
  exact fun element preferred => tag.isPreferred_apart written preferred

/-- A node of the service. -/
def nodeOf (url region : String) : Json :=
  .object [("url", .string url), ("region", .string region)]

theorem elementUrl_nodeOf {url : String} (visible : trim url ≠ "") (region : String) :
    elementUrl (nodeOf url region) = some url := if_neg visible

theorem isPreferred_nodeOf (url region : String) :
    isPreferred (some region) (nodeOf url region) = true := beq_self_eq_true _

/-- One node, with the script for its region, and one in the region itself. -/
def scriptBeforeRegion (script region : String) : List Json :=
  [nodeOf "tcp://10.0.0.1:11010" script, nodeOf "tcp://10.0.0.2:11010" region]

theorem usableUrls_scriptBeforeRegion (script region : String) :
    usableUrls (scriptBeforeRegion script region) =
      ["tcp://10.0.0.1:11010", "tcp://10.0.0.2:11010"] := by
  unfold usableUrls scriptBeforeRegion
  rw [List.filterMap_cons_some (elementUrl_nodeOf (by decide +kernel) script),
    List.filterMap_cons_some (elementUrl_nodeOf (by decide +kernel) region), List.filterMap_nil]

/-- Among all arrays there is one whose order shows that the script was taken for the region. -/
theorem exists_not_listsRegionFirst {tag : LocaleTag} {script : String}
    (written : tag.script = some script) (userAgent : Option String) :
    ¬ ListsRegionFirst tag userAgent
      (fun _ => some (.array (scriptBeforeRegion script tag.region))) "" := by
  have distinct : (usableUrls (scriptBeforeRegion script tag.region)).Nodup := by
    rw [usableUrls_scriptBeforeRegion]
    decide
  have usable : ∀ element ∈ scriptBeforeRegion script tag.region, elementUrl element ≠ none := by
    intro element listed
    rcases List.mem_pair.mp listed with rfl | rfl
    · rw [elementUrl_nodeOf (by decide +kernel)]
      exact nofun
    · rw [elementUrl_nodeOf (by decide +kernel)]
      exact nofun
  rw [listsRegionFirst_script_iff written rfl distinct]
  rintro (absent | ⟨noScript, _⟩)
  · have second := regionUrls_eq_nil_iff.mp absent _ (List.mem_pair.mpr (Or.inr rfl))
      (usable _ (List.mem_pair.mpr (Or.inr rfl)))
    rw [isPreferred_nodeOf] at second
    cases second
  · have first := regionUrls_eq_nil_iff.mp noScript _ (List.mem_pair.mpr (Or.inl rfl))
      (usable _ (List.mem_pair.mpr (Or.inl rfl)))
    rw [isPreferred_nodeOf] at first
    cases first

/-- A provider lists the nodes of the locale's region first, whatever the service answers,
exactly if the locale has no script.  Where it has one, and no url is repeated, an array still
has the nodes of the region first if it has none of them, or if they stand first already and no
node has the script for its region. -/
theorem listsRegionFirst_iff (tag : LocaleTag) :
    ((∀ userAgent fromStr json, ListsRegionFirst tag userAgent fromStr json) ↔
      tag.script = none) ∧
    ∀ userAgent fromStr json elements, fromStr json = some (.array elements) →
      (usableUrls elements).Nodup →
        (ListsRegionFirst tag userAgent fromStr json ↔ ∀ script, tag.script = some script →
          regionUrls tag.region elements = [] ∨
            regionUrls script elements = [] ∧ usableUrls elements =
              regionUrls tag.region elements ++ otherUrls tag.region elements) := by
  constructor
  · constructor
    · intro always
      cases written : tag.script with
      | none => rfl
      | some script => exact absurd (always none _ _) (exists_not_listsRegionFirst written none)
    · intro none userAgent fromStr json
      exact listsRegionFirst_of_none none userAgent fromStr json
  · intro userAgent fromStr json elements isArray distinct
    cases written : tag.script with
    | none =>
        apply iff_of_true (listsRegionFirst_of_none written userAgent fromStr json)
        intro script impossible
        cases impossible
    | some script =>
        rw [listsRegionFirst_script_iff written isArray distinct]
        simp only [Option.some.injEq, forall_eq']

/-- The tag of Chinese in simplified script, in China. -/
def simplifiedChinese : LocaleTag where
  language := "zh"
  script := some "Hans"
  region := "CN"
  further := []
  isLanguage := ⟨List.all_iff_forall_prop.mp (by decide), by decide, by decide⟩
  isScript := by
    rintro subtag ⟨rfl⟩
    exact ⟨List.all_iff_forall_prop.mp (by decide), by decide, by decide⟩
  isRegion := ⟨List.all_iff_forall_prop.mp (by decide), by decide, by decide⟩

/-- The node in China comes last, behind the one in Japan. -/
theorem script_taken_for_region :
    simplifiedChinese.text = "zh-Hans-CN" ∧
      parseNodes (fun _ => some (.array [nodeOf "tcp://10.0.0.1:11010" "JP",
          nodeOf "tcp://10.0.0.2:11010" "CN"])) "nodes"
          (RelayNodeProvider.new (some "zh-Hans-CN") none none).preferredRegion =
        some ["tcp://10.0.0.1:11010", "tcp://10.0.0.2:11010"] ∧
      ¬ ListsRegionFirst simplifiedChinese none (fun _ => some (.array
        [nodeOf "tcp://10.0.0.1:11010" "JP", nodeOf "tcp://10.0.0.2:11010" "CN"])) "nodes" := by
  refine ⟨by decide +kernel, by decide +kernel, ?_⟩
  rw [listsRegionFirst_script_iff rfl rfl (by decide +kernel)]
  decide +kernel

end Relay
end QomicexConnector
