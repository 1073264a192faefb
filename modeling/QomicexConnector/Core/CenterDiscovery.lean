import Mathlib.Algebra.Group.Nat.Defs
import QomicexConnector.Library.TextReader
import QomicexConnector.Client.RoomCreation
import QomicexConnector.Guest.ScaffoldingGuest

namespace QomicexConnector
namespace Core

open Library Center Client Guest

/-!
# Discovery of the center

`core/center_discovery.rs`.  A guest looks through the nodes of the network for the host name
that a host gives itself in `start`.  The pattern takes Unicode digits and numbers of any
length, so what it lets through is still read and checked before it counts.
-/

structure EasyTierNode where
  virtualIp : String
  hostname : String
  nodeId : String
  deriving DecidableEq, Repr

/-- The class `\d`: decimal digits of all scripts, and no other ASCII characters than the ten
digits. -/
structure DecimalDigits where
  belongs : Char → Bool
  ascii : ∀ char : Char, char.toNat < 128 → belongs char = char.isDigit

def hostnamePrefix : String := "scaffolding-mc-server-"

section Search

variable (unicode : DecimalDigits)

/-- `hostname_pattern`, with its capture. -/
def hostnamePattern : Reader (List Char) := do
  Reader.literal hostnamePrefix.toList
  Reader.oneOrMore unicode.belongs

/-- `try_parse_center`. -/
def tryParseCenter : List EasyTierNode → Option CenterDiscoveryResult
  | [] => none
  | node :: later =>
      match (hostnamePattern unicode).toEnd node.hostname with
      | none => tryParseCenter later
      | some digits =>
          match Reader.parseUnsigned (2 ^ 32) digits with
          | none => tryParseCenter later
          | some port =>
              if 1024 < port ∧ port ≤ 65535 then some ⟨node.virtualIp, UInt16.ofNat port⟩
              else tryParseCenter later

/-- The scans of `discover` that remain; the caller cancels between two of them. -/
def discoverFrom (getNodes : Nat → List EasyTierNode) (cancelled : Nat → Bool) :
    Nat → Nat → Except ScaffoldingError CenterDiscoveryResult
  | _, 0 => .error (.centerNotFound "未在 EasyTier 网络中发现联机中心（超时 30s）")
  | attempt, remaining + 1 =>
      match tryParseCenter unicode (getNodes attempt) with
      | some result => .ok result
      | none =>
          if cancelled attempt then .error (.centerNotFound "中心发现已取消")
          else discoverFrom getNodes cancelled (attempt + 1) remaining

/-- `discover`. -/
def discover (getNodes : Nat → List EasyTierNode) (cancelled : Nat → Bool) :
    Except ScaffoldingError CenterDiscoveryResult :=
  discoverFrom unicode getNodes cancelled 0 60

end Search

/-! ## Host names of centers -/

/-- The host name of a center on this port. -/
def CenterHostname (hostname : String) (port : Nat) : Prop :=
  ∃ digits : List Char, digits ≠ [] ∧ (∀ digit ∈ digits, digit.isDigit = true) ∧
    hostname = hostnamePrefix ++ String.ofList digits ∧ Nat.ofDigitChars 10 digits 0 = port ∧
    1025 ≤ port ∧ port ≤ 65535

theorem CenterHostname.unique {hostname : String} {port other : Nat}
    (first : CenterHostname hostname port) (second : CenterHostname hostname other) :
    port = other := by
  rcases first with ⟨digits, _, _, rfl, rfl, _⟩
  rcases second with ⟨others, _, _, same, rfl, _⟩
  rw [← String.toList_inj, String.toList_append, String.toList_append, List.append_cancel_left_eq,
    String.toList_ofList, String.toList_ofList] at same
  rw [same]

/-- The port of a center has sixteen bits. -/
theorem CenterHostname.toNat_ofNat {hostname : String} {port : Nat}
    (center : CenterHostname hostname port) : (UInt16.ofNat port).toNat = port := by
  rcases center with ⟨_, _, _, _, _, _, most⟩
  apply UInt16.toNat_ofNat_of_lt'
  exact Nat.lt_succ_of_le most

/-- A host name that `start` chooses. -/
theorem centerHostname_networkConfig (room : RoomSetup) (config : CenterConfig) {port : Nat}
    (least : 1025 ≤ port) (most : port < 65535) :
    CenterHostname (room.networkConfig config port).hostname port := by
  refine ⟨Nat.toDigits 10 port, Nat.toDigits_ne_nil,
    fun digit listed => Nat.isDigit_of_mem_toDigits (by decide) (Nat.le_refl 10) listed, ?_,
    Nat.ofDigitChars_ten_toDigits, least, Nat.le_of_lt most⟩
  rw [← Nat.toString_eq_ofList_toDigits]
  rfl

section Pattern

variable (unicode : DecimalDigits)

theorem isDigit_of_belongs {unicode : DecimalDigits} {char : Char} (digit : char.isDigit = true) :
    unicode.belongs char = true := by
  have ascii : char.toNat < 128 := Nat.lt_of_le_of_lt (Reader.toNat_le_of_isDigit digit) (by decide)
  exact (unicode.ascii char ascii).trans digit

theorem hostnamePattern_eq_some_iff {hostname : String} {digits : List Char} :
    (hostnamePattern unicode).toEnd hostname = some digits ↔
      hostname = hostnamePrefix ++ String.ofList digits ∧ digits ≠ [] ∧
        ∀ char ∈ digits, unicode.belongs char = true := by
  rw [Reader.toEnd_eq_some_iff, hostnamePattern, Reader.bind_eq_some_iff, ← String.toList_inj,
    String.toList_append, String.toList_ofList]
  constructor
  · rintro ⟨_, middle, begins, ends⟩
    rw [Reader.literal_eq_some_iff] at begins
    rcases Reader.oneOrMore_eq_some_nil_iff.mp ends with ⟨rfl, nonempty, all⟩
    exact ⟨begins, nonempty, all⟩
  · rintro ⟨form, nonempty, all⟩
    exact ⟨(), digits, Reader.literal_eq_some_iff.mpr form,
      Reader.oneOrMore_eq_some_nil_iff.mpr ⟨rfl, nonempty, all⟩⟩

/-- A node's host name passes the pattern, the number and the range exactly if it is one of a
center. -/
theorem centerHostname_iff {hostname : String} {port : Nat} :
    CenterHostname hostname port ↔ ∃ digits,
      (hostnamePattern unicode).toEnd hostname = some digits ∧
        Reader.parseUnsigned (2 ^ 32) digits = some port ∧ 1024 < port ∧ port ≤ 65535 := by
  constructor
  · rintro ⟨digits, nonempty, all, form, same, least, most⟩
    have unsigned : digits.head? ≠ some '+' := by
      intro plus
      have isDigit := all '+' (List.mem_of_mem_head? plus)
      cases isDigit
    exact ⟨digits, (hostnamePattern_eq_some_iff unicode).mpr
      ⟨form, nonempty, fun digit listed => isDigit_of_belongs (all digit listed)⟩,
      (Reader.parseUnsigned_eq_some_iff unsigned).mpr ⟨nonempty, all, same, by omega⟩, least, most⟩
  · rintro ⟨digits, matched, parsed, least, most⟩
    rcases (hostnamePattern_eq_some_iff unicode).mp matched with ⟨form, nonempty, all⟩
    have unsigned : digits.head? ≠ some '+' := by
      intro plus
      have belongs := all '+' (List.mem_of_mem_head? plus)
      rw [unicode.ascii '+' (by decide)] at belongs
      cases belongs
    rcases (Reader.parseUnsigned_eq_some_iff unsigned).mp parsed with ⟨_, decimal, same, _⟩
    exact ⟨digits, nonempty, decimal, form, same, least, most⟩

end Pattern

/-! ## The first center -/

section First

variable {unicode : DecimalDigits}

theorem tryParseCenter_of_center {node : EasyTierNode} {port : Nat}
    (center : CenterHostname node.hostname port) (later : List EasyTierNode) :
    tryParseCenter unicode (node :: later) = some ⟨node.virtualIp, UInt16.ofNat port⟩ := by
  rcases (centerHostname_iff unicode).mp center with ⟨digits, matched, parsed, inRange⟩
  rw [tryParseCenter, matched]
  simp only [parsed]
  rw [if_pos inRange]

/-- A node that is no center is passed over, for whichever reason. -/
theorem tryParseCenter_of_other {node : EasyTierNode}
    (other : ∀ port, ¬ CenterHostname node.hostname port) (later : List EasyTierNode) :
    tryParseCenter unicode (node :: later) = tryParseCenter unicode later := by
  rw [tryParseCenter]
  cases matched : (hostnamePattern unicode).toEnd node.hostname with
  | none => rfl
  | some digits =>
      cases parsed : Reader.parseUnsigned (2 ^ 32) digits with
      | none => simp only [parsed]
      | some port =>
          have outside : ¬ (1024 < port ∧ port ≤ 65535) := fun inRange =>
            other port ((centerHostname_iff unicode).mpr ⟨digits, matched, parsed, inRange⟩)
          simp only [parsed]
          rw [if_neg outside]

theorem tryParseCenter_append {before : List EasyTierNode}
    (others : ∀ node ∈ before, ∀ port, ¬ CenterHostname node.hostname port)
    (later : List EasyTierNode) :
    tryParseCenter unicode (before ++ later) = tryParseCenter unicode later := by
  induction before with
  | nil => rfl
  | cons node before inductionHypothesis =>
      rw [List.cons_append, tryParseCenter_of_other (others node List.mem_cons_self)]
      exact inductionHypothesis fun other listed => others other (List.mem_cons_of_mem node listed)

/-- This node is the first center of the list. -/
def FirstCenter (nodes : List EasyTierNode) (node : EasyTierNode) (port : Nat) : Prop :=
  ∃ before later, nodes = before ++ node :: later ∧
    (∀ other ∈ before, ∀ port, ¬ CenterHostname other.hostname port) ∧
    CenterHostname node.hostname port

theorem exists_firstCenter {nodes : List EasyTierNode} {node : EasyTierNode} {port : Nat}
    (listed : node ∈ nodes) (center : CenterHostname node.hostname port) :
    ∃ first port, FirstCenter nodes first port := by
  induction nodes with
  | nil => cases listed
  | cons head later inductionHypothesis =>
      by_cases starts : ∃ port, CenterHostname head.hostname port
      · rcases starts with ⟨port, starts⟩
        exact ⟨head, port, [], later, rfl, List.forall_mem_nil _, starts⟩
      · have others := not_exists.mp starts
        rcases List.mem_cons.mp listed with rfl | listed
        · exact absurd center (others port)
        · rcases inductionHypothesis listed with ⟨first, port, before, last, rfl, clear, center⟩
          exact ⟨first, port, head :: before, last, rfl,
            List.forall_mem_cons.mpr ⟨others, clear⟩, center⟩

theorem tryParseCenter_of_firstCenter {nodes : List EasyTierNode} {node : EasyTierNode}
    {port : Nat} (first : FirstCenter nodes node port) :
    tryParseCenter unicode nodes = some ⟨node.virtualIp, UInt16.ofNat port⟩ := by
  rcases first with ⟨before, later, rfl, others, center⟩
  rw [tryParseCenter_append others]
  exact tryParseCenter_of_center center later

theorem tryParseCenter_eq_none {nodes : List EasyTierNode}
    (others : ∀ node ∈ nodes, ∀ port, ¬ CenterHostname node.hostname port) :
    tryParseCenter unicode nodes = none := by
  rw [← List.append_nil nodes, tryParseCenter_append others]
  rfl

/-- The result is the first center of the list. -/
theorem tryParseCenter_eq_some_iff {nodes : List EasyTierNode} {result : CenterDiscoveryResult} :
    tryParseCenter unicode nodes = some result ↔
      ∃ node, FirstCenter nodes node result.port.toNat ∧ result.virtualIp = node.virtualIp := by
  constructor
  · intro found
    by_cases some : ∃ node ∈ nodes, ∃ port, CenterHostname node.hostname port
    · rcases some with ⟨node, listed, port, center⟩
      rcases exists_firstCenter listed center with ⟨first, port, isFirst⟩
      rw [tryParseCenter_of_firstCenter isFirst, Option.some.injEq] at found
      rcases isFirst with ⟨before, later, split, others, center⟩
      rw [← found, center.toNat_ofNat]
      exact ⟨first, ⟨before, later, split, others, center⟩, rfl⟩
    · have others : ∀ node ∈ nodes, ∀ port, ¬ CenterHostname node.hostname port :=
        fun node listed port center => some ⟨node, listed, port, center⟩
      rw [tryParseCenter_eq_none others] at found
      cases found
  · rintro ⟨node, first, same⟩
    rw [tryParseCenter_of_firstCenter first, UInt16.ofNat_toNat, ← same]

end First

/-- `try_parse_center` finds the first node with the host name of a center, with the number
that its digits stand for; a host's own node is found with the port that the host has
chosen. -/
theorem tryParseCenter_finds_first (unicode : DecimalDigits) (nodes : List EasyTierNode) :
    ((tryParseCenter unicode nodes).isSome = true ↔
      ∃ node ∈ nodes, ∃ port, CenterHostname node.hostname port) ∧
    (∀ result, tryParseCenter unicode nodes = some result ↔
      ∃ node, FirstCenter nodes node result.port.toNat ∧ result.virtualIp = node.virtualIp) ∧
    ∀ (room : RoomSetup) (config : CenterConfig) (port : Nat) (host : EasyTierNode)
      (before later : List EasyTierNode), 1025 ≤ port → port < 65535 →
        nodes = before ++ host :: later →
        host.hostname = (room.networkConfig config port).hostname →
        (∀ other ∈ before ++ later, ∀ port, ¬ CenterHostname other.hostname port) →
          ∃ result, tryParseCenter unicode nodes = some result ∧ result.port.toNat = port ∧
            result.virtualIp = host.virtualIp := by
  refine ⟨?_, fun result => tryParseCenter_eq_some_iff, ?_⟩
  · constructor
    · intro found
      rcases Option.isSome_iff_exists.mp found with ⟨result, found⟩
      rcases tryParseCenter_eq_some_iff.mp found with ⟨node, ⟨before, later, rfl, _, center⟩, _⟩
      exact ⟨node, List.mem_append_right before List.mem_cons_self, _, center⟩
    · rintro ⟨node, listed, port, center⟩
      rcases exists_firstCenter listed center with ⟨first, port, isFirst⟩
      rw [tryParseCenter_of_firstCenter isFirst]
      rfl
  · rintro room config port host before later least most rfl named others
    have center : CenterHostname host.hostname port := by
      rw [named]
      exact centerHostname_networkConfig room config least most
    have first : FirstCenter (before ++ host :: later) host port :=
      ⟨before, later, rfl, fun other listed => others other (List.mem_append_left later listed),
        center⟩
    exact ⟨_, tryParseCenter_of_firstCenter first, center.toNat_ofNat, rfl⟩

/-! ## The polls -/

section Polls

variable {unicode : DecimalDigits} {getNodes : Nat → List EasyTierNode} {cancelled : Nat → Bool}

theorem discoverFrom_eq_ok_iff {attempt remaining : Nat} {center : CenterDiscoveryResult} :
    discoverFrom unicode getNodes cancelled attempt remaining = .ok center ↔
      ∃ polls < remaining,
        tryParseCenter unicode (getNodes (attempt + polls)) = some center ∧
        ∀ earlier < polls, tryParseCenter unicode (getNodes (attempt + earlier)) = none ∧
          cancelled (attempt + earlier) = false := by
  induction remaining generalizing attempt with
  | zero =>
      rw [discoverFrom]
      exact iff_of_false nofun fun ⟨polls, few, _⟩ => Nat.not_lt_zero polls few
  | succ remaining inductionHypothesis =>
      -- the first scan is `attempt`, the other ones are those of the rest of the loop
      have shift : ∀ polls, attempt + 1 + polls = attempt + (polls + 1) := fun polls => by omega
      have rest := @inductionHypothesis (attempt + 1)
      simp only [shift] at rest
      rw [discoverFrom, Nat.exists_lt_succ_left]
      simp only [Nat.forall_lt_succ_left, Nat.add_zero, Nat.not_lt_zero, false_imp_iff,
        implies_true, and_true]
      cases scanned : tryParseCenter unicode (getNodes attempt) with
      | some result => simp
      | none =>
          cases stops : cancelled attempt with
          | true => simp
          | false => simpa using rest

/-- `discover` returns what the first of the sixty scans with a center has found. -/
theorem discover_eq_ok_iff {center : CenterDiscoveryResult} :
    discover unicode getNodes cancelled = .ok center ↔
      ∃ attempt < 60, tryParseCenter unicode (getNodes attempt) = some center ∧
        ∀ earlier < attempt, tryParseCenter unicode (getNodes earlier) = none ∧
          cancelled earlier = false := by
  rw [discover, discoverFrom_eq_ok_iff]
  simp only [Nat.zero_add]

end Polls

end Core
end QomicexConnector
