import Mathlib.Data.List.Infix
import Mathlib.Data.Prod.Lex
import Mathlib.Data.String.Basic
import QomicexConnector.Library.SortByKey
import QomicexConnector.Library.SocketAddr

namespace QomicexConnector
namespace Easytier

open Library

/-!
# The address that EasyTier binds

`util.rs` picks an IPv4 address of a network card for EasyTier to listen on, so that a virtual
card of a VPN does not take the traffic over.  The interfaces come from the operating system.
Wired cards go before wireless ones and these before all others; within a group the names
decide, and then the order in which the system lists the addresses.
-/

/-- An address of an interface, without its broadcast address and its mask. -/
inductive Addr where
  | v4 (ip : Ipv4Addr)
  | v6 (ip : Ipv6Addr)

structure NetworkInterface where
  name : String
  addr : List Addr

/-- `is_loopback`. -/
def isLoopback (ip : Ipv4Addr) : Bool := ip.a == 127

/-- `is_link_local`. -/
def isLinkLocal (ip : Ipv4Addr) : Bool := ip.a == 169 && ip.b == 254

/-- `str::contains`. -/
def contains (text part : String) : Bool := decide (part.toList <:+: text.toList)

/-- `to_ascii_lowercase`; `Char.toLower` changes ASCII letters only. -/
def toAsciiLowercase (text : String) : String := String.ofList (text.toList.map Char.toLower)

/-- `VIRTUAL_KEYWORDS`. -/
def virtualKeywords : List String :=
  ["radmin", "hamachi", "zerotier", "wintun", "tailscale", "wireguard", "openvpn", "nordvpn",
    "surfshark", "vmware", "virtualbox", "virtual", "loopback", "easytier", "vpn", "tun", "tap"]

/-- `is_virtual_interface`. -/
def isVirtualInterface (lower : String) : Bool := virtualKeywords.any (contains lower)

/-- The score in `sort_candidates`. -/
def score (name : String) : Nat :=
  if contains name "ethernet" || contains name "以太网" then 0
  else if contains name "wlan" || contains name "wi-fi" || contains name "wifi" ||
    contains name "无线" then 1
  else 2

/-- The key of `sort_candidates`; texts are compared character by character. -/
def rank (candidate : String × String) : Nat ×ₗ String :=
  toLex (score candidate.1, candidate.1)

/-- `sort_candidates`. -/
def sortCandidates (candidates : List (String × String)) : List (String × String) :=
  sortByKey rank candidates

/-- The text of an address that can be bound. -/
def bindable : Addr → Option String
  | .v4 ip => if isLoopback ip || isLinkLocal ip then none else some ip.display
  | .v6 _ => none

/-- The candidates of one interface, with its name. -/
def interfaceCandidates (iface : NetworkInterface) : List (String × String) :=
  let lower := toAsciiLowercase iface.name
  if isVirtualInterface lower then []
  else iface.addr.filterMap fun addr => (bindable addr).map (Prod.mk lower)

/-- The candidates before they are sorted. -/
def candidates (interfaces : List NetworkInterface) : List (String × String) :=
  interfaces.flatMap interfaceCandidates

/-- `physical_ipv4_candidates`; `none` where the system does not tell its interfaces. -/
def physicalIpv4Candidates (shown : Option (List NetworkInterface)) : List String :=
  match shown with
  | none => []
  | some interfaces => (sortCandidates (candidates interfaces)).map Prod.snd

/-- `resolve_bind_ip`. -/
def resolveBindIp (shown : Option (List NetworkInterface)) : Option String :=
  (physicalIpv4Candidates shown).head?

/-! ## Which address it is -/

/-- An address of a card that is not virtual, neither of the machine itself nor assigned for
want of a better one. -/
structure Usable (interfaces : List NetworkInterface) (name : String) (ip : Ipv4Addr) : Prop where
  listed : ∃ iface ∈ interfaces, .v4 ip ∈ iface.addr ∧ toAsciiLowercase iface.name = name
  physical : isVirtualInterface name = false
  notLoopback : isLoopback ip = false
  notLinkLocal : isLinkLocal ip = false

theorem bindable_eq_some_iff {addr : Addr} {text : String} :
    bindable addr = some text ↔
      ∃ ip, addr = .v4 ip ∧ isLoopback ip = false ∧ isLinkLocal ip = false ∧ text = ip.display := by
  cases addr with
  | v6 ip => simp [bindable]
  | v4 ip =>
      rw [bindable]
      split
      · next odd =>
          rw [Bool.or_eq_true] at odd
          constructor
          · exact nofun
          · rintro ⟨other, same, loopback, linkLocal, _⟩
            cases same
            simp_all
      · next usable =>
          rw [Bool.not_eq_true, Bool.or_eq_false_iff] at usable
          constructor
          · rintro ⟨⟩
            exact ⟨ip, rfl, usable.1, usable.2, rfl⟩
          · rintro ⟨other, same, _, _, rfl⟩
            cases same
            rfl

theorem mem_candidates_iff {interfaces : List NetworkInterface} {name text : String} :
    (name, text) ∈ candidates interfaces ↔ ∃ ip, Usable interfaces name ip ∧ text = ip.display := by
  rw [candidates, List.mem_flatMap]
  constructor
  · rintro ⟨iface, member, listed⟩
    rw [interfaceCandidates] at listed
    split at listed
    · cases listed
    · next physical =>
        rcases List.mem_filterMap.mp listed with ⟨addr, own, read⟩
        rcases Option.map_eq_some_iff.mp read with ⟨shown, found, same⟩
        cases same
        rcases bindable_eq_some_iff.mp found with ⟨ip, rfl, loopback, linkLocal, rfl⟩
        exact ⟨ip, ⟨⟨iface, member, own, rfl⟩, eq_false_of_ne_true physical, loopback, linkLocal⟩,
          rfl⟩
  · rintro ⟨ip, usable, rfl⟩
    rcases usable.listed with ⟨iface, member, own, rfl⟩
    refine ⟨iface, member, ?_⟩
    rw [interfaceCandidates, if_neg (by rw [usable.physical]; exact Bool.false_ne_true)]
    refine List.mem_filterMap.mpr ⟨.v4 ip, own, ?_⟩
    rw [bindable_eq_some_iff.mpr ⟨ip, rfl, usable.notLoopback, usable.notLinkLocal, rfl⟩]
    rfl

/-- Candidates of one name, and no others, have one rank. -/
theorem rank_eq_iff {candidate : String × String} {name : String} :
    rank candidate = toLex (score name, name) ↔ candidate.1 = name := by
  rw [rank, toLex_inj, Prod.mk.injEq]
  constructor
  · exact fun same => same.2
  · rintro rfl
    exact ⟨rfl, rfl⟩

/-- The first candidate is the first of those that no other one goes before. -/
theorem resolveBindIp_eq_find (interfaces : List NetworkInterface) :
    resolveBindIp (some interfaces) =
      ((candidates interfaces).find? fun candidate =>
        decide (∀ other ∈ candidates interfaces, rank candidate ≤ rank other)).map Prod.snd := by
  rw [resolveBindIp, physicalIpv4Candidates, sortCandidates, List.head?_map, head?_sortByKey]

/-- The candidates are the usable addresses, each as often as the system lists it, by groups and
names and otherwise in the system's order.  The one that is bound is the first that no other one
goes before; there is none only where no address can be used. -/
theorem physical_ipv4_candidates (interfaces : List NetworkInterface) :
    (∃ sorted : List (String × String),
        physicalIpv4Candidates (some interfaces) = sorted.map Prod.snd ∧
          sorted.Perm (candidates interfaces) ∧
          (sorted.Pairwise fun first second => rank first ≤ rank second) ∧
          ∀ name, sorted.filter (fun candidate => candidate.1 = name) =
            (candidates interfaces).filter fun candidate => candidate.1 = name) ∧
      (∀ name text, (name, text) ∈ candidates interfaces ↔
        ∃ ip, Usable interfaces name ip ∧ text = ip.display) ∧
      resolveBindIp (some interfaces) =
        ((candidates interfaces).find? fun candidate =>
          decide (∀ other ∈ candidates interfaces, rank candidate ≤ rank other)).map Prod.snd ∧
      (resolveBindIp (some interfaces) = none ↔ ∀ name ip, ¬ Usable interfaces name ip) := by
  refine ⟨⟨_, rfl, sortByKey_perm _ _, pairwise_sortByKey _ _, ?_⟩, fun _ _ => mem_candidates_iff,
    resolveBindIp_eq_find interfaces, ?_⟩
  · intro name
    have stable := filter_sortByKey rank (candidates interfaces) (toLex (score name, name))
    simp only [rank_eq_iff] at stable
    exact stable
  · rw [resolveBindIp, List.head?_eq_none_iff, physicalIpv4Candidates, List.map_eq_nil_iff]
    constructor
    · intro empty name ip usable
      have listed := mem_candidates_iff.mpr ⟨ip, usable, rfl⟩
      rw [← (sortByKey_perm rank _).mem_iff, ← sortCandidates, empty] at listed
      cases listed
    · intro unusable
      have empty : candidates interfaces = [] := by
        apply List.eq_nil_iff_forall_not_mem.mpr
        rintro ⟨name, text⟩ listed
        rcases mem_candidates_iff.mp listed with ⟨ip, usable, _⟩
        exact unusable name ip usable
      rw [empty]
      exact List.mergeSort_nil

/-- A wired card goes before a wireless one, and the card of a VPN is left out. -/
example : resolveBindIp (some
    [⟨"Radmin VPN", [.v4 ⟨26, 0, 0, 7⟩]⟩, ⟨"WLAN", [.v4 ⟨192, 168, 1, 5⟩]⟩,
      ⟨"Ethernet", [.v4 ⟨169, 254, 3, 4⟩, .v4 ⟨192, 168, 1, 2⟩]⟩]) = some "192.168.1.2" := by
  rw [resolveBindIp_eq_find]
  decide +kernel

end Easytier
end QomicexConnector
