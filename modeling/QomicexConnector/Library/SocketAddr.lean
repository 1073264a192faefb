import Mathlib.Algebra.Group.Nat.Defs
import QomicexConnector.Library.TextReader

namespace QomicexConnector
namespace Library

/-!
# Socket addresses

The addresses of the Rust standard library, as they are written and as their text is read.
An IPv4 address is four decimal numbers without leading zeros; an IPv6 address stands in
brackets before a port, may leave out one run of zero groups and may end in an IPv4 address.
A written IPv4 address with a port is read back; nothing is read where the address is
missing.
-/

structure Ipv4Addr where
  a : UInt8
  b : UInt8
  c : UInt8
  d : UInt8
  deriving DecidableEq, Repr

structure Ipv6Addr where
  segments : Vector UInt16 8
  deriving DecidableEq, Repr

inductive SocketAddr where
  | v4 (ip : Ipv4Addr) (port : UInt16)
  | v6 (ip : Ipv6Addr) (port : UInt16) (flowinfo : UInt32) (scopeId : UInt32)
  deriving DecidableEq, Repr

namespace Ipv4Addr

/-- `Ipv4Addr::LOCALHOST`. -/
def localhost : Ipv4Addr := ⟨127, 0, 0, 1⟩

/-- `to_string`. -/
def display (ip : Ipv4Addr) : String := s!"{ip.a}.{ip.b}.{ip.c}.{ip.d}"

end Ipv4Addr

/-! ## Reading -/

namespace SocketAddr

def readOctet : Reader UInt8 := UInt8.ofNat <$> Reader.number 10 (some 3) false 256

/-- `read_ipv4_addr`. -/
def readIpv4Addr : Reader Ipv4Addr := do
  let a ← readOctet
  Reader.literal ['.']
  let b ← readOctet
  Reader.literal ['.']
  let c ← readOctet
  Reader.literal ['.']
  let d ← readOctet
  return ⟨a, b, c, d⟩

def readGroup : Reader UInt16 := UInt16.ofNat <$> Reader.number 16 (some 4) true 65536

/-- `read_separator` with a colon. -/
def separated {α : Type} (index : Nat) (reader : Reader α) : Reader α := do
  if 0 < index then Reader.literal [':']
  reader

/-- Two octets as one group. -/
def joinOctets (high low : UInt8) : UInt16 := high.toUInt16 <<< 8 ||| low.toUInt16

/-- `read_groups` from an index on, with the number of groups that remain: the groups, and
whether they end in an IPv4 address, for which two must remain. -/
def readGroups : Nat → Nat → List Char → (List UInt16 × Bool) × List Char
  | _, 0, chars => (([], false), chars)
  | index, remaining + 1, chars =>
      match if 0 < remaining then separated index readIpv4Addr chars else none with
      | some (ip, rest) => (([joinOctets ip.a ip.b, joinOctets ip.c ip.d], true), rest)
      | none =>
          match separated index readGroup chars with
          | none => (([], false), chars)
          | some (group, rest) =>
              let later := readGroups (index + 1) remaining rest
              ((group :: later.1.1, later.1.2), later.2)

/-- Eight groups, those that are left out being zero. -/
def fillGroups (head tail : List UInt16) : Ipv6Addr :=
  let filled := head ++ List.replicate (8 - head.length - tail.length) 0 ++ tail
  ⟨Vector.ofFn fun index => filled.getD index.val 0⟩

/-- `read_ipv6_addr`. -/
def readIpv6Addr : Reader Ipv6Addr := fun chars =>
  let head := readGroups 0 8 chars
  if head.1.1.length = 8 then some (fillGroups head.1.1 [], head.2)
  else if head.1.2 then none
  else
    match Reader.literal [':', ':'] head.2 with
    | none => none
    | some (_, rest) =>
        let tail := readGroups 0 (8 - (head.1.1.length + 1)) rest
        some (fillGroups head.1.1 tail.1.1, tail.2)

/-- `read_port`. -/
def readPort : Reader UInt16 := do
  Reader.literal [':']
  UInt16.ofNat <$> Reader.number 10 none true 65536

/-- `read_scope_id`. -/
def readScopeId : Reader UInt32 := do
  Reader.literal ['%']
  UInt32.ofNat <$> Reader.number 10 none true (2 ^ 32)

/-- `read_socket_addr_v4`. -/
def readV4 : Reader SocketAddr := do
  let ip ← readIpv4Addr
  let port ← readPort
  return .v4 ip port

/-- `read_socket_addr_v6`. -/
def readV6 : Reader SocketAddr := do
  Reader.literal ['[']
  let ip ← readIpv6Addr
  let scopeId ← readScopeId <|> pure 0
  Reader.literal [']']
  let port ← readPort
  return .v6 ip port 0 scopeId

/-- `parse`. -/
def parse (text : String) : Option SocketAddr := (readV4 <|> readV6 : Reader SocketAddr).toEnd text

/-! ## Reading what is written -/

theorem toList_toString_octet (octet : UInt8) :
    (toString octet).toList = Nat.toDigits 10 octet.toNat := by
  change (toString octet.toNat).toList = _
  rw [Nat.toString_eq_ofList_toDigits, String.toList_ofList]

theorem toList_toString_port (port : UInt16) :
    (toString port).toList = Nat.toDigits 10 port.toNat := by
  change (toString port.toNat).toList = _
  rw [Nat.toString_eq_ofList_toDigits, String.toList_ofList]

theorem toList_display (ip : Ipv4Addr) :
    ip.display.toList = Nat.toDigits 10 ip.a.toNat ++ '.' :: (Nat.toDigits 10 ip.b.toNat ++
      '.' :: (Nat.toDigits 10 ip.c.toNat ++ '.' :: Nat.toDigits 10 ip.d.toNat)) := by
  simp only [Ipv4Addr.display, String.toList_append, toList_toString_octet, List.append_assoc]
  rfl

/-- An octet is read back, up to what is no digit. -/
theorem readOctet_toDigits (octet : UInt8) {rest : List Char}
    (stops : ∀ char ∈ rest.head?, char.isDigit = false) :
    readOctet (Nat.toDigits 10 octet.toNat ++ rest) = some (octet, rest) := by
  have short : ∀ most ∈ some 3, (Nat.toDigits 10 octet.toNat).length ≤ most := by
    rintro most ⟨rfl⟩
    have small := octet.toNat_lt
    rw [Nat.length_toDigits_le_iff (by decide) (by decide)]
    omega
  have number : Reader.number 10 (some 3) false 256 (Nat.toDigits 10 octet.toNat ++ rest) =
      some (octet.toNat, rest) := Reader.number_toDigits octet.toNat_lt short stops
  rw [readOctet, Reader.map_eq_some number, UInt8.ofNat_toNat]

theorem readIpv4Addr_display (ip : Ipv4Addr) {rest : List Char}
    (stops : ∀ char ∈ rest.head?, char.isDigit = false) :
    readIpv4Addr (ip.display.toList ++ rest) = some (ip, rest) := by
  have dot : ∀ later : List Char, ∀ char ∈ ('.' :: later).head?, char.isDigit = false := by
    rintro later char ⟨rfl⟩
    rfl
  rw [toList_display, readIpv4Addr]
  simp only [Reader.bind_eq_some_iff, Reader.literal_eq_some_iff, Reader.pure_eq_some_iff]
  simp only [List.append_assoc, List.cons_append]
  exact ⟨ip.a, _, readOctet_toDigits ip.a (dot _), (), _, rfl,
    ip.b, _, readOctet_toDigits ip.b (dot _), (), _, rfl,
    ip.c, _, readOctet_toDigits ip.c (dot _), (), _, rfl,
    ip.d, rest, readOctet_toDigits ip.d stops, rfl, rfl⟩

theorem readPort_toDigits (port : UInt16) :
    readPort (':' :: Nat.toDigits 10 port.toNat) = some (port, []) := by
  have number : Reader.number 10 none true 65536 (Nat.toDigits 10 port.toNat ++ []) =
      some (port.toNat, []) :=
    Reader.number_toDigits port.toNat_lt (by rintro most ⟨⟩) (by rintro char ⟨⟩)
  rw [List.append_nil] at number
  refine Reader.bind_eq_some_iff.mpr ⟨(), Nat.toDigits 10 port.toNat,
    Reader.literal_eq_some_iff.mpr rfl, ?_⟩
  rw [Reader.map_eq_some number, UInt16.ofNat_toNat]

/-- An address and a port are read back. -/
theorem parse_display (ip : Ipv4Addr) (port : UInt16) :
    parse s!"{ip.display}:{port}" = some (.v4 ip port) := by
  have chars : (s!"{ip.display}:{port}").toList =
      ip.display.toList ++ ':' :: Nat.toDigits 10 port.toNat := by
    simp only [String.toList_append, toList_toString_port, List.append_assoc]
    rfl
  have colon : ∀ char ∈ (':' :: Nat.toDigits 10 port.toNat).head?, char.isDigit = false := by
    rintro char ⟨rfl⟩
    rfl
  have read : readV4 (ip.display.toList ++ ':' :: Nat.toDigits 10 port.toNat) =
      some (.v4 ip port, []) :=
    Reader.bind_eq_some_iff.mpr ⟨ip, _, readIpv4Addr_display ip colon,
      Reader.bind_eq_some_iff.mpr ⟨port, [], readPort_toDigits port, rfl⟩⟩
  rw [parse, Reader.toEnd_eq_some_iff, chars]
  exact Reader.orElse_eq_some read

/-- No address is read where a port stands alone. -/
theorem parse_eq_none (later : String) : parse (":" ++ later) = none := by
  have chars : (":" ++ later).toList = ':' :: later.toList := by
    rw [String.toList_append]
    rfl
  have noNumber : Reader.number 10 (some 3) false 256 (':' :: later.toList) = none :=
    Reader.number_eq_none (by rintro char ⟨rfl⟩; rfl)
  have v4 : readV4 (':' :: later.toList) = none := by
    refine Reader.bind_eq_none (Reader.bind_eq_none ?_)
    rw [readOctet, map_eq_pure_bind]
    exact Reader.bind_eq_none noNumber
  have v6 : readV6 (':' :: later.toList) = none := Reader.bind_eq_none rfl
  rw [parse, Reader.toEnd, chars, Reader.orElse_eq_none v4 v6]

end SocketAddr

end Library
end QomicexConnector
