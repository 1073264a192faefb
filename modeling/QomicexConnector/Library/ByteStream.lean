import Mathlib.Data.List.Basic
import Mathlib.Data.List.TakeDrop

namespace QomicexConnector
namespace Library

/-!
# Exact reads from byte sources

A decoder that asks its source for an exact number of bytes can run on a whole
buffer or on a stream that delivers chunks.  `ExactReads` says what the two have
in common: a read that succeeds takes precisely the next bytes of the source, and
a read fails only when fewer bytes are left.  Everything proved about a decoder
from `ExactReads` alone holds for every source and every chunking.

The file also has the big-endian 32-bit length field used by framed protocols.
-/

/-! ## Sources -/

section Sources

variable {Source ε : Type*}

/-- `read` takes exactly the next `count` bytes that `view` shows, or fails
because the source ends before them. -/
structure ExactReads (view : Source → List UInt8)
    (read : Nat → Source → Except ε (List UInt8 × Source)) : Prop where
  taken : ∀ {count source bytes rest}, read count source = .ok (bytes, rest) →
    bytes.length = count ∧ view source = bytes ++ view rest
  short : ∀ {count source error}, read count source = .error error → (view source).length < count

namespace ExactReads

variable {view : Source → List UInt8} {read : Nat → Source → Except ε (List UInt8 × Source)}

/-- A read succeeds whenever the source shows the bytes it asks for. -/
theorem of_view (exact : ExactReads view read) {source : Source} {bytes after : List UInt8}
    (shown : view source = bytes ++ after) :
    ∃ rest, read bytes.length source = .ok (bytes, rest) ∧ view rest = after := by
  cases result : read bytes.length source with
  | error error =>
      have fewer := exact.short result
      rw [shown, List.length_append] at fewer
      omega
  | ok output =>
      have ⟨length, split⟩ := exact.taken result
      have parts := List.append_inj (shown.symm.trans split) length.symm
      refine ⟨output.2, ?_, parts.2.symm⟩
      rw [parts.1]

end ExactReads

end Sources

/-! ## Streams that arrive in chunks -/

/-- Fill a buffer of `count` bytes from the chunks, in order.  A chunk that is
only partly used stays at the front; when the chunks run out the stream has
ended and the bytes taken so far are lost with the buffer. -/
def takeChunks : Nat → List (List UInt8) → Option (List UInt8 × List (List UInt8))
  | 0, chunks => some ([], chunks)
  | _ + 1, [] => none
  | count + 1, chunk :: later =>
      if count + 1 < chunk.length then
        some (chunk.take (count + 1), chunk.drop (count + 1) :: later)
      else
        (takeChunks (count + 1 - chunk.length) later).map fun more => (chunk ++ more.1, more.2)

/-- A stream that arrives in one chunk. -/
theorem single_chunk (bytes : List UInt8) : [bytes].flatten = bytes ++ [] := by
  rw [List.flatten_singleton, List.append_nil]

theorem takeChunks_eq_some {count : Nat} {chunks rest : List (List UInt8)} {bytes : List UInt8}
    (taken : takeChunks count chunks = some (bytes, rest)) :
    bytes.length = count ∧ chunks.flatten = bytes ++ rest.flatten := by
  induction chunks generalizing count bytes rest with
  | nil =>
      cases count with
      | zero => cases taken; exact ⟨rfl, rfl⟩
      | succ count => cases taken
  | cons chunk later inductionHypothesis =>
      cases count with
      | zero => cases taken; exact ⟨rfl, rfl⟩
      | succ count =>
          rw [takeChunks] at taken
          by_cases enough : count + 1 < chunk.length
          · rw [if_pos enough, Option.some.injEq, Prod.mk.injEq] at taken
            rcases taken with ⟨rfl, rfl⟩
            refine ⟨List.length_take_of_le (Nat.le_of_lt enough), ?_⟩
            rw [List.flatten_cons, List.flatten_cons, ← List.append_assoc, List.take_append_drop]
          · rw [if_neg enough, Option.map_eq_some_iff] at taken
            rcases taken with ⟨more, later_taken, same⟩
            rw [Prod.mk.injEq] at same
            rcases same with ⟨rfl, rfl⟩
            have ⟨length, split⟩ := inductionHypothesis later_taken
            refine ⟨by rw [List.length_append, length]; omega, ?_⟩
            rw [List.flatten_cons, split, List.append_assoc]

theorem takeChunks_eq_none {count : Nat} {chunks : List (List UInt8)}
    (ended : takeChunks count chunks = none) : chunks.flatten.length < count := by
  induction chunks generalizing count with
  | nil =>
      cases count with
      | zero => cases ended
      | succ count => simp
  | cons chunk later inductionHypothesis =>
      cases count with
      | zero => cases ended
      | succ count =>
          rw [takeChunks] at ended
          by_cases enough : count + 1 < chunk.length
          · rw [if_pos enough] at ended
            cases ended
          · rw [if_neg enough, Option.map_eq_none_iff] at ended
            have fewer := inductionHypothesis ended
            rw [List.flatten_cons, List.length_append]
            omega

/-! ## Big-endian lengths -/

/-- `u32::to_be_bytes` of a length cast to `u32`: the cast keeps the low 32 bits. -/
def u32ToBeBytes (value : Nat) : List UInt8 :=
  [UInt8.ofNat (value / 16777216), UInt8.ofNat (value / 65536), UInt8.ofNat (value / 256),
    UInt8.ofNat value]

/-- `u32::from_be_bytes`. -/
def u32FromBeBytes (bytes : List UInt8) : Nat :=
  bytes.foldl (fun value byte => value * 256 + byte.toNat) 0

@[simp] theorem length_u32ToBeBytes (value : Nat) : (u32ToBeBytes value).length = 4 := rfl

/-- The length field carries a length modulo 2^32. -/
theorem u32FromBeBytes_u32ToBeBytes (value : Nat) :
    u32FromBeBytes (u32ToBeBytes value) = value % 4294967296 := by
  simp only [u32FromBeBytes, u32ToBeBytes, List.foldl_cons, List.foldl_nil, UInt8.toNat_ofNat']
  omega

theorem u32FromBeBytes_lt {bytes : List UInt8} (four : bytes.length = 4) :
    u32FromBeBytes bytes < 4294967296 := by
  match bytes, four with
  | [first, second, third, fourth], _ =>
      simp only [u32FromBeBytes, List.foldl_cons, List.foldl_nil]
      have := first.toNat_lt
      have := second.toNat_lt
      have := third.toNat_lt
      have := fourth.toNat_lt
      omega

/-- Four bytes are the length field of the number they denote. -/
theorem u32ToBeBytes_u32FromBeBytes {bytes : List UInt8} (four : bytes.length = 4) :
    u32ToBeBytes (u32FromBeBytes bytes) = bytes := by
  match bytes, four with
  | [first, second, third, fourth], _ =>
      have := first.toNat_lt
      have := second.toNat_lt
      have := third.toNat_lt
      have := fourth.toNat_lt
      simp only [u32ToBeBytes, u32FromBeBytes, List.foldl_cons, List.foldl_nil, List.cons.injEq,
        ← UInt8.toNat_inj, UInt8.toNat_ofNat', and_true]
      omega

end Library
end QomicexConnector
