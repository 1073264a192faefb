import Mathlib.Algebra.BigOperators.Group.List.Lemmas
import Mathlib.Data.Nat.Digits.Lemmas

namespace QomicexConnector
namespace Library

/-!
# Alternating digit sums

Where a modulus divides the base plus one, a number is divisible by it exactly if the
alternating sum of its digits is: the base is -1 there, as 10 is modulo 11.  The order of the
digits then makes no difference, and numbers that are divisible can be written one after
another.
-/

/-- The first digit is added, the second one subtracted, and so on. -/
def alternatingDigits (digits : List Nat) : Int :=
  (digits.map fun digit : Nat => (digit : Int)).alternatingSum

theorem alternatingDigits_cons (digit : Nat) (later : List Nat) :
    alternatingDigits (digit :: later) = digit - alternatingDigits later := by
  rw [alternatingDigits, List.map_cons, List.alternatingSum_cons]
  rfl

/-- An alternating sum is no larger than a sum. -/
theorem natAbs_alternatingDigits_le {most : Nat} {digits : List Nat}
    (bounded : ∀ digit ∈ digits, digit ≤ most) :
    (alternatingDigits digits).natAbs ≤ most * digits.length := by
  induction digits with
  | nil => exact Nat.zero_le _
  | cons digit later inductionHypothesis =>
      have first := bounded digit List.mem_cons_self
      have others := inductionHypothesis fun other listed =>
        bounded other (List.mem_cons_of_mem digit listed)
      rw [alternatingDigits_cons, List.length_cons, Nat.mul_succ]
      omega

section Divisibility

variable {base modulus : Nat}

/-- The rule of alternating sums. -/
theorem dvd_ofDigits_iff (isMinusOne : modulus ∣ base + 1) (digits : List Nat) :
    modulus ∣ Nat.ofDigits base digits ↔ (modulus : Int) ∣ alternatingDigits digits := by
  have congruent : (base : Int) ≡ -1 [ZMOD modulus] := by
    refine (Int.modEq_iff_dvd.mpr ?_).symm
    rcases isMinusOne with ⟨factor, same⟩
    refine ⟨factor, ?_⟩
    have cast := congrArg (fun number : Nat => (number : Int)) same
    push_cast at cast
    rw [← cast]
    ring
  have same := Nat.ofDigits_zmodeq' (base : Int) (-1) modulus congruent digits
  rw [Nat.ofDigits_neg_one, ← Nat.coe_ofDigits] at same
  rw [← Int.natCast_dvd_natCast]
  exact same.dvd_iff

theorem dvd_alternatingDigits_reverse_iff (digits : List Nat) :
    (modulus : Int) ∣ alternatingDigits digits.reverse ↔
      (modulus : Int) ∣ alternatingDigits digits := by
  rw [alternatingDigits, List.map_reverse, List.alternatingSum_reverse, alternatingDigits]
  rcases neg_one_pow_eq_or Int (digits.length + 1) with one | minusOne
  · rw [List.length_map, one, one_zsmul]
  · rw [List.length_map, minusOne, neg_one_zsmul, dvd_neg]

/-- The two orders in which digits are read agree on divisibility. -/
theorem dvd_ofDigits_reverse_iff (isMinusOne : modulus ∣ base + 1) (digits : List Nat) :
    modulus ∣ Nat.ofDigits base digits.reverse ↔ modulus ∣ Nat.ofDigits base digits := by
  rw [dvd_ofDigits_iff isMinusOne, dvd_ofDigits_iff isMinusOne,
    dvd_alternatingDigits_reverse_iff]

theorem dvd_ofDigits_append {first second : List Nat} (left : modulus ∣ Nat.ofDigits base first)
    (right : modulus ∣ Nat.ofDigits base second) :
    modulus ∣ Nat.ofDigits base (first ++ second) := by
  rw [Nat.ofDigits_append]
  exact Dvd.dvd.add left (right.mul_left _)

end Divisibility

end Library
end QomicexConnector
