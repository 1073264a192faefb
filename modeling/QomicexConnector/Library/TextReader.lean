import Mathlib.Data.List.TakeWhile
import Mathlib.Data.List.TakeDrop

namespace QomicexConnector
namespace Library

/-!
# Readers of text

A reader takes a value off the front of a text and says what is left, or fails.  Readers are
put together with `do`; the lemmas below turn a reader that succeeds into an equation between
the text and its parts, and back.

Numbers are read as the Rust standard library reads them: the longest run of digits, with a
limit on their number, on leading zeros or on the value.  Printed numbers are read back.
-/

abbrev Reader (α : Type) := StateT (List Char) Option α

namespace Reader

section Pieces

variable {α β : Type}

def literal (text : List Char) : Reader Unit := fun chars =>
  if text <+: chars then some ((), chars.drop text.length) else none

/-- So many characters of a class. -/
def exactly (count : Nat) (belongs : Char → Bool) : Reader (List Char) := fun chars =>
  if (chars.take count).length = count ∧ (chars.take count).all belongs = true then
    some (chars.take count, chars.drop count)
  else none

/-- The characters of a class, as many as there are, and one at least. -/
def oneOrMore (belongs : Char → Bool) : Reader (List Char) := fun chars =>
  if chars.takeWhile belongs = [] then none
  else some (chars.takeWhile belongs, chars.dropWhile belongs)

/-- Read a whole text. -/
def toEnd (reader : Reader α) (text : String) : Option α :=
  match reader text.toList with
  | some (value, []) => some value
  | _ => none

theorem bind_eq_some_iff {reader : Reader α} {next : α → Reader β} {chars rest : List Char}
    {value : β} :
    (reader >>= next) chars = some (value, rest) ↔
      ∃ first middle, reader chars = some (first, middle) ∧
        next first middle = some (value, rest) := by
  change (reader chars).bind (fun pair => next pair.1 pair.2) = some (value, rest) ↔ _
  rw [Option.bind_eq_some_iff, Prod.exists]

theorem pure_eq_some_iff {value other : α} {chars rest : List Char} :
    (pure value : Reader α) chars = some (other, rest) ↔ value = other ∧ chars = rest := by
  change some (value, chars) = some (other, rest) ↔ _
  rw [Option.some.injEq, Prod.mk.injEq]

theorem map_eq_some {change : α → β} {reader : Reader α} {chars rest : List Char} {value : α}
    (read : reader chars = some (value, rest)) :
    (change <$> reader) chars = some (change value, rest) := by
  rw [map_eq_pure_bind]
  exact bind_eq_some_iff.mpr ⟨value, rest, read, rfl⟩

theorem orElse_eq_some {first second : Reader α} {chars rest : List Char} {value : α}
    (read : first chars = some (value, rest)) :
    (first <|> second : Reader α) chars = some (value, rest) := by
  change (first chars <|> second chars) = some (value, rest)
  rw [read]
  rfl

theorem orElse_eq_none {first second : Reader α} {chars : List Char} (left : first chars = none)
    (right : second chars = none) : (first <|> second : Reader α) chars = none := by
  change (first chars <|> second chars) = none
  rw [left, right]
  rfl

theorem bind_eq_none {reader : Reader α} {next : α → Reader β} {chars : List Char}
    (unread : reader chars = none) : (reader >>= next) chars = none := by
  change (reader chars).bind (fun pair => next pair.1 pair.2) = none
  rw [unread]
  rfl

theorem literal_eq_some_iff {text chars rest : List Char} {done : Unit} :
    literal text chars = some (done, rest) ↔ chars = text ++ rest := by
  rw [literal]
  constructor
  · intro read
    split at read
    · next begins =>
        rw [Option.some.injEq, Prod.mk.injEq] at read
        rw [← read.2]
        exact (List.prefix_iff_eq_append.mp begins).symm
    · cases read
  · rintro rfl
    rw [if_pos (List.prefix_append text rest), List.drop_left]

theorem exactly_eq_some_iff {count : Nat} {belongs : Char → Bool} {chars group rest : List Char} :
    exactly count belongs chars = some (group, rest) ↔
      chars = group ++ rest ∧ group.length = count ∧ ∀ char ∈ group, belongs char = true := by
  rw [exactly]
  constructor
  · intro read
    split at read
    · next fits =>
        rw [Option.some.injEq, Prod.mk.injEq] at read
        rcases read with ⟨rfl, rfl⟩
        exact ⟨(List.take_append_drop count chars).symm, fits.1, List.all_eq_true.mp fits.2⟩
    · cases read
  · rintro ⟨rfl, rfl, fits⟩
    rw [List.take_left, List.drop_left, if_pos ⟨rfl, List.all_eq_true.mpr fits⟩]

theorem oneOrMore_eq_some_nil_iff {belongs : Char → Bool} {chars group : List Char} :
    oneOrMore belongs chars = some (group, []) ↔
      chars = group ∧ group ≠ [] ∧ ∀ char ∈ group, belongs char = true := by
  rw [oneOrMore]
  constructor
  · intro read
    split at read
    · cases read
    · next some =>
        rw [Option.some.injEq, Prod.mk.injEq] at read
        rcases read with ⟨rfl, ends⟩
        have all := List.dropWhile_eq_nil_iff.mp ends
        have whole := List.takeWhile_eq_self_iff.mpr all
        rw [whole] at some ⊢
        exact ⟨rfl, some, all⟩
  · rintro ⟨rfl, nonempty, all⟩
    rw [List.takeWhile_eq_self_iff.mpr all, List.dropWhile_eq_nil_iff.mpr all, if_neg nonempty]

theorem toEnd_eq_some_iff {reader : Reader α} {text : String} {value : α} :
    reader.toEnd text = some value ↔ reader text.toList = some (value, []) := by
  rw [toEnd]
  split
  · next other read => rw [read, Option.some.injEq, Option.some.injEq, Prod.mk.injEq,
      and_iff_left rfl]
  · next unread =>
      constructor
      · intro none
        cases none
      · exact fun read => absurd read (unread value)

end Pieces

/-! ## Numbers -/

/-- `char::to_digit`. -/
def toDigit (radix : Nat) (char : Char) : Option Nat :=
  let value :=
    if char.isDigit then char.toNat - 48
    else if char.isLower then char.toNat - 97 + 10
    else if char.isUpper then char.toNat - 65 + 10
    else radix
  if value < radix then some value else none

def isDigitOf (radix : Nat) (char : Char) : Bool := (toDigit radix char).isSome

def digitsValue (radix : Nat) (digits : List Char) : Nat :=
  digits.foldl (fun value digit => radix * value + (toDigit radix digit).getD 0) 0

/-- `read_number` for a type with so many values. -/
def number (radix : Nat) (maxDigits : Option Nat) (allowZeroPrefix : Bool) (bound : Nat) :
    Reader Nat := fun chars =>
  let digits := chars.takeWhile (isDigitOf radix)
  let tooLong := maxDigits.any fun most => most < digits.length
  let zeroPrefix := !allowZeroPrefix && digits.head? == some '0' && 1 < digits.length
  if digits = [] ∨ tooLong = true ∨ zeroPrefix = true ∨ bound ≤ digitsValue radix digits then none
  else some (digitsValue radix digits, chars.dropWhile (isDigitOf radix))

def parseDigits (bound : Nat) (digits : List Char) : Option Nat :=
  if digits ≠ [] ∧ digits.all (isDigitOf 10) = true ∧ digitsValue 10 digits < bound then
    some (digitsValue 10 digits)
  else none

/-- `parse` for an unsigned type with so many values: digits, after a plus sign if there is
one. -/
def parseUnsigned (bound : Nat) : List Char → Option Nat
  | '+' :: digits => parseDigits bound digits
  | digits => parseDigits bound digits

theorem toNat_le_of_isDigit {char : Char} (digit : char.isDigit = true) : char.toNat ≤ 57 := by
  rw [Char.isDigit, Bool.and_eq_true, decide_eq_true_eq, decide_eq_true_eq] at digit
  exact UInt32.le_iff_toNat_le.mp digit.2

theorem isDigitOf_ten (char : Char) : isDigitOf 10 char = char.isDigit := by
  rw [isDigitOf, toDigit]
  cases digit : char.isDigit with
  | true =>
      have most := toNat_le_of_isDigit digit
      have small : char.toNat - 48 < 10 := by omega
      simp [small]
  | false =>
      rw [if_neg Bool.false_ne_true]
      split
      · rw [if_neg (by omega)]
        rfl
      · split
        · rw [if_neg (by omega)]
          rfl
        · rfl

theorem toDigit_ten {char : Char} (digit : char.isDigit = true) :
    toDigit 10 char = some (char.toNat - '0'.toNat) := by
  have isDigit := (isDigitOf_ten char).trans digit
  rw [isDigitOf, toDigit, if_pos digit] at isDigit
  rw [toDigit, if_pos digit]
  split at isDigit
  · next small => rw [if_pos small]; rfl
  · cases isDigit

theorem digitsValue_ten {digits : List Char} (decimal : ∀ digit ∈ digits, digit.isDigit = true) :
    digitsValue 10 digits = Nat.ofDigitChars 10 digits 0 := by
  have general : ∀ start, digits.foldl
      (fun value digit => 10 * value + (toDigit 10 digit).getD 0) start =
        Nat.ofDigitChars 10 digits start := by
    induction digits with
    | nil => exact fun start => Nat.ofDigitChars_nil.symm
    | cons digit later inductionHypothesis =>
        intro start
        rw [List.foldl_cons, Nat.ofDigitChars_cons, toDigit_ten (decimal digit List.mem_cons_self),
          Option.getD_some]
        exact inductionHypothesis (fun other listed => decimal other (List.mem_cons_of_mem _ listed)) _
  exact general 0

/-- Where no sign stands, `parse` takes the decimal digits of a number in range. -/
theorem parseUnsigned_eq_some_iff {bound value : Nat} {text : List Char}
    (unsigned : text.head? ≠ some '+') :
    parseUnsigned bound text = some value ↔
      text ≠ [] ∧ (∀ digit ∈ text, digit.isDigit = true) ∧ Nat.ofDigitChars 10 text 0 = value ∧
        value < bound := by
  have digits : parseUnsigned bound text = parseDigits bound text := by
    rw [parseUnsigned.eq_def]
    split
    · exact absurd rfl unsigned
    · rfl
  rw [digits, parseDigits]
  constructor
  · intro read
    split at read
    · next fits =>
        rcases fits with ⟨nonempty, all, small⟩
        have decimal : ∀ digit ∈ text, digit.isDigit = true := fun digit listed =>
          (isDigitOf_ten digit).symm.trans (List.all_eq_true.mp all digit listed)
        rw [digitsValue_ten decimal] at read small
        rw [Option.some.injEq] at read
        exact ⟨nonempty, decimal, read, read ▸ small⟩
    · cases read
  · rintro ⟨nonempty, decimal, rfl, small⟩
    have all : text.all (isDigitOf 10) = true := List.all_eq_true.mpr fun digit listed =>
      (isDigitOf_ten digit).trans (decimal digit listed)
    rw [digitsValue_ten decimal, if_pos ⟨nonempty, all, small⟩]

/-- Only zero is printed with a zero in front. -/
theorem head?_toDigits_ne {value : Nat} (positive : 0 < value) :
    (Nat.toDigits 10 value).head? ≠ some '0' := by
  induction value using Nat.strongRecOn with
  | ind value inductionHypothesis =>
      by_cases small : value < 10
      · rw [Nat.toDigits_of_lt_base small, List.head?_cons]
        have digits : ∀ digit < 10, 0 < digit → some digit.digitChar ≠ some '0' := by decide
        exact digits value small positive
      · rw [Nat.toDigits_of_base_le (by decide) (Nat.le_of_not_lt small), List.head?_append]
        have first := inductionHypothesis (value / 10) (Nat.div_lt_self positive (by decide))
          (by omega)
        cases leading : (Nat.toDigits 10 (value / 10)).head? with
        | none => exact absurd (List.head?_eq_none_iff.mp leading) Nat.toDigits_ne_nil
        | some digit =>
            rw [leading] at first
            exact first

/-- A printed number is read back, up to what follows. -/
theorem number_toDigits {maxDigits : Option Nat} {allowZeroPrefix : Bool} {bound value : Nat}
    (inRange : value < bound)
    (short : ∀ most ∈ maxDigits, (Nat.toDigits 10 value).length ≤ most) {rest : List Char}
    (stops : ∀ char ∈ rest.head?, char.isDigit = false) :
    number 10 maxDigits allowZeroPrefix bound (Nat.toDigits 10 value ++ rest) =
      some (value, rest) := by
  have digits : ∀ digit ∈ Nat.toDigits 10 value, digit.isDigit = true := fun digit listed =>
    Nat.isDigit_of_mem_toDigits (by decide) (Nat.le_refl 10) listed
  have all : ∀ digit ∈ Nat.toDigits 10 value, isDigitOf 10 digit = true := fun digit listed =>
    (isDigitOf_ten digit).trans (digits digit listed)
  have taken : (Nat.toDigits 10 value ++ rest).takeWhile (isDigitOf 10) = Nat.toDigits 10 value := by
    rw [List.takeWhile_append_of_pos all]
    cases rest with
    | nil => rw [List.takeWhile_nil, List.append_nil]
    | cons char later =>
        have stop := (isDigitOf_ten char).trans (stops char rfl)
        rw [List.takeWhile_cons_of_neg (by rw [stop]; exact Bool.false_ne_true), List.append_nil]
  have dropped : (Nat.toDigits 10 value ++ rest).dropWhile (isDigitOf 10) = rest := by
    rw [List.dropWhile_append_of_pos all]
    cases rest with
    | nil => rfl
    | cons char later =>
        have stop := (isDigitOf_ten char).trans (stops char rfl)
        rw [List.dropWhile_cons_of_neg (by rw [stop]; exact Bool.false_ne_true)]
  have same : digitsValue 10 (Nat.toDigits 10 value) = value := by
    rw [digitsValue_ten digits, Nat.ofDigitChars_ten_toDigits]
  rw [number, taken, dropped, same]
  rw [if_neg]
  rintro (empty | tooLong | zeroPrefix | large)
  · exact Nat.toDigits_ne_nil empty
  · cases maxDigits with
    | none => cases tooLong
    | some most => exact Nat.not_le_of_lt (of_decide_eq_true tooLong) (short most rfl)
  · simp only [Bool.and_eq_true, Bool.not_eq_true', beq_iff_eq, decide_eq_true_eq] at zeroPrefix
    rcases Nat.eq_zero_or_pos value with rfl | positive
    · exact Nat.lt_irrefl 1 zeroPrefix.2
    · exact head?_toDigits_ne positive zeroPrefix.1.2
  · exact Nat.not_le_of_lt inRange large

/-- A number is not read where no digit stands. -/
theorem number_eq_none {radix bound : Nat} {maxDigits : Option Nat} {allowZeroPrefix : Bool}
    {chars : List Char} (noDigit : ∀ char ∈ chars.head?, isDigitOf radix char = false) :
    number radix maxDigits allowZeroPrefix bound chars = none := by
  have nothing : chars.takeWhile (isDigitOf radix) = [] := by
    cases chars with
    | nil => rfl
    | cons char later =>
        exact List.takeWhile_cons_of_neg (by rw [noDigit char rfl]; exact Bool.false_ne_true)
  rw [number, nothing]
  exact if_pos (Or.inl rfl)

end Reader

end Library
end QomicexConnector
