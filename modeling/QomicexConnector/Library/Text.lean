import Mathlib.Data.List.Basic
import Mathlib.Data.List.DropRight

namespace QomicexConnector
namespace Library

/-!
# Text in byte strings: lossy UTF-8 and separators

`fromUtf8Lossy` decodes an arbitrary byte string.  Where a scalar value is
encoded correctly it is taken as it is; anywhere else the longest prefix that
could still have begun an encoding is replaced by one U+FFFD, which is the
replacement policy of the Rust standard library.

The decoder walks the list once.  `skip` counts the bytes of an encoding that
was already accounted for at its first byte, so the recursion is structural and
the decoder can be evaluated.  The two facts used elsewhere are that encoded
text is decoded to itself and that ASCII bytes are decoded one by one.

`splitFirst` cuts a list at the first separator, as `str::find` followed by two
slices does.  Rejoining the parts gives the list back, and the parts determine
where the cut was.
-/

/-! ## Lossy decoding -/

/-- The bytes of a string in UTF-8. -/
def utf8Bytes (text : String) : List UInt8 := text.toList.flatMap String.utf8EncodeChar

/-- A continuation byte. -/
def isContinuation (byte : UInt8) : Bool := byte &&& 0xC0 == 0x80

/-- Whether the second byte can follow the first one of a three-byte encoding. -/
def validSecondOfThree (first second : UInt8) : Bool :=
  (first == 0xE0 && 0xA0 ≤ second && second ≤ 0xBF) ||
  (0xE1 ≤ first && first ≤ 0xEC && 0x80 ≤ second && second ≤ 0xBF) ||
  (first == 0xED && 0x80 ≤ second && second ≤ 0x9F) ||
  (0xEE ≤ first && first ≤ 0xEF && 0x80 ≤ second && second ≤ 0xBF)

/-- Whether the second byte can follow the first one of a four-byte encoding. -/
def validSecondOfFour (first second : UInt8) : Bool :=
  (first == 0xF0 && 0x90 ≤ second && second ≤ 0xBF) ||
  (0xF1 ≤ first && first ≤ 0xF3 && 0x80 ≤ second && second ≤ 0xBF) ||
  (first == 0xF4 && 0x80 ≤ second && second ≤ 0x8F)

/-- The bytes one replacement character stands for, counted after the first:
the continuation of an encoding that broke off later. -/
def brokenTail (first : UInt8) (tail : List UInt8) : Nat :=
  match tail with
  | second :: third :: _ =>
      if validSecondOfThree first second then 1
      else if validSecondOfFour first second then if isContinuation third then 2 else 1
      else 0
  | [second] => if validSecondOfThree first second || validSecondOfFour first second then 1 else 0
  | [] => 0

/-- Decode after `skip` bytes that belong to a character already produced. -/
def lossyChars : Nat → List UInt8 → List Char
  | _, [] => []
  | skip + 1, _ :: tail => lossyChars skip tail
  | 0, first :: tail =>
      match ByteArray.utf8DecodeChar? (first :: tail).toByteArray 0 with
      | some char => char :: lossyChars (char.utf8Size - 1) tail
      | none => '\uFFFD' :: lossyChars (brokenTail first tail) tail

/-- `String::from_utf8_lossy`. -/
def fromUtf8Lossy (bytes : List UInt8) : String := String.ofList (lossyChars 0 bytes)

theorem lossyChars_skip (skipped tail : List UInt8) :
    lossyChars skipped.length (skipped ++ tail) = lossyChars 0 tail := by
  induction skipped with
  | nil => rfl
  | cons byte rest inductionHypothesis =>
      simpa only [List.length_cons, List.cons_append, lossyChars] using inductionHypothesis

/-- One encoded character in front of arbitrary bytes is decoded to itself, and
decoding resumes exactly behind it. -/
theorem lossyChars_encoded (char : Char) (tail : List UInt8) :
    lossyChars 0 (String.utf8EncodeChar char ++ tail) = char :: lossyChars 0 tail := by
  have size := String.length_utf8EncodeChar char
  have decoded : ByteArray.utf8DecodeChar? (String.utf8EncodeChar char ++ tail).toByteArray 0 =
      some char := by
    rw [List.toByteArray_append]
    exact ByteArray.utf8DecodeChar?_utf8EncodeChar_append
  cases encoded : String.utf8EncodeChar char with
  | nil => exact absurd encoded String.utf8EncodeChar_ne_nil
  | cons first others =>
      rw [encoded, List.cons_append] at decoded
      have others_length : char.utf8Size - 1 = others.length := by
        rw [encoded, List.length_cons] at size
        omega
      rw [List.cons_append, lossyChars, decoded]
      change char :: lossyChars (char.utf8Size - 1) (others ++ tail) = _
      rw [others_length, lossyChars_skip]

/-- A character takes at most four bytes. -/
theorem length_utf8Bytes_le (text : String) :
    (utf8Bytes text).length ≤ 4 * text.toList.length := by
  rw [utf8Bytes]
  induction text.toList with
  | nil => exact Nat.le_refl 0
  | cons char later inductionHypothesis =>
      have first : (String.utf8EncodeChar char).length ≤ 4 := by
        rw [String.length_utf8EncodeChar]
        exact Char.utf8Size_le_four char
      rw [List.flatMap_cons, List.length_append, List.length_cons]
      omega

/-- Decoding the encoding of a string gives the string back. -/
theorem fromUtf8Lossy_utf8Bytes (text : String) : fromUtf8Lossy (utf8Bytes text) = text := by
  have decoded : ∀ chars : List Char,
      lossyChars 0 (chars.flatMap String.utf8EncodeChar) = chars := by
    intro chars
    induction chars with
    | nil => rfl
    | cons char rest inductionHypothesis =>
        rw [List.flatMap_cons, lossyChars_encoded, inductionHypothesis]
  rw [fromUtf8Lossy, utf8Bytes, decoded, String.ofList_toList]

/-- The single byte that encodes an ASCII character. -/
theorem utf8EncodeChar_ascii {char : Char} (ascii : char.val < 128) :
    String.utf8EncodeChar char = [char.val.toUInt8] := by
  have small : char.val.toNat ≤ 127 := by
    have := UInt32.lt_iff_toNat_lt.mp ascii
    simpa using Nat.le_of_lt_succ this
  rw [String.utf8EncodeChar, if_pos small]
  rfl

theorem utf8Bytes_ascii {chars : List Char} (ascii : ∀ char ∈ chars, char.val < 128) :
    utf8Bytes (String.ofList chars) = chars.map fun char => char.val.toUInt8 := by
  rw [utf8Bytes, String.toList_ofList]
  induction chars with
  | nil => rfl
  | cons char rest inductionHypothesis =>
      rw [List.map_cons, List.flatMap_cons, utf8EncodeChar_ascii (ascii char List.mem_cons_self),
        inductionHypothesis fun other listed => ascii other (List.mem_cons_of_mem char listed)]
      rfl

/-- Bytes below 128 decode to the characters with the same numbers. -/
theorem fromUtf8Lossy_ascii {chars : List Char} (ascii : ∀ char ∈ chars, char.val < 128) :
    fromUtf8Lossy (chars.map fun char => char.val.toUInt8) = String.ofList chars := by
  rw [← utf8Bytes_ascii ascii, fromUtf8Lossy_utf8Bytes]

/-- Decoding produces at most one character a byte. -/
theorem length_lossyChars_le (skip : Nat) (bytes : List UInt8) :
    (lossyChars skip bytes).length ≤ bytes.length := by
  induction bytes generalizing skip with
  | nil =>
      cases skip with
      | zero => exact Nat.le_refl 0
      | succ skip => exact Nat.le_refl 0
  | cons first tail inductionHypothesis =>
      cases skip with
      | succ skip => exact Nat.le_succ_of_le (inductionHypothesis skip)
      | zero =>
          rw [lossyChars]
          split
          · exact Nat.succ_le_succ (inductionHypothesis _)
          · exact Nat.succ_le_succ (inductionHypothesis _)

/-! ## Cutting at the first separator -/

section Separators

variable {α : Type*} [DecidableEq α]

/-- The parts before and after the first separator, when there is one. -/
def splitFirst (separator : α) : List α → Option (List α × List α)
  | [] => none
  | head :: tail =>
      if head = separator then some ([], tail)
      else (splitFirst separator tail).map fun parts => (head :: parts.1, parts.2)

theorem splitFirst_append {separator : α} {before : List α} (after : List α)
    (absent : separator ∉ before) :
    splitFirst separator (before ++ separator :: after) = some (before, after) := by
  induction before with
  | nil => simp [splitFirst]
  | cons head tail inductionHypothesis =>
      have different : head ≠ separator := fun same => absent (same ▸ List.mem_cons_self)
      have later := inductionHypothesis fun listed => absent (List.mem_cons_of_mem head listed)
      rw [List.cons_append, splitFirst, if_neg different, later]
      rfl

theorem splitFirst_eq_some {separator : α} {whole before after : List α}
    (split : splitFirst separator whole = some (before, after)) :
    whole = before ++ separator :: after ∧ separator ∉ before := by
  induction whole generalizing before after with
  | nil => cases split
  | cons head tail inductionHypothesis =>
      rw [splitFirst] at split
      by_cases found : head = separator
      · rw [if_pos found, Option.some.injEq, Prod.mk.injEq] at split
        rcases split with ⟨rfl, rfl⟩
        exact ⟨by rw [found]; rfl, List.not_mem_nil⟩
      · rw [if_neg found, Option.map_eq_some_iff] at split
        rcases split with ⟨parts, tail_split, same⟩
        rw [Prod.mk.injEq] at same
        rcases same with ⟨rfl, rfl⟩
        have ⟨rejoined, absent⟩ := inductionHypothesis tail_split
        refine ⟨by rw [List.cons_append, ← rejoined], ?_⟩
        intro listed
        rcases List.mem_cons.mp listed with same | later
        · exact found same.symm
        · exact absent later

theorem splitFirst_eq_none_iff {separator : α} {whole : List α} :
    splitFirst separator whole = none ↔ separator ∉ whole := by
  induction whole with
  | nil => simp [splitFirst]
  | cons head tail inductionHypothesis =>
      by_cases found : head = separator
      · simp [splitFirst, found]
      · have reversed : separator ≠ head := fun same => found same.symm
        simp [splitFirst, found, reversed, inductionHypothesis]

/-- The parts before and after the first occurrence of a separator of any length. -/
def splitFirstList (separator : List α) : List α → Option (List α × List α)
  | [] => if separator = [] then some ([], []) else none
  | head :: tail =>
      if separator <+: head :: tail then some ([], (head :: tail).drop separator.length)
      else (splitFirstList separator tail).map fun parts => (head :: parts.1, parts.2)

/-- A text that does not hold the first symbol of the separator is no place to split. -/
theorem splitFirstList_append {symbol : α} {others before : List α} (absent : symbol ∉ before)
    (after : List α) :
    splitFirstList (symbol :: others) (before ++ (symbol :: others ++ after)) =
      some (before, after) := by
  induction before with
  | nil =>
      rw [List.nil_append, List.cons_append, splitFirstList, ← List.cons_append,
        if_pos (List.prefix_append _ after), List.drop_left]
  | cons head tail inductionHypothesis =>
      have elsewhere : ¬ symbol :: others <+: head :: (tail ++ (symbol :: others ++ after)) := by
        intro begins
        exact absent (List.mem_cons.mpr (Or.inl (List.cons_prefix_cons.mp begins).1))
      have later := inductionHypothesis fun listed => absent (List.mem_cons_of_mem head listed)
      rw [List.cons_append, splitFirstList, if_neg elsewhere, later]
      rfl

omit [DecidableEq α] in
theorem intercalate_concat (separator last : List α) {parts : List (List α)}
    (nonempty : parts ≠ []) :
    separator.intercalate (parts ++ [last]) = separator.intercalate parts ++ separator ++ last := by
  induction parts with
  | nil => exact absurd rfl nonempty
  | cons part later inductionHypothesis =>
      cases later with
      | nil =>
          rw [List.singleton_append, List.intercalate_cons_cons, List.intercalate_singleton,
            List.intercalate_singleton]
      | cons next later =>
          rw [List.cons_append, List.cons_append, List.intercalate_cons_cons, ← List.cons_append,
            inductionHypothesis (List.cons_ne_nil next later), List.intercalate_cons_cons]
          simp only [List.append_assoc]

/-- Splitting what was joined splits each part. -/
theorem splitOn_intercalate_eq_flatMap (separator : α) {parts : List (List α)}
    (nonempty : parts ≠ []) :
    ([separator].intercalate parts).splitOn separator =
      parts.flatMap fun part => part.splitOn separator := by
  induction parts with
  | nil => exact absurd rfl nonempty
  | cons part later inductionHypothesis =>
      cases later with
      | nil => rw [List.intercalate_singleton, List.flatMap_cons, List.flatMap_nil, List.append_nil]
      | cons next later =>
          have cut : ∀ rest, (part ++ separator :: rest).splitOn separator =
              part.splitOn separator ++ rest.splitOn separator := fun rest =>
            List.splitOnP_append_cons part rest (beq_self_eq_true separator)
          rw [List.intercalate_cons_cons, List.append_assoc, List.singleton_append, cut,
            inductionHypothesis (List.cons_ne_nil next later), ← List.flatMap_cons]

end Separators

/-- `str::split_once`. -/
def splitOnce (separator text : String) : Option (String × String) :=
  (splitFirstList separator.toList text.toList).map fun parts =>
    (String.ofList parts.1, String.ofList parts.2)

theorem splitOnce_append {separator before : String} {symbol : Char} {others : List Char}
    (form : separator.toList = symbol :: others) (absent : symbol ∉ before.toList)
    (after : String) :
    splitOnce separator (before ++ separator ++ after) = some (before, after) := by
  rw [splitOnce, String.toList_append, String.toList_append, form, List.append_assoc,
    splitFirstList_append absent, Option.map_some, String.ofList_toList, String.ofList_toList]

/-! ## Blank text and letter case -/

/-- The characters with the Unicode property `White_Space`, as `char::is_whitespace`. -/
def isWhitespace (char : Char) : Bool :=
  (0x9 ≤ char.toNat && char.toNat ≤ 0xD) || (0x2000 ≤ char.toNat && char.toNat ≤ 0x200A) ||
    [0x20, 0x85, 0xA0, 0x1680, 0x2028, 0x2029, 0x202F, 0x205F, 0x3000].contains char.toNat

/-- `str::trim`. -/
def trim (text : String) : String :=
  String.ofList (((text.toList.dropWhile isWhitespace).reverse.dropWhile isWhitespace).reverse)

theorem toList_trim (text : String) :
    (trim text).toList = (text.toList.dropWhile isWhitespace).rdropWhile isWhitespace :=
  String.toList_ofList

/-- Nothing is left of a text exactly if it is blank. -/
theorem trim_eq_empty_iff {text : String} :
    trim text = "" ↔ ∀ char ∈ text.toList, isWhitespace char = true := by
  rw [← String.toList_inj, toList_trim, String.toList_empty, List.rdropWhile_eq_nil_iff,
    ← List.dropWhile_eq_nil_iff, List.dropWhile_idempotent, List.dropWhile_eq_nil_iff]

/-- A trimmed text begins and ends with no white space. -/
theorem trim_trim (text : String) : trim (trim text) = trim text := by
  rw [← String.toList_inj, toList_trim, toList_trim]
  have kept : ((text.toList.dropWhile isWhitespace).rdropWhile isWhitespace).dropWhile isWhitespace =
      (text.toList.dropWhile isWhitespace).rdropWhile isWhitespace := by
    rw [List.dropWhile_eq_self_iff]
    intro nonempty
    have begins := List.rdropWhile_prefix isWhitespace (l := text.toList.dropWhile isWhitespace)
    have starts := List.dropWhile_eq_self_iff.mp
      (List.dropWhile_idempotent (p := isWhitespace) (l := text.toList))
    rw [begins.getElem nonempty]
    exact starts (Nat.lt_of_lt_of_le nonempty begins.length_le)
  rw [kept, List.rdropWhile_idempotent]

/-- `str::eq_ignore_ascii_case`; `Char.toLower` changes ASCII letters only. -/
def eqIgnoreAsciiCase (first second : String) : Bool :=
  first.toList.map Char.toLower == second.toList.map Char.toLower

end Library
end QomicexConnector
