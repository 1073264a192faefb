import Mathlib.Data.Nat.Digits.Lemmas
import Mathlib.Algebra.BigOperators.Group.List.Lemmas
import Mathlib.Data.Bool.AllAny
import QomicexConnector.Library.TextReader
import QomicexConnector.Library.AlternatingSum
import QomicexConnector.Models

namespace QomicexConnector
namespace Models

open Library

/-!
# Room codes

`models/room_code.rs`.  A room code is `U/` and four groups of four digits of base 34.
`generate` draws each half until its alternating digit sum is divisible by 7, and since 34 is
-1 modulo 7, that makes each half and the whole a number divisible by 7.  `parse` reads the
form and leaves the checksum alone.
-/

structure RoomCode where
  raw : String
  networkNamePart : String
  secretPart : String
  deriving DecidableEq, Repr

/-- `PREFIX`. -/
def codePrefix : String := "U/"

/-- `CHARS`. -/
def codeChars : List Char := "0123456789ABCDEFGHJKLMNPQRSTUVWXYZ".toList

/-- The class `[A-HJ-NP-Z0-9]`. -/
def isCodeChar (char : Char) : Bool :=
  ('A' ≤ char && char ≤ 'H') || ('J' ≤ char && char ≤ 'N') || ('P' ≤ char && char ≤ 'Z') ||
    ('0' ≤ char && char ≤ '9')

/-- `pattern`, with its four captures. -/
def pattern : Reader (List Char × List Char × List Char × List Char) := do
  Reader.literal codePrefix.toList
  let first ← Reader.exactly 4 isCodeChar
  Reader.literal ['-']
  let second ← Reader.exactly 4 isCodeChar
  Reader.literal ['-']
  let third ← Reader.exactly 4 isCodeChar
  Reader.literal ['-']
  let fourth ← Reader.exactly 4 isCodeChar
  return (first, second, third, fourth)

/-- Two groups with the hyphen between them. -/
def joinGroups (first second : List Char) : String := String.ofList (first ++ '-' :: second)

namespace RoomCode

def easyTierNetworkName (code : RoomCode) : String := "scaffolding-mc-" ++ code.networkNamePart

def easyTierNetworkSecret (code : RoomCode) : String := code.secretPart

def parse (code : String) : Except ScaffoldingError RoomCode :=
  match pattern.toEnd code with
  | some (first, second, third, fourth) =>
      .ok ⟨code, joinGroups first second, joinGroups third fourth⟩
  | none => .error (.roomCodeInvalid s!"无效的房间码格式: {code}")

end RoomCode

/-! ## Generation -/

/-- `encode8`. -/
def encode8 (bytes : Vector UInt8 8) : String :=
  String.ofList (bytes.toList.map fun byte =>
    codeChars.get ⟨byte.toNat % codeChars.length, Nat.mod_lt _ (by decide)⟩)

/-- The loop of `validate_checksum`, from the index on; the sum wraps as in a release build.
It ends early at a character that is no digit. -/
def checksumLoop : List Char → Nat → Int64 → Option Int64
  | [], _, value => some value
  | char :: later, index, value =>
      match codeChars.idxOf? char with
      | none => none
      | some digit =>
          checksumLoop later (index + 1)
            (value + if index % 2 = 0 then Int64.ofNat digit else -Int64.ofNat digit)

/-- `validate_checksum`. -/
def validateChecksum (eightChars : String) : Bool :=
  match checksumLoop eightChars.toList 0 0 with
  | some value => value % 7 == 0
  | none => false

/-- The characters before a byte index and those from it on; none where the index is not
between two characters. -/
def splitAtByte : Nat → List Char → Option (List Char × List Char)
  | 0, chars => some ([], chars)
  | _ + 1, [] => none
  | index + 1, char :: later =>
      if char.utf8Size ≤ index + 1 then
        (splitAtByte (index + 1 - char.utf8Size) later).map fun parts =>
          (char :: parts.1, parts.2)
      else none

/-- A loop of `generate` on the buffers that are drawn: the first accepted part. -/
def drawPart : List (Vector UInt8 8) → Option (String × List (Vector UInt8 8))
  | [] => none
  | buffer :: later =>
      if validateChecksum (encode8 buffer) then some (encode8 buffer, later) else drawPart later

/-- Where a call of `generate` stands after the given draws. -/
inductive Generation where
  | drawing
  | panicked
  | returned (code : RoomCode)

/-- `generate`; a slice between the bytes of a character panics, and so does `expect`. -/
def RoomCode.generate (draws : List (Vector UInt8 8)) : Generation :=
  match drawPart draws with
  | none => .drawing
  | some (part1, later) =>
      match drawPart later with
      | none => .drawing
      | some (part2, _) =>
          match splitAtByte 4 part1.toList, splitAtByte 4 part2.toList with
          | some (first, second), some (third, fourth) =>
              match parse (codePrefix ++ String.ofList first ++ "-" ++ String.ofList second ++ "-" ++
                  String.ofList third ++ "-" ++ String.ofList fourth) with
              | .ok code => .returned code
              | .error _ => .panicked
          | _, _ => .panicked

/-! ## The form of a room code -/

/-- The digit of a character of the alphabet. -/
def codeDigit (char : Char) : Nat := codeChars.idxOf char

/-- The four groups of a code. -/
structure CodeGroups where
  first : List Char
  second : List Char
  third : List Char
  fourth : List Char
  four : ∀ group ∈ [first, second, third, fourth], group.length = 4
  digits : ∀ group ∈ [first, second, third, fourth], ∀ char ∈ group, char ∈ codeChars

namespace CodeGroups

/-- The groups as they are written. -/
def raw (groups : CodeGroups) : String :=
  codePrefix ++ joinGroups groups.first groups.second ++ "-" ++
    joinGroups groups.third groups.fourth

/-- The sixteen digits, the first one first. -/
def chars (groups : CodeGroups) : List Char :=
  groups.first ++ groups.second ++ (groups.third ++ groups.fourth)

/-- The number that sixteen digits stand for, the first digit being the highest. -/
def value (groups : CodeGroups) : Nat := Nat.ofDigits 34 (groups.chars.map codeDigit).reverse

end CodeGroups

/-- What holds of the four groups. -/
theorem forall_mem_groups {first second third fourth : List Char} {p : List Char → Prop} :
    (∀ group ∈ [first, second, third, fourth], p group) ↔
      p first ∧ p second ∧ p third ∧ p fourth := by
  simp only [List.forall_mem_cons, List.not_mem_nil, false_imp_iff, implies_true, and_true]

/-- The regular expression has the characters of the alphabet. -/
theorem isCodeChar_iff {char : Char} : isCodeChar char = true ↔ char ∈ codeChars := by
  constructor
  · intro belongs
    have small : char.toNat < 91 := by
      simp only [isCodeChar, Bool.or_eq_true, Bool.and_eq_true, decide_eq_true_eq, Char.le_def,
        UInt32.le_iff_toNat_le] at belongs
      change char.val.toNat < 91
      simp only [Char.reduceVal, UInt32.reduceToNat] at belongs
      omega
    have checked : ∀ number < 91, isCodeChar (Char.ofNat number) = true →
        Char.ofNat number ∈ codeChars := by decide +kernel
    rw [← Char.ofNat_toNat char] at belongs ⊢
    exact checked _ small belongs
  · intro listed
    have checked : codeChars.all isCodeChar = true := by decide +kernel
    exact List.all_eq_true.mp checked char listed

theorem pattern_eq_some_iff {chars first second third fourth : List Char} :
    pattern chars = some ((first, second, third, fourth), []) ↔
      chars = codePrefix.toList ++ (first ++ '-' :: (second ++ '-' :: (third ++ '-' :: fourth))) ∧
        (∀ group ∈ [first, second, third, fourth], group.length = 4) ∧
        ∀ group ∈ [first, second, third, fourth], ∀ char ∈ group, char ∈ codeChars := by
  simp only [pattern, Reader.bind_eq_some_iff, Reader.literal_eq_some_iff,
    Reader.exactly_eq_some_iff, Reader.pure_eq_some_iff, isCodeChar_iff, Prod.mk.injEq]
  constructor
  · rintro ⟨_, _, rfl, first', _, ⟨rfl, four₁, in₁⟩, _, _, rfl, second', _, ⟨rfl, four₂, in₂⟩,
      _, _, rfl, third', _, ⟨rfl, four₃, in₃⟩, _, _, rfl, fourth', _, ⟨rfl, four₄, in₄⟩,
      ⟨rfl, rfl, rfl, rfl⟩, rfl⟩
    have form : codePrefix.toList ++ (first' ++ '-' :: (second' ++ '-' :: (third' ++ '-' ::
        (fourth' ++ [])))) = codePrefix.toList ++ (first' ++ '-' :: (second' ++ '-' :: (third' ++
        '-' :: fourth'))) := by
      rw [List.append_nil]
    exact ⟨form, forall_mem_groups.mpr ⟨four₁, four₂, four₃, four₄⟩,
      forall_mem_groups.mpr ⟨in₁, in₂, in₃, in₄⟩⟩
  · rintro ⟨rfl, four, digits⟩
    rcases forall_mem_groups.mp four with ⟨four₁, four₂, four₃, four₄⟩
    rcases forall_mem_groups.mp digits with ⟨in₁, in₂, in₃, in₄⟩
    exact ⟨(), _, rfl, first, _, ⟨rfl, four₁, in₁⟩, (), _, rfl, second, _, ⟨rfl, four₂, in₂⟩,
      (), _, rfl, third, _, ⟨rfl, four₃, in₃⟩, (), _, rfl, fourth, [],
      ⟨(List.append_nil fourth).symm, four₄, in₄⟩, ⟨rfl, rfl, rfl, rfl⟩, rfl⟩

theorem toList_raw (groups : CodeGroups) :
    groups.raw.toList = codePrefix.toList ++ (groups.first ++ '-' :: (groups.second ++
      '-' :: (groups.third ++ '-' :: groups.fourth))) := by
  simp [CodeGroups.raw, joinGroups, String.toList_append]

/-- What is parsed from a code of these groups. -/
def CodeGroups.parsed (groups : CodeGroups) : RoomCode :=
  ⟨groups.raw, joinGroups groups.first groups.second, joinGroups groups.third groups.fourth⟩

/-- `parse` accepts the texts of the form of a room code, whatever their checksum. -/
theorem parse_eq_ok_iff {code : String} {parsed : RoomCode} :
    RoomCode.parse code = .ok parsed ↔
      ∃ groups : CodeGroups, code = groups.raw ∧ parsed = groups.parsed := by
  rw [RoomCode.parse]
  constructor
  · intro accepted
    split at accepted
    · next first second third fourth read =>
        rw [Except.ok.injEq] at accepted
        rcases pattern_eq_some_iff.mp (Reader.toEnd_eq_some_iff.mp read) with ⟨form, four, digits⟩
        have same : code = (⟨first, second, third, fourth, four, digits⟩ : CodeGroups).raw := by
          rw [← String.toList_inj, toList_raw, form]
        exact ⟨⟨first, second, third, fourth, four, digits⟩, same,
          by rw [← accepted, CodeGroups.parsed, ← same]⟩
    · cases accepted
  · rintro ⟨groups, rfl, rfl⟩
    have read := Reader.toEnd_eq_some_iff.mpr
      (pattern_eq_some_iff.mpr ⟨toList_raw groups, groups.four, groups.digits⟩)
    rw [read]
    rfl

/-- The text determines the groups. -/
theorem raw_injective : Function.Injective CodeGroups.raw := by
  intro left right same
  have lists := congrArg String.toList same
  rw [toList_raw, toList_raw, List.append_cancel_left_eq] at lists
  rcases forall_mem_groups.mp left.four with ⟨left₁, left₂, left₃, _⟩
  rcases forall_mem_groups.mp right.four with ⟨right₁, right₂, right₃, _⟩
  have ⟨first, later⟩ := List.append_inj lists (left₁.trans right₁.symm)
  have ⟨second, last⟩ := List.append_inj (List.cons.inj later).2 (left₂.trans right₂.symm)
  have ⟨third, fourth⟩ := List.append_inj (List.cons.inj last).2 (left₃.trans right₃.symm)
  rcases left with ⟨_, _, _, _, _, _⟩
  rcases right with ⟨_, _, _, _, _, _⟩
  cases first
  cases second
  cases third
  cases (List.cons.inj fourth).2
  rfl

/-! ## The checksum of a parsed code -/

/-- `parse` accepts the code exactly if it has the form and its number is divisible by 7, and
takes it apart. -/
def ParsesChecked (code : String) : Prop :=
  ((∃ parsed, RoomCode.parse code = .ok parsed) ↔
      ∃ groups : CodeGroups, code = groups.raw ∧ 7 ∣ groups.value) ∧
    ∀ parsed, RoomCode.parse code = .ok parsed →
      ∃ groups : CodeGroups, code = groups.raw ∧ parsed = groups.parsed

theorem dvd_of_parsesChecked {groups : CodeGroups} (checked : ParsesChecked groups.raw) :
    7 ∣ groups.value := by
  rcases checked.1.mp ⟨_, parse_eq_ok_iff.mpr ⟨groups, rfl, rfl⟩⟩ with ⟨others, same, divisible⟩
  rw [raw_injective same]
  exact divisible

/-- The checksum decides over no code but those that have the form and fail it. -/
theorem parsesChecked_iff (code : String) :
    ParsesChecked code ↔ ∀ groups : CodeGroups, code = groups.raw → 7 ∣ groups.value := by
  constructor
  · rintro checked groups rfl
    exact dvd_of_parsesChecked checked
  · intro divisible
    refine ⟨⟨?_, ?_⟩, fun parsed => parse_eq_ok_iff.mp⟩
    · rintro ⟨parsed, accepted⟩
      rcases parse_eq_ok_iff.mp accepted with ⟨groups, same, _⟩
      exact ⟨groups, same, divisible groups same⟩
    · rintro ⟨groups, same, _⟩
      exact ⟨_, parse_eq_ok_iff.mpr ⟨groups, same, rfl⟩⟩

/-- A code whose last digit is mistyped. -/
def mistyped : CodeGroups where
  first := "0000".toList
  second := "0000".toList
  third := "0000".toList
  fourth := "0001".toList
  four := by decide
  digits := by
    have checked : ∀ group ∈ ["0000".toList, "0000".toList, "0000".toList, "0001".toList],
        group.all (fun char => char ∈ codeChars) = true := by decide
    exact fun group listed => List.all_iff_forall_prop.mp (checked group listed)

theorem mistyped_code_accepted :
    mistyped.raw = "U/0000-0000-0000-0001" ∧
      RoomCode.parse "U/0000-0000-0000-0001" =
        .ok ⟨"U/0000-0000-0000-0001", "0000-0000", "0000-0001"⟩ ∧
      ¬ ParsesChecked "U/0000-0000-0000-0001" := by
  have written : mistyped.raw = "U/0000-0000-0000-0001" := by decide +kernel
  refine ⟨written, by decide +kernel, ?_⟩
  rw [← written]
  intro checked
  exact absurd (dvd_of_parsesChecked checked) (by decide +kernel)

/-! ## The checksum of a generated code -/

theorem idxOf?_codeChars {char : Char} (listed : char ∈ codeChars) :
    codeChars.idxOf? char = some (codeDigit char) := by
  rw [codeDigit, List.idxOf_eq_getD_idxOf?]
  cases found : codeChars.idxOf? char with
  | none => exact absurd listed (List.idxOf?_eq_none_iff.mp found)
  | some index => rfl

theorem codeDigit_le {char : Char} (listed : char ∈ codeChars) : codeDigit char ≤ 33 :=
  Nat.le_of_lt_succ (List.idxOf_lt_length_of_mem listed)

theorem toInt_ofNat_codeDigit {char : Char} (listed : char ∈ codeChars) :
    (Int64.ofNat (codeDigit char)).toInt = codeDigit char :=
  Int64.toInt_ofNat_of_lt (Nat.lt_of_le_of_lt (codeDigit_le listed) (by decide))

theorem checksumLoop_eq_none {chars : List Char} (foreign : ∃ char ∈ chars, char ∉ codeChars)
    (index : Nat) (value : Int64) : checksumLoop chars index value = none := by
  induction chars generalizing index value with
  | nil =>
      rcases foreign with ⟨char, listed, _⟩
      cases listed
  | cons char later inductionHypothesis =>
      by_cases listed : char ∈ codeChars
      · rw [checksumLoop, idxOf?_codeChars listed]
        refine inductionHypothesis ?_ _ _
        rcases foreign with ⟨other, member, outside⟩
        rcases List.mem_cons.mp member with rfl | member
        · exact absurd listed outside
        · exact ⟨other, member, outside⟩
      · rw [checksumLoop, List.idxOf?_eq_none_iff.mpr listed]

/-- The loop adds up the alternating sum, modulo 2^64. -/
theorem checksumLoop_eq_some {chars : List Char} (digits : ∀ char ∈ chars, char ∈ codeChars)
    (index : Nat) (value : Int64) :
    ∃ sum, checksumLoop chars index value = some sum ∧
      sum.toInt = (value.toInt + if index % 2 = 0 then alternatingDigits (chars.map codeDigit)
        else -alternatingDigits (chars.map codeDigit)).bmod (2 ^ 64) := by
  induction chars generalizing index value with
  | nil =>
      refine ⟨value, rfl, ?_⟩
      have least := Int64.le_toInt value
      have most := Int64.toInt_lt value
      rw [List.map_nil, alternatingDigits, List.map_nil, List.alternatingSum_nil, neg_zero, ite_self,
        Int.add_zero, Int.bmod_eq_of_le_mul_two (by norm_num; omega) (by norm_num; omega)]
  | cons char later inductionHypothesis =>
      have listed := digits char List.mem_cons_self
      have digit := toInt_ofNat_codeDigit listed
      rw [checksumLoop, idxOf?_codeChars listed]
      rcases inductionHypothesis (fun other member => digits other (List.mem_cons_of_mem _ member))
        (index + 1) (value + if index % 2 = 0 then Int64.ofNat (codeDigit char)
          else -Int64.ofNat (codeDigit char)) with ⟨sum, ends, same⟩
      refine ⟨sum, ends, ?_⟩
      rw [same, List.map_cons, alternatingDigits_cons, Int64.toInt_add, Int.bmod_add_bmod]
      by_cases even : index % 2 = 0
      · rw [if_pos even, if_pos even, if_neg (by omega), digit]
        congr 1
        ring
      · rw [if_neg even, if_neg even, if_pos (by omega), Int64.toInt_neg, digit,
          Int.add_right_comm, Int.add_bmod_bmod]
        congr 1
        ring

/-- The digits of the text, as numbers. -/
def codeDigits (text : String) : List Nat := text.toList.map codeDigit

/-- Below 2^57 characters the sum does not wrap: the checksum decides whether 7 divides the
number. -/
theorem validateChecksum_iff {text : String} (short : text.toList.length < 2 ^ 57) :
    validateChecksum text = true ↔
      (∀ char ∈ text.toList, char ∈ codeChars) ∧ 7 ∣ Nat.ofDigits 34 (codeDigits text) := by
  by_cases digits : ∀ char ∈ text.toList, char ∈ codeChars
  · rw [and_iff_right digits, dvd_ofDigits_iff (by decide)]
    rcases checksumLoop_eq_some digits 0 0 with ⟨sum, ends, same⟩
    have bounded : (alternatingDigits (codeDigits text)).natAbs ≤ 33 * (codeDigits text).length := by
      refine natAbs_alternatingDigits_le fun digit listed => ?_
      rcases List.mem_map.mp listed with ⟨char, member, rfl⟩
      exact codeDigit_le (digits char member)
    rw [codeDigits, List.length_map, ← codeDigits] at bounded
    rw [if_pos (Nat.zero_mod 2), Int64.toInt_zero, Int.zero_add, ← codeDigits,
      Int.bmod_eq_of_le_mul_two (by norm_num; omega) (by norm_num; omega)] at same
    rw [validateChecksum, ends, beq_iff_eq, ← Int64.toInt_inj, Int64.toInt_mod, same,
      Int64.toInt_zero]
    exact Int.dvd_iff_tmod_eq_zero.symm
  · rw [validateChecksum, checksumLoop_eq_none (by push Not at digits; exact digits)]
    exact iff_of_false Bool.false_ne_true fun checked => digits checked.1

theorem toList_encode8 (bytes : Vector UInt8 8) :
    (encode8 bytes).toList.length = 8 ∧ ∀ char ∈ (encode8 bytes).toList, char ∈ codeChars := by
  rw [encode8, String.toList_ofList]
  refine ⟨by rw [List.length_map, Vector.length_toList], fun char listed => ?_⟩
  rcases List.mem_map.mp listed with ⟨byte, _, rfl⟩
  exact List.get_mem _ _

/-- A character of the alphabet takes one byte. -/
theorem splitAtByte_eq_some {chars : List Char} (digits : ∀ char ∈ chars, char ∈ codeChars)
    {index : Nat} (within : index ≤ chars.length) :
    splitAtByte index chars = some (chars.take index, chars.drop index) := by
  induction index generalizing chars with
  | zero =>
      rw [splitAtByte.eq_def]
      rfl
  | succ index inductionHypothesis =>
      cases chars with
      | nil => cases within
      | cons char later =>
          have oneByte : ∀ char ∈ codeChars, char.utf8Size = 1 :=
            List.all_iff_forall_prop.mp (by decide)
          have later_split := inductionHypothesis
            (fun other listed => digits other (List.mem_cons_of_mem char listed))
            (Nat.le_of_succ_le_succ within)
          rw [splitAtByte, oneByte char (digits char List.mem_cons_self), if_pos (Nat.le_add_left 1 _),
            Nat.add_sub_cancel, later_split]
          rfl

/-- What the first loop of `generate` hands on is the first draw that passes. -/
theorem drawPart_eq_some {draws later : List (Vector UInt8 8)} {part : String}
    (drawn : drawPart draws = some (part, later)) :
    ∃ refused buffer, draws = refused ++ buffer :: later ∧ part = encode8 buffer ∧
      validateChecksum (encode8 buffer) = true ∧
      ∀ other ∈ refused, validateChecksum (encode8 other) = false := by
  induction draws with
  | nil => cases drawn
  | cons buffer draws inductionHypothesis =>
      rw [drawPart] at drawn
      split at drawn
      · next passes =>
          rw [Option.some.injEq, Prod.mk.injEq] at drawn
          rcases drawn with ⟨rfl, rfl⟩
          exact ⟨[], buffer, rfl, rfl, passes, fun other listed => by cases listed⟩
      · next fails =>
          rcases inductionHypothesis drawn with ⟨refused, accepted, rfl, rfl, passes, others⟩
          refine ⟨buffer :: refused, accepted, rfl, rfl, passes, fun other listed => ?_⟩
          rcases List.mem_cons.mp listed with rfl | listed
          · exact Bool.eq_false_of_not_eq_true fails
          · exact others other listed

/-- A part that is drawn has eight digits, and 7 divides its number in both orders. -/
theorem digits_of_drawPart {draws later : List (Vector UInt8 8)} {part : String}
    (drawn : drawPart draws = some (part, later)) :
    part.toList.length = 8 ∧ (∀ char ∈ part.toList, char ∈ codeChars) ∧
      7 ∣ Nat.ofDigits 34 (codeDigits part) := by
  rcases drawPart_eq_some drawn with ⟨refused, buffer, _, rfl, passes, _⟩
  have form := toList_encode8 buffer
  have short : (encode8 buffer).toList.length < 2 ^ 57 := by
    rw [form.1]
    decide
  exact ⟨form.1, form.2, ((validateChecksum_iff short).mp passes).2⟩

/-- A part that is drawn can be taken apart at index 4. -/
theorem splitAtByte_of_drawPart {draws later : List (Vector UInt8 8)} {part : String}
    (drawn : drawPart draws = some (part, later)) :
    splitAtByte 4 part.toList = some (part.toList.take 4, part.toList.drop 4) := by
  rcases digits_of_drawPart drawn with ⟨eight, digits, _⟩
  have within : 4 ≤ part.toList.length := by
    rw [eight]
    decide
  exact splitAtByte_eq_some digits within

/-- The groups of a code that is put together from two halves of eight digits. -/
def CodeGroups.ofHalves (part1 part2 : List Char) (eight₁ : part1.length = 8)
    (eight₂ : part2.length = 8) (digits₁ : ∀ char ∈ part1, char ∈ codeChars)
    (digits₂ : ∀ char ∈ part2, char ∈ codeChars) : CodeGroups where
  first := part1.take 4
  second := part1.drop 4
  third := part2.take 4
  fourth := part2.drop 4
  four := by simp [eight₁, eight₂]
  digits := forall_mem_groups.mpr
    ⟨fun char listed => digits₁ char (List.mem_of_mem_take listed),
      fun char listed => digits₁ char (List.mem_of_mem_drop listed),
      fun char listed => digits₂ char (List.mem_of_mem_take listed),
      fun char listed => digits₂ char (List.mem_of_mem_drop listed)⟩

/-- The text that is handed to `parse` at the end of `generate`. -/
theorem raw_eq (groups : CodeGroups) :
    codePrefix ++ String.ofList groups.first ++ "-" ++ String.ofList groups.second ++ "-" ++
      String.ofList groups.third ++ "-" ++ String.ofList groups.fourth = groups.raw := by
  rw [← String.toList_inj, toList_raw]
  simp [String.toList_append]

theorem generate_eq_returned {draws later rest : List (Vector UInt8 8)} {part1 part2 : String}
    (first : drawPart draws = some (part1, later)) (second : drawPart later = some (part2, rest)) :
    ∃ groups : CodeGroups, RoomCode.generate draws = .returned groups.parsed ∧
      splitAtByte 4 part1.toList = some (groups.first, groups.second) ∧
      splitAtByte 4 part2.toList = some (groups.third, groups.fourth) ∧
      part1.toList = groups.first ++ groups.second ∧
      part2.toList = groups.third ++ groups.fourth := by
  rcases digits_of_drawPart first with ⟨eight₁, digits₁, _⟩
  rcases digits_of_drawPart second with ⟨eight₂, digits₂, _⟩
  have split₁ := splitAtByte_of_drawPart first
  have split₂ := splitAtByte_of_drawPart second
  refine ⟨.ofHalves part1.toList part2.toList eight₁ eight₂ digits₁ digits₂, ?_, split₁, split₂,
    (List.take_append_drop 4 _).symm, (List.take_append_drop 4 _).symm⟩
  have accepted := parse_eq_ok_iff.mpr
    ⟨.ofHalves part1.toList part2.toList eight₁ eight₂ digits₁ digits₂, rfl, rfl⟩
  rw [← raw_eq] at accepted
  simp only [RoomCode.generate, first, second, split₁, split₂]
  rw [CodeGroups.ofHalves] at accepted
  rw [accepted]
  rfl

theorem generate_ne_panicked (draws : List (Vector UInt8 8)) :
    RoomCode.generate draws ≠ .panicked := by
  intro panics
  cases first : drawPart draws with
  | none =>
      rw [RoomCode.generate, first] at panics
      cases panics
  | some drawn =>
      cases second : drawPart drawn.2 with
      | none =>
          simp only [RoomCode.generate, first, second] at panics
          cases panics
      | some others =>
          rcases generate_eq_returned first second with ⟨groups, returned, _⟩
          cases returned.symm.trans panics

/-- The checksum says that 7 divides the number, in whichever order the digits are read, and
`generate` returns the two halves that it has drawn as a code whose number 7 divides. -/
theorem checksum_decides_and_generate_returns :
    (∀ text : String, text.toList.length < 2 ^ 57 →
      (validateChecksum text = true ↔
        (∀ char ∈ text.toList, char ∈ codeChars) ∧ 7 ∣ Nat.ofDigits 34 (codeDigits text)) ∧
      (validateChecksum text = true ↔ (∀ char ∈ text.toList, char ∈ codeChars) ∧
        7 ∣ Nat.ofDigits 34 (codeDigits text).reverse)) ∧
    (∀ draws, RoomCode.generate draws ≠ .panicked) ∧
    ∀ draws part1 later part2 rest,
      drawPart draws = some (part1, later) → drawPart later = some (part2, rest) →
        ∃ groups : CodeGroups,
          RoomCode.generate draws = .returned groups.parsed ∧
          RoomCode.parse groups.raw = .ok groups.parsed ∧
          splitAtByte 4 part1.toList = some (groups.first, groups.second) ∧
          splitAtByte 4 part2.toList = some (groups.third, groups.fourth) ∧
          part1.toList = groups.first ++ groups.second ∧
          part2.toList = groups.third ++ groups.fourth ∧
          7 ∣ groups.value := by
  refine ⟨fun text short => ⟨validateChecksum_iff short, ?_⟩, generate_ne_panicked, ?_⟩
  · rw [dvd_ofDigits_reverse_iff (by decide)]
    exact validateChecksum_iff short
  · intro draws part1 later part2 rest first second
    rcases generate_eq_returned first second with ⟨groups, returned, split₁, split₂, half₁, half₂⟩
    refine ⟨groups, returned, parse_eq_ok_iff.mpr ⟨groups, rfl, rfl⟩, split₁, split₂, half₁, half₂, ?_⟩
    have left := (digits_of_drawPart first).2.2
    have right := (digits_of_drawPart second).2.2
    rw [codeDigits, half₁] at left
    rw [codeDigits, half₂] at right
    rw [CodeGroups.value, dvd_ofDigits_reverse_iff (by decide), CodeGroups.chars, List.map_append]
    exact dvd_ofDigits_append left right

/-- The draws of a known code, the first one refused. -/
def sampleDraws : List (Vector UInt8 8) :=
  [#v[1, 0, 0, 0, 0, 0, 0, 0], #v[16, 4, 18, 1, 18, 33, 28, 14], #v[27, 29, 62, 14, 31, 11, 28, 11]]

theorem sampleDraws_returned :
    ∃ groups : CodeGroups, RoomCode.generate sampleDraws = .returned groups.parsed ∧
      "G4J1JZUE".toList = groups.first ++ groups.second ∧
      "TVUEXBUB".toList = groups.third ++ groups.fourth ∧ 7 ∣ groups.value := by
  have first : drawPart sampleDraws =
      some ("G4J1JZUE", [#v[27, 29, 62, 14, 31, 11, 28, 11]]) := by decide +kernel
  have second : drawPart [#v[27, 29, 62, 14, 31, 11, 28, 11]] = some ("TVUEXBUB", []) := by
    decide +kernel
  rcases checksum_decides_and_generate_returns.2.2 _ _ _ _ _ first second with
    ⟨groups, returned, _, _, _, half₁, half₂, divisible⟩
  exact ⟨groups, returned, half₁, half₂, divisible⟩

end Models
end QomicexConnector
