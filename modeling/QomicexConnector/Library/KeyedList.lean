import Mathlib.Data.List.Nodup
import Mathlib.Data.List.Perm.Basic

namespace QomicexConnector
namespace Library

universe u v w

/-!
# Lists of entries found by key

A list of entries with distinct keys is a family of registers, one for each key, of
which the list shows the occupied ones in the order in which they were filled.  A
`KeyedChange` rewrites the register of one key; on the list it works on the first
entry with that key and appends a new entry at the end.

The list refines the registers: a sequence of changes leaves in each register what
the changes with its key make of it, whatever else was interleaved with them.
Hence neighbouring changes with different keys may be exchanged, up to the order of
the list, and that order is the order of filling.
-/

/-- A change of the register of one key; `none` is an empty register. -/
structure KeyedChange (Key : Type u) (Entry : Type v) where
  key : Key
  change : Option Entry → Option Entry

section Lists

variable {Key : Type u} {Entry : Type v} [DecidableEq Key] (keyOf : Entry → Key)

/-- The register of a key, as the list shows it. -/
def entryAt (key : Key) (entries : List Entry) : Option Entry :=
  entries.find? fun entry => decide (keyOf entry = key)

/-- The change on a list: the first entry with the key, or else a new one at the end. -/
def KeyedChange.alter (op : KeyedChange Key Entry) : List Entry → List Entry
  | [] => (op.change none).toList
  | entry :: later =>
      if keyOf entry = op.key then
        match op.change (some entry) with
        | some changed => changed :: later
        | none => later
      else entry :: op.alter later

/-- What the change puts into the register has its key, if what it finds there has. -/
def KeyedChange.KeepsKey (op : KeyedChange Key Entry) : Prop :=
  ∀ before after, (∀ entry ∈ before, keyOf entry = op.key) → op.change before = some after →
    keyOf after = op.key

variable {keyOf}

section Keeps

variable {op : KeyedChange Key Entry} {entry : Entry}

omit [DecidableEq Key] in
theorem KeyedChange.KeepsKey.of_none (keeps : op.KeepsKey keyOf)
    (result : op.change none = some entry) : keyOf entry = op.key :=
  keeps none entry (by simp) result

omit [DecidableEq Key] in
theorem KeyedChange.KeepsKey.of_some (keeps : op.KeepsKey keyOf) {before : Entry}
    (same : keyOf before = op.key) (result : op.change (some before) = some entry) :
    keyOf entry = op.key :=
  keeps (some before) entry (by simpa using same) result

end Keeps

theorem entryAt_cons (key : Key) (entry : Entry) (later : List Entry) :
    entryAt keyOf key (entry :: later) =
      if keyOf entry = key then some entry else entryAt keyOf key later := by
  rw [entryAt, List.find?_cons]
  by_cases same : keyOf entry = key
  · simp [same]
  · simp [same, entryAt]

theorem entryAt_eq_none_iff {key : Key} {entries : List Entry} :
    entryAt keyOf key entries = none ↔ key ∉ entries.map keyOf := by
  rw [entryAt, List.find?_eq_none]
  simp only [decide_eq_true_eq, List.mem_map, not_exists, not_and]

/-- With distinct keys an entry is what the register of its key shows. -/
theorem mem_iff_entryAt {entries : List Entry} (distinct : (entries.map keyOf).Nodup)
    {entry : Entry} : entry ∈ entries ↔ entryAt keyOf (keyOf entry) entries = some entry := by
  induction entries with
  | nil => simp [entryAt]
  | cons first later inductionHypothesis =>
      rw [List.map_cons, List.nodup_cons] at distinct
      rw [entryAt_cons, List.mem_cons, inductionHypothesis distinct.2]
      by_cases same : keyOf first = keyOf entry
      · have absent : entryAt keyOf (keyOf entry) later = none :=
          entryAt_eq_none_iff.mpr (same ▸ distinct.1)
        rw [if_pos same, absent, Option.some.injEq, eq_comm]
        exact ⟨fun either => either.resolve_right (by simp), Or.inl⟩
      · have different : entry ≠ first := fun equal => same (congrArg keyOf equal.symm)
        rw [if_neg same]
        exact ⟨fun either => either.resolve_left different, Or.inr⟩

/-- Lists that show the same registers are the same up to order. -/
theorem perm_of_entryAt {first second : List Entry} (firstDistinct : (first.map keyOf).Nodup)
    (secondDistinct : (second.map keyOf).Nodup)
    (same : ∀ key, entryAt keyOf key first = entryAt keyOf key second) : first.Perm second := by
  apply (List.perm_ext_iff_of_nodup firstDistinct.of_map secondDistinct.of_map).mpr
  intro entry
  rw [mem_iff_entryAt firstDistinct, mem_iff_entryAt secondDistinct, same]

section Change

variable {op : KeyedChange Key Entry}

theorem mem_keys_alter (keeps : op.KeepsKey keyOf) {entries : List Entry} {key : Key}
    (listed : key ∈ (op.alter keyOf entries).map keyOf) :
    key = op.key ∨ key ∈ entries.map keyOf := by
  induction entries with
  | nil =>
      rw [KeyedChange.alter, List.mem_map] at listed
      rcases listed with ⟨entry, new, rfl⟩
      exact Or.inl (keeps.of_none (Option.mem_toList.mp new))
  | cons entry later inductionHypothesis =>
      rw [KeyedChange.alter] at listed
      split at listed
      · next same =>
          split at listed
          · next changed result =>
              rw [List.map_cons, List.mem_cons, keeps.of_some same result] at listed
              exact listed.imp_right fun inside => List.mem_cons_of_mem _ inside
          · exact Or.inr (List.mem_cons_of_mem _ listed)
      · rw [List.map_cons, List.mem_cons] at listed
        rcases listed with rfl | inside
        · exact Or.inr List.mem_cons_self
        · exact (inductionHypothesis inside).imp_right fun old => List.mem_cons_of_mem _ old

theorem nodup_alter (keeps : op.KeepsKey keyOf) {entries : List Entry}
    (distinct : (entries.map keyOf).Nodup) : ((op.alter keyOf entries).map keyOf).Nodup := by
  induction entries with
  | nil =>
      rw [KeyedChange.alter]
      cases op.change none with
      | none => exact List.nodup_nil
      | some entry => exact List.nodup_singleton _
  | cons entry later inductionHypothesis =>
      rw [List.map_cons, List.nodup_cons] at distinct
      rw [KeyedChange.alter]
      split
      · next same =>
          split
          · next changed result =>
              rw [List.map_cons, List.nodup_cons, keeps.of_some same result, ← same]
              exact distinct
          · exact distinct.2
      · next different =>
          rw [List.map_cons, List.nodup_cons]
          refine ⟨fun listed => ?_, inductionHypothesis distinct.2⟩
          exact (mem_keys_alter keeps listed).elim different distinct.1

/-- A change rewrites the register of its key and no other. -/
theorem entryAt_alter (keeps : op.KeepsKey keyOf) {entries : List Entry}
    (distinct : (entries.map keyOf).Nodup) (key : Key) :
    entryAt keyOf key (op.alter keyOf entries) =
      if op.key = key then op.change (entryAt keyOf key entries)
      else entryAt keyOf key entries := by
  induction entries with
  | nil =>
      rw [KeyedChange.alter]
      cases result : op.change none with
      | none =>
          have empty : entryAt keyOf key [] = none := rfl
          rw [Option.toList_none, empty, result, ite_self]
      | some entry =>
          have empty : entryAt keyOf key [] = none := rfl
          rw [Option.toList_some, entryAt_cons, keeps.of_none result, empty, result]
  | cons entry later inductionHypothesis =>
      rw [List.map_cons, List.nodup_cons] at distinct
      rw [KeyedChange.alter, entryAt_cons]
      by_cases here : keyOf entry = op.key
      · rw [if_pos here, here]
        have absent : entryAt keyOf op.key later = none :=
          entryAt_eq_none_iff.mpr (here ▸ distinct.1)
        by_cases named : op.key = key
        · subst named
          rw [if_pos rfl, if_pos rfl]
          cases result : op.change (some entry) with
          | none => exact absent
          | some changed => rw [entryAt_cons, keeps.of_some here result, if_pos rfl]
        · rw [if_neg named, if_neg named]
          cases result : op.change (some entry) with
          | none => rfl
          | some changed => rw [entryAt_cons, keeps.of_some here result, if_neg named]
      · rw [if_neg here, entryAt_cons, inductionHypothesis distinct.2]
        by_cases found : keyOf entry = key
        · have unnamed : op.key ≠ key := fun named => here (found.trans named.symm)
          rw [if_pos found, if_neg unnamed, if_pos found]
        · rw [if_neg found, if_neg found]

end Change

/-! ## Sequences of changes -/

/-- The changes made one after another. -/
def alterAll (keyOf : Entry → Key) (ops : List (KeyedChange Key Entry)) (entries : List Entry) :
    List Entry :=
  ops.foldl (fun entries op => op.alter keyOf entries) entries

/-- What the changes with the key make of its register. -/
def registerAfter (ops : List (KeyedChange Key Entry)) (key : Key) (register : Option Entry) :
    Option Entry :=
  (ops.filter fun op => decide (op.key = key)).foldl (fun register op => op.change register)
    register

theorem nodup_alterAll {ops : List (KeyedChange Key Entry)} (keeps : ∀ op ∈ ops, op.KeepsKey keyOf)
    {entries : List Entry} (distinct : (entries.map keyOf).Nodup) :
    ((alterAll keyOf ops entries).map keyOf).Nodup := by
  induction ops generalizing entries with
  | nil => exact distinct
  | cons op later inductionHypothesis =>
      exact inductionHypothesis (fun other listed => keeps other (List.mem_cons_of_mem _ listed))
        (nodup_alter (keeps op List.mem_cons_self) distinct)

/-- The list refines the registers: each is the fold of the changes with its key. -/
theorem entryAt_alterAll {ops : List (KeyedChange Key Entry)}
    (keeps : ∀ op ∈ ops, op.KeepsKey keyOf) {entries : List Entry}
    (distinct : (entries.map keyOf).Nodup) (key : Key) :
    entryAt keyOf key (alterAll keyOf ops entries) =
      registerAfter ops key (entryAt keyOf key entries) := by
  induction ops generalizing entries with
  | nil => rfl
  | cons op later inductionHypothesis =>
      have first := keeps op List.mem_cons_self
      have others : ∀ other ∈ later, other.KeepsKey keyOf :=
        fun other listed => keeps other (List.mem_cons_of_mem _ listed)
      rw [alterAll, List.foldl_cons, ← alterAll,
        inductionHypothesis others (nodup_alter first distinct), entryAt_alter first distinct,
        registerAfter, registerAfter]
      by_cases named : op.key = key
      · rw [if_pos named, List.filter_cons_of_pos (by simpa using named), List.foldl_cons]
      · rw [if_neg named, List.filter_cons_of_neg (by simpa using named)]

/-- Neighbouring changes with different keys may be exchanged. -/
theorem alterAll_swap {before after : List (KeyedChange Key Entry)}
    {first second : KeyedChange Key Entry}
    (keeps : ∀ op ∈ before ++ first :: second :: after, op.KeepsKey keyOf)
    (different : first.key ≠ second.key) {entries : List Entry}
    (distinct : (entries.map keyOf).Nodup) :
    (alterAll keyOf (before ++ first :: second :: after) entries).Perm
      (alterAll keyOf (before ++ second :: first :: after) entries) := by
  have swapped : (before ++ first :: second :: after).Perm (before ++ second :: first :: after) :=
    (List.Perm.swap second first after).append_left before
  have keepsSwapped : ∀ op ∈ before ++ second :: first :: after, op.KeepsKey keyOf :=
    fun op listed => keeps op (swapped.mem_iff.mpr listed)
  apply perm_of_entryAt (nodup_alterAll keeps distinct) (nodup_alterAll keepsSwapped distinct)
  intro key
  have filtered : (before ++ first :: second :: after).filter (fun op => decide (op.key = key)) =
      (before ++ second :: first :: after).filter fun op => decide (op.key = key) := by
    rw [List.filter_append, List.filter_append, List.filter_cons, List.filter_cons,
      List.filter_cons, List.filter_cons]
    by_cases named : first.key = key
    · have other : second.key ≠ key := fun also => different (named.trans also.symm)
      simp [named, other]
    · simp [named]
  rw [entryAt_alterAll keeps distinct, entryAt_alterAll keepsSwapped distinct, registerAfter,
    registerAfter, filtered]

/-! ## The order of filling -/

/-- An entry with the time at which its register was filled. -/
structure Stamped (Entry : Type v) where
  time : Nat
  entry : Entry

/-- The change at time `now`: an entry that stays keeps its time. -/
def KeyedChange.stamped (op : KeyedChange Key Entry) (now : Nat) :
    KeyedChange Key (Stamped Entry) where
  key := op.key
  change register :=
    (op.change (register.map Stamped.entry)).map fun entry =>
      ⟨(register.map Stamped.time).getD now, entry⟩

omit [DecidableEq Key] in
theorem KeyedChange.KeepsKey.stamped {op : KeyedChange Key Entry} (keeps : op.KeepsKey keyOf)
    (now : Nat) : (op.stamped now).KeepsKey (keyOf ∘ Stamped.entry) := by
  intro before after held result
  rcases Option.map_eq_some_iff.mp result with ⟨entry, changed, rfl⟩
  refine keeps _ _ ?_ changed
  intro earlier found
  rcases Option.map_eq_some_iff.mp found with ⟨stamped, present, rfl⟩
  exact held stamped present

/-- Stamps do not disturb the list. -/
theorem entries_alter_stamped (op : KeyedChange Key Entry) (now : Nat)
    (entries : List (Stamped Entry)) :
    ((op.stamped now).alter (keyOf ∘ Stamped.entry) entries).map Stamped.entry =
      op.alter keyOf (entries.map Stamped.entry) := by
  induction entries with
  | nil =>
      have empty : (op.stamped now).change none = (op.change none).map fun entry => ⟨now, entry⟩ :=
        rfl
      rw [List.map_nil, KeyedChange.alter, KeyedChange.alter, empty]
      cases op.change none <;> rfl
  | cons stamped later inductionHypothesis =>
      have same : (op.stamped now).change (some stamped) =
          (op.change (some stamped.entry)).map fun entry => ⟨stamped.time, entry⟩ := rfl
      rw [List.map_cons, KeyedChange.alter, KeyedChange.alter]
      by_cases here : keyOf stamped.entry = op.key
      · rw [if_pos here]
        have there : (keyOf ∘ Stamped.entry) stamped = (op.stamped now).key := here
        rw [if_pos there, same]
        cases op.change (some stamped.entry) <;> rfl
      · rw [if_neg here]
        have elsewhere : (keyOf ∘ Stamped.entry) stamped ≠ (op.stamped now).key := here
        rw [if_neg elsewhere, List.map_cons, inductionHypothesis]

/-- The entries stand in the order of their times, all of them before `now`. -/
structure InOrder (now : Nat) (entries : List (Stamped Entry)) : Prop where
  ordered : entries.Pairwise fun earlier later => earlier.time < later.time
  past : ∀ stamped ∈ entries, stamped.time < now

variable (keyOf) in
theorem InOrder.alter {now : Nat} {entries : List (Stamped Entry)} (inOrder : InOrder now entries)
    (op : KeyedChange Key Entry) :
    InOrder (now + 1) ((op.stamped now).alter (keyOf ∘ Stamped.entry) entries) ∧
      ∀ earlier, (∀ stamped ∈ entries, earlier < stamped.time) → earlier < now →
        ∀ stamped ∈ (op.stamped now).alter (keyOf ∘ Stamped.entry) entries,
          earlier < stamped.time := by
  induction entries with
  | nil =>
      have empty : (op.stamped now).change none = (op.change none).map fun entry => ⟨now, entry⟩ :=
        rfl
      rw [KeyedChange.alter, empty]
      cases op.change none with
      | none => exact ⟨⟨List.Pairwise.nil, by simp⟩, by simp⟩
      | some entry =>
          refine ⟨⟨List.pairwise_singleton _ _, by simp⟩, ?_⟩
          intro earlier _ before stamped listed
          rw [List.mem_singleton.mp listed]
          exact before
  | cons first later inductionHypothesis =>
      rcases List.pairwise_cons.mp inOrder.ordered with ⟨ahead, rest⟩
      have restInOrder : InOrder now later :=
        ⟨rest, fun stamped listed => inOrder.past stamped (List.mem_cons_of_mem _ listed)⟩
      have firstPast := inOrder.past first List.mem_cons_self
      have same : (op.stamped now).change (some first) =
          (op.change (some first.entry)).map fun entry => ⟨first.time, entry⟩ := rfl
      rw [KeyedChange.alter, same]
      split
      · cases op.change (some first.entry) with
        | none =>
            refine ⟨⟨rest, fun stamped listed => ?_⟩, fun earlier bound _ stamped listed => ?_⟩
            · exact Nat.lt_succ_of_lt (restInOrder.past stamped listed)
            · exact bound stamped (List.mem_cons_of_mem _ listed)
        | some changed =>
            refine ⟨⟨List.pairwise_cons.mpr ⟨ahead, rest⟩, fun stamped listed => ?_⟩,
              fun earlier bound _ stamped listed => ?_⟩
            · rcases List.mem_cons.mp listed with rfl | inside
              · exact Nat.lt_succ_of_lt firstPast
              · exact Nat.lt_succ_of_lt (restInOrder.past stamped inside)
            · rcases List.mem_cons.mp listed with rfl | inside
              · exact bound first List.mem_cons_self
              · exact bound stamped (List.mem_cons_of_mem _ inside)
      · rcases inductionHypothesis restInOrder with ⟨kept, above⟩
        refine ⟨⟨List.pairwise_cons.mpr ⟨above first.time ahead firstPast, kept.ordered⟩,
          fun stamped listed => ?_⟩, fun earlier bound before stamped listed => ?_⟩
        · rcases List.mem_cons.mp listed with rfl | inside
          · exact Nat.lt_succ_of_lt firstPast
          · exact kept.past stamped inside
        · rcases List.mem_cons.mp listed with rfl | inside
          · exact bound stamped List.mem_cons_self
          · exact above earlier (fun other present => bound other (List.mem_cons_of_mem _ present))
              before stamped inside

/-- Changes with the times at which they are made. -/
def stampedAll (timed : List (Nat × KeyedChange Key Entry)) :
    List (KeyedChange Key (Stamped Entry)) :=
  timed.map fun timedOp => timedOp.2.stamped timedOp.1

omit [DecidableEq Key] in
theorem keepsKey_stampedAll {timed : List (Nat × KeyedChange Key Entry)}
    (keeps : ∀ timedOp ∈ timed, timedOp.2.KeepsKey keyOf) :
    ∀ op ∈ stampedAll timed, op.KeepsKey (keyOf ∘ Stamped.entry) := by
  intro op listed
  rcases List.mem_map.mp listed with ⟨timedOp, member, rfl⟩
  exact (keeps timedOp member).stamped timedOp.1

variable (keyOf) in
/-- The list after the changes shows the filled registers in the order of filling. -/
theorem alterAll_inOrder {timed : List (Nat × KeyedChange Key Entry)} {start : Nat}
    {entries : List (Stamped Entry)} (inOrder : InOrder start entries)
    (increasing : timed.Pairwise fun earlier later => earlier.1 < later.1)
    (after : ∀ timedOp ∈ timed, start ≤ timedOp.1) :
    let joined := alterAll (keyOf ∘ Stamped.entry) (stampedAll timed) entries
    joined.map Stamped.entry =
        alterAll keyOf (timed.map Prod.snd) (entries.map Stamped.entry) ∧
      joined.Pairwise fun earlier later => earlier.time < later.time := by
  induction timed generalizing start entries with
  | nil => exact ⟨rfl, inOrder.ordered⟩
  | cons first later inductionHypothesis =>
      rcases List.pairwise_cons.mp increasing with ⟨ahead, rest⟩
      have now : InOrder first.1 entries :=
        ⟨inOrder.ordered, fun stamped listed =>
          Nat.lt_of_lt_of_le (inOrder.past stamped listed) (after first List.mem_cons_self)⟩
      have next := inductionHypothesis (now.alter keyOf first.2).1 rest ahead
      rw [entries_alter_stamped] at next
      exact next

end Lists

end Library
end QomicexConnector
