import Mathlib.Data.List.Induction

namespace QomicexConnector
namespace Library

universe u v w

/-!
# Runs of a partial labelled step function

A component is given by a step function that may refuse a label.  A run is the
list of labels it performed, in order; it exists exactly when every label was
enabled where it occurred.  All nondeterminism sits in the choice of labels, so
a statement about every run is a statement about every interleaving.

`EveryStep` restricts a run by a condition on each step, and may look at the
labels performed before.  `run_invariant` is the one induction the developments
built on this file use: a property of the past and the present state that holds
at the start and is kept by every admissible step holds after every admissible
run.
-/

variable {State : Type u} {Label : Type v}

/-- Perform the labels in order, failing as soon as one of them is refused. -/
def run (step : State → Label → Option State) : State → List Label → Option State
  | state, [] => some state
  | state, label :: later => (step state label).bind fun next => run step next later

section Runs

variable {step : State → Label → Option State}

@[simp] theorem run_nil (state : State) : run step state [] = some state := rfl

theorem run_cons_eq_some {state final : State} {label : Label} {later : List Label} :
    run step state (label :: later) = some final ↔
      ∃ next, step state label = some next ∧ run step next later = some final := by
  simp only [run, Option.bind_eq_some_iff]

theorem run_append (state : State) (first later : List Label) :
    run step state (first ++ later) =
      (run step state first).bind fun middle => run step middle later := by
  induction first generalizing state with
  | nil => rfl
  | cons label rest inductionHypothesis =>
      simp only [List.cons_append, run, Option.bind_assoc]
      exact congrArg _ (funext fun next => inductionHypothesis next)

theorem run_append_eq_some {state final : State} {first later : List Label} :
    run step state (first ++ later) = some final ↔
      ∃ middle, run step state first = some middle ∧ run step middle later = some final := by
  rw [run_append, Option.bind_eq_some_iff]

theorem run_concat_eq_some {state final : State} {labels : List Label} {label : Label} :
    run step state (labels ++ [label]) = some final ↔
      ∃ middle, run step state labels = some middle ∧ step middle label = some final := by
  rw [run_append_eq_some]
  simp only [run_cons_eq_some, run_nil, Option.some.injEq, exists_eq_right]

/-- A run that is possible ends in the state it computes. -/
theorem run_eq_getD {start : State} {labels : List Label}
    (possible : (run step start labels).isSome = true) :
    run step start labels = some ((run step start labels).getD start) := by
  rcases Option.isSome_iff_exists.mp possible with ⟨final, reached⟩
  rw [reached, Option.getD_some]

end Runs

/-- Every step of the run meets the condition, which sees the labels performed
before the step, the state it is taken in and the label itself. -/
def EveryStep (step : State → Label → Option State) (start : State)
    (condition : List Label → State → Label → Prop) (labels : List Label) : Prop :=
  ∀ past label later state, labels = past ++ label :: later →
    run step start past = some state → condition past state label

namespace EveryStep

variable {step : State → Label → Option State} {start : State}
  {condition other : List Label → State → Label → Prop} {labels : List Label} {label : Label}

theorem nil : EveryStep step start condition [] := by
  intro past label later state split
  simp at split

/-- A condition on the whole run is a condition on every earlier part of it. -/
theorem before {later : List Label} (every : EveryStep step start condition (labels ++ later)) :
    EveryStep step start condition labels := by
  intro past label rest state split reached
  exact every past label (rest ++ later) state (by rw [split]; simp) reached

theorem last {state : State} (every : EveryStep step start condition (labels ++ [label]))
    (reached : run step start labels = some state) : condition labels state label :=
  every labels label [] state rfl reached

/-- The later part of a run is itself a run, from where the earlier part ended. -/
theorem after {first later : List Label} {middle : State}
    (every : EveryStep step start condition (first ++ later))
    (reached : run step start first = some middle) :
    EveryStep step middle (fun past => condition (first ++ past)) later := by
  intro past label rest state split arrived
  refine every (first ++ past) label rest state (by rw [split]; simp) ?_
  exact run_append_eq_some.mpr ⟨middle, reached, arrived⟩

/-- A condition on each label joins a condition on each step. -/
theorem and_labels {property : Label → Prop} (every : EveryStep step start condition labels)
    (holds : ∀ label ∈ labels, property label) :
    EveryStep step start (fun past state label => condition past state label ∧ property label)
      labels := by
  intro past label later state split reached
  refine ⟨every past label later state split reached, holds label ?_⟩
  rw [split]
  exact List.mem_append_right _ List.mem_cons_self

/-- Two conditions that agree wherever a run arrives restrict runs alike. -/
theorem congr_reached
    (agree : ∀ past state label, run step start past = some state →
      (condition past state label ↔ other past state label)) :
    EveryStep step start condition labels ↔ EveryStep step start other labels := by
  constructor
  · intro every past label later state split reached
    exact (agree past state label reached).mp (every past label later state split reached)
  · intro every past label later state split reached
    exact (agree past state label reached).mpr (every past label later state split reached)

/-- A condition that looks at the labels performed before, checked along the run. -/
theorem cons_past_iff {later : List Label} :
    EveryStep step start condition (label :: later) ↔
      condition [] start label ∧ ∀ next, step start label = some next →
        EveryStep step next (fun past => condition (label :: past)) later := by
  constructor
  · intro every
    refine ⟨every [] label later start rfl rfl, ?_⟩
    intro next taken past other rest state split reached
    refine every (label :: past) other rest state (by rw [split, List.cons_append]) ?_
    exact run_cons_eq_some.mpr ⟨next, taken, reached⟩
  · rintro ⟨first, others⟩ past other rest state split reached
    cases past with
    | nil =>
        rw [List.nil_append, List.cons.injEq] at split
        rw [run_nil, Option.some.injEq] at reached
        rw [← split.1, ← reached]
        exact first
    | cons earlier past =>
        rw [List.cons_append, List.cons.injEq] at split
        rcases run_cons_eq_some.mp reached with ⟨next, taken, arrived⟩
        rw [← split.1] at taken ⊢
        exact others next taken past other rest state split.2 arrived

/-- A condition on the steps of a run, checked along the run. -/
theorem cons_iff {condition : State → Label → Prop} {later : List Label} :
    EveryStep step start (fun _ => condition) (label :: later) ↔
      condition start label ∧
        ∀ next, step start label = some next → EveryStep step next (fun _ => condition) later :=
  cons_past_iff

instance decidable {condition : State → Label → Prop}
    [∀ state label, Decidable (condition state label)] (labels : List Label) (start : State) :
    Decidable (EveryStep step start (fun _ => condition) labels) :=
  match labels with
  | [] => isTrue nil
  | label :: later =>
      match taken : step start label with
      | none =>
          decidable_of_iff (condition start label) (by
            rw [cons_iff, taken]
            simp)
      | some next =>
          haveI : Decidable (EveryStep step next (fun _ => condition) later) := decidable later next
          decidable_of_iff (condition start label ∧ EveryStep step next (fun _ => condition) later)
            (by
              rw [cons_iff, taken]
              simp)

instance (priority := low) decidablePast {condition : List Label → State → Label → Prop}
    [∀ past state label, Decidable (condition past state label)] (labels : List Label)
    (start : State) : Decidable (EveryStep step start condition labels) :=
  match labels with
  | [] => isTrue nil
  | label :: later =>
      match taken : step start label with
      | none =>
          decidable_of_iff (condition [] start label) (by
            rw [cons_past_iff, taken]
            simp)
      | some next =>
          haveI : Decidable (EveryStep step next (fun past => condition (label :: past)) later) :=
            decidablePast later next
          decidable_of_iff (condition [] start label ∧
              EveryStep step next (fun past => condition (label :: past)) later)
            (by
              rw [cons_past_iff, taken]
              simp)

end EveryStep

/-- Every state the run passes through, its first and its last among them. -/
def EveryState (step : State → Label → Option State) (start : State) (property : State → Prop)
    (labels : List Label) : Prop :=
  ∀ past later state, labels = past ++ later → run step start past = some state → property state

/-- The invariant rule.  The property may speak about the labels performed so
far, and a step has to keep it only where the run meets the condition. -/
theorem run_invariant {step : State → Label → Option State} {start : State}
    {condition : List Label → State → Label → Prop} (property : List Label → State → Prop)
    (holds : property [] start)
    (keeps : ∀ past state label next, run step start past = some state → property past state →
      condition past state label → step state label = some next →
      property (past ++ [label]) next)
    {labels : List Label} {final : State} (every : EveryStep step start condition labels)
    (reached : run step start labels = some final) : property labels final := by
  induction labels using List.reverseRecOn generalizing final with
  | nil =>
      rw [run_nil, Option.some.injEq] at reached
      exact reached ▸ holds
  | append_singleton labels label inductionHypothesis =>
      rcases run_concat_eq_some.mp reached with ⟨middle, earlier, taken⟩
      exact keeps labels middle label final earlier (inductionHypothesis every.before earlier)
        (every.last earlier) taken

/-- The invariant rule for a property that every step keeps. -/
theorem history_invariant {step : State → Label → Option State} {start : State}
    (property : List Label → State → Prop) (holds : property [] start)
    (keeps : ∀ past state label next, run step start past = some state → property past state →
      step state label = some next → property (past ++ [label]) next)
    {labels : List Label} {final : State} (reached : run step start labels = some final) :
    property labels final := by
  have unconditional : EveryStep step start (fun _ _ _ => True) labels :=
    fun _ _ _ _ _ _ => trivial
  refine run_invariant property holds ?_ unconditional reached
  exact fun past state label next arrived before _ taken =>
    keeps past state label next arrived before taken

/-- The same for a property of the state alone. -/
theorem reachable_invariant {step : State → Label → Option State} {start : State}
    {property : State → Prop} (holds : property start)
    (keeps : ∀ state label next, property state → step state label = some next → property next)
    {labels : List Label} {final : State} (reached : run step start labels = some final) :
    property final := by
  refine history_invariant (fun _ => property) holds ?_ reached
  exact fun _ state label next _ before taken => keeps state label next before taken

/-- The budget rule.  Where no step adds to the budget and each counted step uses up a part
of it, a run contains at most as many counted steps. -/
theorem countP_le_budget {step : State → Label → Option State} {property : State → Prop}
    (budget : State → Nat) {counted : Label → Bool}
    (spends : ∀ state label next, property state → step state label = some next →
      property next ∧ budget next + (if counted label then 1 else 0) ≤ budget state)
    {start final : State} {labels : List Label} (holds : property start)
    (reached : run step start labels = some final) : labels.countP counted ≤ budget start := by
  induction labels generalizing start with
  | nil => exact Nat.zero_le _
  | cons label later inductionHypothesis =>
      rcases run_cons_eq_some.mp reached with ⟨next, taken, arrived⟩
      have ⟨kept, spent⟩ := spends start label next holds taken
      have rest := inductionHypothesis kept arrived
      rw [List.countP_cons]
      omega

/-- The completion rule.  Where every state with a budget left has an allowed step that uses up a
part of it, allowed steps lead to a state without. -/
theorem exists_run_of_budget {step : State → Label → Option State} {property : State → Prop}
    (budget : State → Nat) {allowed : Label → Prop}
    (spends : ∀ state, property state → budget state ≠ 0 → ∃ label next, allowed label ∧
      step state label = some next ∧ property next ∧ budget next < budget state)
    (start : State) (holds : property start) :
    ∃ labels final, (∀ label ∈ labels, allowed label) ∧ run step start labels = some final ∧
      property final ∧ budget final = 0 := by
  induction left : budget start using Nat.strongRecOn generalizing start with
  | ind n inductionHypothesis =>
      by_cases done : budget start = 0
      · exact ⟨[], start, nofun, rfl, holds, done⟩
      · rcases spends start holds done with ⟨label, next, fits, taken, kept, less⟩
        rcases inductionHypothesis _ (left ▸ less) next kept rfl with
          ⟨labels, final, rest, reached, arrived, spent⟩
        refine ⟨label :: labels, final, ?_, run_cons_eq_some.mpr ⟨next, taken, reached⟩, arrived,
          spent⟩
        intro other listed
        rcases List.mem_cons.mp listed with rfl | later
        · exact fits
        · exact rest other later

/-! ## The steps of a run -/

section Steps

variable (step : State → Label → Option State) (start : State)

/-- Among the labels is one that was performed from the first of the states to the second. -/
structure Performed (labels : List Label) (label : Label) (state next : State) : Prop where
  reached : ∃ past later, labels = past ++ label :: later ∧ run step start past = some state
  taken : step state label = some next

variable {step start}

theorem Performed.concat {labels : List Label} {label : Label} {state next : State}
    (performed : Performed step start labels label state next) (last : Label) :
    Performed step start (labels ++ [last]) label state next := by
  rcases performed.reached with ⟨past, later, split, reached⟩
  refine ⟨⟨past, later ++ [last], ?_, reached⟩, performed.taken⟩
  rw [split, List.append_assoc, List.cons_append]

theorem performed_last {labels : List Label} {label : Label} {state next : State}
    (reached : run step start labels = some state) (taken : step state label = some next) :
    Performed step start (labels ++ [label]) label state next :=
  ⟨⟨labels, [], rfl, reached⟩, taken⟩

end Steps

/-! ## What a run shows -/

section Emitted

variable {Shown : Type w} (step : State → Label → Option State)
  (emit : State → Label → List Shown)

/-- What the steps of a run show, in order. -/
def emitted : State → List Label → List Shown
  | _, [] => []
  | state, label :: later =>
      emit state label ++ ((step state label).map fun next => emitted next later).getD []

variable {step emit}

theorem emitted_concat {start middle : State} {labels : List Label}
    (reached : run step start labels = some middle) (label : Label) :
    emitted step emit start (labels ++ [label]) =
      emitted step emit start labels ++ emit middle label := by
  induction labels generalizing start with
  | nil =>
      rw [run_nil, Option.some.injEq] at reached
      subst reached
      rw [List.nil_append, emitted, emitted, List.nil_append]
      cases step start label with
      | none => exact List.append_nil _
      | some next => exact List.append_nil _
  | cons first later inductionHypothesis =>
      rcases run_cons_eq_some.mp reached with ⟨next, taken, arrived⟩
      rw [List.cons_append, emitted, emitted, taken, Option.map_some, Option.getD_some,
        Option.map_some, Option.getD_some, inductionHypothesis arrived, List.append_assoc]

/-- What a run shows was shown by one of its steps. -/
theorem mem_emitted {start : State} {labels : List Label} {shown : Shown} :
    shown ∈ emitted step emit start labels ↔
      ∃ past label later state, labels = past ++ label :: later ∧
        run step start past = some state ∧ shown ∈ emit state label := by
  induction labels generalizing start with
  | nil => simp [emitted]
  | cons first rest inductionHypothesis =>
      rw [emitted, List.mem_append]
      constructor
      · rintro (here | there)
        · exact ⟨[], first, rest, start, rfl, rfl, here⟩
        · cases taken : step start first with
          | none =>
              rw [taken, Option.map_none, Option.getD_none] at there
              cases there
          | some next =>
              rw [taken, Option.map_some, Option.getD_some] at there
              rcases inductionHypothesis.mp there with
                ⟨past, label, later, state, rfl, reached, listed⟩
              exact ⟨first :: past, label, later, state, rfl,
                run_cons_eq_some.mpr ⟨next, taken, reached⟩, listed⟩
      · rintro ⟨past, label, later, state, split, reached, listed⟩
        cases past with
        | nil =>
            rw [List.nil_append, List.cons.injEq] at split
            rw [run_nil, Option.some.injEq] at reached
            rw [split.1, reached]
            exact Or.inl listed
        | cons earlier past =>
            rw [List.cons_append, List.cons.injEq] at split
            rcases run_cons_eq_some.mp reached with ⟨next, taken, arrived⟩
            rw [← split.1] at taken
            rw [taken, Option.map_some, Option.getD_some]
            exact Or.inr (inductionHypothesis.mpr
              ⟨past, label, later, state, split.2, arrived, listed⟩)

end Emitted

end Library
end QomicexConnector
