import Mathlib.Data.List.Basic

namespace QomicexConnector
namespace Library

universe u v w

/-!
# Objects that answer calls

An object is given by what a call answers in a state and the state it leaves.  A history
is a list of calls, made one after another.

Two states cannot be told apart by any history if some relation between states holds of
them that no call leaves and under which all calls answer alike.
-/

variable {State : Type u} {Call : Type v} {Answer : Type w}

/-- The state after a history. -/
def afterCalls (object : State → Call → Answer × State) (state : State) (calls : List Call) :
    State :=
  calls.foldl (fun current call => (object current call).2) state

/-- The answers in the order of the calls. -/
def answers (object : State → Call → Answer × State) : State → List Call → List Answer
  | _, [] => []
  | state, call :: later => (object state call).1 :: answers object (object state call).2 later

section Histories

variable {object : State → Call → Answer × State}

theorem afterCalls_concat (state : State) (calls : List Call) (call : Call) :
    afterCalls object state (calls ++ [call]) = (object (afterCalls object state calls) call).2 :=
  List.foldl_concat ..

/-- Every call of the history has an answer with the property. -/
def EveryAnswer (object : State → Call → Answer × State) (property : Answer → Prop)
    (state : State) (calls : List Call) : Prop :=
  ∀ answer ∈ answers object state calls, property answer

/-- The invariant rule.  A call has to keep the property only if it answers as the history
says. -/
theorem afterCalls_invariant {property : State → Prop} {expected : Answer → Prop}
    (keeps : ∀ state call, property state → expected (object state call).1 →
      property (object state call).2) {state : State} {calls : List Call}
    (every : EveryAnswer object expected state calls) (holds : property state) :
    property (afterCalls object state calls) := by
  induction calls generalizing state with
  | nil => exact holds
  | cons call later inductionHypothesis =>
      refine inductionHypothesis ?_ (keeps state call holds (every _ List.mem_cons_self))
      exact fun answer listed => every answer (List.mem_cons_of_mem _ listed)

/-- The invariant rule for a property that every call keeps. -/
theorem afterCalls_keeps {property : State → Prop}
    (keeps : ∀ state call, property state → property (object state call).2) {state : State}
    (holds : property state) (calls : List Call) : property (afterCalls object state calls) := by
  have every : EveryAnswer object (fun _ => True) state calls := fun _ _ => trivial
  exact afterCalls_invariant (fun state call before _ => keeps state call before) every holds

/-- The property holds at the start and after each call of the history. -/
def Throughout (object : State → Call → Answer × State) (property : State → Prop) (state : State)
    (calls : List Call) : Prop :=
  ∀ past later, calls = past ++ later → property (afterCalls object state past)

/-- Each call of the history meets the condition in the state in which it is made. -/
def EveryCall (object : State → Call → Answer × State) (condition : State → Call → Prop)
    (state : State) (calls : List Call) : Prop :=
  ∀ past call later, calls = past ++ call :: later → condition (afterCalls object state past) call

theorem throughout_cons {property : State → Prop} {state : State} {call : Call}
    {later : List Call} : Throughout object property state (call :: later) ↔
      property state ∧ Throughout object property (object state call).2 later := by
  constructor
  · intro every
    refine ⟨every [] _ rfl, fun past rest split => every (call :: past) rest ?_⟩
    rw [split, List.cons_append]
  · rintro ⟨first, every⟩ past rest split
    cases past with
    | nil => exact first
    | cons head past =>
        rw [List.cons_append, List.cons.injEq] at split
        rcases split with ⟨rfl, split⟩
        exact every past rest split

theorem everyCall_cons {condition : State → Call → Prop} {state : State} {call : Call}
    {later : List Call} : EveryCall object condition state (call :: later) ↔
      condition state call ∧ EveryCall object condition (object state call).2 later := by
  constructor
  · intro every
    refine ⟨every [] call later rfl, fun past other rest split => every (call :: past) other rest ?_⟩
    rw [split, List.cons_append]
  · rintro ⟨first, every⟩ past other rest split
    cases past with
    | nil =>
        rw [List.nil_append, List.cons.injEq] at split
        rcases split with ⟨rfl, _⟩
        exact first
    | cons head past =>
        rw [List.cons_append, List.cons.injEq] at split
        rcases split with ⟨rfl, split⟩
        exact every past other rest split

/-- The exact rule.  When a call keeps the property just if it meets the condition, the
property holds throughout a history just if each call meets it.  What holds always may be
used for both. -/
theorem throughout_iff_everyCall {property always : State → Prop}
    {condition : State → Call → Prop}
    (keeps : ∀ state call, always state → always (object state call).2)
    (decides : ∀ state call, always state → property state →
      (property (object state call).2 ↔ condition state call))
    {state : State} (starts : always state) (holds : property state) (calls : List Call) :
    Throughout object property state calls ↔ EveryCall object condition state calls := by
  induction calls generalizing state with
  | nil =>
      constructor
      · intro _ past call later split
        cases past <;> cases split
      · intro _ past later split
        rw [(List.nil_eq_append_iff.mp split).1]
        exact holds
  | cons call later inductionHypothesis =>
      rw [throughout_cons, everyCall_cons, and_iff_right holds]
      have here := decides state call starts holds
      constructor
      · intro every
        have next := every [] later rfl
        exact ⟨here.mp next, (inductionHypothesis (keeps state call starts) next).mp every⟩
      · rintro ⟨meets, every⟩
        have next := here.mpr meets
        exact (inductionHypothesis (keeps state call starts) next).mpr every

/-- A relation that calls respect: related states answer alike and stay related. -/
def Respects (object : State → Call → Answer × State) (related : State → State → Prop) : Prop :=
  ∀ first second call, related first second →
    (object first call).1 = (object second call).1 ∧
      related (object first call).2 (object second call).2

/-- Related states cannot be told apart. -/
theorem Respects.answers_eq {related : State → State → Prop} (respects : Respects object related)
    {first second : State} (start : related first second) (calls : List Call) :
    answers object first calls = answers object second calls := by
  induction calls generalizing first second with
  | nil => rfl
  | cons call later inductionHypothesis =>
      have ⟨same, next⟩ := respects first second call start
      rw [answers, answers, same, inductionHypothesis next]

end Histories

end Library
end QomicexConnector
