import Mathlib.Data.Finset.Card
import QomicexConnector.Easytier.Manager
import QomicexConnector.Library.CallHistory

namespace QomicexConnector
namespace Easytier

open Library

/-!
# Instances that nobody deletes

A manager names one instance and `stop` deletes the instance that is named.  Beside the
manager stand here all instances that it has created and not passed to
`delete_network_instances`.  A `start` may create an instance while it still names another,
since it asks whether that one is ready and not whether it is there.
-/

/-- The calls of a manager.  `observe` is no call but a change in the state of an instance,
which may become ready late. -/
inductive ManagerCall where
  | start (config : NetworkConfig) (outcome : StartOutcome)
  | stop (deleted : Except String Unit)
  | observe (id : InstanceId) (inst : Instance)

structure InstanceLedger where
  manager : EasyTierManager
  undeleted : Finset InstanceId

def InstanceLedger.new : InstanceLedger := ⟨EasyTierManager.new, ∅⟩

section Calls

variable {Inet Uri Addr : Type} (parsers : AddressParsers Inet Uri Addr)

def ledgerCall (ledger : InstanceLedger) : ManagerCall →
    Except ScaffoldingError Unit × InstanceLedger
  | .start config outcome =>
      let started := ledger.manager.start parsers config outcome
      (started.1, {
        manager := started.2
        undeleted := match ledger.manager.creates parsers config outcome with
          | some (id, _) => insert id ledger.undeleted
          | none => ledger.undeleted })
  | .stop deleted =>
      let stopped := ledger.manager.stop deleted
      (stopped.1, {
        manager := stopped.2
        -- the instance has been passed to `delete_network_instances` whatever that returns
        undeleted := match ledger.manager.instanceId with
          | some id => ledger.undeleted.erase id
          | none => ledger.undeleted })
  | .observe id inst => (.ok (), { ledger with manager := ledger.manager.observe id inst })

/-- No instance is orphaned: the manager names each that it has not deleted. -/
structure NoOrphan (ledger : InstanceLedger) : Prop where
  named : ∀ id ∈ ledger.undeleted, ledger.manager.instanceId = some id
  atMostOne : ledger.undeleted.card ≤ 1
  stopDeletes : ∀ deleted, (ledgerCall parsers ledger (.stop deleted)).2.undeleted = ∅

/-- A `start` that creates an instance finds no other one named. -/
def ReplacesNone (ledger : InstanceLedger) : ManagerCall → Prop
  | .start config outcome => ∀ id inst, ledger.manager.creates parsers config outcome =
      some (id, inst) → ∀ other, ledger.manager.instanceId = some other → other = id
  | .stop _ | .observe _ _ => True

end Calls

/-- The named instance has not been deleted. -/
def InstanceLedger.NamesUndeleted (ledger : InstanceLedger) : Prop :=
  ∀ id, ledger.manager.instanceId = some id → id ∈ ledger.undeleted

section Ledger

variable {Inet Uri Addr : Type} {parsers : AddressParsers Inet Uri Addr}
  {ledger : InstanceLedger}

/-- It is enough that the undeleted instances are named. -/
theorem noOrphan_iff_named : NoOrphan parsers ledger ↔
    ∀ id ∈ ledger.undeleted, ledger.manager.instanceId = some id := by
  refine ⟨NoOrphan.named, fun named => ⟨named, ?_, ?_⟩⟩
  · rw [Finset.card_le_one]
    intro first firstListed second secondListed
    have same := (named first firstListed).symm.trans (named second secondListed)
    exact Option.some.inj same
  · intro deleted
    rw [Finset.eq_empty_iff_forall_notMem]
    intro id listed
    rw [ledgerCall] at listed
    dsimp only at listed
    cases current : ledger.manager.instanceId with
    | none =>
        rw [current] at listed
        cases current.symm.trans (named id listed)
    | some other =>
        rw [current] at listed
        have ⟨different, earlier⟩ := Finset.mem_erase.mp listed
        have same := current.symm.trans (named id earlier)
        exact different (Option.some.inj same).symm

theorem start_instanceId (manager : EasyTierManager) (config : NetworkConfig)
    (outcome : StartOutcome) : (manager.start parsers config outcome).2.instanceId =
      match manager.creates parsers config outcome with
      | some (id, _) => some id
      | none => manager.instanceId := by
  cases created : manager.creates parsers config outcome with
  | some pair =>
      rw [EasyTierManager.start_of_creates created]
      split <;> rfl
  | none =>
      rw [EasyTierManager.creates] at created
      rw [EasyTierManager.start]
      split
      · rfl
      · next idle =>
          rw [if_neg idle] at created
          cases built : buildTomlConfig parsers config with
          | error error => rfl
          | ok toml =>
              cases run : outcome.created with
              | error error => rfl
              | ok pair =>
                  rw [built, run] at created
                  cases created

theorem observe_instanceId (manager : EasyTierManager) (id : InstanceId) (inst : Instance) :
    (manager.observe id inst).instanceId = manager.instanceId := by
  rw [EasyTierManager.observe]
  split <;> rfl

theorem namesUndeleted_call (names : ledger.NamesUndeleted) (call : ManagerCall) :
    (ledgerCall parsers ledger call).2.NamesUndeleted := by
  cases call with
  | start config outcome =>
      intro id named
      rw [ledgerCall] at named ⊢
      dsimp only at named ⊢
      rw [start_instanceId] at named
      cases created : ledger.manager.creates parsers config outcome with
      | some pair =>
          rw [created] at named
          cases named
          exact Finset.mem_insert_self _ _
      | none =>
          rw [created] at named
          exact names id named
  | stop deleted =>
      intro id named
      cases named
  | observe other inst =>
      intro id named
      rw [ledgerCall] at named ⊢
      dsimp only at named ⊢
      rw [observe_instanceId] at named
      exact names id named

/-- A call keeps the instances named just if it replaces none. -/
theorem noOrphan_call_iff (names : ledger.NamesUndeleted) (noOrphan : NoOrphan parsers ledger)
    (call : ManagerCall) :
    NoOrphan parsers (ledgerCall parsers ledger call).2 ↔ ReplacesNone parsers ledger call := by
  have named := noOrphan.named
  rw [noOrphan_iff_named]
  cases call with
  | start config outcome =>
      rw [ledgerCall, ReplacesNone]
      dsimp only
      rw [start_instanceId]
      cases created : ledger.manager.creates parsers config outcome with
      | some pair =>
          rcases pair with ⟨id, inst⟩
          dsimp only
          constructor
          · intro next new _ same other current
            cases same
            have listed := next other (Finset.mem_insert_of_mem (names other current))
            exact (Option.some.inj listed).symm
          · intro replaces other listed
            rcases Finset.mem_insert.mp listed with rfl | earlier
            · rfl
            · rw [replaces id inst rfl other (named other earlier)]
      | none =>
          dsimp only
          constructor
          · intro _ id inst none
            cases none
          · intro _
            exact named
  | stop deleted =>
      rw [ReplacesNone, iff_true]
      intro id listed
      rw [noOrphan.stopDeletes deleted] at listed
      exact absurd listed (Finset.notMem_empty id)
  | observe other inst =>
      rw [ReplacesNone, iff_true, ledgerCall]
      dsimp only
      rw [observe_instanceId]
      exact named

variable (parsers) in
/-- Throughout a history of calls no instance is orphaned, just if no `start` creates an
instance while another one is named. -/
theorem noOrphan_iff_replacesNone (calls : List ManagerCall) :
    Throughout (ledgerCall parsers) (NoOrphan parsers) InstanceLedger.new calls ↔
      EveryCall (ledgerCall parsers) (ReplacesNone parsers) InstanceLedger.new calls := by
  have named : InstanceLedger.new.NamesUndeleted := by
    intro id current
    cases current
  have noOrphan : NoOrphan parsers InstanceLedger.new := by
    rw [noOrphan_iff_named]
    intro id listed
    exact absurd listed (Finset.notMem_empty id)
  refine throughout_iff_everyCall ?_ ?_ named noOrphan calls
  · intro ledger call names
    exact namesUndeleted_call names call
  · intro ledger call names before
    exact noOrphan_call_iff names before call

end Ledger

/-- Parsers that accept every text. -/
def textParsers : AddressParsers String String String := ⟨some, some, some⟩

/-- A call of `start` whose instance is not ready within 30 s. -/
def lateStart (id : InstanceId) : ManagerCall :=
  .start NetworkConfig.default ⟨.ok (id, ⟨false, "peer", none⟩), false⟩

/-- When the first `start` has timed out, the second creates another instance, and `stop`
deletes only that one. -/
theorem retried_start_orphans :
    let retried := afterCalls (ledgerCall textParsers) InstanceLedger.new [lateStart 1, lateStart 2]
    retried.manager.instanceId = some 2 ∧ 1 ∈ retried.undeleted ∧
      (ledgerCall textParsers retried (.stop (.ok ()))).2.undeleted = {1} := by
  decide +kernel

end Easytier
end QomicexConnector
