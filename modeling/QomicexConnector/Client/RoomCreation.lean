import QomicexConnector.Center.OpenRoom
import QomicexConnector.Easytier.Manager

namespace QomicexConnector
namespace Client

open Library Center Easytier

/-!
# Creating a room

One call of `create_room`: a new center, its `start`, and the managed list of the client.
`start` spawns the task of its server before it starts EasyTier, so the task runs on
whatever EasyTier comes to.  When `start` fails the center is dropped, and only what was
spawned or created outside it remains.  Nothing undoes it, unlike in `join_room`, which
leaves a room it could not join.

The center is that of `Center.ScaffoldingCenter` and EasyTier that of `Easytier.Manager`.
-/

/-- What a room is created with besides the configuration of its center. -/
structure RoomSetup where
  networkName : String
  networkSecret : String
  relayNodes : List String
  elevated : Bool
  bindIp : Option String

/-- The network configuration that `start` passes to EasyTier. -/
def RoomSetup.networkConfig (room : RoomSetup) (config : CenterConfig) (tcpPort : Nat) :
    NetworkConfig :=
  { NetworkConfig.default with
    networkName := room.networkName
    networkSecret := room.networkSecret
    hostname := s!"scaffolding-mc-server-{tcpPort}"
    noTun := !room.elevated
    ipv4 := some "10.144.144.1"
    dhcp := false
    tcpWhitelist := [toString tcpPort, toString config.minecraftPort]
    relayNodes := some room.relayNodes
    bindIp := room.bindIp }

/-- The state of a call; `managed` tells whether the center is on the managed list. -/
structure RoomCreation where
  center : ScaffoldingCenter
  easyTier : EasyTierManager
  managed : Bool

/-- `create_room` has made the center and calls `start`. -/
def RoomCreation.new (pingHook : Bool) (ct : CtId) : RoomCreation where
  center := { ScaffoldingCenter.new with
    pingHook := pingHook
    starts := [⟨ct, .scanning⟩] }
  easyTier := EasyTierManager.new
  managed := false

/-- The steps of the call, of the tasks of its center and of the world around it. -/
inductive CreationStep where
  | scan (port : Nat)
  | readHook
  | storeServer
  | spawnTask
  | startEasyTier (outcome : StartOutcome)
  | enlist
  | push
  | task (t : TaskId) (step : TaskStep)
  | cancel (ct : CtId)
  | registry (id : ServerId) (op : RegistryOp)
  | players (update : PlayerUpdate)
  | observe (id : InstanceId) (inst : Instance)

namespace RoomCreation

/-- Where the call of `start` stands. -/
def phase (creation : RoomCreation) : Option StartPhase :=
  (creation.center.starts[0]?).map StartCall.phase

/-- `create_room` has returned an error. -/
def Failed (creation : RoomCreation) : Prop :=
  ∃ error, creation.phase = some (.returned (.error error))

instance (creation : RoomCreation) : Decidable creation.Failed :=
  match found : creation.phase with
  | some (.returned (.error error)) => isTrue ⟨error, found⟩
  | some (.returned (.ok _)) | some .scanning | some (.building _ _) | some (.ready _ _)
  | some (.stored _) | some (.spawned _ _) | some (.enlisting _ _ _) | none =>
      isFalse (by rintro ⟨_, failed⟩; cases found.symm.trans failed)

/-- `start` has returned `Ok`. -/
def Started (creation : RoomCreation) : Prop :=
  ∃ served, creation.phase = some (.returned (.ok served))

end RoomCreation

section Steps

variable {Inet Uri Addr : Type} (parsers : AddressParsers Inet Uri Addr) (room : RoomSetup)
  (config : CenterConfig)

/-- A step of the center that leaves the rest alone. -/
def RoomCreation.act (creation : RoomCreation) (action : CenterAction) : Option RoomCreation :=
  (centerStep config creation.center action).map fun next => { creation with center := next }

/-- How a call of EasyTier's `start` continues that of the center. -/
def afterEasyTier (started : Except ScaffoldingError Unit × EasyTierManager) : StartStep :=
  match started.1 with
  | .ok _ => .easyTierStarted started.2.nodeId
  | .error error => .easyTierFailed error

/-- The configuration with which the call starts EasyTier. -/
def RoomCreation.networkConfig (creation : RoomCreation) : NetworkConfig :=
  room.networkConfig config creation.center.tcpPort

def creationStep (creation : RoomCreation) : CreationStep → Option RoomCreation
  | .scan port => creation.act config (.startStep 0 (.scan port))
  | .readHook => creation.act config (.startStep 0 .readHook)
  | .storeServer => creation.act config (.startStep 0 .storeServer)
  | .spawnTask => creation.act config (.startStep 0 .spawnTask)
  | .startEasyTier outcome =>
      let started := creation.easyTier.start parsers (creation.networkConfig room config) outcome
      (creation.act config (.startStep 0 (afterEasyTier started))).map fun next =>
        { next with easyTier := started.2 }
  | .enlist => creation.act config (.startStep 0 .enlist)
  | .push =>
      match creation.phase with
      | some (.returned (.ok _)) =>
          if creation.managed then none else some { creation with managed := true }
      | _ => none
  | .task t step => creation.act config (.task t step)
  | .cancel ct => creation.act config (.cancel ct)
  | .registry id op => creation.act config (.registry id op)
  | .players update => creation.act config (.players update)
  | .observe id inst => some { creation with easyTier := creation.easyTier.observe id inst }

/-! ## A failed call leaves nothing behind -/

/-- If the call has returned an error then no server that it built listens, no network
instance is present and the managed list is as it was. -/
def RoomCreation.CleanFailure (creation : RoomCreation) : Prop :=
  creation.Failed →
    (∀ p server, creation.center.serverAt p = some server → server.listening = false) ∧
      (∀ id, creation.easyTier.instances.lookup id = none) ∧ creation.managed = false

/-- An instance that EasyTier creates becomes ready in time, where it creates none no task
is in its accept loop, and no task binds its port once the call has failed. -/
def FailsInTime (creation : RoomCreation) : CreationStep → Prop
  | .startEasyTier outcome =>
      match creation.easyTier.creates parsers (creation.networkConfig room config) outcome with
      | some _ => outcome.inTime = true
      | none => ∀ task ∈ creation.center.tasks, task.phase.accepts = false
  | .task _ .bound => ¬ creation.Failed
  | _ => True

end Steps

/-! ## What a step can do -/

/-- No server listens exactly if no task is in its accept loop. -/
theorem silent_iff {center : ScaffoldingCenter} (flagged : center.Flagged) :
    (∀ p server, center.serverAt p = some server → server.listening = false) ↔
      ∀ task ∈ center.tasks, task.phase.accepts = false := by
  constructor
  · intro silent task listed
    rcases List.mem_iff_getElem?.mp listed with ⟨t, found⟩
    have own := flagged.tasks t task found
    cases phase : task.phase with
    | accepting server =>
        rw [phase] at own
        have listening : server.listening = true := own
        have present : center.serverAt (some t) = some server := by
          rw [ScaffoldingCenter.serverAt, found, Option.bind_some, phase]
          rfl
        rw [silent _ server present] at listening
        cases listening
    | _ => rfl
  · intro quiet p server found
    by_contra listens
    rcases flagged.accepting found (eq_true_of_ne_false listens) with
      ⟨t, task, _, listed, accepting⟩
    have accepts := quiet task (List.mem_of_getElem? listed)
    rw [accepting] at accepts
    cases accepts

/-- Only binding a port brings a task into its accept loop. -/
theorem quiet_task {center next : ScaffoldingCenter} {t : TaskId} {task : ServerTask}
    {step : TaskStep} (move : TaskMove center t task step next) (notBound : step ≠ .bound)
    (quiet : ∀ other ∈ center.tasks, other.phase.accepts = false) :
    ∀ other ∈ next.tasks, other.phase.accepts = false := by
  intro other listed
  cases move with
  | bound phase idle => exact absurd rfl notBound
  | take phase =>
      rcases List.mem_or_eq_of_mem_set listed with old | rfl
      · exact quiet other old
      · cases cell : center.cell <;> rfl
  | bindFailed phase _ | refused phase _ | stopped phase _ | putBack phase =>
      rcases List.mem_or_eq_of_mem_set listed with old | rfl
      · exact quiet other old
      · rfl

/-- No task has been spawned yet. -/
def unspawned : StartPhase → Bool
  | .scanning | .building _ _ | .ready _ _ | .stored _ => true
  | _ => false

/-- EasyTier has not been started yet. -/
def beforeEasyTier : StartPhase → Bool
  | .spawned _ _ => true
  | phase => unspawned phase

/-- What is there at each point of the call. -/
structure Account (creation : RoomCreation) : Prop where
  flagged : creation.center.Flagged
  managed : creation.managed = true → creation.Started
  unspawned : ∀ phase, creation.phase = some phase → unspawned phase = true →
    creation.center.tasks = []
  fresh : ∀ phase, creation.phase = some phase → beforeEasyTier phase = true →
    ∀ id, creation.easyTier.instances.lookup id = none

theorem account_new (pingHook : Bool) (ct : CtId) : Account (RoomCreation.new pingHook ct) where
  flagged := ⟨fun _ found => (by cases found), fun _ _ listed => (by cases listed)⟩
  managed isManaged := by cases isManaged
  unspawned _ _ _ := rfl
  fresh _ _ _ _ := rfl

section Moves

variable {Inet Uri Addr : Type} {parsers : AddressParsers Inet Uri Addr} {room : RoomSetup}
  {config : CenterConfig} {creation next : RoomCreation}

theorem act_eq_some {action : CenterAction} (taken : creation.act config action = some next) :
    ∃ center, centerStep config creation.center action = some center ∧
      next = { creation with center := center } := by
  rcases Option.map_eq_some_iff.mp taken with ⟨center, stepped, same⟩
  exact ⟨center, stepped, same.symm⟩

/-- A step of the call of `start`. -/
theorem act_start {step : StartStep} (taken : creation.act config (.startStep 0 step) = some next) :
    ∃ call center, creation.center.starts[0]? = some call ∧
      StartMove config creation.center 0 call step center ∧
      next = { creation with center := center } := by
  rcases act_eq_some taken with ⟨center, stepped, rfl⟩
  cases centerStep_eq_some stepped with
  | startStep listed move => exact ⟨_, center, listed, move, rfl⟩

/-- A step of a task. -/
theorem act_task {t : TaskId} {step : TaskStep}
    (taken : creation.act config (.task t step) = some next) :
    ∃ task center, creation.center.tasks[t]? = some task ∧
      TaskMove creation.center t task step center ∧ next = { creation with center := center } := by
  rcases act_eq_some taken with ⟨center, stepped, rfl⟩
  cases centerStep_eq_some stepped with
  | task listed move => exact ⟨_, center, listed, move, rfl⟩

theorem phase_of_listed {call : StartCall} (listed : creation.center.starts[0]? = some call) :
    creation.phase = some call.phase := by
  rw [RoomCreation.phase, listed, Option.map_some]

/-- The phase of the call after it has moved. -/
theorem phase_of_moved {call : StartCall} {phase : StartPhase}
    (listed : creation.center.starts[0]? = some call)
    (starts : next.center.starts = creation.center.starts.set 0 { call with phase := phase }) :
    next.phase = some phase := by
  rw [RoomCreation.phase, starts, getElem?_set_listed listed, if_pos rfl, Option.map_some]

/-- What a step of the call of `start` leaves as it was as long as the call is young. -/
theorem startMove_phases {center after : ScaffoldingCenter} {call : StartCall} {step : StartStep}
    (move : StartMove config center 0 call step after) :
    ∃ phase, after.starts = center.starts.set 0 { call with phase := phase } ∧
      (unspawned phase = true → unspawned call.phase = true ∧ after.tasks = center.tasks) ∧
      (beforeEasyTier phase = true → beforeEasyTier call.phase = true) := by
  cases move with
  | scanned phase _ | readHook phase | storeServer phase =>
      exact ⟨_, rfl, fun _ => ⟨by rw [phase]; rfl, rfl⟩, fun _ => by rw [phase]; rfl⟩
  | spawnTask phase => exact ⟨_, rfl, fun young => (by cases young), fun _ => by rw [phase]; rfl⟩
  | rejected _ _ | easyTierStarted _ _ | easyTierFailed _ _ | enlist _ =>
      exact ⟨_, rfl, fun young => (by cases young), fun young => (by cases young)⟩

/-- What happens beside the call and the tasks leaves both alone. -/
theorem centerStep_aside {center after : ScaffoldingCenter} {action : CenterAction}
    (stepped : centerStep config center action = some after)
    (aside : (∃ ct, action = .cancel ct) ∨ (∃ id op, action = .registry id op) ∨
      ∃ update, action = .players update) :
    after.starts = center.starts ∧ after.tasks = center.tasks := by
  rcases aside with ⟨ct, rfl⟩ | ⟨id, op, rfl⟩ | ⟨update, rfl⟩
  all_goals cases centerStep_eq_some stepped
  all_goals exact ⟨rfl, rfl⟩

/-- How the call goes on from EasyTier. -/
theorem startMove_afterEasyTier {center after : ScaffoldingCenter} {call : StartCall}
    {started : Except ScaffoldingError Unit × EasyTierManager}
    (move : StartMove config center 0 call (afterEasyTier started) after) :
    ∃ phase, after.starts = center.starts.set 0 { call with phase := phase } ∧
      beforeEasyTier phase = false ∧ beforeEasyTier call.phase = true ∧
      after.tasks = center.tasks ∧
      ((∃ error, phase = .returned (.error error)) ↔ ∃ error, started.1 = .error error) := by
  rcases started with ⟨_ | _, manager⟩
  · cases move with
    | easyTierFailed phase error =>
        exact ⟨_, rfl, rfl, by rw [phase]; rfl, rfl, fun _ => ⟨_, rfl⟩, fun _ => ⟨_, rfl⟩⟩
  · cases move with
    | easyTierStarted phase nodeId =>
        refine ⟨_, rfl, rfl, by rw [phase]; rfl, rfl, ?_, ?_⟩
        · rintro ⟨_, same⟩
          cases same
        · rintro ⟨_, same⟩
          cases same

/-- A call that still steps has not been started, and its center is not managed. -/
theorem Account.unmanaged (account : Account creation) {call : StartCall}
    (listed : creation.center.starts[0]? = some call) (running : call.phase.isReturned = false) :
    creation.managed = false := by
  by_contra isManaged
  rcases account.managed (eq_true_of_ne_false isManaged) with ⟨served, started⟩
  rw [phase_of_listed listed, Option.some.injEq] at started
  rw [started] at running
  cases running

theorem Account.start {step : StartStep} {call : StartCall} {center : ScaffoldingCenter}
    (account : Account creation) (listed : creation.center.starts[0]? = some call)
    (move : StartMove config creation.center 0 call step center) {easyTier : EasyTierManager}
    (same : easyTier = creation.easyTier ∨
      ∀ after ∈ center.starts[0]?, beforeEasyTier after.phase = false) :
    Account { creation with center := center, easyTier := easyTier } := by
  rcases startMove_phases move with ⟨phase, starts, young, early⟩
  have moved : RoomCreation.phase { creation with center := center, easyTier := easyTier } =
      some phase := phase_of_moved listed starts
  have earlier := phase_of_listed listed
  refine ⟨account.flagged.start move, ?_, ?_, ?_⟩
  · intro isManaged
    have unmanaged := account.unmanaged listed move.running
    rw [show creation.managed = true from isManaged] at unmanaged
    cases unmanaged
  · intro other found isYoung
    rw [moved, Option.some.injEq] at found
    subst found
    exact (young isYoung).2.trans (account.unspawned _ earlier (young isYoung).1)
  · intro other found isEarly
    rw [moved, Option.some.injEq] at found
    subst found
    rcases same with rfl | late
    · exact account.fresh _ earlier (early isEarly)
    · rcases Option.map_eq_some_iff.mp moved with ⟨after, isAfter, rfl⟩
      rw [late after isAfter] at isEarly
      cases isEarly

/-- Steps that leave the call where it is and the instances alone. -/
theorem Account.of_same (account : Account creation) {center : ScaffoldingCenter}
    (flagged : center.Flagged) (starts : center.starts = creation.center.starts)
    (tasks : creation.center.tasks = [] → center.tasks = []) :
    Account { creation with center := center } := by
  have same : RoomCreation.phase { creation with center := center } = creation.phase :=
    congrArg (fun starts : List StartCall => (starts[0]?).map StartCall.phase) starts
  refine ⟨flagged, ?_, ?_, ?_⟩
  · intro isManaged
    rw [RoomCreation.Started, same]
    exact account.managed isManaged
  · intro phase found young
    exact tasks (account.unspawned phase (same.symm.trans found) young)
  · intro phase found early
    exact account.fresh phase (same.symm.trans found) early

theorem Account.aside {action : CenterAction} (account : Account creation)
    (taken : creation.act config action = some next)
    (aside : (∃ ct, action = .cancel ct) ∨ (∃ id op, action = .registry id op) ∨
      ∃ update, action = .players update) : Account next := by
  rcases act_eq_some taken with ⟨center, stepped, rfl⟩
  rcases centerStep_aside stepped aside with ⟨starts, tasks⟩
  apply account.of_same (account.flagged.step stepped) starts
  intro empty
  exact tasks.trans empty

theorem Account.step {action : CreationStep} (account : Account creation)
    (taken : creationStep parsers room config creation action = some next) : Account next := by
  cases action with
  | scan port | readHook | storeServer | spawnTask | enlist =>
      rcases act_start taken with ⟨call, center, listed, move, rfl⟩
      exact account.start listed move (Or.inl rfl)
  | startEasyTier outcome =>
      rcases Option.map_eq_some_iff.mp taken with ⟨middle, acted, rfl⟩
      rcases act_start acted with ⟨call, center, listed, move, rfl⟩
      refine account.start listed move (Or.inr ?_)
      intro after isAfter
      rcases startMove_afterEasyTier move with ⟨_, starts, late, _⟩
      rw [starts, getElem?_set_listed listed, if_pos rfl] at isAfter
      cases isAfter
      exact late
  | push =>
      rw [creationStep] at taken
      split at taken
      · next served phase =>
          split at taken <;> cases taken
          exact ⟨account.flagged, fun _ => ⟨served, phase⟩, account.unspawned, account.fresh⟩
      · cases taken
  | task t step =>
      rcases act_task taken with ⟨task, center, listed, move, rfl⟩
      apply account.of_same (account.flagged.task listed move) move.calls.1
      intro empty
      rw [empty] at listed
      cases listed
  | cancel ct => exact account.aside taken (Or.inl ⟨ct, rfl⟩)
  | registry id op => exact account.aside taken (Or.inr (Or.inl ⟨id, op, rfl⟩))
  | players update => exact account.aside taken (Or.inr (Or.inr ⟨update, rfl⟩))
  | observe id inst =>
      cases taken
      refine ⟨account.flagged, account.managed, account.unspawned, ?_⟩
      intro phase found early
      have empty := account.fresh phase found early
      rw [EasyTierManager.observe_of_empty empty]
      exact empty

/-- What is left behind, by the tasks instead of the servers. -/
theorem Account.cleanFailure_iff (account : Account creation) :
    creation.CleanFailure ↔ (creation.Failed →
      (∀ task ∈ creation.center.tasks, task.phase.accepts = false) ∧
        (∀ id, creation.easyTier.instances.lookup id = none) ∧ creation.managed = false) := by
  rw [RoomCreation.CleanFailure, silent_iff account.flagged]

/-- The steps that leave the call where it is, the accept loops and EasyTier alone. -/
theorem clean_of_same (account : Account next) (clean : creation.CleanFailure)
    (before : Account creation) (starts : next.center.starts = creation.center.starts)
    (tasks : (∀ task ∈ creation.center.tasks, task.phase.accepts = false) →
      creation.Failed → ∀ task ∈ next.center.tasks, task.phase.accepts = false)
    (easyTier : (∀ id, creation.easyTier.instances.lookup id = none) →
      ∀ id, next.easyTier.instances.lookup id = none)
    (managed : next.managed = creation.managed) : next.CleanFailure := by
  apply account.cleanFailure_iff.mpr
  intro failed
  have failedBefore : creation.Failed := by
    rw [RoomCreation.Failed, RoomCreation.phase, starts] at failed
    exact failed
  have ⟨quiet, empty, unmanaged⟩ := before.cleanFailure_iff.mp clean failedBefore
  exact ⟨tasks quiet failedBefore, easyTier empty, managed.trans unmanaged⟩

theorem clean_aside {action : CenterAction} (account : Account creation)
    (clean : creation.CleanFailure) (taken : creation.act config action = some next)
    (aside : (∃ ct, action = .cancel ct) ∨ (∃ id op, action = .registry id op) ∨
      ∃ update, action = .players update) : next.CleanFailure := by
  have accountNext := account.aside taken aside
  rcases act_eq_some taken with ⟨center, stepped, rfl⟩
  rcases centerStep_aside stepped aside with ⟨starts, tasks⟩
  refine clean_of_same accountNext clean account starts ?_ id rfl
  intro quiet _ task listed
  exact quiet task (tasks ▸ listed)

/-- The key check fails before anything is spawned. -/
theorem clean_scan {port : Nat} (account : Account creation) (accountNext : Account next)
    (taken : creation.act config (.startStep 0 (.scan port)) = some next) :
    next.CleanFailure := by
  rcases act_start taken with ⟨call, center, listed, move, rfl⟩
  have earlier := phase_of_listed listed
  apply accountNext.cleanFailure_iff.mpr
  rintro ⟨error, failed⟩
  cases move with
  | rejected phase duplicate =>
      rw [phase] at earlier
      have empty := account.unspawned _ earlier rfl
      refine ⟨?_, account.fresh _ earlier rfl, account.unmanaged listed (by rw [phase]; rfl)⟩
      intro task member
      have none : task ∈ creation.center.tasks := member
      rw [empty] at none
      cases none
  | scanned phase accepted =>
      rw [phase_of_moved listed rfl] at failed
      cases failed

/-- EasyTier fails in order: it has created no instance, and no task accepts. -/
theorem clean_startEasyTier {outcome : StartOutcome} (account : Account creation)
    (accountNext : Account next)
    (orderly : FailsInTime parsers room config creation (.startEasyTier outcome))
    (taken : creationStep parsers room config creation (.startEasyTier outcome) = some next) :
    next.CleanFailure := by
  rcases Option.map_eq_some_iff.mp taken with ⟨middle, acted, rfl⟩
  rcases act_start acted with ⟨call, center, listed, move, rfl⟩
  apply accountNext.cleanFailure_iff.mpr
  rintro ⟨error, failed⟩
  rcases startMove_afterEasyTier move with ⟨phase, starts, _, early, tasks, fails⟩
  rw [phase_of_moved listed starts, Option.some.injEq] at failed
  rcases fails.mp ⟨error, failed⟩ with ⟨easyTierError, refused⟩
  rw [FailsInTime] at orderly
  split at orderly
  · next created createdIs =>
      rw [EasyTierManager.start_of_creates createdIs, if_pos orderly] at refused
      cases refused
  · next nothing =>
      rcases EasyTierManager.start_of_creates_none nothing with ⟨_, instances⟩
      refine ⟨?_, ?_, account.unmanaged listed move.running⟩
      · intro task member
        exact orderly task (tasks ▸ member)
      · intro id
        rw [instances]
        exact account.fresh _ (phase_of_listed listed) early id

theorem clean_step {action : CreationStep} (account : Account creation)
    (clean : creation.CleanFailure) (orderly : FailsInTime parsers room config creation action)
    (taken : creationStep parsers room config creation action = some next) :
    next.CleanFailure := by
  have accountNext := account.step taken
  cases action with
  | scan port => exact clean_scan account accountNext taken
  | readHook | storeServer | spawnTask | enlist =>
      rcases act_start taken with ⟨call, center, listed, move, rfl⟩
      rintro ⟨error, failed⟩
      cases move
      rw [phase_of_moved listed rfl] at failed
      cases failed
  | startEasyTier outcome => exact clean_startEasyTier account accountNext orderly taken
  | push =>
      rw [creationStep] at taken
      split at taken
      · next served phase =>
          split at taken <;> cases taken
          rintro ⟨error, failed⟩
          cases phase.symm.trans failed
      · cases taken
  | task t step =>
      rcases act_task taken with ⟨task, center, listed, move, rfl⟩
      refine clean_of_same accountNext clean account move.calls.1 ?_ id rfl
      intro quiet failed
      refine quiet_task move ?_ quiet
      rintro rfl
      exact orderly failed
  | cancel ct => exact clean_aside account clean taken (Or.inl ⟨ct, rfl⟩)
  | registry id op => exact clean_aside account clean taken (Or.inr (Or.inl ⟨id, op, rfl⟩))
  | players update => exact clean_aside account clean taken (Or.inr (Or.inr ⟨update, rfl⟩))
  | observe id inst =>
      cases taken
      refine clean_of_same accountNext clean account rfl (fun quiet _ => quiet) ?_ rfl
      intro empty
      rw [EasyTierManager.observe_of_empty empty]
      exact empty

/-- A start of EasyTier after which a failed call has left nothing behind was in order. -/
theorem inTime_of_clean {outcome : StartOutcome} (accountNext : Account next)
    (taken : creationStep parsers room config creation (.startEasyTier outcome) = some next)
    (clean : next.CleanFailure) :
    FailsInTime parsers room config creation (.startEasyTier outcome) := by
  have cleanly := accountNext.cleanFailure_iff.mp clean
  rcases Option.map_eq_some_iff.mp taken with ⟨middle, acted, rfl⟩
  rcases act_start acted with ⟨call, center, listed, move, rfl⟩
  rcases startMove_afterEasyTier move with ⟨phase, starts, _, _, tasks, fails⟩
  have failed (refused : ∃ error, (creation.easyTier.start parsers
      (creation.networkConfig room config) outcome).1 = .error error) :
      RoomCreation.Failed { creation with center := center, easyTier :=
        (creation.easyTier.start parsers (creation.networkConfig room config) outcome).2 } := by
    rcases fails.mpr refused with ⟨error, same⟩
    exact ⟨error, (phase_of_moved listed starts).trans (congrArg some same)⟩
  rw [FailsInTime]
  split
  · next created createdIs =>
      have started := EasyTierManager.start_of_creates createdIs
      by_contra late
      rw [if_neg late] at started
      have gone := (cleanly (failed ⟨_, congrArg Prod.fst started⟩)).2.1 created.1
      change (creation.easyTier.start parsers _ outcome).2.instances.lookup created.1 = none at gone
      rw [started] at gone
      change (creation.easyTier.instances.insert created.1 created.2).lookup created.1 = none at gone
      rw [AList.lookup_insert] at gone
      cases gone
  · next nothing =>
      rcases EasyTierManager.start_of_creates_none nothing with ⟨refused, _⟩
      intro task member
      exact (cleanly (failed refused)).1 task (tasks.symm ▸ member)

/-- No task comes into its accept loop where a failed call leaves nothing behind. -/
theorem unbound_of_clean {t : TaskId} (accountNext : Account next)
    (taken : creation.act config (.task t .bound) = some next) (clean : next.CleanFailure) :
    ¬ creation.Failed := by
  rcases act_task taken with ⟨task, center, listed, move, rfl⟩
  intro failed
  have failedNext : RoomCreation.Failed { creation with center := center } := by
    rw [RoomCreation.Failed, RoomCreation.phase, move.calls.1]
    exact failed
  have quiet := (accountNext.cleanFailure_iff.mp clean failedNext).1
  cases move with
  | bound phase idle =>
      have inside := (List.getElem?_eq_some_iff.mp listed).1
      cases quiet _ (List.mem_set inside _)

/-- A step after which a failed call has left nothing behind was in order. -/
theorem failsInTime_of_clean {action : CreationStep} (account : Account creation)
    (taken : creationStep parsers room config creation action = some next)
    (clean : next.CleanFailure) : FailsInTime parsers room config creation action := by
  have accountNext := account.step taken
  cases action with
  | startEasyTier outcome => exact inTime_of_clean accountNext taken clean
  | task t step =>
      cases step with
      | bound => exact unbound_of_clean accountNext taken clean
      | _ => trivial
  | _ => trivial

end Moves

/-! ## Every call -/

section Runs

variable {Inet Uri Addr : Type} {parsers : AddressParsers Inet Uri Addr} {room : RoomSetup}
  {config : CenterConfig} {pingHook : Bool} {ct : CtId}

theorem account_run {actions : List CreationStep} {creation : RoomCreation}
    (reached : run (creationStep parsers room config) (RoomCreation.new pingHook ct) actions =
      some creation) : Account creation :=
  reachable_invariant (account_new pingHook ct) (fun _ _ _ account taken => account.step taken)
    reached

/-- A failing `create_room` leaves nothing behind exactly if EasyTier fails before it has
created an instance, no task is in its accept loop then, and none comes into it later. -/
theorem failed_creation_clean_iff {actions : List CreationStep} {final : RoomCreation}
    (reached : run (creationStep parsers room config) (RoomCreation.new pingHook ct) actions =
      some final) :
    EveryState (creationStep parsers room config) (RoomCreation.new pingHook ct)
        RoomCreation.CleanFailure actions ↔
      EveryStep (creationStep parsers room config) (RoomCreation.new pingHook ct)
        (fun _ => FailsInTime parsers room config) actions := by
  constructor
  · intro clean past action later creation split arrived
    rw [split, run_append_eq_some] at reached
    rcases reached with ⟨middle, earlier, rest⟩
    cases arrived.symm.trans earlier
    rcases run_cons_eq_some.mp rest with ⟨next, taken, _⟩
    refine failsInTime_of_clean (account_run arrived) taken ?_
    refine clean (past ++ [action]) later next (by rw [split, List.append_assoc]; rfl) ?_
    exact run_concat_eq_some.mpr ⟨creation, arrived, taken⟩
  · intro orderly past later creation split arrived
    rw [split] at orderly
    refine run_invariant (fun _ => RoomCreation.CleanFailure) ?_ ?_ orderly.before arrived
    · rintro ⟨error, failed⟩
      cases failed
    · intro earlier state action next reachedState clean inTime taken
      exact clean_step (account_run reachedState) clean inTime taken

end Runs

/-- Parsers that take every text with a `://` for a URI, and any text for an address. -/
def sampleParsers : AddressParsers String String String :=
  ⟨some, fun uri => (splitOnce "://" uri).map fun _ => uri, some⟩

/-- A call of `create_room` with these relay nodes. -/
def sampleStep (relayNodes : List String) : RoomCreation → CreationStep → Option RoomCreation :=
  creationStep sampleParsers ⟨"room", "secret", relayNodes, false, none⟩ sampleCenter

/-- The call as far as the task of its server has come to bind its port, and EasyTier. -/
def sampleSteps (binding : TaskStep) (outcome : StartOutcome) : List CreationStep :=
  [.scan 1025, .readHook, .storeServer, .spawnTask, .task 0 .take, .task 0 binding,
    .startEasyTier outcome]

def sampleFailure (relayNodes : List String) (binding : TaskStep) (outcome : StartOutcome) :
    RoomCreation :=
  (run (sampleStep relayNodes) (RoomCreation.new false 0) (sampleSteps binding outcome)).getD
    (RoomCreation.new false 0)

/-- The port is taken, and EasyTier finds no route. -/
theorem failed_creation_clean_iff_sample :
    (sampleFailure [] .bindFailed ⟨.error "no route", false⟩).Failed ∧
      (EveryState (sampleStep []) (RoomCreation.new false 0) RoomCreation.CleanFailure
          (sampleSteps .bindFailed ⟨.error "no route", false⟩) ↔
        EveryStep (sampleStep []) (RoomCreation.new false 0)
          (fun _ => FailsInTime sampleParsers ⟨"room", "secret", [], false, none⟩ sampleCenter)
          (sampleSteps .bindFailed ⟨.error "no route", false⟩)) := by
  have reached : run (sampleStep []) (RoomCreation.new false 0)
      (sampleSteps .bindFailed ⟨.error "no route", false⟩) = some _ :=
    run_eq_getD (by decide +kernel)
  exact ⟨by decide +kernel, failed_creation_clean_iff reached⟩

/-- A new instance that does not become ready in time. -/
def sampleTimeout : StartOutcome := ⟨.ok (7, ⟨false, "1", none⟩), false⟩

/-- A failing `create_room` may leave its server in the accept loop: after a timeout, with
the network instance beside it, and after a relay node that is no URI. -/
theorem failed_creation_leaves_server :
    (run (sampleStep []) (RoomCreation.new false 0) (sampleSteps .bound sampleTimeout) =
        some (sampleFailure [] .bound sampleTimeout) ∧
      (sampleFailure [] .bound sampleTimeout).Failed ∧
      (sampleFailure [] .bound sampleTimeout).center.serverAt (some 0) =
        some ⟨0, true, 1025, some 0⟩ ∧
      ((sampleFailure [] .bound sampleTimeout).easyTier.instances.lookup 7).isSome = true ∧
      ¬ (sampleFailure [] .bound sampleTimeout).CleanFailure) ∧
    run (sampleStep ["relay"]) (RoomCreation.new false 0) (sampleSteps .bound sampleTimeout) =
        some (sampleFailure ["relay"] .bound sampleTimeout) ∧
      (sampleFailure ["relay"] .bound sampleTimeout).Failed ∧
      (sampleFailure ["relay"] .bound sampleTimeout).center.serverAt (some 0) =
        some ⟨0, true, 1025, some 0⟩ ∧
      ¬ (sampleFailure ["relay"] .bound sampleTimeout).CleanFailure := by
  have listens {creation : RoomCreation} (failed : creation.Failed)
      (present : creation.center.serverAt (some 0) = some ⟨0, true, 1025, some 0⟩) :
      ¬ creation.CleanFailure := by
    intro clean
    cases (clean failed).1 _ _ present
  have late : (sampleFailure [] .bound sampleTimeout).Failed := by decide +kernel
  have lateServer : (sampleFailure [] .bound sampleTimeout).center.serverAt (some 0) =
      some ⟨0, true, 1025, some 0⟩ := by decide +kernel
  have refused : (sampleFailure ["relay"] .bound sampleTimeout).Failed := by decide +kernel
  have refusedServer : (sampleFailure ["relay"] .bound sampleTimeout).center.serverAt (some 0) =
      some ⟨0, true, 1025, some 0⟩ := by decide +kernel
  exact ⟨⟨run_eq_getD (by decide +kernel), late, lateServer, by decide +kernel,
    listens late lateServer⟩, run_eq_getD (by decide +kernel), refused, refusedServer,
    listens refused refusedServer⟩

end Client
end QomicexConnector
