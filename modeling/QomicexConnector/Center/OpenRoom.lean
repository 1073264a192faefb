import QomicexConnector.Center.ScaffoldingCenter

namespace QomicexConnector
namespace Center

open Library

/-!
# The server of an open room

Calls of `start` and `close` are made one after another; the server tasks run on their
own.  When the latest `start` has returned `Ok` the room should have one listening
server, its own, on the port it advertises.

A server listens only in the accept loop of a task.  What can go wrong is all in the
tasks: an earlier one may put its stopped server into the cell before the new task takes
the new one out, the new task may fail to bind or not have come to it, its token may be
cancelled already, and an earlier task may still be in its accept loop.
-/

/-! ## Where servers are -/

/-- The server in the cell (`none`) or in the hands of a task. -/
def ScaffoldingCenter.serverAt (center : ScaffoldingCenter) : Option TaskId → Option TcpServer
  | none => center.cell
  | some t => (center.tasks[t]?).bind fun task => task.phase.held

/-- A server listens in an accept loop and nowhere else. -/
def TaskPhase.Flagged : TaskPhase → Prop
  | .accepting server => server.listening = true
  | phase => ∀ server, phase.held = some server → server.listening = false

/-- Servers listen in accept loops only. -/
structure ScaffoldingCenter.Flagged (center : ScaffoldingCenter) : Prop where
  cell : ∀ server, center.cell = some server → server.listening = false
  tasks : ∀ (t : TaskId) task, center.tasks[t]? = some task → task.phase.Flagged

namespace ScaffoldingCenter

variable {config : CenterConfig} {center next : ScaffoldingCenter}

theorem Flagged.of_moved (flagged : center.Flagged) {t : TaskId} {task : ServerTask}
    {phase : TaskPhase} (listed : center.tasks[t]? = some task)
    (tasks : next.tasks = center.tasks.set t { task with phase := phase })
    (own : phase.Flagged) (cell : ∀ server, next.cell = some server → server.listening = false) :
    next.Flagged := by
  refine ⟨cell, ?_⟩
  intro u other found
  rw [tasks, getElem?_set_listed listed] at found
  split at found
  · cases found
    exact own
  · exact flagged.tasks u other found

theorem Flagged.task (flagged : center.Flagged) {t : TaskId} {task : ServerTask} {step : TaskStep}
    (listed : center.tasks[t]? = some task) (move : TaskMove center t task step next) :
    next.Flagged := by
  have own := flagged.tasks t task listed
  have idle : ∀ server, (none : Option TcpServer) = some server → server.listening = false := by
    intro server found
    cases found
  cases move with
  | take phase =>
      refine flagged.of_moved listed rfl ?_ idle
      cases found : center.cell with
      | none => exact idle
      | some server =>
          intro other held
          cases held
          exact flagged.cell server found
  | bound phase _ => exact flagged.of_moved listed rfl rfl flagged.cell
  | bindFailed phase _ | refused phase _ | stopped phase _ =>
      refine flagged.of_moved listed rfl ?_ flagged.cell
      intro other held
      cases held
      rfl
  | putBack phase =>
      refine flagged.of_moved listed rfl idle ?_
      rw [phase] at own
      exact own

theorem Flagged.start (flagged : center.Flagged) {n : Nat} {call : StartCall} {step : StartStep}
    (move : StartMove config center n call step next) : next.Flagged := by
  cases move with
  | storeServer phase =>
      refine ⟨?_, flagged.tasks⟩
      intro server found
      cases found
      rfl
  | spawnTask phase =>
      refine ⟨flagged.cell, ?_⟩
      intro t task listed
      rcases getElem?_concat listed with old | ⟨_, rfl⟩
      · exact flagged.tasks t task old
      · intro server held
        cases held
  | _ => exact ⟨flagged.cell, flagged.tasks⟩

theorem Flagged.close (flagged : center.Flagged) {n : Nat} {phase : ClosePhase} {step : CloseStep}
    (move : CloseMove center n phase step next) : next.Flagged := by
  cases move with
  | stopServer begun =>
      refine ⟨?_, flagged.tasks⟩
      intro server found
      cases found
  | _ => exact ⟨flagged.cell, flagged.tasks⟩

theorem Flagged.step (flagged : center.Flagged) {action : CenterAction}
    (taken : centerStep config center action = some next) : next.Flagged := by
  cases centerStep_eq_some taken with
  | task listed move => exact flagged.task listed move
  | startStep listed move => exact flagged.start move
  | closeStep listed move => exact flagged.close move
  | _ => exact ⟨flagged.cell, flagged.tasks⟩

theorem flagged_new : ScaffoldingCenter.new.Flagged where
  cell server found := by cases found
  tasks t task listed := by cases listed

theorem flagged_run {actions : List CenterAction}
    (reached : run (centerStep config) ScaffoldingCenter.new actions = some center) :
    center.Flagged :=
  reachable_invariant flagged_new (fun _ _ _ flagged taken => flagged.step taken) reached

/-- A server that listens is in an accept loop. -/
theorem Flagged.accepting (flagged : center.Flagged) {p : Option TaskId} {server : TcpServer}
    (found : center.serverAt p = some server) (listening : server.listening = true) :
    ∃ t task, p = some t ∧ center.tasks[t]? = some task ∧ task.phase = .accepting server := by
  cases p with
  | none => rw [flagged.cell server found] at listening; cases listening
  | some t =>
      rcases Option.bind_eq_some_iff.mp found with ⟨task, listed, held⟩
      refine ⟨t, task, rfl, listed, ?_⟩
      have own := flagged.tasks t task listed
      cases phase : task.phase with
      | accepting other =>
          rw [phase] at held
          cases held
          rfl
      | _ =>
          rw [phase] at own held
          rw [own server held] at listening
          cases listening

end ScaffoldingCenter

/-! ## Calls one after another -/

def StartPhase.isReturned : StartPhase → Bool
  | .returned _ => true
  | _ => false

def ClosePhase.isReturned : ClosePhase → Bool
  | .returned _ => true
  | _ => false

/-- No call of `start` or `close` is in progress. -/
def ScaffoldingCenter.Idle (center : ScaffoldingCenter) : Prop :=
  (∀ call ∈ center.starts, call.phase.isReturned = true) ∧
    ∀ phase ∈ center.closes, phase.isReturned = true

instance (center : ScaffoldingCenter) : Decidable center.Idle := inferInstanceAs (Decidable (_ ∧ _))

/-- A call begins when those before it have returned. -/
def OneAtATime (center : ScaffoldingCenter) : CenterAction → Prop
  | .start _ | .close => center.Idle
  | _ => True

instance (center : ScaffoldingCenter) (action : CenterAction) :
    Decidable (OneAtATime center action) :=
  match action with
  | .start _ | .close => inferInstanceAs (Decidable center.Idle)
  | .setPlayerPingHandler | .startStep _ _ | .closeStep _ _ | .cancel _ | .task _ _
  | .registry _ _ | .players _ => isTrue trivial

/-- A `start` in progress is the latest, and no `close` is in progress beside it. -/
def ScaffoldingCenter.InSequence (center : ScaffoldingCenter) : Prop :=
  ∀ (n : Nat) call, center.starts[n]? = some call → call.phase.isReturned = false →
    n + 1 = center.starts.length ∧ ∀ phase ∈ center.closes, phase.isReturned = true

namespace StartMove

variable {config : CenterConfig} {center next : ScaffoldingCenter} {n : Nat} {call : StartCall}
  {step : StartStep}

/-- A call that steps has not returned. -/
theorem running (move : StartMove config center n call step next) :
    call.phase.isReturned = false := by
  cases move <;> simp_all [StartPhase.isReturned]

theorem starts (move : StartMove config center n call step next) :
    ∃ phase, next.starts = center.starts.set n { call with phase := phase } := by
  cases move <;> exact ⟨_, rfl⟩

theorem closes (move : StartMove config center n call step next) :
    next.closes = center.closes := by
  cases move <;> rfl

end StartMove

theorem TaskMove.calls {center next : ScaffoldingCenter} {t : TaskId} {task : ServerTask}
    {step : TaskStep} (move : TaskMove center t task step next) :
    next.starts = center.starts ∧ next.closes = center.closes ∧ next.tcpPort = center.tcpPort := by
  cases move <;> exact ⟨rfl, rfl, rfl⟩

/-- What the steps of a call of `close` leave alone. -/
theorem CloseMove.frame {center next : ScaffoldingCenter} {n : Nat} {phase : ClosePhase}
    {step : CloseStep} (move : CloseMove center n phase step next) :
    phase.isReturned = false ∧ next.starts = center.starts ∧ next.tasks = center.tasks ∧
      next.tcpPort = center.tcpPort ∧ (next.cell = center.cell ∨ next.cell = none) := by
  cases move with
  | stopServer begun => exact ⟨by rw [begun]; rfl, rfl, rfl, rfl, Or.inr rfl⟩
  | cancelCt phase | easyTierStopped phase | easyTierFailed phase _ =>
      exact ⟨by rw [phase]; rfl, rfl, rfl, rfl, Or.inl rfl⟩

namespace ScaffoldingCenter

variable {config : CenterConfig} {center next : ScaffoldingCenter}

theorem InSequence.of_same (sequence : center.InSequence) (starts : next.starts = center.starts)
    (closes : next.closes = center.closes) : next.InSequence := by
  intro n call listed running
  rw [starts] at listed ⊢
  rw [closes]
  exact sequence n call listed running

theorem InSequence.step (sequence : center.InSequence) {action : CenterAction}
    (alone : OneAtATime center action) (taken : centerStep config center action = some next) :
    next.InSequence := by
  cases centerStep_eq_some taken with
  | start ct =>
      have idle : center.Idle := alone
      intro n call listed running
      rcases getElem?_concat listed with old | ⟨rfl, rfl⟩
      · rw [idle.1 call (List.mem_of_getElem? old)] at running
        cases running
      · exact ⟨by simp, idle.2⟩
  | startStep listed move =>
      rcases sequence _ _ listed move.running with ⟨latest, closed⟩
      rcases move.starts with ⟨phase, starts⟩
      intro m other found running
      rw [move.closes, starts, List.length_set]
      rw [starts, getElem?_set_listed listed] at found
      split at found
      · next same => exact ⟨same ▸ latest, closed⟩
      · exact sequence m other found running
  | close =>
      have idle : center.Idle := alone
      intro n call listed running
      rw [idle.1 call (List.mem_of_getElem? listed)] at running
      cases running
  | @closeStep n phase step _ listed move =>
      rcases move.frame with ⟨closing, starts, _⟩
      intro m call found running
      rw [starts] at found
      rw [(sequence m call found running).2 phase (List.mem_of_getElem? listed)] at closing
      cases closing
  | task listed move =>
      rcases move.calls with ⟨starts, closes, _⟩
      exact sequence.of_same starts closes
  | _ => exact sequence.of_same rfl rfl

end ScaffoldingCenter

/-! ## The latest call -/

/-- The number of the server that a call has built. -/
def StartPhase.built : StartPhase → Option ServerId
  | .stored id | .spawned id _ | .enlisting id _ _ | .returned (.ok (id, _)) => some id
  | _ => none

/-- The task that a call has spawned, as long as it has not failed. -/
def StartPhase.spawnedTask : StartPhase → Option TaskId
  | .spawned _ task | .enlisting _ task _ | .returned (.ok (_, task)) => some task
  | _ => none

/-- The task is past its accept loop. -/
def TaskPhase.over : TaskPhase → Bool
  | .returning _ | .done => true
  | _ => false

def TaskPhase.accepts : TaskPhase → Bool
  | .accepting _ => true
  | _ => false

/-- What holds of the latest call of `start` whatever the tasks of earlier ones do, if its
own task takes the server it has built: that server, wherever it is, has the port that is
advertised, and the task holds no other. -/
structure ScaffoldingCenter.Latest (center : ScaffoldingCenter) (call : StartCall) : Prop where
  scanned : ∀ port host, call.phase = .building port host ∨ call.phase = .ready port host →
    center.tcpPort = port
  port : ∀ id, call.phase.built = some id → ∀ p server, center.serverAt p = some server →
    server.id = id → server.port = center.tcpPort
  task : ∀ id t, call.phase.built = some id → call.phase.spawnedTask = some t →
    ∃ task, center.tasks[t]? = some task ∧ task.ct = call.ct ∧
      ∀ server, task.phase.held = some server → server.id = id

def ScaffoldingCenter.KnowsLatest (center : ScaffoldingCenter) : Prop :=
  ∀ (n : Nat) call, center.starts[n]? = some call → n + 1 = center.starts.length →
    center.Latest call

/-- A task takes the server that its own `start` has built. -/
def TakesOwn (center : ScaffoldingCenter) (t : TaskId) : Prop :=
  ∀ call ∈ center.starts, call.phase.spawnedTask = some t →
    center.cell.map TcpServer.id = call.phase.built

instance (center : ScaffoldingCenter) (t : TaskId) : Decidable (TakesOwn center t) :=
  inferInstanceAs (Decidable (∀ call ∈ center.starts, _ → _))

namespace ScaffoldingCenter

variable {config : CenterConfig} {center next : ScaffoldingCenter}

/-- What a task holds after a step it took out of the cell or held before, and what the
cell holds it held before or was given by the task. -/
theorem moved_servers {t : TaskId} {task : ServerTask} {step : TaskStep}
    (move : TaskMove center t task step next) :
    ∃ phase, next.tasks = center.tasks.set t { task with phase := phase } ∧
      (∀ server, phase.held = some server →
        (step = .take ∧ center.cell = some server) ∨
          ∃ before, task.phase.held = some before ∧ before.id = server.id ∧
            before.port = server.port) ∧
      ∀ server, next.cell = some server →
        center.cell = some server ∨ task.phase.held = some server := by
  cases move with
  | take phase =>
      refine ⟨_, rfl, ?_, fun server found => (by cases found)⟩
      intro server held
      cases cell : center.cell with
      | none =>
          rw [cell] at held
          cases held
      | some inCell =>
          rw [cell] at held
          cases held
          exact Or.inl ⟨rfl, rfl⟩
  | putBack phase =>
      refine ⟨_, rfl, fun server held => (by cases held), fun server found => Or.inr ?_⟩
      exact (congrArg TaskPhase.held phase).trans found
  | bound phase _ | bindFailed phase _ | refused phase _ | stopped phase _ =>
      refine ⟨_, rfl, ?_, fun server found => Or.inl found⟩
      intro server held
      cases held
      exact Or.inr ⟨_, congrArg TaskPhase.held phase, rfl, rfl⟩

/-- The server a task moves stays the same server. -/
theorem serverAt_task {t : TaskId} {task : ServerTask} {step : TaskStep}
    (listed : center.tasks[t]? = some task) (move : TaskMove center t task step next)
    {p : Option TaskId} {server : TcpServer} (found : next.serverAt p = some server) :
    ∃ q before, center.serverAt q = some before ∧ before.id = server.id ∧
      before.port = server.port := by
  have own : center.serverAt (some t) = task.phase.held := by
    rw [serverAt, listed, Option.bind_some]
  rcases moved_servers move with ⟨phase, tasks, held, cell⟩
  cases p with
  | none =>
      rcases cell server found with same | given
      · exact ⟨none, server, same, rfl, rfl⟩
      · exact ⟨some t, server, own.trans given, rfl, rfl⟩
  | some u =>
      rw [serverAt, tasks, getElem?_set_listed listed] at found
      split at found
      · rcases held server found with ⟨_, taken⟩ | ⟨before, earlier, id, port⟩
        · exact ⟨none, server, taken, rfl, rfl⟩
        · exact ⟨some t, before, own.trans earlier, id, port⟩
      · exact ⟨some u, server, found, rfl, rfl⟩

theorem Latest.task_step {call : StartCall} (latest : center.Latest call)
    (member : call ∈ center.starts) {t : TaskId} {task : ServerTask} {step : TaskStep}
    (listed : center.tasks[t]? = some task) (takesOwn : step = .take → TakesOwn center t)
    (move : TaskMove center t task step next) : next.Latest call := by
  rcases move.calls with ⟨_, _, tcpPort⟩
  refine ⟨?_, ?_, ?_⟩
  · rw [tcpPort]
    exact latest.scanned
  · intro id built p server found isServer
    rcases serverAt_task listed move found with ⟨q, before, earlier, same, port⟩
    rw [tcpPort, ← port]
    exact latest.port id built q before earlier (same.trans isServer)
  · intro id u built spawned
    rcases latest.task id u built spawned with ⟨other, otherListed, ct, holds⟩
    rcases moved_servers move with ⟨phase, tasks, held, _⟩
    rw [tasks, getElem?_set_listed listed]
    split
    · next same =>
        subst same
        cases listed.symm.trans otherListed
        refine ⟨_, rfl, ct, ?_⟩
        intro server found
        rcases held server found with ⟨isTake, cell⟩ | ⟨before, earlier, id, _⟩
        · have own := takesOwn isTake call member spawned
          rw [cell, built] at own
          exact Option.some.inj own
        · exact id.symm.trans (holds before earlier)
    · exact ⟨other, otherListed, ct, holds⟩

/-- The latest call is not touched where its server cannot appear. -/
theorem Latest.of_same {call : StartCall} (latest : center.Latest call)
    (tasks : next.tasks = center.tasks) (tcpPort : next.tcpPort = center.tcpPort)
    (cell : next.cell = center.cell ∨ next.cell = none) : next.Latest call := by
  refine ⟨?_, ?_, ?_⟩
  · rw [tcpPort]
    exact latest.scanned
  · intro id built p server found isServer
    rw [tcpPort]
    refine latest.port id built p server ?_ isServer
    cases p with
    | none =>
        rcases cell with same | empty
        · exact same.symm.trans found
        · change next.cell = some server at found
          rw [empty] at found
          cases found
    | some t =>
        rw [serverAt, tasks] at found
        exact found
  · rw [tasks]
    exact latest.task

/-- A call that has built no server yet. -/
theorem latest_unbuilt {call : StartCall} (unbuilt : call.phase.built = none)
    (scanned : ∀ port host, call.phase = .building port host ∨ call.phase = .ready port host →
      center.tcpPort = port) : center.Latest call := by
  refine ⟨scanned, fun id built => ?_, fun id t built => ?_⟩
  · rw [unbuilt] at built
    cases built
  · rw [unbuilt] at built
    cases built

theorem Latest.start_step {call : StartCall} (latest : center.Latest call) (owned : center.Owned)
    {n : Nat} {step : StartStep} (move : StartMove config center n call step next) :
    ∃ phase, next.starts = center.starts.set n { call with phase := phase } ∧
      next.Latest { call with phase := phase } := by
  cases move with
  | rejected phase duplicate | easyTierFailed phase error =>
      refine ⟨_, rfl, latest_unbuilt rfl ?_⟩
      rintro port host (same | same) <;> cases same
  | scanned phase accepted =>
      refine ⟨_, rfl, latest_unbuilt rfl ?_⟩
      rintro port host (same | same) <;> cases same
      rfl
  | readHook phase =>
      refine ⟨_, rfl, latest_unbuilt rfl ?_⟩
      rintro port host (same | same) <;> cases same
      exact latest.scanned _ _ (Or.inl phase)
  | @storeServer port host phase =>
      refine ⟨_, rfl, ?_, ?_, ?_⟩
      · rintro _ _ (same | same) <;> cases same
      · intro id built p server found isServer
        cases built
        cases p with
        | none =>
            cases found
            exact (latest.scanned _ _ (Or.inr phase)).symm
        | some t =>
            -- whatever a task holds was built before
            have held : center.holds (some t) = some center.servers.length := by
              rcases Option.bind_eq_some_iff.mp found with ⟨task, listed, same⟩
              have listedBefore : center.tasks[t]? = some task := listed
              rw [holds, listedBefore, Option.bind_some, same, ← isServer]
              rfl
            exact absurd (owned.built _ _ held) (Nat.lt_irrefl _)
      · intro id t built spawned
        cases spawned
  | @spawnTask id phase =>
      refine ⟨_, rfl, ?_, ?_, ?_⟩
      · rintro _ _ (same | same) <;> cases same
      · intro other built p server found isServer
        cases built
        refine latest.port id (by rw [phase]; rfl) p server ?_ isServer
        cases p with
        | none => exact found
        | some t =>
            rcases Option.bind_eq_some_iff.mp found with ⟨task, listed, held⟩
            rcases getElem?_concat listed with old | ⟨_, rfl⟩
            · rw [serverAt, old]
              exact held
            · cases held
      · intro other t built spawned
        cases built
        cases spawned
        refine ⟨⟨call.ct, .spawned⟩, List.getElem?_concat_length, rfl, ?_⟩
        intro server held
        cases held
  | easyTierStarted phase nodeId | enlist phase =>
      refine ⟨_, rfl, ?_, ?_, ?_⟩
      · rintro _ _ (same | same) <;> cases same
      · intro id built p server found isServer
        cases built
        exact latest.port _ (by rw [phase]; rfl) p server found isServer
      · intro id t built spawned
        cases built
        cases spawned
        exact latest.task _ _ (by rw [phase]; rfl) (by rw [phase]; rfl)

theorem KnowsLatest.of_same (known : center.KnowsLatest) (starts : next.starts = center.starts)
    (tasks : next.tasks = center.tasks) (tcpPort : next.tcpPort = center.tcpPort)
    (cell : next.cell = center.cell ∨ next.cell = none) : next.KnowsLatest := by
  intro n call listed latest
  rw [starts] at listed latest
  exact (known n call listed latest).of_same tasks tcpPort cell

theorem KnowsLatest.step (known : center.KnowsLatest) (sequence : center.InSequence)
    (owned : center.Owned) {action : CenterAction}
    (takesOwn : ∀ t, action = .task t .take → TakesOwn center t)
    (taken : centerStep config center action = some next) : next.KnowsLatest := by
  cases centerStep_eq_some taken with
  | start ct =>
      intro n call listed latest
      rcases getElem?_concat listed with old | ⟨_, rfl⟩
      · have inside := (List.getElem?_eq_some_iff.mp old).1
        rw [List.length_append, List.length_singleton] at latest
        omega
      · apply latest_unbuilt rfl
        rintro _ _ (same | same) <;> cases same
  | @startStep n call step _ listed move =>
      have last := (sequence n call listed move.running).1
      rcases (known n call listed last).start_step owned move with ⟨phase, starts, latest⟩
      intro m other found isLast
      rw [starts, List.length_set] at isLast
      rw [starts, getElem?_set_listed listed] at found
      split at found
      · cases found
        exact latest
      · omega
  | @task t task step _ listed move =>
      intro n call found latest
      rw [move.calls.1] at found latest
      refine (known n call found latest).task_step (List.mem_of_getElem? found) listed ?_ move
      rintro rfl
      exact takesOwn t rfl
  | closeStep listed move =>
      rcases move.frame with ⟨_, starts, tasks, tcpPort, cell⟩
      exact known.of_same starts tasks tcpPort cell
  | _ => exact known.of_same rfl rfl rfl (Or.inl rfl)

end ScaffoldingCenter

/-! ## The open room -/

/-- The call of `start` that has returned `Ok` last, if no call and no cancellation has
come after it. -/
def openAfter (opened : Option Nat) : CenterAction → Option Nat
  | .startStep n .enlist => some n
  | .start _ | .close | .cancel _ => none
  | _ => opened

def openCall (actions : List CenterAction) : Option Nat := actions.foldl openAfter none

/-- A room is open after a step because the step opened it or left it open. -/
theorem openAfter_eq_some {opened : Option Nat} {action : CenterAction} {n : Nat}
    (latest : openAfter opened action = some n) :
    action = .startStep n .enlist ∨
      opened = some n ∧ openAfter (some n) action = some n ∧
        ∀ m, action ≠ .startStep m .enlist := by
  cases action with
  | start ct | close | cancel ct => cases latest
  | startStep m step =>
      cases step with
      | enlist =>
          cases latest
          exact Or.inl rfl
      | _ =>
          refine Or.inr ⟨latest, rfl, ?_⟩
          rintro _ same
          cases same
  | _ =>
      refine Or.inr ⟨latest, rfl, ?_⟩
      rintro _ same
      cases same

/-- A task takes the server of its own `start`.  When a `start` comes to its end its token
is not cancelled, its task has bound the port and runs the accept loop, and every other
task is past its own. -/
def OpensOrderly (center : ScaffoldingCenter) : CenterAction → Prop
  | .task t .take => TakesOwn center t
  | .startStep n .enlist => ∀ call ∈ center.starts[n]?, ∀ t ∈ call.phase.spawnedTask,
      call.ct ∉ center.cancelled ∧ ∀ numbered ∈ center.tasks.zipIdx,
        if numbered.2 = t then numbered.1.phase.accepts = true else numbered.1.phase.over = true
  | _ => True

instance (center : ScaffoldingCenter) (action : CenterAction) :
    Decidable (OpensOrderly center action) :=
  match action with
  | .task t .take => inferInstanceAs (Decidable (TakesOwn center t))
  | .startStep n .enlist => inferInstanceAs (Decidable (∀ call ∈ center.starts[n]?, _))
  | .task _ .bound | .task _ .bindFailed | .task _ .refused | .task _ .stopped | .task _ .putBack
  | .startStep _ (.scan _) | .startStep _ .readHook | .startStep _ .storeServer
  | .startStep _ .spawnTask | .startStep _ (.easyTierStarted _)
  | .startStep _ (.easyTierFailed _) | .setPlayerPingHandler | .start _ | .close
  | .closeStep _ _ | .cancel _ | .registry _ _ | .players _ => isTrue trivial

namespace ScaffoldingCenter

variable {config : CenterConfig} {center next : ScaffoldingCenter}

/-- Call `n` of `start` is the latest and has returned `Ok`.  One server listens: the one
that it built, on the port that is advertised. -/
def ServesOnly (center : ScaffoldingCenter) (n : Nat) : Prop :=
  n + 1 = center.starts.length ∧
    ∃ call id t server p, center.starts[n]? = some call ∧ call.phase = .returned (.ok (id, t)) ∧
      center.serverAt p = some server ∧ server.listening = true ∧
      (∀ q other, center.serverAt q = some other → other.listening = true → q = p) ∧
      server.port = center.tcpPort ∧ server.id = id

/-- Call `n` is the latest and has returned `Ok`, its task runs the accept loop on a token
that is not cancelled, and the other tasks are past theirs. -/
structure OpenAt (center : ScaffoldingCenter) (n : Nat) (call : StartCall) (id : ServerId)
    (t : TaskId) (task : ServerTask) : Prop where
  latest : n + 1 = center.starts.length
  started : center.starts[n]? = some call
  returned : call.phase = .returned (.ok (id, t))
  uncancelled : task.ct ∉ center.cancelled
  listed : center.tasks[t]? = some task
  accepts : task.phase.accepts = true
  closed : ∀ phase ∈ center.closes, phase.isReturned = true
  others : ∀ (u : TaskId) other, center.tasks[u]? = some other → u ≠ t → other.phase.over = true

theorem OpenAt.servesOnly {n : Nat} {call : StartCall} {id : ServerId} {t : TaskId}
    {task : ServerTask} (opened : center.OpenAt n call id t task) (flagged : center.Flagged)
    (known : center.KnowsLatest) : center.ServesOnly n := by
  have latest := known n call opened.started opened.latest
  have built : call.phase.built = some id := by rw [opened.returned]; rfl
  cases phase : task.phase with
  | accepting server =>
      have listening : server.listening = true := by
        have own := flagged.tasks t task opened.listed
        rw [phase] at own
        exact own
      have found : center.serverAt (some t) = some server := by
        rw [serverAt, opened.listed, Option.bind_some, phase]
        rfl
      rcases latest.task id t built (by rw [opened.returned]; rfl) with
        ⟨other, otherListed, _, holds⟩
      cases opened.listed.symm.trans otherListed
      have isServer : server.id = id := holds server (by rw [phase]; rfl)
      refine ⟨opened.latest, call, id, t, server, some t, opened.started, opened.returned, found,
        listening, ?_, latest.port id built _ server found isServer, isServer⟩
      intro q other present alsoListening
      rcases flagged.accepting present alsoListening with ⟨u, acceptor, rfl, listed, accepting⟩
      by_cases same : u = t
      · rw [same]
      · have ended := opened.others u acceptor listed same
        rw [accepting] at ended
        cases ended
  | _ =>
      have accepts := opened.accepts
      rw [phase] at accepts
      cases accepts

theorem OpenAt.of_same {n : Nat} {call : StartCall} {id : ServerId} {t : TaskId}
    {task : ServerTask} (opened : center.OpenAt n call id t task)
    (starts : next.starts = center.starts) (closes : next.closes = center.closes)
    (tasks : next.tasks = center.tasks) (cancelled : next.cancelled = center.cancelled) :
    next.OpenAt n call id t task := by
  refine ⟨?_, ?_, opened.returned, ?_, ?_, opened.accepts, ?_, ?_⟩
  · rw [starts]
    exact opened.latest
  · rw [starts]
    exact opened.started
  · rw [cancelled]
    exact opened.uncancelled
  · rw [tasks]
    exact opened.listed
  · rw [closes]
    exact opened.closed
  · rw [tasks]
    exact opened.others

/-- The tasks of an open room: its own goes on, the others put their servers back. -/
theorem OpenAt.task_step {n : Nat} {call : StartCall} {id : ServerId} {t u : TaskId}
    {task moved : ServerTask} {step : TaskStep} (opened : center.OpenAt n call id t task)
    (listed : center.tasks[u]? = some moved) (move : TaskMove center u moved step next) :
    next.OpenAt n call id t task := by
  by_cases same : u = t
  · subst same
    cases listed.symm.trans opened.listed
    have accepts := opened.accepts
    cases move with
    | stopped phase cancelled => exact absurd cancelled opened.uncancelled
    | take phase | bound phase _ | bindFailed phase _ | refused phase _ | putBack phase =>
        rw [phase] at accepts
        cases accepts
  · have ended := opened.others u moved listed same
    cases move with
    | putBack phase =>
        refine ⟨opened.latest, opened.started, opened.returned, opened.uncancelled, ?_,
          opened.accepts, opened.closed, ?_⟩
        · exact (getElem?_set_listed listed _ t).trans
            ((if_neg fun equal => same equal.symm).trans opened.listed)
        · intro v other found different
          have cases := (getElem?_set_listed listed _ v).symm.trans found
          split at cases
          · cases cases
            rfl
          · exact opened.others v other cases different
    | take phase | bound phase _ | bindFailed phase _ | refused phase _ | stopped phase _ =>
        rw [phase] at ended
        cases ended

/-- A `start` that comes to its end in order leaves the room open. -/
theorem openAt_enlist {n : Nat} {call : StartCall} (listed : center.starts[n]? = some call)
    (known : center.KnowsLatest) (sequence : center.InSequence)
    (orderly : OpensOrderly center (.startStep n .enlist))
    (move : StartMove config center n call .enlist next) :
    ∃ call id t task, next.OpenAt n call id t task := by
  rcases sequence n call listed move.running with ⟨latest, closed⟩
  cases move with
  | @enlist id t nodeId phase =>
      have spawned : call.phase.spawnedTask = some t := by rw [phase]; rfl
      rcases orderly call listed t spawned with ⟨uncancelled, tasks⟩
      rcases (known n call listed latest).task id t (by rw [phase]; rfl) spawned with
        ⟨task, taskListed, ct, _⟩
      have own := tasks (task, t) (List.mem_zipIdx_iff_getElem?.mpr taskListed)
      rw [if_pos rfl] at own
      refine ⟨{ call with phase := .returned (.ok (id, t)) }, id, t, task,
        latest.trans List.length_set.symm, ?_, rfl, ?_, taskListed, own, closed, ?_⟩
      · exact (getElem?_set_listed listed _ n).trans (if_pos rfl)
      · rw [ct]
        exact uncancelled
      · intro u other found different
        have ended := tasks (other, u) (List.mem_zipIdx_iff_getElem?.mpr found)
        rw [if_neg different] at ended
        exact ended

/-- What keeps a room open. -/
theorem OpenAt.step {n : Nat} {call : StartCall} {id : ServerId} {t : TaskId} {task : ServerTask}
    (opened : center.OpenAt n call id t task) (sequence : center.InSequence)
    {action : CenterAction} (stays : openAfter (some n) action = some n)
    (notEnlist : ∀ m, action ≠ .startStep m .enlist)
    (taken : centerStep config center action = some next) : next.OpenAt n call id t task := by
  cases centerStep_eq_some taken with
  | start ct => cases stays
  | close => cases stays
  | cancel ct => cases stays
  | @startStep m other step _ listed move =>
      -- the latest call has returned, so no call is left to step
      have last := (sequence m other listed move.running).1
      have same : m = n := by
        have latest := opened.latest
        omega
      subst same
      have running := move.running
      cases listed.symm.trans opened.started
      rw [opened.returned] at running
      cases running
  | @closeStep m phase step _ listed move =>
      have running := move.frame.1
      rw [opened.closed phase (List.mem_of_getElem? listed)] at running
      cases running
  | task listed move => exact opened.task_step listed move
  | _ => exact opened.of_same rfl rfl rfl rfl

/-- What holds after the actions so far when the calls come one after another and every
step is in order. -/
structure Opened (past : List CenterAction) (center : ScaffoldingCenter) : Prop where
  sequence : center.InSequence
  known : center.KnowsLatest
  room : ∀ n, openCall past = some n → ∃ call id t task, center.OpenAt n call id t task

theorem opened_new : Opened [] ScaffoldingCenter.new where
  sequence n call listed := by cases listed
  known n call listed := by cases listed
  room n opened := by cases opened

theorem Opened.step {past : List CenterAction} (opened : Opened past center)
    (owned : center.Owned) {action : CenterAction} (alone : OneAtATime center action)
    (orderly : OpensOrderly center action)
    (taken : centerStep config center action = some next) : Opened (past ++ [action]) next := by
  refine ⟨opened.sequence.step alone taken, ?_, ?_⟩
  · refine opened.known.step opened.sequence owned ?_ taken
    rintro t rfl
    exact orderly
  · intro n latest
    rw [openCall, List.foldl_concat] at latest
    rcases openAfter_eq_some latest with rfl | ⟨earlier, stays, notEnlist⟩
    · cases centerStep_eq_some taken with
      | startStep listed move =>
          exact openAt_enlist listed opened.known opened.sequence orderly move
    · -- no other step opens a room, so it was open before
      rcases opened.room n earlier with ⟨call, id, t, task, room⟩
      exact ⟨call, id, t, task, room.step opened.sequence stays notEnlist taken⟩

theorem opened_run {actions : List CenterAction}
    (reached : run (centerStep config) ScaffoldingCenter.new actions = some center)
    (sequence : EveryStep (centerStep config) ScaffoldingCenter.new (fun _ => OneAtATime) actions)
    (orderly : EveryStep (centerStep config) ScaffoldingCenter.new (fun _ => OpensOrderly)
      actions) : Opened actions center := by
  have both : EveryStep (centerStep config) ScaffoldingCenter.new
      (fun _ center action => OneAtATime center action ∧ OpensOrderly center action) actions :=
    fun past action later state split arrived =>
      ⟨sequence past action later state split arrived,
        orderly past action later state split arrived⟩
  refine run_invariant Opened opened_new ?_ both reached
  intro past state action next arrived opened conditions taken
  exact opened.step (owned_run arrived) conditions.1 conditions.2 taken

/-- However the server tasks run, an orderly open room has one listening server, the one
that its `start` has built, on the port that is advertised. -/
theorem open_room {actions : List CenterAction}
    (reached : run (centerStep config) ScaffoldingCenter.new actions = some center)
    (sequence : EveryStep (centerStep config) ScaffoldingCenter.new (fun _ => OneAtATime) actions)
    (orderly : EveryStep (centerStep config) ScaffoldingCenter.new (fun _ => OpensOrderly)
      actions) {n : Nat} (opened : openCall actions = some n) : center.ServesOnly n := by
  have state := opened_run reached sequence orderly
  rcases state.room n opened with ⟨call, id, t, task, room⟩
  exact room.servesOnly (flagged_run reached) state.known

end ScaffoldingCenter

/-- The room is closed, its task puts the server back, and the room is opened again. -/
def reopenedOrderly : List CenterAction :=
  sampleOpening ++ sampleEnlisting ++
    [.close, .closeStep 0 .stopServer, .closeStep 0 .cancelCt, .closeStep 0 .easyTierStopped,
      .task 0 .stopped, .task 0 .putBack, .start 1, .startStep 1 (.scan 1026),
      .startStep 1 .readHook, .startStep 1 .storeServer, .startStep 1 .spawnTask, .task 1 .take,
      .task 1 .bound, .startStep 1 (.easyTierStarted (some "peer-2")), .startStep 1 .enlist]

theorem open_room_sample :
    ∃ center, run (centerStep sampleCenter) ScaffoldingCenter.new reopenedOrderly = some center ∧
      center.ServesOnly 1 := by
  have reached : run (centerStep sampleCenter) ScaffoldingCenter.new reopenedOrderly = some _ :=
    run_eq_getD (by decide +kernel)
  exact ⟨_, reached, ScaffoldingCenter.open_room reached (by decide +kernel) (by decide +kernel)
    (by decide)⟩

/-- The task of the phase runs an accept loop on the port. -/
def TaskPhase.acceptsOn (port : Nat) : TaskPhase → Bool
  | .accepting server => server.port == port
  | _ => false

theorem ScaffoldingCenter.ServesOnly.acceptsOn {center : ScaffoldingCenter} {n : Nat}
    (serves : center.ServesOnly n) (flagged : center.Flagged) :
    ∃ task ∈ center.tasks, task.phase.acceptsOn center.tcpPort = true := by
  rcases serves with ⟨_, _, _, _, server, p, _, _, found, listening, _, port, _⟩
  rcases flagged.accepting found listening with ⟨t, task, _, listed, accepting⟩
  refine ⟨task, List.mem_of_getElem? listed, ?_⟩
  rw [accepting]
  exact beq_iff_eq.mpr port

/-- The port that the scan found is taken before the task binds it. -/
def portTaken : List CenterAction :=
  [.start 0, .startStep 0 (.scan 1025), .startStep 0 .readHook, .startStep 0 .storeServer,
    .startStep 0 .spawnTask, .task 0 .take, .task 0 .bindFailed] ++ sampleEnlisting

/-- The room is closed and opened again.  The task of the closed room puts its server back
after the new one has been stored. -/
def reopened : List CenterAction :=
  sampleOpening ++ sampleEnlisting ++
    [.close, .closeStep 0 .stopServer, .closeStep 0 .cancelCt, .closeStep 0 .easyTierStopped,
      .start 1, .startStep 1 (.scan 1026), .startStep 1 .readHook, .startStep 1 .storeServer,
      .task 0 .stopped, .task 0 .putBack, .startStep 1 .spawnTask, .task 1 .take,
      .task 1 .bound, .startStep 1 (.easyTierStarted (some "peer-2")), .startStep 1 .enlist]

/-- A room that `start` has opened may have no listening server, or have the server of an
earlier room listening on its port. -/
theorem open_room_unserved :
    (∃ center, run (centerStep sampleCenter) ScaffoldingCenter.new portTaken = some center ∧
      EveryStep (centerStep sampleCenter) ScaffoldingCenter.new (fun _ => OneAtATime) portTaken ∧
      openCall portTaken = some 0 ∧ ¬ center.ServesOnly 0) ∧
    ∃ center, run (centerStep sampleCenter) ScaffoldingCenter.new reopened = some center ∧
      EveryStep (centerStep sampleCenter) ScaffoldingCenter.new (fun _ => OneAtATime) reopened ∧
      openCall reopened = some 1 ∧ ¬ center.ServesOnly 1 := by
  have failed : run (centerStep sampleCenter) ScaffoldingCenter.new portTaken = some _ :=
    run_eq_getD (by decide +kernel)
  have again : run (centerStep sampleCenter) ScaffoldingCenter.new reopened = some _ :=
    run_eq_getD (by decide +kernel)
  refine ⟨⟨_, failed, by decide +kernel, by decide, ?_⟩, _, again, by decide +kernel, by decide, ?_⟩
  · intro serves
    exact absurd (serves.acceptsOn (ScaffoldingCenter.flagged_run failed)) (by decide +kernel)
  · intro serves
    exact absurd (serves.acceptsOn (ScaffoldingCenter.flagged_run again)) (by decide +kernel)

end Center
end QomicexConnector
