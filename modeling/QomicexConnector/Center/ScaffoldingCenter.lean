import Mathlib.Logic.Equiv.Basic
import QomicexConnector.Center.HostPlayers

namespace QomicexConnector
namespace Center

open Library

/-!
# A scaffolding center

`start` and `close` of a `ScaffoldingCenter`, any number of calls of each, and the
tasks that run its TCP servers, interleaved at every `await`.  The point of the
model is who owns a `TcpServer`: `start` puts a new one into the cell
`tcp_server`, the spawned task takes it out for as long as its accept loop runs
and puts it back afterwards, and `close` takes it out for good.

What the connections of a server do appears here only through their effect on the
registry of that server and on the player list, as operations that may occur at
any time.  `HostMove.environment` below is the step that makes them so: every
event of `Center.HostServer` has such an effect.
-/

/-- Servers are numbered in the order in which `start` builds them. -/
abbrev ServerId := Nat

/-- A cancellation token that a caller passes to `start`. -/
abbrev CtId := Nat

abbrev TaskId := Nat

/-- A `TcpServer` value.  Its registry and its table are shared by its clones and are
found under its number; `cts` is `none` as long as it is the private token of `new`. -/
structure TcpServer where
  id : ServerId
  listening : Bool
  port : Nat
  cts : Option CtId
  deriving DecidableEq

structure ServerRecord where
  config : HostConfig
  registry : ClientRegistry ConnId

/-- Where the task spawned by `start` stands. -/
inductive TaskPhase where
  | spawned
  | starting (server : TcpServer)
  | accepting (server : TcpServer)
  | returning (server : Option TcpServer)
  | done
  deriving DecidableEq

structure ServerTask where
  ct : CtId
  phase : TaskPhase
  deriving DecidableEq

/-- Where a call of `start` stands. -/
inductive StartPhase where
  | scanning
  | building (port : Nat) (config : HostConfig)
  | ready (port : Nat) (config : HostConfig)
  | stored (id : ServerId)
  | spawned (id : ServerId) (task : TaskId)
  | enlisting (id : ServerId) (task : TaskId) (nodeId : Option String)
  | returned (result : Except ScaffoldingError (ServerId × TaskId))

/-- The task spawned by a call that has returned `Ok`. -/
def StartPhase.succeeded : StartPhase → Option TaskId
  | .returned (.ok (_, task)) => some task
  | _ => none

structure StartCall where
  ct : CtId
  phase : StartPhase

/-- Where a call of `close` stands. -/
inductive ClosePhase where
  | begun
  | serverStopped
  | ctCancelled
  | returned (result : Except ScaffoldingError Unit)

structure ScaffoldingCenter where
  players : List PlayerInfo
  cell : Option TcpServer
  serverCt : Option CtId
  tcpPort : Nat
  pingHook : Bool
  servers : List ServerRecord
  tasks : List ServerTask
  starts : List StartCall
  closes : List ClosePhase
  cancelled : List CtId

/-- `ScaffoldingCenter::new`. -/
def ScaffoldingCenter.new : ScaffoldingCenter where
  players := []
  cell := none
  serverCt := none
  tcpPort := 0
  pingHook := false
  servers := []
  tasks := []
  starts := []
  closes := []
  cancelled := []

/-! ## Steps -/

/-- What a connection, the timeout loop or `disconnect_machine` does to a registry. -/
inductive RegistryOp where
  | insertActive (clientId : String) (token : ConnId)
  | insertIp (clientId clientIp : String)
  | insertHeartbeat (clientId : String) (now : Instant)
  | insertMachine (clientId machineId : String)
  | removeActive (clientId : String)
  | removeHeartbeat (clientId : String)
  | removeIp (clientId : String)
  | removeMachine (clientId : String)

def RegistryOp.apply (registry : ClientRegistry ConnId) : RegistryOp → ClientRegistry ConnId
  | .insertActive clientId token => registry.insertActive clientId token
  | .insertIp clientId clientIp => registry.insertIp clientId clientIp
  | .insertHeartbeat clientId now => registry.insertHeartbeat clientId now
  | .insertMachine clientId machineId => registry.insertMachine clientId machineId
  | .removeActive clientId => registry.removeActive clientId
  | .removeHeartbeat clientId => registry.removeHeartbeat clientId
  | .removeIp clientId => registry.removeIp clientId
  | .removeMachine clientId => registry.removeMachine clientId

/-- `TcpServer::stop`: the token it cancels and the server it leaves. -/
def TcpServer.stop (server : TcpServer) : List CtId × TcpServer :=
  (server.cts.toList, { server with listening := false })

/-- The steps of a server task.  `bound` and `bindFailed` are the outcomes of `bind`,
`refused` is the early return of a server that is listening already. -/
inductive TaskStep where
  | take
  | bound
  | bindFailed
  | refused
  | stopped
  | putBack

def ScaffoldingCenter.moveTask (center : ScaffoldingCenter) (t : TaskId) (task : ServerTask)
    (phase : TaskPhase) : ScaffoldingCenter :=
  { center with tasks := center.tasks.set t { task with phase := phase } }

/-- `stop` on the server of a task, which then waits for the cell to put it back. -/
def ScaffoldingCenter.stopTask (center : ScaffoldingCenter) (t : TaskId) (task : ServerTask)
    (server : TcpServer) : ScaffoldingCenter :=
  { center.moveTask t task (.returning (some server.stop.2)) with
    cancelled := server.stop.1 ++ center.cancelled }

def taskEffect (center : ScaffoldingCenter) (t : TaskId) (task : ServerTask) :
    TaskPhase → TaskStep → Option ScaffoldingCenter
  | .spawned, .take =>
      some { center.moveTask t task (match center.cell with
          | some server => .starting server
          | none => .returning none) with
        cell := none }
  | .starting server, .bound =>
      if server.listening then none
      else some (center.moveTask t task
        (.accepting { server with listening := true, cts := some task.ct }))
  | .starting server, .bindFailed =>
      if server.listening then none
      else some (center.stopTask t task { server with cts := some task.ct })
  | .starting server, .refused =>
      if server.listening then some (center.stopTask t task server) else none
  | .accepting server, .stopped =>
      if task.ct ∈ center.cancelled then some (center.stopTask t task server) else none
  | .returning server, .putBack =>
      some { center.moveTask t task .done with cell := server }
  | _, _ => none

/-- The steps of a call of `start`.  The port found by the scan and the outcome of
EasyTier are chosen from outside. -/
inductive StartStep where
  | scan (port : Nat)
  | readHook
  | storeServer
  | spawnTask
  | easyTierStarted (nodeId : Option String)
  | easyTierFailed (error : ScaffoldingError)
  | enlist

def ScaffoldingCenter.moveStart (center : ScaffoldingCenter) (n : Nat) (call : StartCall)
    (phase : StartPhase) : ScaffoldingCenter :=
  { center with starts := center.starts.set n { call with phase := phase } }

/-- The duplicate check of `start`, and what it builds the server with. -/
def hostConfigOf (config : CenterConfig) : Except ScaffoldingError HostConfig :=
  match checked : checkCustomKeys standardKeys config.customKeys with
  | .error error => .error error
  | .ok accepted => .ok { config with pingHook := false, checked := ⟨accepted, checked⟩ }

def startEffect (config : CenterConfig) (center : ScaffoldingCenter) (n : Nat) (call : StartCall) :
    StartPhase → StartStep → Option ScaffoldingCenter
  | .scanning, .scan port =>
      if 1025 ≤ port ∧ port < 65535 then
        some { center.moveStart n call (match hostConfigOf config with
            | .error error => .returned (.error error)
            | .ok host => .building port host) with
          tcpPort := port }
      else none
  | .building port host, .readHook =>
      some (center.moveStart n call (.ready port { host with pingHook := center.pingHook }))
  | .ready port host, .storeServer =>
      some { center.moveStart n call (.stored center.servers.length) with
        cell := some ⟨center.servers.length, false, port, none⟩
        servers := center.servers ++ [⟨host, ClientRegistry.new⟩] }
  | .stored id, .spawnTask =>
      some { center.moveStart n call (.spawned id center.tasks.length) with
        serverCt := some call.ct
        tasks := center.tasks ++ [⟨call.ct, .spawned⟩] }
  | .spawned id task, .easyTierStarted nodeId =>
      some (center.moveStart n call (.enlisting id task nodeId))
  | .spawned _ _, .easyTierFailed error => some (center.moveStart n call (.returned (.error error)))
  | .enlisting id task nodeId, .enlist =>
      some { center.moveStart n call (.returned (.ok (id, task))) with
        players := center.players ++ [hostEntry config nodeId] }
  | _, _ => none

/-- The steps of a call of `close`. -/
inductive CloseStep where
  | stopServer
  | cancelCt
  | easyTierStopped
  | easyTierFailed (error : ScaffoldingError)

def ScaffoldingCenter.moveClose (center : ScaffoldingCenter) (n : Nat) (phase : ClosePhase) :
    ScaffoldingCenter :=
  { center with closes := center.closes.set n phase }

def closeEffect (center : ScaffoldingCenter) (n : Nat) :
    ClosePhase → CloseStep → Option ScaffoldingCenter
  | .begun, .stopServer =>
      some { center.moveClose n .serverStopped with
        cell := none
        cancelled := (match center.cell with
          | some server => server.stop.1
          | none => []) ++ center.cancelled }
  | .serverStopped, .cancelCt =>
      some { center.moveClose n .ctCancelled with
        serverCt := none
        cancelled := center.serverCt.toList ++ center.cancelled }
  | .ctCancelled, .easyTierStopped => some (center.moveClose n (.returned (.ok ())))
  | .ctCancelled, .easyTierFailed error => some (center.moveClose n (.returned (.error error)))
  | _, _ => none

inductive CenterAction where
  | setPlayerPingHandler
  | start (ct : CtId)
  | startStep (n : Nat) (step : StartStep)
  | close
  | closeStep (n : Nat) (step : CloseStep)
  | cancel (ct : CtId)
  | task (t : TaskId) (step : TaskStep)
  | registry (id : ServerId) (op : RegistryOp)
  | players (update : PlayerUpdate)

def centerStep (config : CenterConfig) (center : ScaffoldingCenter) :
    CenterAction → Option ScaffoldingCenter
  | .setPlayerPingHandler => some { center with pingHook := true }
  | .start ct => some { center with starts := center.starts ++ [⟨ct, .scanning⟩] }
  | .startStep n step =>
      match center.starts[n]? with
      | some call => startEffect config center n call call.phase step
      | none => none
  | .close => some { center with closes := center.closes ++ [.begun] }
  | .closeStep n step =>
      match center.closes[n]? with
      | some phase => closeEffect center n phase step
      | none => none
  | .cancel ct => some { center with cancelled := ct :: center.cancelled }
  | .task t step =>
      match center.tasks[t]? with
      | some task => taskEffect center t task task.phase step
      | none => none
  | .registry id op =>
      match center.servers[id]? with
      | some record =>
          some { center with
            servers := center.servers.set id { record with registry := op.apply record.registry } }
      | none => none
  | .players update => some { center with players := update.apply center.players }

/-- `disconnect_machine`: the token it cancels, named by server and connection, if it
returns `true`. -/
def ScaffoldingCenter.disconnectMachine (center : ScaffoldingCenter) (order : List (String × String))
    (machineId : String) : Option (ServerId × ConnId) :=
  match center.cell with
  | some server =>
      match center.servers[server.id]? with
      | some record =>
          (record.registry.disconnectMachine order machineId).1.map fun token => (server.id, token)
      | none => none
  | none => none

/-- `machine_source_ip`. -/
def ScaffoldingCenter.machineSourceIp (center : ScaffoldingCenter) (order : List (String × String))
    (machineId : String) : Option String :=
  match center.cell with
  | some server =>
      match center.servers[server.id]? with
      | some record => record.registry.machineSourceIp order machineId
      | none => none
  | none => none

/-! ## What a step can do -/

/-- The steps of a server task, one constructor for each way to take one. -/
inductive TaskMove (center : ScaffoldingCenter) (t : TaskId) (task : ServerTask) :
    TaskStep → ScaffoldingCenter → Prop
  | take (phase : task.phase = .spawned) :
      TaskMove center t task .take
        { center.moveTask t task (match center.cell with
            | some server => .starting server
            | none => .returning none) with
          cell := none }
  | bound {server : TcpServer} (phase : task.phase = .starting server)
      (idle : server.listening = false) :
      TaskMove center t task .bound
        (center.moveTask t task
          (.accepting { server with listening := true, cts := some task.ct }))
  | bindFailed {server : TcpServer} (phase : task.phase = .starting server)
      (idle : server.listening = false) :
      TaskMove center t task .bindFailed
        (center.stopTask t task { server with cts := some task.ct })
  | refused {server : TcpServer} (phase : task.phase = .starting server)
      (listening : server.listening = true) :
      TaskMove center t task .refused (center.stopTask t task server)
  | stopped {server : TcpServer} (phase : task.phase = .accepting server)
      (cancelled : task.ct ∈ center.cancelled) :
      TaskMove center t task .stopped (center.stopTask t task server)
  | putBack {server : Option TcpServer} (phase : task.phase = .returning server) :
      TaskMove center t task .putBack { center.moveTask t task .done with cell := server }

theorem taskEffect_eq_some {center next : ScaffoldingCenter} {t : TaskId} {task : ServerTask}
    {step : TaskStep} (taken : taskEffect center t task task.phase step = some next) :
    TaskMove center t task step next := by
  generalize phase : task.phase = current at taken
  unfold taskEffect at taken
  split at taken
  case h_1 => cases taken; exact .take phase
  case h_6 => cases taken; exact .putBack phase
  case h_7 => cases taken
  all_goals split at taken <;> cases taken
  · exact .bound phase (eq_false_of_ne_true ‹_›)
  · exact .bindFailed phase (eq_false_of_ne_true ‹_›)
  · exact .refused phase ‹_›
  · exact .stopped phase ‹_›

/-- The steps of a call of `start`. -/
inductive StartMove (config : CenterConfig) (center : ScaffoldingCenter) (n : Nat)
    (call : StartCall) : StartStep → ScaffoldingCenter → Prop
  | rejected {port : Nat} {error : ScaffoldingError} (phase : call.phase = .scanning)
      (duplicate : hostConfigOf config = .error error) :
      StartMove config center n call (.scan port)
        { center.moveStart n call (.returned (.error error)) with tcpPort := port }
  | scanned {port : Nat} {host : HostConfig} (phase : call.phase = .scanning)
      (accepted : hostConfigOf config = .ok host) :
      StartMove config center n call (.scan port)
        { center.moveStart n call (.building port host) with tcpPort := port }
  | readHook {port : Nat} {host : HostConfig} (phase : call.phase = .building port host) :
      StartMove config center n call .readHook
        (center.moveStart n call (.ready port { host with pingHook := center.pingHook }))
  | storeServer {port : Nat} {host : HostConfig} (phase : call.phase = .ready port host) :
      StartMove config center n call .storeServer
        { center.moveStart n call (.stored center.servers.length) with
          cell := some ⟨center.servers.length, false, port, none⟩
          servers := center.servers ++ [⟨host, ClientRegistry.new⟩] }
  | spawnTask {id : ServerId} (phase : call.phase = .stored id) :
      StartMove config center n call .spawnTask
        { center.moveStart n call (.spawned id center.tasks.length) with
          serverCt := some call.ct
          tasks := center.tasks ++ [⟨call.ct, .spawned⟩] }
  | easyTierStarted {id : ServerId} {task : TaskId} (phase : call.phase = .spawned id task)
      (nodeId : Option String) :
      StartMove config center n call (.easyTierStarted nodeId)
        (center.moveStart n call (.enlisting id task nodeId))
  | easyTierFailed {id : ServerId} {task : TaskId} (phase : call.phase = .spawned id task)
      (error : ScaffoldingError) :
      StartMove config center n call (.easyTierFailed error)
        (center.moveStart n call (.returned (.error error)))
  | enlist {id : ServerId} {task : TaskId} {nodeId : Option String}
      (phase : call.phase = .enlisting id task nodeId) :
      StartMove config center n call .enlist
        { center.moveStart n call (.returned (.ok (id, task))) with
          players := center.players ++ [hostEntry config nodeId] }

theorem startEffect_eq_some {config : CenterConfig} {center next : ScaffoldingCenter} {n : Nat}
    {call : StartCall} {step : StartStep}
    (taken : startEffect config center n call call.phase step = some next) :
    StartMove config center n call step next := by
  generalize phase : call.phase = current at taken
  unfold startEffect at taken
  split at taken
  case h_1 port =>
    split at taken <;> cases taken
    cases checked : hostConfigOf config with
    | error error => exact .rejected phase checked
    | ok host => exact .scanned phase checked
  all_goals cases taken
  · exact .readHook phase
  · exact .storeServer phase
  · exact .spawnTask phase
  · exact .easyTierStarted phase _
  · exact .easyTierFailed phase _
  · exact .enlist phase

/-- The steps of a call of `close`. -/
inductive CloseMove (center : ScaffoldingCenter) (n : Nat) (phase : ClosePhase) :
    CloseStep → ScaffoldingCenter → Prop
  | stopServer (begun : phase = .begun) :
      CloseMove center n phase .stopServer
        { center.moveClose n .serverStopped with
          cell := none
          cancelled := (match center.cell with
            | some server => server.stop.1
            | none => []) ++ center.cancelled }
  | cancelCt (stopped : phase = .serverStopped) :
      CloseMove center n phase .cancelCt
        { center.moveClose n .ctCancelled with
          serverCt := none
          cancelled := center.serverCt.toList ++ center.cancelled }
  | easyTierStopped (cancelled : phase = .ctCancelled) :
      CloseMove center n phase .easyTierStopped (center.moveClose n (.returned (.ok ())))
  | easyTierFailed (cancelled : phase = .ctCancelled) (error : ScaffoldingError) :
      CloseMove center n phase (.easyTierFailed error)
        (center.moveClose n (.returned (.error error)))

theorem closeEffect_eq_some {center next : ScaffoldingCenter} {n : Nat} {phase : ClosePhase}
    {step : CloseStep} (taken : closeEffect center n phase step = some next) :
    CloseMove center n phase step next := by
  unfold closeEffect at taken
  split at taken <;> cases taken
  · exact .stopServer rfl
  · exact .cancelCt rfl
  · exact .easyTierStopped rfl
  · exact .easyTierFailed rfl _

/-- The steps of a center and of its tasks. -/
inductive CenterMove (config : CenterConfig) (center : ScaffoldingCenter) :
    CenterAction → ScaffoldingCenter → Prop
  | setPlayerPingHandler :
      CenterMove config center .setPlayerPingHandler { center with pingHook := true }
  | start (ct : CtId) :
      CenterMove config center (.start ct)
        { center with starts := center.starts ++ [⟨ct, .scanning⟩] }
  | startStep {n : Nat} {call : StartCall} {step : StartStep} {next : ScaffoldingCenter}
      (listed : center.starts[n]? = some call)
      (move : StartMove config center n call step next) :
      CenterMove config center (.startStep n step) next
  | close : CenterMove config center .close { center with closes := center.closes ++ [.begun] }
  | closeStep {n : Nat} {phase : ClosePhase} {step : CloseStep} {next : ScaffoldingCenter}
      (listed : center.closes[n]? = some phase) (move : CloseMove center n phase step next) :
      CenterMove config center (.closeStep n step) next
  | cancel (ct : CtId) :
      CenterMove config center (.cancel ct) { center with cancelled := ct :: center.cancelled }
  | task {t : TaskId} {task : ServerTask} {step : TaskStep} {next : ScaffoldingCenter}
      (listed : center.tasks[t]? = some task) (move : TaskMove center t task step next) :
      CenterMove config center (.task t step) next
  | registry {id : ServerId} {record : ServerRecord} (listed : center.servers[id]? = some record)
      (op : RegistryOp) :
      CenterMove config center (.registry id op)
        { center with
          servers := center.servers.set id { record with registry := op.apply record.registry } }
  | players (update : PlayerUpdate) :
      CenterMove config center (.players update)
        { center with players := update.apply center.players }

theorem centerStep_eq_some {config : CenterConfig} {center next : ScaffoldingCenter}
    {action : CenterAction} (taken : centerStep config center action = some next) :
    CenterMove config center action next := by
  unfold centerStep at taken
  split at taken
  case h_3 =>
    split at taken
    · next listed => exact .startStep listed (startEffect_eq_some taken)
    · cases taken
  case h_5 =>
    split at taken
    · next listed => exact .closeStep listed (closeEffect_eq_some taken)
    · cases taken
  case h_7 =>
    split at taken
    · next listed => exact .task listed (taskEffect_eq_some taken)
    · cases taken
  case h_8 op =>
    split at taken
    · next listed =>
        cases taken
        exact .registry listed op
    · cases taken
  all_goals cases taken
  · exact .setPlayerPingHandler
  · exact .start _
  · exact .close
  · exact .cancel _
  · exact .players _

/-! ## Who owns a server -/

/-- The server a task has taken out of the cell and not put back. -/
def TaskPhase.held : TaskPhase → Option TcpServer
  | .starting server => some server
  | .accepting server => some server
  | .returning server => server
  | _ => none

/-- The number of the server in the cell (`none`) or in the hands of a task. -/
def ScaffoldingCenter.holds (center : ScaffoldingCenter) : Option TaskId → Option ServerId
  | none => center.cell.map TcpServer.id
  | some t => (center.tasks[t]?).bind fun task => task.phase.held.map TcpServer.id

/-- No server is in two places, and every server was built by a `start`. -/
structure ScaffoldingCenter.Owned (center : ScaffoldingCenter) : Prop where
  distinct : ∀ p q id, center.holds p = some id → center.holds q = some id → p = q
  built : ∀ p id, center.holds p = some id → id < center.servers.length

namespace ScaffoldingCenter

variable {config : CenterConfig} {center next : ScaffoldingCenter}

/-- Servers that only change places stay owned. -/
theorem Owned.of_rename (owned : center.Owned) (rename : Equiv.Perm (Option TaskId))
    (held : ∀ p id, next.holds p = some id → center.holds (rename p) = some id)
    (grows : center.servers.length ≤ next.servers.length) : next.Owned where
  distinct p q id first second :=
    rename.injective (owned.distinct _ _ id (held p id first) (held q id second))
  built p id first := Nat.lt_of_lt_of_le (owned.built _ id (held p id first)) grows

theorem Owned.of_same (owned : center.Owned) (cell : next.cell = center.cell)
    (tasks : next.tasks = center.tasks) (grows : center.servers.length ≤ next.servers.length) :
    next.Owned := by
  refine owned.of_rename (Equiv.refl _) ?_ grows
  intro p id found
  cases p with
  | none => rw [holds, cell] at found; exact found
  | some t => rw [holds, tasks] at found; exact found

/-- The places after one task has moved. -/
theorem holds_of_set {t : TaskId} {task : ServerTask} {phase : TaskPhase}
    (listed : center.tasks[t]? = some task)
    (tasks : next.tasks = center.tasks.set t { task with phase := phase }) (u : TaskId) :
    next.holds (some u) =
      if u = t then phase.held.map TcpServer.id else center.holds (some u) := by
  rw [holds, tasks, getElem?_set_listed listed]
  split
  · rfl
  · rfl

/-- Nothing is built, the cell keeps its server, and no task gets hold of another one. -/
theorem Owned.of_tasks (owned : center.Owned) (cell : next.cell = center.cell)
    (keeps : ∀ u id, next.holds (some u) = some id → center.holds (some u) = some id)
    (servers : next.servers = center.servers) : next.Owned := by
  apply owned.of_rename (Equiv.refl _) ?_ (Nat.le_of_eq (congrArg List.length servers.symm))
  intro p id found
  cases p with
  | none => rw [holds, cell] at found; exact found
  | some u => exact keeps u id found

/-- A task that keeps the server it holds, or lets it go. -/
theorem Owned.of_keeping (owned : center.Owned) {t : TaskId} {task : ServerTask}
    {phase : TaskPhase} (listed : center.tasks[t]? = some task)
    (tasks : next.tasks = center.tasks.set t { task with phase := phase })
    (cell : next.cell = center.cell)
    (keeps : phase.held.map TcpServer.id = task.phase.held.map TcpServer.id)
    (servers : next.servers = center.servers) : next.Owned := by
  apply owned.of_tasks cell ?_ servers
  intro u id found
  rw [holds_of_set listed tasks] at found
  split at found
  · next same =>
      subst same
      rw [holds, listed, Option.bind_some, ← keeps, found]
  · exact found

/-- A task and the cell that exchange what they hold. -/
theorem Owned.of_exchange (owned : center.Owned) {t : TaskId} {task : ServerTask}
    {phase : TaskPhase} (listed : center.tasks[t]? = some task)
    (tasks : next.tasks = center.tasks.set t { task with phase := phase })
    (toCell : ∀ id, next.cell.map TcpServer.id = some id →
      task.phase.held.map TcpServer.id = some id)
    (toTask : ∀ id, phase.held.map TcpServer.id = some id →
      center.cell.map TcpServer.id = some id)
    (servers : next.servers = center.servers) : next.Owned := by
  refine owned.of_rename (Equiv.swap none (some t)) ?_
    (Nat.le_of_eq (congrArg List.length servers.symm))
  intro p id found
  cases p with
  | none =>
      rw [Equiv.swap_apply_left, holds, listed, Option.bind_some]
      exact toCell id found
  | some u =>
      rw [holds_of_set listed tasks] at found
      split at found
      · next same =>
          rw [same, Equiv.swap_apply_right]
          exact toTask id found
      · next other =>
          rw [Equiv.swap_apply_of_ne_of_ne (by simp) (by simpa using other)]
          exact found

theorem Owned.task (owned : center.Owned) {t : TaskId} {task : ServerTask}
    (listed : center.tasks[t]? = some task) {step : TaskStep}
    (move : TaskMove center t task step next) : next.Owned := by
  cases move with
  | take phase =>
      refine owned.of_exchange listed rfl (fun id found => (by cases found)) ?_ rfl
      cases center.cell with
      | some server => exact fun id found => found
      | none => exact fun id found => found
  | bound phase _ | bindFailed phase _ | refused phase _ | stopped phase _ =>
      exact owned.of_keeping listed rfl rfl (by rw [phase]; rfl) rfl
  | putBack phase =>
      refine owned.of_exchange listed rfl ?_ (fun id found => (by cases found)) rfl
      rw [phase]
      exact fun id found => found

/-- A new server goes into the cell. -/
theorem Owned.of_built (owned : center.Owned) {server : TcpServer} {record : ServerRecord}
    (new : server.id = center.servers.length) (cell : next.cell = some server)
    (tasks : next.tasks = center.tasks) (servers : next.servers = center.servers ++ [record]) :
    next.Owned := by
  have held (t : TaskId) : next.holds (some t) = center.holds (some t) := by
    rw [holds, holds, tasks]
  have inCell : next.holds none = some center.servers.length := by
    rw [holds, cell, ← new]
    rfl
  have older {t : TaskId} {id : ServerId} (found : next.holds (some t) = some id) :
      id < center.servers.length := owned.built _ id (held t ▸ found)
  constructor
  · intro p q id first second
    cases p with
    | none =>
        rw [inCell, Option.some.injEq] at first
        cases q with
        | none => rfl
        | some t => exact absurd (older second) (Nat.not_lt.mpr (Nat.le_of_eq first))
    | some t =>
        cases q with
        | none =>
            rw [inCell, Option.some.injEq] at second
            exact absurd (older first) (Nat.not_lt.mpr (Nat.le_of_eq second))
        | some u =>
            rw [held] at first second
            exact owned.distinct _ _ id first second
  · intro p id found
    rw [servers, List.length_append, List.length_singleton]
    cases p with
    | none =>
        rw [inCell, Option.some.injEq] at found
        exact found ▸ Nat.lt_succ_self _
    | some t => exact Nat.lt_succ_of_lt (older found)

/-- A new task holds nothing. -/
theorem Owned.of_spawned (owned : center.Owned) {ct : CtId} (cell : next.cell = center.cell)
    (tasks : next.tasks = center.tasks ++ [⟨ct, .spawned⟩])
    (servers : next.servers = center.servers) : next.Owned := by
  apply owned.of_tasks cell ?_ servers
  intro t id found
  rw [holds, tasks] at found
  rcases Option.bind_eq_some_iff.mp found with ⟨task, listed, held⟩
  rcases getElem?_concat listed with old | ⟨_, rfl⟩
  · exact Option.bind_eq_some_iff.mpr ⟨task, old, held⟩
  · cases held

theorem Owned.start (owned : center.Owned) {n : Nat} {call : StartCall} {step : StartStep}
    (move : StartMove config center n call step next) : next.Owned := by
  cases move with
  | storeServer phase => exact owned.of_built rfl rfl rfl rfl
  | spawnTask phase => exact owned.of_spawned rfl rfl rfl
  | _ => exact owned.of_same rfl rfl (Nat.le_refl _)

theorem Owned.of_emptied (owned : center.Owned) (cell : next.cell = none)
    (tasks : next.tasks = center.tasks) (servers : next.servers = center.servers) :
    next.Owned := by
  refine owned.of_rename (Equiv.refl _) ?_ (Nat.le_of_eq (congrArg List.length servers.symm))
  intro p id found
  cases p with
  | none => rw [holds, cell] at found; cases found
  | some t => rw [holds, tasks] at found; exact found

theorem Owned.close (owned : center.Owned) {n : Nat} {phase : ClosePhase} {step : CloseStep}
    (move : CloseMove center n phase step next) : next.Owned := by
  cases move with
  | stopServer begun => exact owned.of_emptied rfl rfl rfl
  | _ => exact owned.of_same rfl rfl (Nat.le_refl _)

theorem Owned.step (owned : center.Owned) {action : CenterAction}
    (taken : centerStep config center action = some next) : next.Owned := by
  cases centerStep_eq_some taken with
  | task listed move => exact owned.task listed move
  | startStep listed move => exact owned.start move
  | closeStep listed move => exact owned.close move
  | registry listed op => exact owned.of_same rfl rfl (Nat.le_of_eq List.length_set.symm)
  | _ => exact owned.of_same rfl rfl (Nat.le_refl _)

theorem owned_new : ScaffoldingCenter.new.Owned where
  distinct := by
    intro p q id found
    cases p <;> cases found
  built := by
    intro p id found
    cases p <;> cases found

theorem owned_run {actions : List CenterAction}
    (reached : run (centerStep config) ScaffoldingCenter.new actions = some center) :
    center.Owned :=
  reachable_invariant owned_new (fun _ _ _ owned taken => owned.step taken) reached

end ScaffoldingCenter

/-! ## Kicking a player of the running server -/

namespace ScaffoldingCenter

/-- Call `n` of `start` has returned `Ok`, the task it spawned runs the accept loop of
server `id`, and the token of the call is not cancelled. -/
def Serves (center : ScaffoldingCenter) (n : Nat) (id : ServerId) : Prop :=
  ∃ t task server, ((center.starts[n]?).bind fun call => call.phase.succeeded) = some t ∧
    center.tasks[t]? = some task ∧ task.phase = .accepting server ∧ server.id = id ∧
    task.ct ∉ center.cancelled

/-- The machine id recorded in the registry of a server for an address. -/
def machineOf (center : ScaffoldingCenter) (id : ServerId) (clientId : String) : Option String :=
  (center.servers[id]?).bind fun record => record.registry.clientMachine.lookup clientId

def tokenOf (center : ScaffoldingCenter) (id : ServerId) (clientId : String) : Option ConnId :=
  (center.servers[id]?).bind fun record => record.registry.activeClients.lookup clientId

def ipOf (center : ScaffoldingCenter) (id : ServerId) (clientId : String) : Option String :=
  (center.servers[id]?).bind fun record => record.registry.clientIp.lookup clientId

/-- Server `id` has a registered connection with the machine id. -/
def Connected (center : ScaffoldingCenter) (id : ServerId) (machineId : String) : Prop :=
  ∃ clientId token clientIp, center.machineOf id clientId = some machineId ∧
    center.tokenOf id clientId = some token ∧ center.ipOf id clientId = some clientIp

/-- `disconnect_machine` returns `true` and cancels a connection of server `id` with the
machine id, and `machine_source_ip` returns the address of one. -/
def Finds (center : ScaffoldingCenter) (id : ServerId) (order : List (String × String))
    (machineId : String) : Prop :=
  (∃ clientId token, center.machineOf id clientId = some machineId ∧
    center.tokenOf id clientId = some token ∧
    center.disconnectMachine order machineId = some (id, token)) ∧
  ∃ clientId clientIp, center.machineOf id clientId = some machineId ∧
    center.ipOf id clientId = some clientIp ∧
    center.machineSourceIp order machineId = some clientIp

/-- The cell does not hold server `id`, and each of the two calls misses it: what they cancel
or return, if anything, belongs to another server. -/
structure Misses (center : ScaffoldingCenter) (id : ServerId) (order : List (String × String))
    (machineId : String) : Prop where
  cell : center.holds none ≠ some id
  disconnectMachine : ∀ token, center.disconnectMachine order machineId ≠ some (id, token)
  machineSourceIp : ∀ clientIp, center.machineSourceIp order machineId = some clientIp →
    ∃ other record, other ≠ id ∧ center.servers[other]? = some record ∧
      record.registry.machineSourceIp order machineId = some clientIp

/-- Both calls look into the server that the cell holds. -/
theorem misses_of_cell {center : ScaffoldingCenter} {id : ServerId}
    (cell : center.holds none ≠ some id) (order : List (String × String)) (machineId : String) :
    center.Misses id order machineId := by
  refine ⟨cell, ?_, ?_⟩
  · intro token disconnects
    rw [disconnectMachine] at disconnects
    split at disconnects
    · next server found =>
        split at disconnects
        · rcases Option.map_eq_some_iff.mp disconnects with ⟨_, _, same⟩
          apply cell
          rw [holds, found, ← (Prod.mk.inj same).1]
          rfl
        · cases disconnects
    · cases disconnects
  · intro clientIp returns
    rw [machineSourceIp] at returns
    split at returns
    · next server found =>
        split at returns
        · next record listed =>
            refine ⟨server.id, record, ?_, listed, returns⟩
            intro same
            apply cell
            rw [holds, found, ← same]
            rfl
        · cases returns
    · cases returns

/-- While the accept loop of a server runs, its task owns the server and the cell does not hold
it, so `disconnect_machine` and `machine_source_ip` miss it, whoever is connected to it. -/
theorem running_server_not_found {config : CenterConfig} {actions : List CenterAction}
    {center : ScaffoldingCenter}
    (reached : run (centerStep config) ScaffoldingCenter.new actions = some center) {n : Nat}
    {id : ServerId} (serves : center.Serves n id) (order : List (String × String))
    (machineId : String) :
    center.Misses id order machineId ∧ ¬ center.Finds id order machineId := by
  rcases serves with ⟨t, task, server, _, listed, accepting, isServer, _⟩
  have byTask : center.holds (some t) = some id := by
    rw [holds, listed, Option.bind_some, accepting, ← isServer]
    rfl
  have misses : center.Misses id order machineId := by
    refine misses_of_cell (fun inCell => ?_) order machineId
    cases (owned_run reached).distinct _ _ id byTask inCell
  refine ⟨misses, ?_⟩
  rintro ⟨⟨_, token, _, _, disconnects⟩, _⟩
  exact misses.disconnectMachine token disconnects

end ScaffoldingCenter

def sampleCenter : CenterConfig := sampleConfig.toCenterConfig

/-- `start` up to the accept loop of the new server. -/
def sampleOpening : List CenterAction :=
  [.start 0, .startStep 0 (.scan 1025), .startStep 0 .readHook, .startStep 0 .storeServer,
    .startStep 0 .spawnTask, .task 0 .take, .task 0 .bound]

/-- EasyTier starts and the host is enlisted. -/
def sampleEnlisting : List CenterAction :=
  [.startStep 0 (.easyTierStarted (some "peer-1")), .startStep 0 .enlist]

/-- A guest connects to the server and pings. -/
def sampleGuest : List CenterAction :=
  [.registry 0 (.insertActive "10.144.144.5:54321" 0),
    .registry 0 (.insertIp "10.144.144.5:54321" "10.144.144.5"),
    .players (.ping (fun _ => true) ⟨"Guest", "g1", none, "qml", .host⟩),
    .registry 0 (.insertHeartbeat "10.144.144.5:54321" 0),
    .registry 0 (.insertMachine "10.144.144.5:54321" "g1")]

def sampleRoom : ScaffoldingCenter :=
  (run (centerStep sampleCenter) ScaffoldingCenter.new
    (sampleOpening ++ sampleEnlisting ++ sampleGuest)).getD ScaffoldingCenter.new

theorem sampleRoom_reached :
    run (centerStep sampleCenter) ScaffoldingCenter.new
      (sampleOpening ++ sampleEnlisting ++ sampleGuest) = some sampleRoom :=
  run_eq_getD (by decide +kernel)

theorem sampleRoom_serves : sampleRoom.Serves 0 0 :=
  ⟨0, ⟨0, .accepting ⟨0, true, 1025, some 0⟩⟩, _, by decide +kernel, by decide +kernel, rfl, rfl,
    by decide +kernel⟩

theorem sampleRoom_connected : sampleRoom.Connected 0 "g1" :=
  ⟨"10.144.144.5:54321", 0, "10.144.144.5", by decide +kernel, by decide +kernel,
    by decide +kernel⟩

/-- A guest of an open room that the center cannot find. -/
theorem running_server_not_found_sample :
    sampleRoom.Serves 0 0 ∧ sampleRoom.Connected 0 "g1" ∧
      ∀ order, sampleRoom.Misses 0 order "g1" ∧ ¬ sampleRoom.Finds 0 order "g1" :=
  ⟨sampleRoom_serves, sampleRoom_connected, fun order =>
    ScaffoldingCenter.running_server_not_found sampleRoom_reached sampleRoom_serves order "g1"⟩

/-- In the open room a kick reports that nobody was found. -/
theorem sampleRoom_kick_fails :
    run (centerStep sampleCenter) ScaffoldingCenter.new
        (sampleOpening ++ sampleEnlisting ++ sampleGuest) = some sampleRoom ∧
      sampleRoom.Serves 0 0 ∧ sampleRoom.Connected 0 "g1" ∧
      ∀ order, sampleRoom.disconnectMachine order "g1" = none ∧
        sampleRoom.machineSourceIp order "g1" = none := by
  have empty : sampleRoom.cell = none := by decide +kernel
  refine ⟨sampleRoom_reached, sampleRoom_serves, sampleRoom_connected, fun order => ?_⟩
  rw [ScaffoldingCenter.disconnectMachine, ScaffoldingCenter.machineSourceIp, empty]
  exact ⟨rfl, rfl⟩

/-! ## The list of players -/

/-- The step does not enlist the host under a machine id that is on the list. -/
def EnlistsNew (config : CenterConfig) (center : ScaffoldingCenter) : CenterAction → Prop
  | .startStep _ .enlist => config.machineId ∉ machineIds center.players
  | _ => True

section Players

variable {config : CenterConfig} {center next : ScaffoldingCenter} {action : CenterAction}

/-- What the steps of a call of `start` do to the players. -/
theorem StartMove.players {n : Nat} {call : StartCall} {step : StartStep}
    (move : StartMove config center n call step next) :
    (step = .enlist ∧ ∃ nodeId, next.players = center.players ++ [hostEntry config nodeId]) ∨
      step ≠ .enlist ∧ next.players = center.players := by
  cases move with
  | enlist phase => exact Or.inl ⟨rfl, _, rfl⟩
  | _ => exact Or.inr ⟨by simp, rfl⟩

theorem TaskMove.players {t : TaskId} {task : ServerTask} {step : TaskStep}
    (move : TaskMove center t task step next) : next.players = center.players := by
  cases move <;> rfl

theorem CloseMove.players {n : Nat} {phase : ClosePhase} {step : CloseStep}
    (move : CloseMove center n phase step next) : next.players = center.players := by
  cases move <;> rfl

/-- A step enlists the host, performs one of the other updates, or leaves the players
alone. -/
theorem centerStep_players (taken : centerStep config center action = some next) :
    (∃ n nodeId, action = .startStep n .enlist ∧
        next.players = center.players ++ [hostEntry config nodeId]) ∨
      (∀ n, action ≠ .startStep n .enlist) ∧ (next.players = center.players ∨
        ∃ update : PlayerUpdate, next.players = update.apply center.players) := by
  cases centerStep_eq_some taken with
  | players update => exact Or.inr ⟨by simp, Or.inr ⟨update, rfl⟩⟩
  | @startStep n call step _ listed move =>
      rcases move.players with ⟨rfl, nodeId, enlisted⟩ | ⟨other, same⟩
      · exact Or.inl ⟨n, nodeId, rfl, enlisted⟩
      · exact Or.inr ⟨by simpa using other, Or.inl same⟩
  | task listed move => exact Or.inr ⟨by simp, Or.inl move.players⟩
  | closeStep listed move => exact Or.inr ⟨by simp, Or.inl move.players⟩
  | _ => exact Or.inr ⟨by simp, Or.inl rfl⟩

theorem hostOnlyAs_step (before : HostOnlyAs config.machineId center.players)
    (new : EnlistsNew config center action)
    (taken : centerStep config center action = some next) :
    HostOnlyAs config.machineId next.players := by
  rcases centerStep_players taken with ⟨n, nodeId, rfl, enlisted⟩ | ⟨_, same | ⟨update, updated⟩⟩
  · rw [enlisted]
    exact before.enlist rfl new
  · rw [same]
    exact before
  · rw [updated]
    exact before.apply update

/-- A step that keeps the list as it should be enlists the host only where its machine
id is free. -/
theorem enlistsNew_of_wellListed (taken : centerStep config center action = some next)
    (listed : WellListed next.players) : EnlistsNew config center action := by
  rcases centerStep_players taken with ⟨n, nodeId, rfl, enlisted⟩ | ⟨other, _⟩
  · intro repeated
    rw [enlisted] at listed
    exact not_wellListed_append repeated listed
  · unfold EnlistsNew
    split
    · next n => exact absurd rfl (other n)
    · trivial

/-- Machine ids stay distinct and the host stays alone in a run exactly when every
`start` that enlists the host finds its machine id free. -/
theorem wellListed_iff {actions : List CenterAction} {final : ScaffoldingCenter}
    (reached : run (centerStep config) ScaffoldingCenter.new actions = some final) :
    EveryState (centerStep config) ScaffoldingCenter.new
        (fun center => WellListed center.players) actions ↔
      EveryStep (centerStep config) ScaffoldingCenter.new
        (fun _ center action => EnlistsNew config center action) actions := by
  constructor
  · intro listed past action later center split before
    rw [split] at reached
    rcases run_append_eq_some.mp reached with ⟨middle, first, rest⟩
    cases before.symm.trans first
    rcases run_cons_eq_some.mp rest with ⟨next, taken, _⟩
    apply enlistsNew_of_wellListed taken
    exact listed (past ++ [action]) later next (by simp [split])
      (run_concat_eq_some.mpr ⟨center, before, taken⟩)
  · intro every past later center split before
    rw [split] at every
    have invariant : HostOnlyAs config.machineId center.players := by
      refine run_invariant (fun _ center => HostOnlyAs config.machineId center.players)
        (HostOnlyAs.nil config.machineId) ?_ every.before before
      exact fun _ _ _ _ _ listed new taken => hostOnlyAs_step listed new taken
    exact invariant.wellListed

end Players

theorem wellListed_iff_sample :
    EveryState (centerStep sampleCenter) ScaffoldingCenter.new
        (fun center => WellListed center.players) (sampleOpening ++ sampleEnlisting ++ sampleGuest) ↔
      EveryStep (centerStep sampleCenter) ScaffoldingCenter.new
        (fun _ center action => EnlistsNew sampleCenter center action)
        (sampleOpening ++ sampleEnlisting ++ sampleGuest) :=
  wellListed_iff sampleRoom_reached

/-- A room that is closed and opened again. -/
def sampleReopening : List CenterAction :=
  sampleOpening ++ sampleEnlisting ++
    [.close, .closeStep 0 .stopServer, .closeStep 0 .cancelCt, .closeStep 0 .easyTierStopped,
      .task 0 .stopped, .task 0 .putBack, .start 1, .startStep 1 (.scan 1025),
      .startStep 1 .readHook, .startStep 1 .storeServer, .startStep 1 .spawnTask,
      .task 1 .take, .task 1 .bound, .startStep 1 (.easyTierStarted (some "peer-1")),
      .startStep 1 .enlist]

/-- The host is on the list of the reopened room twice. -/
theorem reopened_not_wellListed :
    ∃ center, run (centerStep sampleCenter) ScaffoldingCenter.new sampleReopening = some center ∧
      machineIds center.players = ["h1", "h1"] ∧ hostCount center.players = 2 ∧
      ¬ WellListed center.players :=
  ⟨_, run_eq_getD (by decide +kernel), by decide +kernel, by decide +kernel, by decide +kernel⟩

/-! ## The events of a server -/

/-- Every event of a server but the enlisting of the host acts on its registry and on the
players as this model lets them be acted on. -/
theorem HostMove.environment {config : HostConfig} {host next : Host} {action : Action}
    (move : HostMove config host action next) (noEnlist : ∀ nodeId, action ≠ .enlistHost nodeId) :
    (∃ ops : List RegistryOp, next.registry = ops.foldl RegistryOp.apply host.registry) ∧
      ∃ updates : List PlayerUpdate,
        next.players = updates.foldl PlayerUpdate.apply host.players := by
  cases move with
  | @conn i conn step effect listed move =>
      constructor
      · cases move with
        | insertActive phase => exact ⟨[.insertActive conn.clientId i], rfl⟩
        | insertIp phase => exact ⟨[.insertIp conn.clientId conn.clientIp], rfl⟩
        | stamped phase recorded => exact ⟨[.insertHeartbeat conn.clientId host.now], rfl⟩
        | stampedOnly phase unrecorded => exact ⟨[.insertHeartbeat conn.clientId host.now], rfl⟩
        | @insertMachine machineId phase => exact ⟨[.insertMachine conn.clientId machineId], rfl⟩
        | removeActive phase => exact ⟨[.removeActive conn.clientId], rfl⟩
        | removeHeartbeat phase => exact ⟨[.removeHeartbeat conn.clientId], rfl⟩
        | removeIp phase => exact ⟨[.removeIp conn.clientId], rfl⟩
        | removeMachine phase => exact ⟨[.removeMachine conn.clientId], rfl⟩
        | _ => exact ⟨[], rfl⟩
      · rcases move.players with same | ⟨request, choice, _, _, players, _⟩
        · exact ⟨[], same⟩
        · rcases hostDispatch_updates config choice request host.players with ⟨updates, same⟩
          exact ⟨updates, players.trans same⟩
  | loop move =>
      refine ⟨?_, [], rfl⟩
      cases move with
      | @expire now id later phase => exact ⟨[.removeHeartbeat id], rfl⟩
      | @cancelExpired now id later phase => exact ⟨[.removeActive id], rfl⟩
      | _ => exact ⟨[], rfl⟩
  | @kickCancel clientId found => exact ⟨⟨[.removeActive clientId], rfl⟩, [], rfl⟩
  | @consume attempts message later queued =>
      exact ⟨⟨[], rfl⟩, [.disconnected attempts (disconnectedMachine message)], rfl⟩
  | removePlayer attempts machineId =>
      exact ⟨⟨[], rfl⟩, [.disconnected attempts (some machineId)], rfl⟩
  | handlePlayerPing attempts info => exact ⟨⟨[], rfl⟩, [.ping attempts info], rfl⟩
  | enlistHost nodeId => exact absurd rfl (noEnlist nodeId)
  | _ => exact ⟨⟨[], rfl⟩, [], rfl⟩

end Center
end QomicexConnector
