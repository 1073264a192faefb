import QomicexConnector.Center.ScaffoldingCenter

namespace QomicexConnector
namespace Client

open Library Center

/-!
# The rooms a client manages

The centers and guests made by `create_room` and `join_room`, and what `close` and
`leave` do to the cancellation tokens the caller passed in.  Clones of a token share its
state, so a token is a name here and there is one set of cancelled names.  A center is
the one of `Center.ScaffoldingCenter`, its steps run on that set; of a guest only the
heartbeat matters, since nothing else it does cancels a token.

Every loop of a room selects on the token of the caller itself: the accept loop, the
timeout loop and the connections of a center on the `ct` of its server task, the
heartbeat of a guest on the `ct` of `connect`.  Closing a room cancels that token.
-/

/-! ## Guests -/

/-- Where `join_room` stands with a guest. -/
inductive JoinPhase where
  | connecting
  | heartbeating
  | joined
  | failed
  deriving DecidableEq

/-- A guest; `running` tells whether its heartbeat loop does. -/
structure ManagedGuest where
  ct : CtId
  phase : JoinPhase
  heartbeatCt : Option CtId
  running : Bool
  left : Bool
  deriving DecidableEq

/-- The steps of a guest.  `start_heartbeat` first spawns the loop and then stores its
token; `leave` is the call of the caller or, after a failure, that of `join_room`. -/
inductive GuestStep where
  | connectFailed
  | spawnHeartbeat
  | storeCt
  | heartbeatEnded
  | leave

/-- A step of a guest, and the tokens it cancels. -/
def guestEffect (guest : ManagedGuest) : GuestStep → Option (ManagedGuest × List CtId)
  | .connectFailed =>
      if guest.phase = .connecting then some ({ guest with phase := .failed }, []) else none
  | .spawnHeartbeat =>
      if guest.phase = .connecting then
        some ({ guest with phase := .heartbeating, running := true }, [])
      else none
  | .storeCt =>
      if guest.phase = .heartbeating then
        some ({ guest with phase := .joined, heartbeatCt := some guest.ct }, [])
      else none
  | .heartbeatEnded => some ({ guest with running := false }, [])
  | .leave =>
      if guest.phase = .joined ∨ guest.phase = .failed then
        some ({ guest with heartbeatCt := none, left := true }, guest.heartbeatCt.toList)
      else none

/-! ## All rooms -/

structure ManagedCenter where
  config : CenterConfig
  center : ScaffoldingCenter

structure ManagedRooms where
  centers : List ManagedCenter
  guests : List ManagedGuest
  cancelled : List CtId

inductive Room where
  | center (i : Nat)
  | guest (j : Nat)
  deriving DecidableEq

inductive RoomAction where
  | createRoom (config : CenterConfig) (pingHook : Bool) (ct : CtId)
  | center (i : Nat) (action : CenterAction)
  | joinRoom (ct : CtId)
  | guest (j : Nat) (step : GuestStep)
  | cancel (ct : CtId)

namespace ManagedRooms

def new : ManagedRooms := ⟨[], [], []⟩

/-- A center as its next step finds it. -/
def seen (rooms : ManagedRooms) (managed : ManagedCenter) : ScaffoldingCenter :=
  { managed.center with cancelled := rooms.cancelled }

def step (rooms : ManagedRooms) : RoomAction → Option ManagedRooms
  | .createRoom config pingHook ct =>
      some { rooms with
        centers := rooms.centers ++ [⟨config, { ScaffoldingCenter.new with
          pingHook := pingHook
          starts := [⟨ct, .scanning⟩] }⟩] }
  | .center i action =>
      match rooms.centers[i]? with
      | some managed =>
          (centerStep managed.config (rooms.seen managed) action).map fun next =>
            { rooms with
              centers := rooms.centers.set i { managed with center := next }
              cancelled := next.cancelled }
      | none => none
  | .joinRoom ct =>
      some { rooms with guests := rooms.guests ++ [⟨ct, .connecting, none, false, false⟩] }
  | .guest j step =>
      match rooms.guests[j]? with
      | some guest =>
          (guestEffect guest step).map fun effect =>
            { rooms with
              guests := rooms.guests.set j effect.1
              cancelled := effect.2 ++ rooms.cancelled }
      | none => none
  | .cancel ct => some { rooms with cancelled := ct :: rooms.cancelled }

/-! ## Isolation -/

/-- The tokens on which loops of a room run that is neither closed nor left. -/
def inUse (rooms : ManagedRooms) : Room → List CtId
  | .center i =>
      match rooms.centers[i]? with
      | some managed =>
          if managed.center.closes.isEmpty then
            managed.center.tasks.filterMap fun task =>
              match task.phase with
              | .accepting _ => some task.ct
              | _ => none
          else []
      | none => []
  | .guest j =>
      match rooms.guests[j]? with
      | some guest => if guest.running && !guest.left then [guest.ct] else []
      | none => []

/-- The room that a step closes or leaves. -/
def closing : RoomAction → Option Room
  | .center i (.closeStep _ _) => some (.center i)
  | .guest j .leave => some (.guest j)
  | _ => none

/-- A step of `close` or `leave` cancels no token under a loop of another open room. -/
def StopsNoOther (rooms : ManagedRooms) (action : RoomAction) : Prop :=
  ∀ room next, closing action = some room → step rooms action = some next →
    ∀ other, other ≠ room → ∀ ct ∈ rooms.inUse other, ct ∉ rooms.cancelled → ct ∉ next.cancelled

/-- A step of `close` or `leave` cancels no token of the caller. -/
def KeepsTokens (rooms : ManagedRooms) (action : RoomAction) : Prop :=
  ∀ room next, closing action = some room → step rooms action = some next →
    ∀ ct, ct ∉ rooms.cancelled → ct ∉ next.cancelled

def Isolated (rooms : ManagedRooms) (action : RoomAction) : Prop :=
  StopsNoOther rooms action ∧ KeepsTokens rooms action

/-- The token that a step of `close` takes out of `server_ct`. -/
def closeToken (center : ScaffoldingCenter) : CloseStep → Option CtId
  | .cancelCt => center.serverCt
  | _ => none

/-- The token that a step of `close` or `leave` takes out of its room to cancel it. -/
def stored (rooms : ManagedRooms) : RoomAction → Option CtId
  | .center i (.closeStep _ step) =>
      (rooms.centers[i]?).bind fun managed => closeToken managed.center step
  | .guest j .leave => (rooms.guests[j]?).bind ManagedGuest.heartbeatCt
  | _ => none

/-- The token the step finds is cancelled already. -/
def FindsCancelled (rooms : ManagedRooms) (action : RoomAction) : Prop :=
  (step rooms action).isSome = true → ∀ ct, stored rooms action = some ct → ct ∈ rooms.cancelled

/-- The token the step finds is cancelled already or runs no other open room. -/
def FindsUnshared (rooms : ManagedRooms) (action : RoomAction) : Prop :=
  ∀ room, closing action = some room → (step rooms action).isSome = true →
    ∀ ct, stored rooms action = some ct →
      ct ∈ rooms.cancelled ∨ ∀ other, other ≠ room → ct ∉ rooms.inUse other

/-! ## Servers in the cell are stopped -/

/-- A server that waits in the cell, or to be put back there, has no live token. -/
structure Settled (center : ScaffoldingCenter) (cancelled : List CtId) : Prop where
  cell : ∀ server ct, center.cell = some server → server.cts = some ct → ct ∈ cancelled
  returning : ∀ task ∈ center.tasks, ∀ server ct, task.phase = .returning (some server) →
    server.cts = some ct → ct ∈ cancelled

theorem Settled.mono {center : ScaffoldingCenter} {cancelled more : List CtId}
    (settled : Settled center cancelled) (grows : cancelled ⊆ more) : Settled center more where
  cell server ct inside holds := grows (settled.cell server ct inside holds)
  returning task listed server ct phase holds :=
    grows (settled.returning task listed server ct phase holds)

section CenterSteps

variable {config : CenterConfig} {center next : ScaffoldingCenter}

/-- A step that touches neither the cell nor the tasks. -/
theorem Settled.of_same (settled : Settled center center.cancelled)
    (cell : next.cell = center.cell) (tasks : next.tasks = center.tasks)
    (grows : center.cancelled ⊆ next.cancelled) : Settled next next.cancelled := by
  refine Settled.mono ⟨?_, ?_⟩ grows
  · rw [cell]
    exact settled.cell
  · rw [tasks]
    exact settled.returning

/-- A task that moves on, and what it leaves in the cell. -/
theorem Settled.of_moved (settled : Settled center center.cancelled) {t : TaskId}
    {task : ServerTask} {phase : TaskPhase}
    (tasks : next.tasks = center.tasks.set t { task with phase := phase })
    (grows : center.cancelled ⊆ next.cancelled)
    (cell : ∀ server ct, next.cell = some server → server.cts = some ct → ct ∈ next.cancelled)
    (moved : ∀ server ct, phase = .returning (some server) → server.cts = some ct →
      ct ∈ next.cancelled) : Settled next next.cancelled := by
  refine ⟨cell, ?_⟩
  intro other listed server ct returning holds
  rw [tasks] at listed
  rcases List.mem_or_eq_of_mem_set listed with old | rfl
  · exact grows (settled.returning other old server ct returning holds)
  · exact moved server ct returning holds

theorem Settled.task (settled : Settled center center.cancelled) {t : TaskId}
    {task : ServerTask} (listed : center.tasks[t]? = some task) {step : TaskStep}
    (move : TaskMove center t task step next) :
    center.cancelled ⊆ next.cancelled ∧ Settled next next.cancelled := by
  have stops : ∀ server : TcpServer, center.cancelled ⊆ (center.stopTask t task server).cancelled ∧
      Settled (center.stopTask t task server) (center.stopTask t task server).cancelled := by
    intro server
    have grows : center.cancelled ⊆ (center.stopTask t task server).cancelled :=
      List.subset_append_right _ _
    refine ⟨grows, settled.of_moved rfl grows ?_ ?_⟩
    · exact fun other ct inside holds => grows (settled.cell other ct inside holds)
    · rintro other ct returning holds
      cases returning
      exact List.mem_append_left _ (Option.mem_toList.mpr holds)
  cases move with
  | take phase =>
      refine ⟨List.Subset.refl _, settled.of_moved rfl (List.Subset.refl _) ?_ ?_⟩
      · intro server ct inside
        cases inside
      · intro server ct returning
        cases cell : center.cell with
        | none => rw [cell] at returning; cases returning
        | some other => rw [cell] at returning; cases returning
  | bound phase _ =>
      refine ⟨List.Subset.refl _, settled.of_moved rfl (List.Subset.refl _) settled.cell ?_⟩
      intro server ct returning
      cases returning
  | bindFailed phase _ | refused phase _ | stopped phase _ => exact stops _
  | putBack phase =>
      refine ⟨List.Subset.refl _, settled.of_moved rfl (List.Subset.refl _) ?_ ?_⟩
      · rintro other ct rfl holds
        exact settled.returning task (List.mem_of_getElem? listed) other ct phase holds
      · intro other ct returning
        cases returning

theorem Settled.start (settled : Settled center center.cancelled) {n : Nat} {call : StartCall}
    {step : StartStep} (move : StartMove config center n call step next) :
    center.cancelled ⊆ next.cancelled ∧ Settled next next.cancelled := by
  cases move with
  | storeServer phase =>
      refine ⟨List.Subset.refl _, ?_, settled.returning⟩
      rintro server ct inside holds
      cases inside
      cases holds
  | spawnTask phase =>
      refine ⟨List.Subset.refl _, settled.cell, ?_⟩
      intro task listed server ct returning holds
      rcases List.mem_append.mp listed with old | new
      · exact settled.returning task old server ct returning holds
      · rw [List.mem_singleton.mp new] at returning
        cases returning
  | _ => exact ⟨List.Subset.refl _, settled.of_same rfl rfl (List.Subset.refl _)⟩

/-- `close` cancels the token it finds in `server_ct`; the server in the cell has none
that is live. -/
theorem Settled.close (settled : Settled center center.cancelled) {n : Nat}
    {phase : ClosePhase} {step : CloseStep} (move : CloseMove center n phase step next) :
    Settled next next.cancelled ∧ ∀ ct, ct ∈ next.cancelled ↔
      ct ∈ center.cancelled ∨ closeToken center step = some ct := by
  cases move with
  | stopServer begun =>
      constructor
      · constructor
        · intro server ct inside
          cases inside
        · intro task listed server ct returning holds
          exact List.mem_append_right _ (settled.returning task listed server ct returning holds)
      · intro ct
        have stopped : ∀ server, center.cell = some server → ct ∈ server.stop.1 →
            ct ∈ center.cancelled :=
          fun server inside holds => settled.cell server ct inside (Option.mem_toList.mp holds)
        constructor
        · intro listed
          rcases List.mem_append.mp listed with holds | old
          · split at holds
            · next server inside => exact Or.inl (stopped server inside holds)
            · cases holds
          · exact Or.inl old
        · rintro (old | impossible)
          · exact List.mem_append_right _ old
          · cases impossible
  | cancelCt stopped =>
      refine ⟨settled.of_same rfl rfl (List.subset_append_right _ _), ?_⟩
      intro ct
      simp only [List.mem_append, Option.mem_toList, closeToken]
      exact or_comm
  | easyTierStopped cancelled | easyTierFailed cancelled _ =>
      refine ⟨settled.of_same rfl rfl (List.Subset.refl _), fun ct => (or_iff_left ?_).symm⟩
      intro impossible
      cases impossible

theorem Settled.centerStep (settled : Settled center center.cancelled) {action : CenterAction}
    (taken : centerStep config center action = some next) :
    center.cancelled ⊆ next.cancelled ∧ Settled next next.cancelled := by
  have unchanged : next.cell = center.cell → next.tasks = center.tasks →
      next.cancelled = center.cancelled →
      center.cancelled ⊆ next.cancelled ∧ Settled next next.cancelled := by
    intro cell tasks same
    have grows : center.cancelled ⊆ next.cancelled := by
      rw [same]
      exact List.Subset.refl _
    exact ⟨grows, settled.of_same cell tasks grows⟩
  cases centerStep_eq_some taken with
  | startStep listed move => exact settled.start move
  | closeStep listed move =>
      rcases settled.close move with ⟨kept, grown⟩
      exact ⟨fun ct old => (grown ct).mpr (Or.inl old), kept⟩
  | task listed move => exact settled.task listed move
  | cancel ct =>
      have grows : center.cancelled ⊆ ct :: center.cancelled := List.subset_cons_self _ _
      exact ⟨grows, settled.of_same rfl rfl grows⟩
  | _ => exact unchanged rfl rfl rfl

end CenterSteps

/-- Every center is settled with respect to the shared set. -/
def AllSettled (rooms : ManagedRooms) : Prop :=
  ∀ managed ∈ rooms.centers, Settled managed.center rooms.cancelled

theorem AllSettled.seen {rooms : ManagedRooms} (settled : AllSettled rooms) {i : Nat}
    {managed : ManagedCenter} (found : rooms.centers[i]? = some managed) :
    Settled (rooms.seen managed) (rooms.seen managed).cancelled where
  cell := (settled managed (List.mem_of_getElem? found)).cell
  returning := (settled managed (List.mem_of_getElem? found)).returning

theorem allSettled_step {rooms next : ManagedRooms} {action : RoomAction}
    (settled : AllSettled rooms) (taken : step rooms action = some next) : AllSettled next := by
  cases action with
  | createRoom config pingHook ct =>
      cases taken
      intro managed listed
      rcases List.mem_append.mp listed with old | new
      · exact settled managed old
      · rw [List.mem_singleton.mp new]
        constructor
        · intro server ct inside
          cases inside
        · intro task none
          cases none
  | center i action =>
      rw [step] at taken
      split at taken
      · next managed found =>
          rcases Option.map_eq_some_iff.mp taken with ⟨center, moved, rfl⟩
          rcases (settled.seen found).centerStep moved with ⟨grows, after⟩
          intro other listed
          rcases List.mem_or_eq_of_mem_set listed with old | rfl
          · exact (settled other old).mono grows
          · exact after
      · cases taken
  | joinRoom ct => cases taken; exact settled
  | guest j guestStep =>
      rw [step] at taken
      split at taken
      · rcases Option.map_eq_some_iff.mp taken with ⟨effect, _, rfl⟩
        exact fun managed listed => (settled managed listed).mono (List.subset_append_right _ _)
      · cases taken
  | cancel ct =>
      cases taken
      exact fun managed listed => (settled managed listed).mono (List.subset_cons_self _ _)

/-- A step of `close` or `leave` cancels the token it takes out of its room, and no other. -/
theorem cancelled_closing {rooms next : ManagedRooms} {action : RoomAction} {room : Room}
    (settled : AllSettled rooms) (closes : closing action = some room)
    (taken : step rooms action = some next) (ct : CtId) :
    ct ∈ next.cancelled ↔ ct ∈ rooms.cancelled ∨ stored rooms action = some ct := by
  unfold closing at closes
  split at closes
  · next i n closeStep =>
      rw [step] at taken
      split at taken
      · next managed found =>
          rcases Option.map_eq_some_iff.mp taken with ⟨center, moved, rfl⟩
          cases centerStep_eq_some moved with
          | closeStep listed move =>
              have grown := ((settled.seen found).close move).2 ct
              rw [stored, found, Option.bind_some]
              exact grown
      · cases taken
  · next j =>
      rw [step] at taken
      split at taken
      · next guest found =>
          rcases Option.map_eq_some_iff.mp taken with ⟨effect, moved, rfl⟩
          rw [guestEffect] at moved
          split at moved
          · cases moved
            rw [stored, found, Option.bind_some, List.mem_append, Option.mem_toList]
            exact or_comm
          · cases moved
      · cases taken
  · cases closes

/-! ## When rooms are isolated -/

theorem keepsTokens_iff {rooms : ManagedRooms} {action : RoomAction}
    (settled : AllSettled rooms) : KeepsTokens rooms action ↔ FindsCancelled rooms action := by
  constructor
  · intro keeps possible ct found
    rcases Option.isSome_iff_exists.mp possible with ⟨next, taken⟩
    by_contra live
    have closes : ∃ room, closing action = some room := by
      unfold stored at found
      split at found
      · exact ⟨_, rfl⟩
      · exact ⟨_, rfl⟩
      · cases found
    rcases closes with ⟨room, closes⟩
    exact keeps room next closes taken ct live
      ((cancelled_closing settled closes taken ct).mpr (Or.inr found))
  · intro finds room next closes taken ct live after
    rcases (cancelled_closing settled closes taken ct).mp after with old | found
    · exact live old
    · exact live (finds (by rw [taken]; rfl) ct found)

theorem stopsNoOther_iff {rooms : ManagedRooms} {action : RoomAction}
    (settled : AllSettled rooms) : StopsNoOther rooms action ↔ FindsUnshared rooms action := by
  constructor
  · intro stops room closes possible ct found
    rcases Option.isSome_iff_exists.mp possible with ⟨next, taken⟩
    by_cases live : ct ∈ rooms.cancelled
    · exact Or.inl live
    · apply Or.inr
      intro other different used
      exact stops room next closes taken other different ct used live
        ((cancelled_closing settled closes taken ct).mpr (Or.inr found))
  · intro finds room next closes taken other different ct used live after
    rcases (cancelled_closing settled closes taken ct).mp after with old | found
    · exact live old
    · rcases finds room closes (by rw [taken]; rfl) ct found with old | unshared
      · exact live old
      · exact unshared other different used

theorem isolated_iff_findsCancelled {rooms : ManagedRooms} {action : RoomAction}
    (settled : AllSettled rooms) : Isolated rooms action ↔ FindsCancelled rooms action := by
  rw [Isolated, keepsTokens_iff settled]
  refine ⟨And.right, fun finds => ⟨?_, finds⟩⟩
  rw [stopsNoOther_iff settled]
  exact fun room closes possible ct found => Or.inl (finds possible ct found)

/-- In every run, the calls of `close` and `leave` leave the other rooms and the tokens of
the caller alone exactly where they find the token of their own room cancelled already;
they leave the other rooms alone exactly where no other open room runs on it. -/
theorem rooms_isolated_iff (actions : List RoomAction) :
    (EveryStep step new (fun _ rooms action => Isolated rooms action) actions ↔
      EveryStep step new (fun _ rooms action => FindsCancelled rooms action) actions) ∧
    (EveryStep step new (fun _ rooms action => StopsNoOther rooms action) actions ↔
      EveryStep step new (fun _ rooms action => FindsUnshared rooms action) actions) := by
  have settled : ∀ {past rooms}, run step new past = some rooms → AllSettled rooms := by
    intro past rooms reached
    refine reachable_invariant ?_ ?_ reached
    · intro managed none
      cases none
    · exact fun earlier action next before taken => allSettled_step before taken
  constructor
  · exact EveryStep.congr_reached fun past rooms action reached =>
      isolated_iff_findsCancelled (settled reached)
  · exact EveryStep.congr_reached fun past rooms action reached =>
      stopsNoOther_iff (settled reached)

/-- A room is opened and a guest joins another one, both with token 0. -/
def sampleShared : List RoomAction :=
  [.createRoom sampleCenter false 0, .center 0 (.startStep 0 (.scan 1025)),
    .center 0 (.startStep 0 .readHook), .center 0 (.startStep 0 .storeServer),
    .center 0 (.startStep 0 .spawnTask), .center 0 (.task 0 .take), .center 0 (.task 0 .bound),
    .center 0 (.startStep 0 (.easyTierStarted none)), .center 0 (.startStep 0 .enlist),
    .joinRoom 0, .guest 0 .spawnHeartbeat, .guest 0 .storeCt]

/-- The guest leaves, and the token under the accept loop of the open room is cancelled. -/
theorem leave_stops_center :
    ∃ rooms next, run step new sampleShared = some rooms ∧
      step rooms (.guest 0 .leave) = some next ∧
      rooms.inUse (.center 0) = [0] ∧ rooms.cancelled = [] ∧ next.cancelled = [0] ∧
      ¬ Isolated rooms (.guest 0 .leave) := by
  have reached := run_eq_getD (by decide +kernel : (run step new sampleShared).isSome = true)
  have taken := Option.some_get
    (by decide +kernel : (step ((run step new sampleShared).getD new) (.guest 0 .leave)).isSome = true)
  have used : ((run step new sampleShared).getD new).inUse (.center 0) = [0] := by decide +kernel
  have before : ((run step new sampleShared).getD new).cancelled = [] := by decide +kernel
  have after : (Option.get (step ((run step new sampleShared).getD new) (.guest 0 .leave))
      (by decide +kernel)).cancelled = [0] := by
    decide +kernel
  refine ⟨_, _, reached, taken.symm, used, before, after, fun isolated => ?_⟩
  have kept := isolated.1 (.guest 0) _ rfl taken.symm (.center 0) (by decide) 0
    (by rw [used]; exact List.mem_cons_self) (by rw [before]; exact List.not_mem_nil)
  rw [after] at kept
  exact kept List.mem_cons_self

end ManagedRooms

end Client
end QomicexConnector
