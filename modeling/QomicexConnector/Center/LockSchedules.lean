import QomicexConnector.Center.HostServer
import QomicexConnector.Center.PlayerNotifications
import QomicexConnector.Center.PlayerRegisters
import QomicexConnector.Center.Protocols
import QomicexConnector.Library.NumberedList

namespace QomicexConnector
namespace Center

open Library
open QomicexConnector.Core

/-!
# Everything that takes the lock of the player list

A call takes the lock for a change, gives it up, and takes it again for the snapshot that it
publishes; other calls come in between.  Each acquisition is a bounded number of attempts, and
which of them succeed is up to the others.  The laws below speak about every call of every
run: what a call that has been answered has done to the list, and where the values that calls
publish and return come from.
-/

/-! ## The calls -/

/-- What takes the lock: the two handlers of a server, the consumer of disconnect events, the
calls of a center, and `start` when it enlists the host. -/
inductive ListCall where
  | playerPing (body : List UInt8)
  | disconnectEvent (message : String)
  | removePlayer (machineId : String)
  | handlePlayerPing (info : PlayerInfo)
  | enlistHost (entry : PlayerInfo)
  | getPlayers
  | playerProfilesList

/-- What a call returns, if anything. -/
inductive ListAnswer where
  | response (response : ProtocolResponse)
  | players (players : List PlayerInfo)
  | done

inductive ListPhase where
  | called
  | notifying
  | sending (snapshot : List PlayerInfo)
  | returned (answer : ListAnswer)

structure OngoingCall where
  call : ListCall
  phase : ListPhase

/-- The list, what was sent to `players_changed`, and the calls so far. -/
structure SharedList where
  players : List PlayerInfo
  published : List (List PlayerInfo)
  calls : List OngoingCall

def SharedList.new : SharedList := ⟨[], [], []⟩

section Steps

variable (fromSlice : List UInt8 → Except String Json) (toVec : Json → Except String (List UInt8))

/-- What the call makes of the list under the lock.  Only `start` waits for the lock as long
as it takes. -/
def ListCall.change (attempts : Nat → Bool) (players : List PlayerInfo) :
    ListCall → List PlayerInfo
  | .playerPing body =>
      match parsePlayerInfo fromSlice body with
      | .ok info => onPlayerPingImpl attempts info players
      | .error _ => players
  | .disconnectEvent message =>
      onClientDisconnectedImpl attempts (disconnectedMachine message) players
  | .removePlayer machineId => Center.removePlayer attempts machineId players
  | .handlePlayerPing info => Center.handlePlayerPing attempts info players
  | .enlistHost entry => players ++ [entry]
  | .getPlayers | .playerProfilesList => players

/-- Where the call goes on after its change, if it makes one.  A ping that is not read is
answered at once. -/
def ListCall.changed : ListCall → Option ListPhase
  | .playerPing body =>
      match parsePlayerInfo fromSlice body with
      | .ok _ => some .notifying
      | .error message =>
          some (.returned (.response (errorResponse s!"玩家心跳解析失败: {message}")))
  | .getPlayers | .playerProfilesList => none
  | _ => some .notifying

/-- What `c:player_profiles_list` answers with this snapshot. -/
def profilesResponse (players : List PlayerInfo) : ProtocolResponse :=
  ((playerProfilesListProtocol toVec fun _ => players).handle
    ⟨"c", "player_profiles_list", []⟩ ()).1

/-- Where the call goes on after it has taken a snapshot. -/
def OngoingCall.snapshot (ongoing : OngoingCall) (players : List PlayerInfo) : Option ListPhase :=
  match ongoing.phase, ongoing.call with
  | .notifying, _ => some (.sending players)
  | .called, .getPlayers => some (.returned (.players players))
  | .called, .playerProfilesList => some (.returned (.response (profilesResponse toVec players)))
  | _, _ => none

/-- What the call returns when it has published its snapshot. -/
def ListCall.answer : ListCall → ListAnswer
  | .playerPing _ => .response ⟨0, []⟩
  | _ => .done

inductive ListStep where
  | call (call : ListCall)
  | write (i : Nat) (attempts : Nat → Bool)
  | read (i : Nat) (attempts : Nat → Bool)
  | send (i : Nat)

def SharedList.goto (state : SharedList) (i : Nat) (call : ListCall) (phase : ListPhase) :
    List OngoingCall :=
  state.calls.set i ⟨call, phase⟩

def listStep (state : SharedList) : ListStep → Option SharedList
  | .call call => some { state with calls := state.calls ++ [⟨call, .called⟩] }
  | .write i attempts =>
      match state.calls[i]? with
      | some ⟨call, .called⟩ =>
          (call.changed fromSlice).map fun phase =>
            { state with
              players := call.change fromSlice attempts state.players
              calls := state.goto i call phase }
      | _ => none
  | .read i attempts =>
      match state.calls[i]? with
      | some ongoing =>
          (ongoing.snapshot toVec (snapshotPlayers attempts state.players)).map fun phase =>
            { state with calls := state.goto i ongoing.call phase }
      | none => none
  | .send i =>
      match state.calls[i]? with
      | some ⟨call, .sending snapshot⟩ =>
          some { state with
            published := state.published ++ [snapshot]
            calls := state.goto i call (.returned call.answer) }
      | _ => none

/-- The steps, one constructor for each way to take one. -/
inductive ListMove (state : SharedList) : ListStep → SharedList → Prop
  | call (call : ListCall) :
      ListMove state (.call call) { state with calls := state.calls ++ [⟨call, .called⟩] }
  | write {i : Nat} {call : ListCall} {phase : ListPhase}
      (listed : state.calls[i]? = some ⟨call, .called⟩)
      (changed : call.changed fromSlice = some phase)
      (attempts : Nat → Bool) :
      ListMove state (.write i attempts)
        { state with
          players := call.change fromSlice attempts state.players
          calls := state.goto i call phase }
  | read {i : Nat} {ongoing : OngoingCall} {phase : ListPhase} {attempts : Nat → Bool}
      (listed : state.calls[i]? = some ongoing)
      (taken : ongoing.snapshot toVec (snapshotPlayers attempts state.players) = some phase) :
      ListMove state (.read i attempts) { state with calls := state.goto i ongoing.call phase }
  | send {i : Nat} {call : ListCall} {snapshot : List PlayerInfo}
      (listed : state.calls[i]? = some ⟨call, .sending snapshot⟩) :
      ListMove state (.send i)
        { state with
          published := state.published ++ [snapshot]
          calls := state.goto i call (.returned call.answer) }

variable {fromSlice toVec}

theorem listStep_eq_some {state next : SharedList} {label : ListStep}
    (taken : listStep fromSlice toVec state label = some next) :
    ListMove fromSlice toVec state label next := by
  cases label with
  | call call => cases taken; exact .call call
  | write i attempts =>
      rw [listStep] at taken
      split at taken
      · next call listed =>
          rcases Option.map_eq_some_iff.mp taken with ⟨phase, changed, rfl⟩
          exact .write listed changed attempts
      · cases taken
  | read i attempts =>
      rw [listStep] at taken
      split at taken
      · next ongoing listed =>
          rcases Option.map_eq_some_iff.mp taken with ⟨phase, snapshot, rfl⟩
          exact .read listed snapshot
      · cases taken
  | send i =>
      rw [listStep] at taken
      split at taken
      · next call snapshot listed => cases taken; exact .send listed
      · cases taken

end Steps

/-! ## What the calls leave behind -/

/-- One of the attempts within the limit succeeds. -/
def InTime (attempts : Nat → Bool) : Prop := ∃ attempt < lockRetryLimit, attempts attempt = true

section Laws

variable (fromSlice : List UInt8 → Except String Json) (toVec : Json → Except String (List UInt8))

/-- The step was taken in the run, between these states. -/
def ListPerformed (labels : List ListStep) (label : ListStep) (before after : SharedList) : Prop :=
  Performed (listStep fromSlice toVec) SharedList.new labels label before after

/-- The list had the value at some moment of the run. -/
def Had (labels : List ListStep) (value : List PlayerInfo) : Prop :=
  ∃ past later state, labels = past ++ later ∧
    run (listStep fromSlice toVec) SharedList.new past = some state ∧ state.players = value

/-- The call read the value itself: the list as it was then, or nothing when all its attempts
failed. -/
def TakenBy (labels : List ListStep) (i : Nat) (value : List PlayerInfo) : Prop :=
  ∃ attempts before after, ListPerformed fromSlice toVec labels (.read i attempts) before after ∧
    (InTime attempts → value = before.players) ∧ (¬ InTime attempts → value = [])

/-- The value was sent by the call that read it. -/
def PublishedBy (labels : List ListStep) (i : Nat) (value : List PlayerInfo) : Prop :=
  TakenBy fromSlice toVec labels i value ∧ ∃ before after,
    ListPerformed fromSlice toVec labels (.send i) before after ∧
      after.published = before.published ++ [value]

/-- The laws of the lock, for every schedule.  A change whose attempts all fail is given up:
the list stays as it is.  A reading whose attempts all fail yields no player, as the list did
at the start. -/
structure LockLaws (labels : List ListStep) (final : SharedList) : Prop where
  ping : ∀ (i : Nat) body response,
    final.calls[i]? = some ⟨.playerPing body, .returned (.response response)⟩ →
      response.status = 0 → ∃ info attempts before after,
        parsePlayerInfo fromSlice body = .ok info ∧
        ListPerformed fromSlice toVec labels (.write i attempts) before after ∧
        (InTime attempts → after.players = pingUpdate info before.players) ∧
        (¬ InTime attempts → after.players = before.players)
  disconnected : ∀ (i : Nat) machineId answer,
    final.calls[i]? = some ⟨.disconnectEvent machineId, .returned answer⟩ → machineId ≠ "" →
      ∃ attempts before after,
        ListPerformed fromSlice toVec labels (.write i attempts) before after ∧
        (InTime attempts → ∀ player, playerAt machineId before.players = some player →
          player.kind = .guest →
            after.players = before.players.eraseP fun entry => entry.machineId == machineId) ∧
        (¬ InTime attempts → after.players = before.players)
  published : ∀ value ∈ final.published,
    Had fromSlice toVec labels value ∧ ∃ i, PublishedBy fromSlice toVec labels i value
  getPlayers : ∀ (i : Nat) value, final.calls[i]? = some ⟨.getPlayers, .returned (.players value)⟩ →
    Had fromSlice toVec labels value ∧ TakenBy fromSlice toVec labels i value
  profiles : ∀ (i : Nat) response,
    final.calls[i]? = some ⟨.playerProfilesList, .returned (.response response)⟩ →
      ∃ value, response = profilesResponse toVec value ∧
        Had fromSlice toVec labels value ∧ TakenBy fromSlice toVec labels i value

/-- What a returned call has answered, as far as it is a value of the list. -/
def AnswerTaken (labels : List ListStep) (i : Nat) : ListCall → ListAnswer → Prop
  | .getPlayers, .players value => TakenBy fromSlice toVec labels i value
  | .playerProfilesList, .response response =>
      ∃ value, response = profilesResponse toVec value ∧ TakenBy fromSlice toVec labels i value
  | _, _ => True

/-- What is known of every call, wherever it stands. -/
structure LockRecord (labels : List ListStep) (state : SharedList) : Prop where
  wrote : ∀ (i : Nat) ongoing changed, state.calls[i]? = some ongoing → ongoing.phase ≠ .called →
    ongoing.call.changed fromSlice = some changed →
      (changed ≠ .notifying → ongoing.phase = changed) ∧ ∃ attempts before after,
        ListPerformed fromSlice toVec labels (.write i attempts) before after ∧
        after.players = ongoing.call.change fromSlice attempts before.players
  sending : ∀ (i : Nat) call snapshot, state.calls[i]? = some ⟨call, .sending snapshot⟩ →
    TakenBy fromSlice toVec labels i snapshot
  returned : ∀ (i : Nat) call answer, state.calls[i]? = some ⟨call, .returned answer⟩ →
    AnswerTaken fromSlice toVec labels i call answer
  published : ∀ value ∈ state.published, ∃ i, PublishedBy fromSlice toVec labels i value

end Laws

section Record

variable {fromSlice : List UInt8 → Except String Json} {toVec : Json → Except String (List UInt8)}
  {labels : List ListStep} {state next : SharedList} {label : ListStep}

theorem acquires_iff_inTime {attempts : Nat → Bool} :
    acquires lockRetryLimit attempts = true ↔ InTime attempts := acquires_eq_true_iff

theorem TakenBy.concat {i : Nat} {value : List PlayerInfo}
    (taken : TakenBy fromSlice toVec labels i value) (label : ListStep) :
    TakenBy fromSlice toVec (labels ++ [label]) i value := by
  rcases taken with ⟨attempts, before, after, performed, inTime, exhausted⟩
  exact ⟨attempts, before, after, performed.concat label, inTime, exhausted⟩

/-- What a call has read is the list of that moment, or empty like the list at the start. -/
theorem TakenBy.had {i : Nat} {value : List PlayerInfo}
    (taken : TakenBy fromSlice toVec labels i value) : Had fromSlice toVec labels value := by
  rcases taken with ⟨attempts, before, after, performed, inTime, exhausted⟩
  rcases performed.reached with ⟨past, later, split, reached⟩
  by_cases acquired : InTime attempts
  · exact ⟨past, _, before, split, reached, (inTime acquired).symm⟩
  · exact ⟨[], labels, SharedList.new, rfl, rfl, (exhausted acquired).symm⟩

/-- The step that takes a snapshot is the reading of its call. -/
theorem takenBy_snapshot
    (reached : run (listStep fromSlice toVec) SharedList.new labels = some state)
    {i : Nat} {attempts : Nat → Bool}
    (taken : listStep fromSlice toVec state (.read i attempts) = some next) :
    TakenBy fromSlice toVec (labels ++ [.read i attempts]) i
      (snapshotPlayers attempts state.players) := by
  refine ⟨attempts, state, next, performed_last reached taken, fun inTime => ?_,
    fun exhausted => ?_⟩
  · rw [snapshotPlayers, withPlayersRead, if_pos (acquires_iff_inTime.mpr inTime),
      Option.getD_some]
  · rw [snapshotPlayers, withPlayersRead, if_neg (mt acquires_iff_inTime.mp exhausted),
      Option.getD_none]

theorem PublishedBy.concat {i : Nat} {value : List PlayerInfo}
    (published : PublishedBy fromSlice toVec labels i value) (label : ListStep) :
    PublishedBy fromSlice toVec (labels ++ [label]) i value := by
  rcases published with ⟨taken, before, after, performed, grown⟩
  exact ⟨taken.concat label, before, after, performed.concat label, grown⟩

theorem AnswerTaken.concat {i : Nat} {call : ListCall} {answer : ListAnswer}
    (taken : AnswerTaken fromSlice toVec labels i call answer) (label : ListStep) :
    AnswerTaken fromSlice toVec (labels ++ [label]) i call answer := by
  unfold AnswerTaken at taken ⊢
  split
  · exact TakenBy.concat taken label
  · rcases taken with ⟨value, same, read⟩
    exact ⟨value, same, read.concat label⟩
  · trivial

/-- How a call of the next state came about. -/
inductive CallOrigin (fromSlice : List UInt8 → Except String Json)
    (toVec : Json → Except String (List UInt8)) (state : SharedList) (j : Nat) :
    ListStep → List PlayerInfo → OngoingCall → Prop
  | old {label : ListStep} {players : List PlayerInfo} {ongoing : OngoingCall}
      (listed : state.calls[j]? = some ongoing) :
      CallOrigin fromSlice toVec state j label players ongoing
  | new (call : ListCall) (players : List PlayerInfo) :
      CallOrigin fromSlice toVec state j (.call call) players ⟨call, .called⟩
  | written {call : ListCall} {phase : ListPhase}
      (listed : state.calls[j]? = some ⟨call, .called⟩)
      (changed : call.changed fromSlice = some phase) {attempts : Nat → Bool}
      {players : List PlayerInfo}
      (result : players = call.change fromSlice attempts state.players) :
      CallOrigin fromSlice toVec state j (.write j attempts) players ⟨call, phase⟩
  | read {before : OngoingCall} {phase : ListPhase} {attempts : Nat → Bool}
      (listed : state.calls[j]? = some before)
      (taken : before.snapshot toVec (snapshotPlayers attempts state.players) = some phase)
      (players : List PlayerInfo) :
      CallOrigin fromSlice toVec state j (.read j attempts) players ⟨before.call, phase⟩
  | sent {call : ListCall} {snapshot : List PlayerInfo}
      (listed : state.calls[j]? = some ⟨call, .sending snapshot⟩) (players : List PlayerInfo) :
      CallOrigin fromSlice toVec state j (.send j) players ⟨call, .returned call.answer⟩

theorem ListMove.origin (move : ListMove fromSlice toVec state label next) {j : Nat}
    {ongoing : OngoingCall} (listed : next.calls[j]? = some ongoing) :
    CallOrigin fromSlice toVec state j label next.players ongoing := by
  cases move with
  | call call =>
      rcases getElem?_concat listed with old | ⟨rfl, rfl⟩
      · exact .old old
      · exact .new call _
  | @write i call phase present changed attempts =>
      rw [SharedList.goto, getElem?_set_listed present] at listed
      split at listed
      · next same =>
          subst same
          cases listed
          exact .written present changed rfl
      · exact .old listed
  | @read i before phase attempts present taken =>
      rw [SharedList.goto, getElem?_set_listed present] at listed
      split at listed
      · next same =>
          subst same
          cases listed
          exact .read present taken _
      · exact .old listed
  | @send i call snapshot present =>
      rw [SharedList.goto, getElem?_set_listed present] at listed
      split at listed
      · next same =>
          subst same
          cases listed
          exact .sent present _
      · exact .old listed

/-- A call is notifying after its change, or has returned. -/
theorem ListCall.changed_ne_sending {call : ListCall} {phase : ListPhase}
    (changed : call.changed fromSlice = some phase) (snapshot : List PlayerInfo) :
    phase ≠ .sending snapshot := by
  rintro rfl
  unfold ListCall.changed at changed
  split at changed
  · split at changed <;> cases changed
  · cases changed
  · cases changed
  · cases changed

variable (fromSlice) in
/-- A snapshot is taken by a call that notifies, or by one that only reads. -/
theorem OngoingCall.snapshot_cases {ongoing : OngoingCall} {players : List PlayerInfo}
    {phase : ListPhase} (taken : ongoing.snapshot toVec players = some phase) :
    ongoing.phase = .notifying ∧ phase = .sending players ∨
      ongoing.call.changed fromSlice = none ∧ ∃ answer, phase = .returned answer ∧
        (ongoing.call = .getPlayers ∧ answer = .players players ∨
          ongoing.call = .playerProfilesList ∧
            answer = .response (profilesResponse toVec players)) := by
  rcases ongoing with ⟨call, before⟩
  unfold OngoingCall.snapshot at taken
  split at taken
  · next isNotifying =>
      cases taken
      exact Or.inl ⟨isNotifying, rfl⟩
  · next _ isCall =>
      cases taken
      cases isCall
      exact Or.inr ⟨rfl, _, rfl, Or.inl ⟨rfl, rfl⟩⟩
  · next _ isCall =>
      cases taken
      cases isCall
      exact Or.inr ⟨rfl, _, rfl, Or.inr ⟨rfl, rfl⟩⟩
  · cases taken

/-! ## What a step keeps -/

/-- The change of a call is recorded when it is made, and stays recorded wherever the call
goes from there. -/
theorem LockRecord.wrote_step (record : LockRecord fromSlice toVec labels state)
    (reached : run (listStep fromSlice toVec) SharedList.new labels = some state)
    (taken : listStep fromSlice toVec state label = some next) {i : Nat} {ongoing : OngoingCall}
    {changed : ListPhase} (listed : next.calls[i]? = some ongoing)
    (begun : ongoing.phase ≠ .called) (goesTo : ongoing.call.changed fromSlice = some changed) :
    (changed ≠ .notifying → ongoing.phase = changed) ∧ ∃ attempts before after,
      ListPerformed fromSlice toVec (labels ++ [label]) (.write i attempts) before after ∧
      after.players = ongoing.call.change fromSlice attempts before.players := by
  cases (listStep_eq_some taken).origin listed with
  | old earlier =>
      rcases record.wrote i ongoing changed earlier begun goesTo with
        ⟨phase, attempts, before, after, performed, result⟩
      exact ⟨phase, attempts, before, after, performed.concat label, result⟩
  | new call => exact absurd rfl begun
  | @written call phase earlier same attempts players result =>
      rw [same] at goesTo
      cases goesTo
      exact ⟨fun _ => rfl, attempts, state, next, performed_last reached taken, result⟩
  | @read before phase attempts earlier snapshot =>
      rcases OngoingCall.snapshot_cases fromSlice snapshot with
        ⟨notifying, rfl⟩ | ⟨never, _⟩
      · have begunBefore : before.phase ≠ .called := by
          rw [notifying]
          exact ListPhase.noConfusion
        rcases record.wrote i before changed earlier begunBefore goesTo with
          ⟨phase, attempts, first, after, performed, result⟩
        refine ⟨fun other => ?_, attempts, first, after, performed.concat _, result⟩
        exact absurd (notifying.symm.trans (phase other)).symm other
      · rw [never] at goesTo
        cases goesTo
  | @sent call snapshot earlier =>
      rcases record.wrote i _ changed earlier ListPhase.noConfusion goesTo with
        ⟨phase, attempts, first, after, performed, result⟩
      refine ⟨fun other => ?_, attempts, first, after, performed.concat _, result⟩
      exact absurd (phase other).symm (ListCall.changed_ne_sending goesTo snapshot)

theorem LockRecord.sending_step (record : LockRecord fromSlice toVec labels state)
    (reached : run (listStep fromSlice toVec) SharedList.new labels = some state)
    (taken : listStep fromSlice toVec state label = some next) {i : Nat} {call : ListCall}
    {snapshot : List PlayerInfo} (listed : next.calls[i]? = some ⟨call, .sending snapshot⟩) :
    TakenBy fromSlice toVec (labels ++ [label]) i snapshot := by
  generalize ongoingIs : (⟨call, .sending snapshot⟩ : OngoingCall) = ongoing at listed
  cases (listStep_eq_some taken).origin listed with
  | old earlier =>
      subst ongoingIs
      exact (record.sending i call snapshot earlier).concat label
  | new call => cases ongoingIs
  | written earlier changed =>
      cases ongoingIs
      exact absurd rfl (ListCall.changed_ne_sending changed snapshot)
  | @read before phase attempts earlier answered =>
      cases ongoingIs
      rcases OngoingCall.snapshot_cases fromSlice answered with
        ⟨_, sameSnapshot⟩ | ⟨_, answer, returns, _⟩
      · cases sameSnapshot
        exact takenBy_snapshot reached taken
      · cases returns
  | sent earlier => cases ongoingIs

theorem LockRecord.returned_step (record : LockRecord fromSlice toVec labels state)
    (reached : run (listStep fromSlice toVec) SharedList.new labels = some state)
    (taken : listStep fromSlice toVec state label = some next) {i : Nat} {call : ListCall}
    {answer : ListAnswer} (listed : next.calls[i]? = some ⟨call, .returned answer⟩) :
    AnswerTaken fromSlice toVec (labels ++ [label]) i call answer := by
  generalize ongoingIs : (⟨call, .returned answer⟩ : OngoingCall) = ongoing at listed
  cases (listStep_eq_some taken).origin listed with
  | old earlier =>
      subst ongoingIs
      exact (record.returned i call answer earlier).concat label
  | new call => cases ongoingIs
  | written earlier changed =>
      cases ongoingIs
      -- Only a ping is answered at its change, and its answer is no value of the list.
      cases call with
      | playerPing body => trivial
      | getPlayers => cases changed
      | playerProfilesList => cases changed
      | _ => trivial
  | @read before phase attempts earlier answered =>
      cases ongoingIs
      rcases OngoingCall.snapshot_cases fromSlice answered with
        ⟨_, sending⟩ | ⟨_, answer, returns, isCall⟩
      · cases sending
      · cases returns
        rcases isCall with ⟨isCall, rfl⟩ | ⟨isCall, rfl⟩
        · rw [isCall]
          exact takenBy_snapshot reached taken
        · rw [isCall]
          exact ⟨_, rfl, takenBy_snapshot reached taken⟩
  | sent earlier =>
      cases ongoingIs
      cases call <;> trivial

theorem LockRecord.published_step (record : LockRecord fromSlice toVec labels state)
    (reached : run (listStep fromSlice toVec) SharedList.new labels = some state)
    (taken : listStep fromSlice toVec state label = some next) {value : List PlayerInfo}
    (published : value ∈ next.published) :
    ∃ i, PublishedBy fromSlice toVec (labels ++ [label]) i value := by
  have before (earlier : value ∈ state.published) :
      ∃ i, PublishedBy fromSlice toVec (labels ++ [label]) i value := by
    rcases record.published value earlier with ⟨i, sent⟩
    exact ⟨i, sent.concat label⟩
  have performed := performed_last reached taken
  cases listStep_eq_some taken with
  | call call => exact before published
  | write listed changed attempts => exact before published
  | read listed answered => exact before published
  | @send i call snapshot listed =>
      rcases List.mem_append.mp published with earlier | last
      · exact before earlier
      · rw [List.mem_singleton.mp last]
        exact ⟨i, (record.sending i call snapshot listed).concat _, _, _, performed, rfl⟩

theorem LockRecord.step (record : LockRecord fromSlice toVec labels state)
    (reached : run (listStep fromSlice toVec) SharedList.new labels = some state)
    (taken : listStep fromSlice toVec state label = some next) :
    LockRecord fromSlice toVec (labels ++ [label]) next where
  wrote _ _ _ listed begun goesTo := record.wrote_step reached taken listed begun goesTo
  sending _ _ _ listed := record.sending_step reached taken listed
  returned _ _ _ listed := record.returned_step reached taken listed
  published _ published := record.published_step reached taken published

theorem LockRecord.new : LockRecord fromSlice toVec [] SharedList.new where
  wrote i _ _ listed := by cases (List.getElem?_nil).symm.trans listed
  sending i _ _ listed := by cases (List.getElem?_nil).symm.trans listed
  returned i _ _ listed := by cases (List.getElem?_nil).symm.trans listed
  published _ published := absurd published List.not_mem_nil

theorem lockRecord_of_run
    (reached : run (listStep fromSlice toVec) SharedList.new labels = some state) :
    LockRecord fromSlice toVec labels state :=
  history_invariant (LockRecord fromSlice toVec) LockRecord.new
    (fun _ _ _ _ reached record taken => record.step reached taken) reached

/-- A call that does not wait for the lock gives its change up when all attempts fail. -/
theorem ListCall.change_exhausted {attempts : Nat → Bool} (exhausted : ¬ InTime attempts)
    {call : ListCall} (tries : ∀ {entry}, call ≠ .enlistHost entry) (players : List PlayerInfo) :
    call.change fromSlice attempts players = players := by
  have refused : ¬ acquires lockRetryLimit attempts = true :=
    fun acquired => exhausted (acquires_iff_inTime.mp acquired)
  cases call with
  | playerPing body =>
      rw [ListCall.change]
      split
      · exact onPlayerPingImpl_of_refused refused _ players
      · rfl
  | disconnectEvent message => exact onClientDisconnectedImpl_of_refused refused _ players
  | removePlayer machineId =>
      exact onClientDisconnectedImpl_of_refused refused (some machineId) players
  | handlePlayerPing info => exact onPlayerPingImpl_of_refused refused info players
  | enlistHost entry => exact absurd rfl tries
  | getPlayers => rfl
  | playerProfilesList => rfl

/-- Where a call that changes the list stands, and what its change was. -/
theorem LockRecord.change_of_returned (record : LockRecord fromSlice toVec labels state) {i : Nat}
    {call : ListCall} {answer : ListAnswer} {changed : ListPhase}
    (listed : state.calls[i]? = some ⟨call, .returned answer⟩)
    (goesTo : call.changed fromSlice = some changed) :
    (changed ≠ .notifying → changed = .returned answer) ∧ ∃ attempts before after,
      ListPerformed fromSlice toVec labels (.write i attempts) before after ∧
      after.players = call.change fromSlice attempts before.players := by
  rcases record.wrote i _ changed listed ListPhase.noConfusion goesTo with ⟨phase, performed⟩
  exact ⟨fun other => (phase other).symm, performed⟩

/-- A ping that is answered with status 0 has been read. -/
theorem LockRecord.ping (record : LockRecord fromSlice toVec labels state) {i : Nat}
    {body : List UInt8} {response : ProtocolResponse}
    (listed : state.calls[i]? = some ⟨.playerPing body, .returned (.response response)⟩)
    (success : response.status = 0) : ∃ info attempts before after,
      parsePlayerInfo fromSlice body = .ok info ∧
      ListPerformed fromSlice toVec labels (.write i attempts) before after ∧
      (InTime attempts → after.players = pingUpdate info before.players) ∧
      (¬ InTime attempts → after.players = before.players) := by
  cases parsed : parsePlayerInfo fromSlice body with
  | error message =>
      have refused : (ListCall.playerPing body).changed fromSlice =
          some (.returned (.response (errorResponse s!"玩家心跳解析失败: {message}"))) := by
        rw [ListCall.changed, parsed]
      have answer := (record.change_of_returned listed refused).1 ListPhase.noConfusion
      cases answer
      have status : (errorResponse s!"玩家心跳解析失败: {message}").status = 255 := rfl
      rw [status] at success
      exact absurd success (by decide)
  | ok info =>
      have notifies : (ListCall.playerPing body).changed fromSlice = some .notifying := by
        rw [ListCall.changed, parsed]
      rcases (record.change_of_returned listed notifies).2 with
        ⟨attempts, before, after, performed, result⟩
      refine ⟨info, attempts, before, after, rfl, performed, fun inTime => ?_, fun exhausted => ?_⟩
      · rw [ListCall.change, parsed] at result
        dsimp only at result
        rw [result, onPlayerPingImpl_of_acquired (acquires_iff_inTime.mpr inTime)]
      · rw [result, ListCall.change_exhausted exhausted ListCall.noConfusion]

/-- Removing a guest takes its entry out of the list and touches no other. -/
theorem removeUpdate_guest {machineId : String} {players : List PlayerInfo} {player : PlayerInfo}
    (found : playerAt machineId players = some player) (guest : player.kind = .guest) :
    removeUpdate machineId players =
      players.eraseP fun entry => entry.machineId == machineId := by
  induction players with
  | nil => rfl
  | cons existing later inductionHypothesis =>
      rw [playerAt, entryAt_cons] at found
      rw [removeUpdate, List.eraseP_cons, cond_eq_ite]
      by_cases same : existing.machineId = machineId
      · rw [if_pos same, Option.some.injEq] at found
        have leaves : existing.kind ≠ .host := by
          rw [found, guest]
          exact PlayerKind.noConfusion
        rw [if_pos same, if_neg leaves, if_pos (beq_iff_eq.mpr same)]
      · rw [if_neg same] at found
        rw [if_neg same, if_neg (mt beq_iff_eq.mp same), inductionHypothesis found]

theorem LockRecord.disconnected (record : LockRecord fromSlice toVec labels state) {i : Nat}
    {machineId : String} {answer : ListAnswer}
    (listed : state.calls[i]? = some ⟨.disconnectEvent machineId, .returned answer⟩)
    (nonempty : machineId ≠ "") : ∃ attempts before after,
      ListPerformed fromSlice toVec labels (.write i attempts) before after ∧
      (InTime attempts → ∀ player, playerAt machineId before.players = some player →
        player.kind = .guest →
          after.players = before.players.eraseP fun entry => entry.machineId == machineId) ∧
      (¬ InTime attempts → after.players = before.players) := by
  have notifies : (ListCall.disconnectEvent machineId).changed fromSlice = some .notifying := rfl
  rcases (record.change_of_returned listed notifies).2 with
    ⟨attempts, before, after, performed, result⟩
  have named : disconnectedMachine machineId = some machineId := by
    rw [disconnectedMachine, if_neg]
    rwa [String.isEmpty_iff]
  refine ⟨attempts, before, after, performed, fun inTime player found guest => ?_,
    fun exhausted => ?_⟩
  · rw [ListCall.change, named] at result
    rw [result, onClientDisconnectedImpl_of_acquired (acquires_iff_inTime.mpr inTime),
      removeUpdate_guest found guest]
  · rw [result, ListCall.change_exhausted exhausted ListCall.noConfusion]

/-- Whatever the schedule, the laws of the lock hold of every run. -/
theorem lockLaws_of_run
    (reached : run (listStep fromSlice toVec) SharedList.new labels = some state) :
    LockLaws fromSlice toVec labels state := by
  have record := lockRecord_of_run reached
  constructor
  · intro i body response listed success
    exact record.ping listed success
  · intro i machineId answer listed nonempty
    exact record.disconnected listed nonempty
  · intro value published
    rcases record.published value published with ⟨i, sent⟩
    exact ⟨sent.1.had, i, sent⟩
  · intro i value listed
    have taken : TakenBy fromSlice toVec labels i value := record.returned i _ _ listed
    exact ⟨taken.had, taken⟩
  · intro i response listed
    rcases record.returned i _ _ listed with ⟨value, same, taken⟩
    exact ⟨value, same, taken.had, taken⟩

end Record

/-! ## Calls one after the other -/

/-- The call runs through its change and its notification, with these attempts at the lock
for the change. -/
def wholeCall (i : Nat) (call : ListCall) (attempts : Nat → Bool) : List ListStep :=
  [.call call, .write i attempts, .read i fun _ => true, .send i]

section Alone

variable {fromSlice : List UInt8 → Except String Json} {toVec : Json → Except String (List UInt8)}

variable (fromSlice toVec) in
/-- A call that nothing comes between. -/
theorem run_wholeCall {call : ListCall} (changes : call.changed fromSlice = some .notifying)
    (attempts : Nat → Bool) (state : SharedList) :
    run (listStep fromSlice toVec) state (wholeCall state.calls.length call attempts) =
      some ⟨call.change fromSlice attempts state.players,
        state.published ++ [call.change fromSlice attempts state.players],
        state.calls ++ [⟨call, .returned call.answer⟩]⟩ := by
  have acquired : acquires lockRetryLimit (fun _ => true) = true :=
    acquires_iff_inTime.mpr ⟨0, by decide, rfl⟩
  have replace : ∀ before after : OngoingCall,
      (state.calls ++ [before]).set state.calls.length after = state.calls ++ [after] := by
    intro before after
    rw [List.set_append_right _ _ (le_refl _), Nat.sub_self, List.set_cons_zero]
  simp only [wholeCall, run, listStep, List.getElem?_concat_length, changes, Option.map_some,
    SharedList.goto, replace, OngoingCall.snapshot, snapshotPlayers, withPlayersRead, acquired,
    if_true, Option.bind_some, Option.getD_some]

/-- What the handler of `c:player_ping` does is what the call does. -/
theorem standardPing_handle (attempts : Nat → Bool) (body : List UInt8)
    (players : List PlayerInfo) :
    (playerPingProtocol fromSlice fun info players =>
        (true, onPlayerPingImpl attempts info players)).handle ⟨"c", "player_ping", body⟩ players =
      (match (ListCall.playerPing body).changed fromSlice with
        | some (.returned (.response refusal)) => refusal
        | _ => ⟨0, []⟩,
        (ListCall.playerPing body).change fromSlice attempts players) := by
  rw [playerPingProtocol, ListCall.changed, ListCall.change]
  dsimp only
  cases parsePlayerInfo fromSlice body <;> rfl

end Alone

/-- A ping finds the lock taken once, and the disconnect event that follows finds it free. -/
def contendedRun : List ListStep :=
  wholeCall 0 (.playerPing (samplePingBody "g1")) (fun attempt => attempt == 1) ++
    wholeCall 1 (.disconnectEvent "g1") fun _ => true

theorem lockLaws_of_contendedRun : ∃ final,
    run (listStep sampleFromSlice sampleConfig.toVec) SharedList.new contendedRun = some final ∧
      LockLaws sampleFromSlice sampleConfig.toVec contendedRun final := by
  have possible : (run (listStep sampleFromSlice sampleConfig.toVec) SharedList.new
      contendedRun).isSome = true := by decide +kernel
  exact ⟨_, run_eq_getD possible, lockLaws_of_run (run_eq_getD possible)⟩

/-- The lock stays taken for the second ping and for the disconnect event. -/
def exhaustedRun : List ListStep :=
  wholeCall 0 (.playerPing (samplePingBody "g1")) (fun _ => true) ++
    (wholeCall 1 (.playerPing (samplePingBody "g2")) (fun _ => false) ++
      wholeCall 2 (.disconnectEvent "g1") fun _ => false)

/-- The ping of the second guest is answered with status 0 and the guest is not listed; the
disconnect event of the first guest is consumed and the guest is still listed. -/
theorem exhausted_updates_are_dropped : ∃ final,
    run (listStep sampleFromSlice sampleConfig.toVec) SharedList.new exhaustedRun = some final ∧
    final.calls[1]? = some ⟨.playerPing (samplePingBody "g2"), .returned (.response ⟨0, []⟩)⟩ ∧
    final.calls[2]? = some ⟨.disconnectEvent "g1", .returned .done⟩ ∧
    final.players = [⟨"", "g1", none, "", .guest⟩] := by
  have exhausted : ¬ InTime fun _ => false := by
    rintro ⟨attempt, _, succeeds⟩
    cases succeeds
  have firstRead : parsePlayerInfo sampleFromSlice (samplePingBody "g1") =
      .ok ⟨"", "g1", none, "", .host⟩ := by decide +kernel
  have secondRead : parsePlayerInfo sampleFromSlice (samplePingBody "g2") =
      .ok ⟨"", "g2", none, "", .host⟩ := by decide +kernel
  have firstNotifies : (ListCall.playerPing (samplePingBody "g1")).changed sampleFromSlice =
      some .notifying := by rw [ListCall.changed, firstRead]
  have secondNotifies : (ListCall.playerPing (samplePingBody "g2")).changed sampleFromSlice =
      some .notifying := by rw [ListCall.changed, secondRead]
  have joins : (ListCall.playerPing (samplePingBody "g1")).change sampleFromSlice (fun _ => true)
      [] = [⟨"", "g1", none, "", .guest⟩] := by
    rw [ListCall.change, firstRead]
    rfl
  have first := run_wholeCall sampleFromSlice sampleConfig.toVec firstNotifies (fun _ => true)
    SharedList.new
  have second := run_wholeCall sampleFromSlice sampleConfig.toVec secondNotifies fun _ => false
  have third := run_wholeCall sampleFromSlice sampleConfig.toVec
    (rfl : (ListCall.disconnectEvent "g1").changed sampleFromSlice = _) fun _ => false
  refine ⟨_, run_append_eq_some.mpr ⟨_, first, run_append_eq_some.mpr ⟨_, second _, third _⟩⟩,
    rfl, rfl, ?_⟩
  dsimp only
  rw [ListCall.change_exhausted exhausted ListCall.noConfusion,
    ListCall.change_exhausted exhausted ListCall.noConfusion]
  exact joins

end Center
end QomicexConnector
