import QomicexConnector.Center.ConnLifeCycle
import QomicexConnector.Center.CancelledConn

namespace QomicexConnector
namespace Center

open Library

/-!
# The server stops

Cancelling the token of the server is all that `stop` does to the connections: each of them has
to find out for itself.  It does so at the next look at the tokens, so that at most one more
request lies between, with its answer and its heartbeat.  No connection waits for another one or
for the timeout loop, and the last of the cleanups leaves the registry empty, whatever entries
came and went in between.

A step stands for a handler that returns and for a write that completes or fails.
-/

/-- The event is a step of a connection. -/
def Event.isConn (event : Event) : Prop := ∃ i step, event.action = .conn i step

/-- The event is a step of the connection. -/
def Event.ofConn (i : ConnId) (event : Event) : Bool :=
  match event.action with
  | .conn j _ => i == j
  | _ => false

/-- How many steps a connection can still take after the server was cancelled. -/
def ConnPhase.stepsLeft : ConnPhase → Nat
  | .pollConn => 11
  | .pollRead => 10
  | .handling _ => 9
  | .writing _ _ => 8
  | .insertActive | .insertHeartbeat _ => 7
  | .insertIp | .insertMachine _ => 6
  | .pollServer => 5
  | .removeActive => 4
  | .removeHeartbeat => 3
  | .removeIp => 2
  | .removeMachine => 1
  | .ended => 0

theorem ConnPhase.stepsLeft_le (phase : ConnPhase) : phase.stepsLeft ≤ 11 := by
  cases phase <;> simp [ConnPhase.stepsLeft]

theorem ConnPhase.stepsLeft_eq_zero {phase : ConnPhase} (none : phase.stepsLeft = 0) :
    phase = .ended := by
  cases phase <;> first | rfl | cases none

/-- A connection that is still to be accepted has all of them. -/
def Host.stepsLeft (host : Host) (i : ConnId) : Nat :=
  (host.conns[i]?.map fun conn => conn.phase.stepsLeft).getD 11

/-- Every step of a connection uses up one of those left. -/
theorem ConnMove.stepsLeft {config : HostConfig} {host : Host} {i : ConnId} {conn : Conn}
    {step : ConnStep} {effect : ConnEffect} (move : ConnMove config host i conn step effect)
    (cancelled : host.serverCancelled = true) :
    effect.phase.stepsLeft + 1 ≤ conn.phase.stepsLeft := by
  cases move with
  | serverRuns phase runs =>
      rw [cancelled] at runs
      cases runs
  | _ phase =>
      rw [phase]
      simp [Host.goto, ConnPhase.stepsLeft]

/-- A connection that has not ended has a step to take, whatever the others do. -/
theorem Conn.live.moves {conn : Conn} (live : conn.live) (config : HostConfig) (host : Host)
    (i : ConnId) (choice : HandlerChoice) :
    ∃ step effect, connEffect config host i conn conn.phase step = some effect := by
  cases phase : conn.phase with
  | insertActive => exact ⟨.insertActive, _, rfl⟩
  | insertIp => exact ⟨.insertIp, _, rfl⟩
  | pollServer => exact ⟨.pollServer, _, rfl⟩
  | pollConn => exact ⟨.pollConn, _, rfl⟩
  | pollRead => exact ⟨.pending, _, rfl⟩
  | handling request => exact ⟨.handle choice, _, rfl⟩
  | writing request response =>
      by_cases accepted : isAcceptedPing request response = true
      · exact ⟨.answered, _, if_pos accepted⟩
      · exact ⟨.written, _, if_neg accepted⟩
  | insertHeartbeat request => exact ⟨.insertHeartbeat, _, rfl⟩
  | insertMachine machineId => exact ⟨.insertMachine, _, rfl⟩
  | removeActive => exact ⟨.removeActive, _, rfl⟩
  | removeHeartbeat => exact ⟨.removeHeartbeat, _, rfl⟩
  | removeIp => exact ⟨.removeIp, _, rfl⟩
  | removeMachine => exact ⟨.removeMachine, _, rfl⟩
  | ended => exact absurd phase live

section Step

variable {config : HostConfig} {host next : Host} {action : Action}

theorem HostMove.stepsLeft (move : HostMove config host action next)
    (cancelled : host.serverCancelled = true) (i : ConnId) (time : Instant) :
    next.stepsLeft i + (if Event.ofConn i ⟨time, action⟩ then 1 else 0) ≤ host.stepsLeft i := by
  cases present : host.conns[i]? with
  | none =>
      -- who is not there yet takes no step
      have silent : Event.ofConn i ⟨time, action⟩ = false := by
        cases move with
        | @conn j conn step effect listed move =>
            refine beq_false_of_ne ?_
            rintro rfl
            rw [listed] at present
            cases present
        | _ => rfl
      have all : host.stepsLeft i = 11 := by
        rw [Host.stepsLeft, present]
        rfl
      rw [silent, all, Host.stepsLeft]
      cases next.conns[i]? with
      | none => exact Nat.le_refl _
      | some conn => exact conn.phase.stepsLeft_le
  | some before =>
      rcases move.conn_listed present with ⟨after, found, _, phase⟩
      rw [Host.stepsLeft, Host.stepsLeft, present, found, Option.map_some, Option.map_some,
        Option.getD_some, Option.getD_some]
      by_cases own : ∃ step, action = .conn i step
      · rcases own with ⟨step, rfl⟩
        cases move with
        | conn listed move =>
            cases present.symm.trans listed
            cases (getElem?_afterConn_self _ listed).symm.trans found
            have counted : Event.ofConn i ⟨time, .conn i step⟩ = true := beq_self_eq_true i
            rw [if_pos counted]
            exact move.stepsLeft cancelled
      · have silent : Event.ofConn i ⟨time, action⟩ = false := by
          cases action with
          | conn j step =>
              refine beq_false_of_ne ?_
              rintro rfl
              exact own ⟨step, rfl⟩
          | _ => rfl
        rw [silent, phase.resolve_right own]
        exact Nat.le_refl _

end Step

/-- In every continuation a connection takes at most eleven steps. -/
theorem steps_le_stepsLeft {config : HostConfig} {host final : Host} {later : List Event}
    (cancelled : host.serverCancelled = true)
    (continued : run (step config) host later = some final) (i : ConnId) :
    later.countP (Event.ofConn i) ≤ host.stepsLeft i := by
  have spends : ∀ (host : Host) (event : Event) (next : Host), host.serverCancelled = true →
      step config host event = some next → next.serverCancelled = true ∧
        next.stepsLeft i + (if event.ofConn i then 1 else 0) ≤ host.stepsLeft i := by
    intro host event next cancelled taken
    rcases step_eq_some taken with ⟨_, move⟩
    have same : (host.atTime event.time).serverCancelled = true := cancelled
    exact ⟨move.serverCancelled same, move.stepsLeft same i event.time⟩
  exact countP_le_budget (fun host : Host => host.stepsLeft i) spends cancelled continued

/-! ## Nothing is left behind -/

/-- No connection has an address that the registry knows. -/
def Host.KnowsItsOwn (host : Host) : Prop :=
  ∀ clientId, clientId ∉ host.conns.map Conn.clientId → host.registry.Lacks clientId

theorem Host.KnowsItsOwn.step {config : HostConfig} {host next : Host} {action : Action}
    (knows : host.KnowsItsOwn) (move : HostMove config host action next) : next.KnowsItsOwn := by
  intro clientId unlisted
  by_cases accepts : ∃ i address ip, action = .accept i address ip
  · rcases accepts with ⟨i, address, ip, rfl⟩
    cases move with
    | accept accepting _ _ =>
        apply knows
        intro listed
        apply unlisted
        rw [List.map_append]
        exact List.mem_append_left _ listed
  · have addresses := move.addresses fun i address ip same => accepts ⟨i, address, ip, same⟩
    rw [addresses] at unlisted
    have lacks := knows clientId unlisted
    by_cases own : ∃ i step, action = .conn i step
    · rcases own with ⟨i, step, rfl⟩
      cases move with
      | conn listed move =>
          have other : clientId ≠ _ := fun same =>
            unlisted (same ▸ List.mem_map_of_mem (List.mem_of_getElem? listed))
          have ⟨active, heartbeat, machine⟩ := move.frame other
          exact ⟨heartbeat.trans lacks.heartbeat, active.trans lacks.active,
            machine.trans lacks.machine, (move.frame_ip other).trans lacks.ip⟩
    · have noConn : ∀ i step, action ≠ .conn i step := fun i step same => own ⟨i, step, same⟩
      have ⟨active, heartbeat, ip⟩ := move.removes noConn clientId
      have machine := congrArg (AList.lookup clientId) (move.clientMachine_eq noConn)
      exact ⟨heartbeat lacks.heartbeat, active lacks.active, machine.trans lacks.machine,
        ip.trans lacks.ip⟩

theorem knowsItsOwn_of_run {config : HostConfig} {begin : Instant} {events : List Event}
    {host : Host} (reached : run (step config) (Host.new begin) events = some host) :
    host.KnowsItsOwn := by
  refine reachable_invariant ?_ ?_ reached
  · exact fun clientId _ => ⟨rfl, rfl, rfl, rfl⟩
  · intro host event next knows taken
    rcases step_eq_some taken with ⟨_, move⟩
    have same : (host.atTime event.time).KnowsItsOwn := knows
    exact same.step move

/-- Every connection has ended, and no map has an entry. -/
structure Host.Deserted (host : Host) : Prop where
  ended : ∀ conn ∈ host.conns, conn.phase = .ended
  registry : ∀ clientId, host.registry.Lacks clientId

theorem deserted_of_ended {config : HostConfig} {begin : Instant} {events : List Event}
    {host : Host} (distinct : (acceptedIds events).Nodup)
    (reached : run (step config) (Host.new begin) events = some host)
    (ended : ∀ conn ∈ host.conns, conn.phase = .ended) : host.Deserted := by
  refine ⟨ended, fun clientId => ?_⟩
  by_cases listed : clientId ∈ host.conns.map Conn.clientId
  · rcases List.mem_map.mp listed with ⟨conn, member, rfl⟩
    rcases List.getElem?_of_mem member with ⟨i, found⟩
    have life := (account_of_run distinct reached).conns i conn found
    rw [ended conn member] at life
    exact life.lacks
  · exact knowsItsOwn_of_run reached clientId listed

/-! ## All connections end -/

/-- All steps that the connections there are can still take. -/
def Host.allStepsLeft (host : Host) : Nat :=
  (host.conns.map fun conn => conn.phase.stepsLeft).sum

theorem Host.ended_of_noStepsLeft {host : Host} (none : host.allStepsLeft = 0) :
    ∀ conn ∈ host.conns, conn.phase = .ended := by
  intro conn listed
  apply ConnPhase.stepsLeft_eq_zero
  exact List.sum_eq_zero_iff_forall_eq_nat.mp none _ (List.mem_map_of_mem listed)

/-- Some connection takes a step. -/
theorem exists_connStep {config : HostConfig} {host : Host} (choice : HandlerChoice)
    (cancelled : host.serverCancelled = true) (left : host.allStepsLeft ≠ 0) :
    ∃ event next, Event.isConn event ∧ step config host event = some next ∧
      next.serverCancelled = true ∧ next.allStepsLeft < host.allStepsLeft := by
  have unfinished : ∃ conn ∈ host.conns, conn.live := by
    by_contra all
    apply left
    rw [Host.allStepsLeft, List.sum_eq_zero_iff_forall_eq_nat]
    intro steps listed
    rcases List.mem_map.mp listed with ⟨conn, member, rfl⟩
    by_cases live : conn.live
    · exact absurd ⟨conn, member, live⟩ all
    · rw [Decidable.not_not.mp live]
      rfl
  rcases unfinished with ⟨conn, member, live⟩
  rcases List.getElem?_of_mem member with ⟨i, listed⟩
  rcases live.moves config (host.atTime host.now) i choice with ⟨connStep, effect, taken⟩
  refine ⟨⟨host.now, .conn i connStep⟩, (host.atTime host.now).afterConn i conn effect,
    ⟨i, connStep, rfl⟩, ?_, cancelled, ?_⟩
  · rw [step, if_pos (Nat.le_refl _)]
    dsimp only
    have found : (host.atTime host.now).conns[i]? = some conn := listed
    rw [act, found]
    dsimp only
    rw [taken, Option.map_some]
  · have same : (host.atTime host.now).serverCancelled = true := cancelled
    exact sum_map_set_lt listed ((connEffect_eq_some taken).stepsLeft same)

theorem acceptedIds_of_conn {events : List Event} (conns : ∀ event ∈ events, Event.isConn event) :
    acceptedIds events = [] := by
  apply List.filterMap_eq_nil_iff.mpr
  rintro ⟨time, action⟩ listed
  rcases conns _ listed with ⟨i, step, rfl⟩
  rfl

/-- Whatever happens after the token of the server was cancelled, each connection takes at most
eleven more steps; the connections can end by steps of their own at any time, none waiting for
another party; and when all have ended the registry has no entry. -/
theorem stopped_server_deserted {config : HostConfig} {begin : Instant} {past later : List Event}
    {host final : Host} (distinct : (acceptedIds (past ++ later)).Nodup)
    (reached : run (step config) (Host.new begin) past = some host)
    (cancelled : host.serverCancelled = true)
    (continued : run (step config) (Host.new begin) (past ++ later) = some final) :
    (∀ i, later.countP (Event.ofConn i) ≤ 11) ∧
      (∃ rest ended, (∀ event ∈ rest, Event.isConn event) ∧
        run (step config) final rest = some ended ∧ ended.Deserted) ∧
      ((∀ conn ∈ final.conns, conn.phase = .ended) → final.Deserted) := by
  rcases run_append_eq_some.mp continued with ⟨middle, before, went⟩
  cases reached.symm.trans before
  have stays : final.serverCancelled = true := by
    refine history_invariant (fun _ host => host.serverCancelled = true) cancelled ?_ went
    intro _ host event next _ cancelled taken
    exact (step_eq_some taken).2.serverCancelled cancelled
  refine ⟨?_, ?_, deserted_of_ended distinct continued⟩
  · intro i
    refine Nat.le_trans (steps_le_stepsLeft cancelled went i) ?_
    rw [Host.stepsLeft]
    cases host.conns[i]? with
    | none => exact Nat.le_refl _
    | some conn => exact conn.phase.stepsLeft_le
  · have steps : ∀ host : Host, host.serverCancelled = true → host.allStepsLeft ≠ 0 →
        ∃ event next, Event.isConn event ∧ step config host event = some next ∧
          next.serverCancelled = true ∧ next.allStepsLeft < host.allStepsLeft :=
      fun _ cancelled left => exists_connStep sampleChoice cancelled left
    rcases exists_run_of_budget Host.allStepsLeft steps final stays with
      ⟨rest, ended, conns, arrived, _, none⟩
    refine ⟨rest, ended, conns, arrived, ?_⟩
    have fresh : (acceptedIds (past ++ later ++ rest)).Nodup := by
      rw [acceptedIds_append, acceptedIds_of_conn conns, List.append_nil]
      exact distinct
    exact deserted_of_ended fresh (run_append_eq_some.mpr ⟨final, continued, arrived⟩)
      (Host.ended_of_noStepsLeft none)

/-- A connection has looked at the token of the server before it is cancelled, and a ping is
waiting. -/
def stoppedPast : List Event :=
  sampleJoin 0 0 "10.144.144.5:54321" "10.144.144.5" ++
    [⟨0, .conn 0 .pollServer⟩, ⟨0, .cancelServer⟩]

/-- It serves the ping, leaves at the next look and cleans up. -/
def stoppedLater : List Event :=
  [⟨0, .conn 0 .pollConn⟩, ⟨0, .conn 0 (.received (samplePing "g1"))⟩,
    ⟨0, .conn 0 (.handle sampleChoice)⟩] ++ sampleRecord 0 0 ++ [⟨0, .conn 0 .pollServer⟩] ++
    sampleCleanup 0 0

theorem stopped_server_deserted_looked :
    stoppedLater.countP (Event.ofConn 0) = 11 ∧ stoppedLater.countP (Event.ofConn 0) ≤ 11 := by
  have reached : run (step sampleConfig) (Host.new 0) stoppedPast = some _ :=
    run_eq_getD (by decide +kernel)
  have continued : run (step sampleConfig) (Host.new 0) (stoppedPast ++ stoppedLater) = some _ :=
    run_eq_getD (by decide +kernel)
  refine ⟨by decide +kernel, ?_⟩
  exact (stopped_server_deserted (by decide +kernel) reached (by decide +kernel) continued).1 0

end Center
end QomicexConnector
