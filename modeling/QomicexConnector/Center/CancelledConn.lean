import QomicexConnector.Center.HostServer

namespace QomicexConnector
namespace Center

open Library

/-!
# Requests after a cancellation

A connection looks at the two tokens before every read, the server's first.  A cancellation
that lands behind these looks lets one more read complete and its request be dispatched;
after that the connection comes back to the looks and leaves.  How many frames the stream
holds, and when the cancellation comes, makes no difference.
-/

/-- The connection is cancelled, itself or with the server. -/
def Host.Stopped (host : Host) (i : ConnId) : Prop :=
  ∃ conn, host.conns[i]? = some conn ∧ (host.serverCancelled = true ∨ conn.cancelled = true)

/-- The task of the connection hands a request to the protocol table. -/
def Event.dispatches (i : ConnId) (event : Event) : Bool :=
  match event.action with
  | .conn j (.handle _) => i == j
  | _ => false

/-- How many requests a stopped connection can still dispatch: one if it is behind the looks
at the tokens that are cancelled. -/
def Conn.dispatchesLeft (conn : Conn) : Nat :=
  match conn.phase with
  | .pollConn => if conn.cancelled then 0 else 1
  | .pollRead | .handling _ => 1
  | _ => 0

def Host.dispatchesLeft (host : Host) (i : ConnId) : Nat :=
  (host.conns[i]?.map Conn.dispatchesLeft).getD 0

theorem Conn.dispatchesLeft_le_one (conn : Conn) : conn.dispatchesLeft ≤ 1 := by
  unfold Conn.dispatchesLeft
  split
  · split <;> omega
  all_goals omega

/-- A cancellation takes nothing away from the phase and leaves at most as many requests. -/
theorem Conn.dispatchesLeft_le {before after : Conn} (phase : after.phase = before.phase)
    (cancelled : before.cancelled = true → after.cancelled = true) :
    after.dispatchesLeft ≤ before.dispatchesLeft := by
  rw [Conn.dispatchesLeft, Conn.dispatchesLeft, phase]
  cases before.phase with
  | pollConn =>
      dsimp only
      by_cases stopped : before.cancelled = true
      · rw [if_pos stopped, if_pos (cancelled stopped)]
      · rw [if_neg stopped]
        split <;> omega
  | _ => exact Nat.le_refl _

/-- One step of a stopped connection: the looks at the tokens, in their order, end the loop,
and a dispatch uses up the request that was let through. -/
theorem ConnMove.dispatchesLeft {config : HostConfig} {host : Host} {i : ConnId} {conn : Conn}
    {step : ConnStep} {effect : ConnEffect} (move : ConnMove config host i conn step effect)
    (stopped : host.serverCancelled = true ∨ conn.cancelled = true) (time : Instant) :
    Conn.dispatchesLeft { conn with phase := effect.phase } +
      (if Event.dispatches i ⟨time, .conn i step⟩ then 1 else 0) ≤ conn.dispatchesLeft := by
  cases move with
  | serverRuns phase runs =>
      have cancelled : conn.cancelled = true := by
        apply stopped.resolve_left
        rw [runs]
        exact Bool.false_ne_true
      simp [Conn.dispatchesLeft, Host.goto, Event.dispatches, phase, cancelled]
  | connRuns phase runs => simp [Conn.dispatchesLeft, Host.goto, Event.dispatches, phase, runs]
  | received phase request => simp [Conn.dispatchesLeft, Host.goto, Event.dispatches, phase]
  | handle phase choice result => simp [Conn.dispatchesLeft, Host.goto, Event.dispatches, phase]
  | _ => simp_all [Conn.dispatchesLeft, Host.goto, Event.dispatches]

section Step

variable {config : HostConfig} {host next : Host} {action : Action} {i : ConnId}

theorem HostMove.serverCancelled (move : HostMove config host action next)
    (cancelled : host.serverCancelled = true) : next.serverCancelled = true := by
  cases move with
  | cancelServer => rfl
  | _ => exact cancelled

theorem Host.Stopped.step (stopped : host.Stopped i) (move : HostMove config host action next) :
    next.Stopped i := by
  rcases stopped with ⟨conn, listed, cancelled⟩
  rcases move.conn_listed listed with ⟨after, found, successor, _⟩
  exact ⟨after, found, cancelled.imp move.serverCancelled successor.cancelled⟩

/-- A step of the host leaves a stopped connection at most as many requests, less the one it
dispatches. -/
theorem Host.Stopped.dispatchesLeft (stopped : host.Stopped i)
    (move : HostMove config host action next) (time : Instant) :
    next.dispatchesLeft i + (if Event.dispatches i ⟨time, action⟩ then 1 else 0) ≤
      host.dispatchesLeft i := by
  rcases stopped with ⟨conn, listed, cancelled⟩
  rcases move.conn_listed listed with ⟨after, found, successor, phase⟩
  have left : host.dispatchesLeft i = conn.dispatchesLeft := by
    rw [Host.dispatchesLeft, listed]
    rfl
  have leftAfter : next.dispatchesLeft i = after.dispatchesLeft := by
    rw [Host.dispatchesLeft, found]
    rfl
  rw [left, leftAfter]
  by_cases own : ∃ step, action = .conn i step
  · rcases own with ⟨step, rfl⟩
    cases move with
    | conn present move =>
        cases listed.symm.trans present
        cases (getElem?_afterConn_self _ present).symm.trans found
        exact move.dispatchesLeft cancelled time
  · have silent : Event.dispatches i ⟨time, action⟩ = false := by
      cases action with
      | conn j step =>
          have other : i ≠ j := by
            rintro rfl
            exact own ⟨step, rfl⟩
          cases step with
          | handle choice => exact beq_false_of_ne other
          | _ => rfl
      | _ => rfl
    rw [silent]
    exact Conn.dispatchesLeft_le (phase.resolve_right own) successor.cancelled

end Step

/-- Once a connection is cancelled, by the timeout loop, by `disconnect_machine` or with the
server, at most one more of its requests is dispatched, in every continuation of every run. -/
theorem cancelled_dispatches_once {config : HostConfig} {begin : Instant} {past later : List Event}
    {host final : Host} {i : ConnId} (reached : run (step config) (Host.new begin) past = some host)
    (stopped : host.Stopped i)
    (continued : run (step config) (Host.new begin) (past ++ later) = some final) :
    later.countP (Event.dispatches i) ≤ 1 := by
  rcases run_append_eq_some.mp continued with ⟨middle, before, rest⟩
  cases reached.symm.trans before
  have spends : ∀ (host : Host) (event : Event) (next : Host), host.Stopped i →
      step config host event = some next → next.Stopped i ∧
        next.dispatchesLeft i + (if event.dispatches i then 1 else 0) ≤ host.dispatchesLeft i := by
    intro host event next stopped taken
    rcases step_eq_some taken with ⟨_, move⟩
    have same : (host.atTime event.time).Stopped i := stopped
    exact ⟨same.step move, same.dispatchesLeft move event.time⟩
  have bound := countP_le_budget (fun host : Host => host.dispatchesLeft i) spends stopped rest
  rcases stopped with ⟨conn, listed, _⟩
  rw [Host.dispatchesLeft, listed] at bound
  exact Nat.le_trans bound conn.dispatchesLeft_le_one

/-- A connection has looked at the tokens before the server is cancelled. -/
def lookedPast : List Event :=
  sampleJoin 0 0 "10.144.144.5:54321" "10.144.144.5" ++
    [⟨0, .conn 0 .pollServer⟩, ⟨0, .conn 0 .pollConn⟩, ⟨0, .cancelServer⟩]

/-- It dispatches the request that it reads then, and leaves. -/
def lookedLater : List Event :=
  [⟨0, .conn 0 (.received (samplePing "g1"))⟩, ⟨0, .conn 0 (.handle sampleChoice)⟩] ++
    sampleRecord 0 0 ++ [⟨0, .conn 0 .pollServer⟩] ++ sampleCleanup 0 0

theorem cancelled_dispatches_once_looked :
    lookedLater.countP (Event.dispatches 0) = 1 ∧ lookedLater.countP (Event.dispatches 0) ≤ 1 := by
  have reached : run (step sampleConfig) (Host.new 0) lookedPast = some _ :=
    run_eq_getD (by decide +kernel)
  have continued : run (step sampleConfig) (Host.new 0) (lookedPast ++ lookedLater) = some _ :=
    run_eq_getD (by decide +kernel)
  refine ⟨by decide +kernel, cancelled_dispatches_once reached ?_ continued⟩
  exact ⟨_, rfl, Or.inl (by decide +kernel)⟩

end Center
end QomicexConnector
