import QomicexConnector.Center.TimeoutRace
import QomicexConnector.Center.CancelledConn

namespace QomicexConnector
namespace Center

open Library

/-!
# A guest that pings in time stays

The timeout loop decides on a copy of the heartbeats and cancels by address, two locks later, so
it may hit a connection that has pinged in between.  It never hits one whose heartbeats are in
time at each of its readings: such a connection leaves its loop only when its own reading or
writing fails, or when the server stops, whatever the other connections do.
-/

/-! ## Heartbeats in time -/

/-- The action by which the connection stamps a heartbeat. -/
def Action.stamps (i : ConnId) : Action → Bool
  | .conn j .insertHeartbeat => j == i
  | _ => false

/-- The connection has stamped a heartbeat that is at most 15 s old. -/
def HeardSince (past : List Event) (i : ConnId) (now : Instant) : Prop :=
  ∃ event ∈ past, event.action.stamps i = true ∧ now ≤ event.time + heartbeatTimeout

instance (past : List Event) (i : ConnId) (now : Instant) : Decidable (HeardSince past i now) :=
  inferInstanceAs (Decidable (∃ _ ∈ _, _))

/-- The reading or a writing of the connection fails. -/
def Action.fails (i : ConnId) : Action → Bool
  | .conn j .readFailed | .conn j .writeFailed => j == i
  | _ => false

/-- Where the loop reads the heartbeats, the connection, if it is in its loop and has stamped
one at all, has stamped one in time. -/
def BeatsInTime (past : List Event) (host : Host) (i : ConnId) (conn : Conn) : Prop :=
  match host.loop with
  | .woken now =>
      conn.phase.served = true → (∃ event ∈ past, event.action.stamps i = true) →
        HeardSince past i now
  | _ => True

instance (past : List Event) (host : Host) (i : ConnId) (conn : Conn) :
    Decidable (BeatsInTime past host i conn) := by
  unfold BeatsInTime
  split <;> infer_instance

/-- The connection beats in time; it registers itself under an address that the loop is not about
to process; and nobody is kicked under that address. -/
def ConnPingsInTime (past : List Event) (host : Host) (i : ConnId) (conn : Conn) : Action → Prop
  | .loop (.collect _) => BeatsInTime past host i conn
  | .conn j .insertActive => j = i → conn.clientId ∉ host.loop.pending
  | .kickCancel clientId => conn.clientId ≠ clientId
  | _ => True

instance (past : List Event) (host : Host) (i : ConnId) (conn : Conn) (action : Action) :
    Decidable (ConnPingsInTime past host i conn action) := by
  unfold ConnPingsInTime
  split <;> infer_instance

/-- Connections come from free addresses, and connection `i` is in time. -/
def PingsInTime (i : ConnId) (past : List Event) (host : Host) (event : Event) : Prop :=
  FreshAddress host event.action ∧
    ∀ conn ∈ host.conns[i]?, ConnPingsInTime past host i conn event.action

instance (i : ConnId) (past : List Event) (host : Host) (event : Event) :
    Decidable (PingsInTime i past host event) :=
  inferInstanceAs (Decidable (_ ∧ _))

/-- The reading or a writing of the connection has failed, or the server was stopped. -/
def BrokenOff (past : List Event) (host : Host) (i : ConnId) : Prop :=
  (∃ event ∈ past, event.action.fails i = true) ∨ host.serverCancelled = true

theorem stamps_iff {action : Action} {i : ConnId} :
    action.stamps i = true ↔ action = .conn i .insertHeartbeat := by
  unfold Action.stamps
  split
  · simp
  · next other => simpa using fun same => other i same

theorem stampedAt_iff {past : List Event} {i : ConnId} :
    (∃ time, StampedAt past i time) ↔ ∃ event ∈ past, event.action.stamps i = true := by
  constructor
  · rintro ⟨time, stamped⟩
    exact ⟨_, stamped, stamps_iff.mpr rfl⟩
  · rintro ⟨⟨time, action⟩, listed, stamps⟩
    cases stamps_iff.mp stamps
    exact ⟨time, listed⟩

theorem HeardSince.stamped {past : List Event} {i : ConnId} {now : Instant}
    (heard : HeardSince past i now) :
    ∃ time, StampedAt past i time ∧ now ≤ time + heartbeatTimeout := by
  rcases heard with ⟨⟨time, action⟩, listed, stamps, recent⟩
  cases stamps_iff.mp stamps
  exact ⟨time, listed, recent⟩

/-! ## The invariant -/

/-- In its loop the connection is not cancelled, the loop of the timeouts is not about to process
its address, and its entry is as late as each of its heartbeats. -/
structure Kept (past : List Event) (host : Host) (i : ConnId) (conn : Conn) : Prop where
  uncancelled : conn.cancelled = false
  unexpected : conn.phase ≠ .insertActive → conn.clientId ∉ host.loop.pending
  beating : ∀ time, StampedAt past i time →
    ∃ last, host.registry.lastHeartbeat.lookup conn.clientId = some last ∧ time ≤ last

/-- The invariant of a connection in time. -/
structure Steady (i : ConnId) (past : List Event) (host : Host) : Prop where
  tracked : Tracked past host.toServer
  elapsed : ∀ event ∈ past, event.time ≤ host.now
  holder : ∀ id, host.registry.activeClients.lookup id = some i →
    ∃ conn, host.conns[i]? = some conn ∧ conn.clientId = id ∧ conn.phase ≠ .insertActive
  kept : ∀ conn, host.conns[i]? = some conn → conn.phase.served = true → Kept past host i conn
  left : ∀ conn, host.conns[i]? = some conn → conn.phase.served = false → BrokenOff past host i

section Step

variable {config : HostConfig} {host next : Host} {action : Action} {past : List Event} {i : ConnId}

/-- A token is cancelled under the address that the loop processes or somebody is kicked from. -/
theorem HostMove.cancels (move : HostMove config host action next) {before after : Conn}
    (listed : host.conns[i]? = some before) (found : next.conns[i]? = some after) :
    after.cancelled = before.cancelled ∨
      ∃ id, host.registry.activeClients.lookup id = some i ∧
        (id ∈ host.loop.pending ∨ action = .kickCancel id) := by
  have cancelled (id : String) (found : (host.toServer.cancelActive id).conns[i]? = some after) :
      after.cancelled = before.cancelled ∨ host.registry.activeClients.lookup id = some i := by
    rw [getElem?_cancelActive, listed, Option.map_some, Option.some.injEq] at found
    by_cases held : host.registry.activeClients.lookup id = some i
    · exact Or.inr held
    · rw [if_neg held] at found
      exact Or.inl (found ▸ rfl)
  have same (found : host.conns[i]? = some after) : after.cancelled = before.cancelled := by
    rw [listed] at found
    cases found
    rfl
  cases move with
  | accept accepting clientId clientIp =>
      rcases getElem?_concat found with old | ⟨new, _⟩
      · exact Or.inl (same old)
      · rcases List.getElem?_eq_some_iff.mp listed with ⟨inside, _⟩
        exact absurd new (Nat.ne_of_lt inside)
  | @conn j conn step effect earlier move =>
      rw [getElem?_afterConn _ earlier] at found
      split at found
      · next own =>
          subst own
          cases listed.symm.trans earlier
          cases found
          exact Or.inl rfl
      · exact Or.inl (same found)
  | loop move =>
      cases move with
      | @cancelExpired now id later phase =>
          refine (cancelled id found).imp_right fun held => ⟨id, held, Or.inl ?_⟩
          rw [phase]
          exact List.mem_cons_self
      | _ => exact Or.inl (same found)
  | @kickCancel id _ => exact (cancelled id found).imp_right fun held => ⟨id, held, Or.inr rfl⟩
  | _ => exact Or.inl (same found)

/-- Only a reading of the heartbeats makes the loop process another address. -/
theorem HostMove.pending_subset (move : HostMove config host action next)
    (reads : action.collects = false) : next.loop.pending ⊆ host.loop.pending := by
  cases move with
  | loop move =>
      cases move with
      | collect phase order iterates => cases reads
      | wake phase _ | stop phase _ | finishTick phase => exact List.nil_subset _
      | expire phase =>
          rw [phase]
          exact List.Subset.refl _
      | cancelExpired phase =>
          rw [phase]
          exact List.subset_cons_self _ _
  | _ => exact List.Subset.refl _

theorem Steady.holder_step (steady : Steady i past host) (move : HostMove config host action next)
    (id : String) (found : next.registry.activeClients.lookup id = some i) :
    ∃ conn, next.conns[i]? = some conn ∧ conn.clientId = id ∧ conn.phase ≠ .insertActive := by
  rcases move.active_of found with earlier | ⟨rfl, conn, listed, address⟩
  · rcases steady.holder id earlier with ⟨conn, listed, address, started⟩
    rcases move.conn_listed listed with ⟨after, present, successor, _⟩
    exact ⟨after, present, successor.clientId.trans address, successor.started started⟩
  · cases move with
    | conn present move =>
        cases listed.symm.trans present
        exact ⟨_, getElem?_afterConn_self _ present, address, move.started⟩

/-- In its loop a connection in time still has an entry as late as each of its heartbeats. -/
theorem Steady.beating_step (steady : Steady i past host) (move : HostMove config host action next)
    {before after : Conn} (present : host.conns[i]? = some before)
    (kept : Kept past host i before) (listed : next.conns[i]? = some after)
    (served : after.phase.served = true) (same : after.clientId = before.clientId)
    (time : Instant) (stamped : StampedAt (past ++ [⟨host.now, action⟩]) i time) :
    ∃ last, next.registry.lastHeartbeat.lookup after.clientId = some last ∧ time ≤ last := by
  rw [same]
  have earlier (other : action ≠ .conn i .insertHeartbeat) :
      ∃ last, host.registry.lastHeartbeat.lookup before.clientId = some last ∧ time ≤ last :=
    kept.beating time ((stampedAt_now stamped).resolve_right fun now => other now.2)
  cases move with
  | @conn j conn step effect found move =>
      by_cases own : i = j
      · subst own
        cases present.symm.trans found
        rw [getElem?_afterConn_self _ found] at listed
        cases listed
        have beats : ∃ last, effect.registry.lastHeartbeat.lookup before.clientId = some last := by
          refine move.keepsBeating served ?_
          rcases stampedAt_now stamped with past | ⟨_, now⟩
          · exact Or.inr ((kept.beating time past).imp fun _ => And.left)
          · cases now
            exact Or.inl rfl
        rcases beats with ⟨last, beats⟩
        refine ⟨last, beats, ?_⟩
        rcases move.beat_of beats with ⟨_, rfl⟩ | ⟨other, unchanged⟩
        · rcases stampedAt_now stamped with past | ⟨now, _⟩
          · exact steady.elapsed _ past
          · exact Nat.le_of_eq now
        · have unstamped : Action.conn i step ≠ .conn i .insertHeartbeat := by
            simpa using other
          rcases earlier unstamped with ⟨previous, found, late⟩
          rw [unchanged] at found
          cases found
          exact late
      · have other : Action.conn j step ≠ .conn i .insertHeartbeat := by
          intro isStamp
          cases isStamp
          exact own rfl
        have live : before.live := by
          rw [getElem?_afterConn _ found, if_neg own, present] at listed
          cases listed
          exact Conn.live_of_served served
        have different : before.clientId ≠ conn.clientId := fun address =>
          own (steady.tracked.distinct i j before conn present found live move.live address)
        rcases earlier other with ⟨last, found, late⟩
        exact ⟨last, (move.frame different).2.1.trans found, late⟩
  | loop move =>
      rcases earlier (by simp) with ⟨last, found, late⟩
      refine ⟨last, ?_, late⟩
      cases move with
      | @expire now id later phase =>
          have started : before.phase ≠ .insertActive := by
            rcases steady.tracked.started i time ((stampedAt_now stamped).resolve_right (by simp))
              with ⟨conn, also, started⟩
            cases present.symm.trans also
            exact started
          have expected : before.clientId ∉ id :: later := by
            have unexpected := kept.unexpected started
            rwa [phase] at unexpected
          change (host.registry.lastHeartbeat.erase id).lookup before.clientId = some last
          rw [HashMap.lookup_erase, if_neg (List.ne_of_not_mem_cons expected), found]
      | _ => exact found
  | _ => exact earlier (by simp)

/-- After a step in time the loop of the timeouts is not about to process the address. -/
theorem Steady.unexpected_step (steady : Steady i past host)
    (move : HostMove config host action next) {before after : Conn}
    (present : host.conns[i]? = some before) (served : before.phase.served = true)
    (inTime : ConnPingsInTime past host i before action) (kept : Kept past host i before)
    (phase : after.phase = before.phase ∨ ∃ step, action = .conn i step)
    (started : after.phase ≠ .insertActive) : before.clientId ∉ next.loop.pending := by
  by_cases reads : action.collects = true
  · cases move with
    | loop move =>
        cases move with
        | @collect now woken order iterates =>
            intro expired
            rcases mem_timedOut.mp expired with ⟨last, entry, old⟩
            have beats := iterates.mem_iff.mp entry
            rcases steady.tracked.owner before.clientId last beats with
              ⟨k, other, listed, address, keeps, stamped⟩
            have own : k = i := steady.tracked.distinct k i other before listed present
              (Conn.live_of_keepsStamp keeps) (Conn.live_of_served served) address
            subst own
            have beatsInTime : BeatsInTime past host k before := inTime
            rw [BeatsInTime, woken] at beatsInTime
            rcases (beatsInTime served (stampedAt_iff.mp ⟨last, stamped⟩)).stamped with
              ⟨time, heard, recent⟩
            rcases kept.beating time heard with ⟨latest, found, late⟩
            rw [beats] at found
            cases found
            exact absurd old (Nat.not_lt.mpr (Nat.le_trans recent (Nat.add_le_add_right late _)))
        | _ => cases reads
    | _ => cases reads
  · refine fun expected => absurd (move.pending_subset (eq_false_of_ne_true reads) expected) ?_
    by_cases new : before.phase = .insertActive
    · rcases phase with same | ⟨step, rfl⟩
      · exact absurd (same.trans new) started
      · cases move with
        | conn listed move =>
            cases present.symm.trans listed
            cases move with
            | insertActive _ => exact inTime rfl
            | _ => simp_all
    · exact kept.unexpected new

theorem Steady.kept_step (steady : Steady i past host) (move : HostMove config host action next)
    (inTime : ∀ conn ∈ host.conns[i]?, ConnPingsInTime past host i conn action) (after : Conn)
    (listed : next.conns[i]? = some after) (served : after.phase.served = true) :
    Kept (past ++ [⟨host.now, action⟩]) next i after := by
  rcases move.conn_cases listed with ⟨_, _, rfl, new, rfl⟩ | ⟨before, present, successor, phase⟩
  · refine ⟨rfl, fun started => absurd rfl started, ?_⟩
    intro time stamped
    rcases stampedAt_now stamped with earlier | ⟨_, isStamp⟩
    · rcases steady.tracked.started i time earlier with ⟨conn, present, _⟩
      rcases List.getElem?_eq_some_iff.mp present with ⟨inside, _⟩
      exact absurd new (Nat.ne_of_lt inside)
    · cases isStamp
  · have servedBefore := successor.served served
    have kept := steady.kept before present servedBefore
    refine ⟨?_, ?_, steady.beating_step move present kept listed served successor.clientId⟩
    · rcases move.cancels present listed with same | ⟨id, held, cause⟩
      · exact same.trans kept.uncancelled
      · rcases steady.holder id held with ⟨conn, also, rfl, started⟩
        cases present.symm.trans also
        rcases cause with expected | rfl
        · exact absurd expected (kept.unexpected started)
        · exact absurd rfl (inTime before present)
    · intro started
      rw [successor.clientId]
      exact steady.unexpected_step move present servedBefore (inTime before present) kept phase
        started

/-- A connection that leaves its loop uncancelled is broken off. -/
theorem ConnMove.leaves {conn : Conn} {step : ConnStep} {effect : ConnEffect}
    (move : ConnMove config host i conn step effect) (served : conn.phase.served = true)
    (left : effect.phase.served = false) :
    conn.cancelled = true ∨ host.serverCancelled = true ∨
      Action.fails i (.conn i step) = true := by
  cases move with
  | serverStopped phase stopped => exact Or.inr (Or.inl stopped)
  | connStopped phase stopped => exact Or.inl stopped
  | readFailed phase | writeFailed phase => exact Or.inr (Or.inr (beq_self_eq_true i))
  | removeActive phase | removeHeartbeat phase | removeIp phase | removeMachine phase =>
      rw [phase] at served
      cases served
  | _ => cases left

theorem Steady.left_step (steady : Steady i past host) (move : HostMove config host action next)
    (after : Conn) (listed : next.conns[i]? = some after) (left : after.phase.served = false) :
    BrokenOff (past ++ [⟨host.now, action⟩]) next i := by
  have later (broken : BrokenOff past host i) : BrokenOff (past ++ [⟨host.now, action⟩]) next i :=
    broken.imp (fun ⟨event, member, fails⟩ => ⟨event, List.mem_append_left _ member, fails⟩)
      move.serverCancelled
  rcases move.conn_cases listed with ⟨_, _, _, _, rfl⟩ | ⟨before, present, _, phase⟩
  · cases left
  · by_cases served : before.phase.served = true
    · rcases phase with same | ⟨step, rfl⟩
      · rw [same, served] at left
        cases left
      · cases move with
        | conn found move =>
            cases present.symm.trans found
            rw [getElem?_afterConn_self _ found] at listed
            cases listed
            rcases move.leaves served left with cancelled | stopped | fails
            · rw [(steady.kept before present served).uncancelled] at cancelled
              cases cancelled
            · exact Or.inr stopped
            · exact Or.inl ⟨_, List.mem_append_right _ List.mem_cons_self, fails⟩
    · exact later (steady.left before present (eq_false_of_ne_true served))

theorem Steady.step (steady : Steady i past host) (move : HostMove config host action next)
    (fresh : FreshAddress host action)
    (inTime : ∀ conn ∈ host.conns[i]?, ConnPingsInTime past host i conn action) :
    Steady i (past ++ [⟨host.now, action⟩]) next where
  tracked := steady.tracked.step move fresh
  elapsed := by
    rw [move.now_eq]
    exact List.forall_mem_append.mpr
      ⟨steady.elapsed, List.forall_mem_singleton.mpr (Nat.le_refl _)⟩
  holder := steady.holder_step move
  kept := steady.kept_step move inTime
  left := steady.left_step move

end Step

theorem steady_new (i : ConnId) (now : Instant) : Steady i [] (Host.new now) where
  tracked := tracked_new now
  elapsed event listed := absurd listed List.not_mem_nil
  holder id held := by cases held
  kept := by
    intro conn listed
    cases listed
  left := by
    intro conn listed
    cases listed

theorem steady_run {config : HostConfig} {begin : Instant} {events : List Event} {host : Host}
    {i : ConnId} (inTime : EveryStep (step config) (Host.new begin) (PingsInTime i) events)
    (reached : run (step config) (Host.new begin) events = some host) : Steady i events host := by
  refine run_invariant (Steady i) (steady_new i begin) ?_ inTime reached
  rintro past host event next _ steady ⟨fresh, inTime⟩ taken
  rcases step_eq_some taken with ⟨forward, move⟩
  have now : Steady i past (host.atTime event.time) :=
    { tracked := steady.tracked
      elapsed := fun earlier listed => Nat.le_trans (steady.elapsed earlier listed) forward
      holder := steady.holder
      kept := fun conn listed served =>
        let kept := steady.kept conn listed served
        ⟨kept.uncancelled, kept.unexpected, kept.beating⟩
      left := steady.left }
  exact now.step move fresh inTime

/-- In every run, whatever the other connections and the loop of the timeouts do, a connection
whose heartbeats are in time is in its loop, uncancelled and found under its address with its
latest heartbeat, or its own reading or writing has failed or the server was stopped. -/
theorem steady_guest_stays {config : HostConfig} {begin : Instant} {events : List Event}
    {host : Host} {i : ConnId}
    (inTime : EveryStep (step config) (Host.new begin) (PingsInTime i) events)
    (reached : run (step config) (Host.new begin) events = some host) {conn : Conn}
    (listed : host.conns[i]? = some conn) :
    BrokenOff events host i ∨
      conn.phase.served = true ∧ conn.cancelled = false ∧
        (conn.phase ≠ .insertActive →
          host.registry.activeClients.lookup conn.clientId = some i) ∧
        ∀ time, StampedAt events i time →
          ∃ last, host.registry.lastHeartbeat.lookup conn.clientId = some last ∧ time ≤ last := by
  have steady := steady_run inTime reached
  by_cases served : conn.phase.served = true
  · have kept := steady.kept conn listed served
    refine Or.inr ⟨served, kept.uncancelled, ?_, kept.beating⟩
    intro started
    refine (steady.tracked.registered i conn listed served started).resolve_right ?_
    rw [kept.uncancelled]
    exact Bool.false_ne_true
  · exact Or.inl (steady.left conn listed (eq_false_of_ne_true served))

/-- A guest that pings at the start and after 12 s, next to one that never comes back. -/
def steadyVisit : List Event :=
  sampleJoin 0 0 "10.144.144.5:54321" "10.144.144.5" ++ sampleRequest 0 0 "g1" ++
    sampleRecord 0 0 ++
    sampleJoin 0 1 "10.144.144.6:54321" "10.144.144.6" ++ sampleRequest 0 1 "g2" ++
    sampleRecord 0 1 ++
    sampleRequest (secs 12) 0 "g1" ++ sampleRecord (secs 12) 0 ++
    [⟨secs 20, .loop .wake⟩,
      ⟨secs 20, .loop (.collect [("10.144.144.5:54321", secs 12), ("10.144.144.6:54321", 0)])⟩,
      ⟨secs 20, .loop .expire⟩, ⟨secs 20, .loop .cancelExpired⟩]

def steadyHost : Host := (run (step sampleConfig) (Host.new 0) steadyVisit).getD (Host.new 0)

/-- The tick at 20 s cancels the other guest. -/
theorem steady_guest_stays_visit :
    (steadyHost.conns[1]?).map Conn.cancelled = some true ∧
      ∀ conn, steadyHost.conns[0]? = some conn →
        conn.phase.served = true ∧ conn.cancelled = false := by
  refine ⟨by decide +kernel, ?_⟩
  intro conn listed
  have unbroken : ¬ BrokenOff steadyVisit steadyHost 0 := by
    rw [BrokenOff]
    decide +kernel
  rcases steady_guest_stays (by decide +kernel) (run_eq_getD (by decide +kernel)) listed with
    broken | ⟨served, uncancelled, _⟩
  · exact absurd broken unbroken
  · exact ⟨served, uncancelled⟩

end Center
end QomicexConnector
