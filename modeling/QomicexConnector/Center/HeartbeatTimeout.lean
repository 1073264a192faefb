import QomicexConnector.Center.HostServer

namespace QomicexConnector
namespace Center

open Library

/-!
# Eviction of silent connections

The heartbeat loop knows a connection only through its entry in
`last_heartbeat`, and an entry is made by an accepted ping only.  The invariant
below ties the entries to the connections; a tick then cancels every connection
that has an entry and whose pings are too old.  A connection without an accepted
ping has no entry, and no tick concerns it.
-/

/-! ## What a run has done -/

def AcceptedAt (past : List Event) (i : ConnId) (time : Instant) : Prop :=
  ∃ clientId clientIp, ⟨time, .accept i clientId clientIp⟩ ∈ past

/-- The connection completed the write of a status-0 answer to a `c:player_ping`. -/
def AnsweredAt (past : List Event) (i : ConnId) (time : Instant) : Prop :=
  ⟨time, .conn i .answered⟩ ∈ past

/-- The connection stamped its entry in `last_heartbeat`. -/
def StampedAt (past : List Event) (i : ConnId) (time : Instant) : Prop :=
  ⟨time, .conn i .insertHeartbeat⟩ ∈ past

theorem StampedAt.concat {past : List Event} {i : ConnId} {time : Instant}
    (stamped : StampedAt past i time) (event : Event) : StampedAt (past ++ [event]) i time :=
  List.mem_append_left _ stamped

theorem stampedAt_concat {past : List Event} {i : ConnId} {time : Instant} {event : Event} :
    StampedAt (past ++ [event]) i time ↔
      StampedAt past i time ∨ event = ⟨time, .conn i .insertHeartbeat⟩ := by
  rw [StampedAt, List.mem_append, List.mem_singleton]
  exact or_congr_right eq_comm

/-! ## The invariant of the heartbeats -/

namespace Server

/-- A connection in its loop is found under its address, or is cancelled already. -/
def Registered (server : Server) : Prop :=
  ∀ (i : ConnId) (conn : Conn), server.conns[i]? = some conn → conn.phase.served = true →
    conn.phase ≠ .insertActive →
      server.registry.activeClients.lookup conn.clientId = some i ∨ conn.cancelled = true

end Server

/-- The connection has not yet removed its heartbeat. -/
def ConnPhase.keepsStamp : ConnPhase → Bool
  | .removeIp | .removeMachine | .ended => false
  | _ => true

theorem Conn.live_of_keepsStamp {conn : Conn} (keeps : conn.phase.keepsStamp = true) :
    conn.live := by
  intro ended
  rw [ended] at keeps
  cases keeps

/-- How the heartbeats and the connections belong together. -/
structure Tracked (past : List Event) (server : Server) : Prop where
  distinct : server.DistinctAddresses
  registered : server.Registered
  started : ∀ i time, StampedAt past i time →
    ∃ conn, server.conns[i]? = some conn ∧ conn.phase ≠ .insertActive
  owner : ∀ clientId time, server.registry.lastHeartbeat.lookup clientId = some time →
    ∃ (i : ConnId) (conn : Conn), server.conns[i]? = some conn ∧ conn.clientId = clientId ∧
      conn.phase.keepsStamp = true ∧ StampedAt past i time
  beating : ∀ (i : ConnId) (conn : Conn) time, server.conns[i]? = some conn →
    conn.phase.served = true → StampedAt past i time →
      conn.cancelled = true ∨
      (∃ latest, server.registry.lastHeartbeat.lookup conn.clientId = some latest) ∨
      ∃ now later, server.loop = .cancelling now conn.clientId later

namespace Server

theorem Registered.cancelActive {server : Server} (before : server.Registered) (id : String) :
    (server.cancelActive id).Registered := by
  intro j after listed served started
  rw [getElem?_cancelActive] at listed
  rcases Option.map_eq_some_iff.mp listed with ⟨conn, earlier, rfl⟩
  by_cases held : server.registry.activeClients.lookup id = some j
  · rw [if_pos held]
    exact Or.inr rfl
  · rw [if_neg held] at served started ⊢
    rcases before j conn earlier served started with found | cancelled
    · apply Or.inl
      change (server.registry.activeClients.erase id).lookup conn.clientId = some j
      rw [HashMap.lookup_erase, if_neg, found]
      rintro rfl
      exact held found
    · exact Or.inr cancelled

/-- The token of a registered connection is the one found under its address. -/
theorem Registered.cancels {server : Server} (registered : server.Registered) {id : String}
    {j : ConnId} {after : Conn} (listed : (server.cancelActive id).conns[j]? = some after)
    (served : after.phase.served = true) (started : after.phase ≠ .insertActive)
    (address : after.clientId = id) : after.cancelled = true := by
  rw [getElem?_cancelActive] at listed
  rcases Option.map_eq_some_iff.mp listed with ⟨conn, earlier, rfl⟩
  by_cases held : server.registry.activeClients.lookup id = some j
  · rw [if_pos held]
    rfl
  · rw [if_neg held] at served started address ⊢
    exact (registered j conn earlier served started).resolve_left (address ▸ held)

end Server

namespace ConnMove

variable {config : HostConfig} {host : Host} {i : ConnId} {conn : Conn} {step : ConnStep}
  {effect : ConnEffect}

/-- In its loop a connection finds itself registered, or was so before. -/
theorem registers (move : ConnMove config host i conn step effect)
    (served : effect.phase.served = true) :
    effect.registry.activeClients.lookup conn.clientId = some i ∨
      conn.phase ≠ .insertActive ∧
        effect.registry.activeClients = host.registry.activeClients := by
  cases move with
  | insertActive phase => exact Or.inl (AList.lookup_insert _)
  | removeActive phase => cases served
  | insertIp phase => exact Or.inr ⟨by simp [phase], rfl⟩
  | _ => exact Or.inr ⟨by simp_all, rfl⟩

/-- Where the entry under the own address comes from. -/
theorem stamp (move : ConnMove config host i conn step effect) {time : Instant}
    (found : effect.registry.lastHeartbeat.lookup conn.clientId = some time) :
    step = .insertHeartbeat ∧ time = host.now ∧ effect.phase.keepsStamp = true ∨
      host.registry.lastHeartbeat.lookup conn.clientId = some time ∧
        (conn.phase.keepsStamp = true → effect.phase.keepsStamp = true) := by
  cases move with
  | stamped phase _ | stampedOnly phase _ =>
      change (host.registry.lastHeartbeat.insert _ _).lookup _ = _ at found
      rw [AList.lookup_insert, Option.some.injEq] at found
      exact Or.inl ⟨rfl, found.symm, rfl⟩
  | removeHeartbeat phase =>
      change (host.registry.lastHeartbeat.erase _).lookup _ = _ at found
      rw [AList.lookup_erase] at found
      cases found
  | _ => exact Or.inr ⟨found, by simp_all [Host.goto, ConnPhase.keepsStamp]⟩

/-- In its loop a connection keeps its entry, and makes one where it stamps. -/
theorem keepsBeating (move : ConnMove config host i conn step effect)
    (served : effect.phase.served = true)
    (before : step = .insertHeartbeat ∨
      ∃ time, host.registry.lastHeartbeat.lookup conn.clientId = some time) :
    ∃ time, effect.registry.lastHeartbeat.lookup conn.clientId = some time := by
  have known (other : step ≠ .insertHeartbeat) := before.resolve_left other
  cases move with
  | stamped phase _ | stampedOnly phase _ => exact ⟨host.now, AList.lookup_insert _⟩
  | removeHeartbeat phase => cases served
  | _ => exact known (by simp)

end ConnMove

section Step

variable {config : HostConfig} {host next : Host} {action : Action} {past : List Event}

theorem Server.Registered.step (move : HostMove config host action next)
    (before : host.Registered) (distinct : host.DistinctAddresses) : next.Registered := by
  cases move with
  | accept accepting clientId clientIp =>
      intro j conn listed served started
      rcases getElem?_concat listed with old | ⟨_, rfl⟩
      · exact before j conn old served started
      · exact absurd rfl started
  | @conn i conn step effect listed move =>
      intro j after found served started
      rw [getElem?_afterConn _ listed] at found
      split at found
      · next same =>
          subst same
          cases found
          rcases move.registers served with registered | ⟨started, same⟩
          · exact Or.inl registered
          · change effect.registry.activeClients.lookup conn.clientId = some j ∨ _
            rw [same]
            exact before j conn listed (move.served served) started
      · next other =>
          have different : after.clientId ≠ conn.clientId := fun same =>
            other (distinct j i after conn found listed (Conn.live_of_served served) move.live same)
          change effect.registry.activeClients.lookup after.clientId = some j ∨ _
          rw [(move.frame different).1]
          exact before j after found served started
  | loop move =>
      cases move with
      | cancelExpired phase => exact before.cancelActive _
      | _ => exact before
  | @kickCancel clientId found => exact before.cancelActive clientId
  | _ => exact before

theorem stampedAt_now {i : ConnId} {time : Instant}
    (stamped : StampedAt (past ++ [⟨host.now, action⟩]) i time) :
    StampedAt past i time ∨ time = host.now ∧ action = .conn i .insertHeartbeat := by
  rcases stampedAt_concat.mp stamped with earlier | now
  · exact Or.inl earlier
  · cases now
    exact Or.inr ⟨rfl, rfl⟩

theorem Tracked.started_step (tracked : Tracked past host.toServer)
    (move : HostMove config host action next) (i : ConnId) (time : Instant)
    (stamped : StampedAt (past ++ [⟨host.now, action⟩]) i time) :
    ∃ conn, next.conns[i]? = some conn ∧ conn.phase ≠ .insertActive := by
  rcases stampedAt_now stamped with earlier | ⟨_, rfl⟩
  · rcases tracked.started i time earlier with ⟨conn, listed, started⟩
    rcases move.conn_listed listed with ⟨after, found, successor, _⟩
    exact ⟨after, found, successor.started started⟩
  · cases move with
    | conn listed move =>
        exact ⟨_, getElem?_afterConn_self _ listed, move.started⟩

/-- An entry belongs to a connection that has stamped it and not yet removed it. -/
theorem Tracked.owner_step (tracked : Tracked past host.toServer)
    (move : HostMove config host action next) (clientId : String) (time : Instant)
    (found : next.registry.lastHeartbeat.lookup clientId = some time) :
    ∃ (i : ConnId) (conn : Conn), next.conns[i]? = some conn ∧ conn.clientId = clientId ∧
      conn.phase.keepsStamp = true ∧ StampedAt (past ++ [⟨host.now, action⟩]) i time := by
  have cancelled (id : String) (found : host.registry.lastHeartbeat.lookup clientId = some time) :
      ∃ (i : ConnId) (conn : Conn), (host.toServer.cancelActive id).conns[i]? = some conn ∧
        conn.clientId = clientId ∧ conn.phase.keepsStamp = true ∧
        StampedAt (past ++ [⟨host.now, action⟩]) i time := by
    rcases tracked.owner clientId time found with ⟨i, conn, listed, address, keeps, stamped⟩
    rcases Server.cancelActive_listed listed id with ⟨after, found, successor, phase⟩
    exact ⟨i, after, found, successor.clientId.trans address, phase ▸ keeps, stamped.concat _⟩
  have unchanged (found : host.registry.lastHeartbeat.lookup clientId = some time) :
      ∃ (i : ConnId) (conn : Conn), host.conns[i]? = some conn ∧ conn.clientId = clientId ∧
        conn.phase.keepsStamp = true ∧ StampedAt (past ++ [⟨host.now, action⟩]) i time := by
    rcases tracked.owner clientId time found with ⟨i, conn, listed, address, keeps, stamped⟩
    exact ⟨i, conn, listed, address, keeps, stamped.concat _⟩
  cases move with
  | accept accepting newId newIp =>
      rcases unchanged found with ⟨i, conn, listed, rest⟩
      rcases List.getElem?_eq_some_iff.mp listed with ⟨inside, _⟩
      exact ⟨i, conn, (List.getElem?_append_left inside).trans listed, rest⟩
  | @conn i conn step effect listed move =>
      by_cases own : clientId = conn.clientId
      · subst own
        rcases move.stamp found with ⟨rfl, rfl, keeps⟩ | ⟨earlier, keeps⟩
        · refine ⟨i, _, getElem?_afterConn_self _ listed, rfl, keeps, ?_⟩
          exact List.mem_append_right _ (List.mem_singleton.mpr rfl)
        · rcases unchanged earlier with ⟨k, other, present, address, kept, stamped⟩
          have same : k = i := tracked.distinct k i other conn present listed
            (Conn.live_of_keepsStamp kept) move.live address
          subst same
          rw [present] at listed
          cases listed
          exact ⟨k, _, getElem?_afterConn_self _ present, rfl, keeps kept, stamped⟩
      · have earlier := (move.frame own).2.1.symm.trans found
        rcases unchanged earlier with ⟨k, other, present, address, rest⟩
        refine ⟨k, other, ?_, address, rest⟩
        rw [getElem?_afterConn _ listed, if_neg, present]
        rintro rfl
        rw [present] at listed
        cases listed
        exact own address.symm
  | loop move =>
      cases move with
      | @expire now id later phase =>
          change (host.registry.lastHeartbeat.erase id).lookup clientId = some time at found
          rw [HashMap.lookup_erase] at found
          split at found
          · cases found
          · exact unchanged found
      | cancelExpired phase => exact cancelled _ found
      | _ => exact unchanged found
  | kickCancel _ => exact cancelled _ found
  | _ => exact unchanged found

/-- A step of the timeout loop takes the stamp of a connection only to cancel it next. -/
theorem Tracked.beating_loop (tracked : Tracked past host.toServer) {step : LoopStep}
    {server : Server} (move : LoopMove host step server) {j : ConnId} {after : Conn}
    {time : Instant} (listed : server.conns[j]? = some after) (served : after.phase.served = true)
    (started : after.phase ≠ .insertActive) (stamped : StampedAt past j time) :
    after.cancelled = true ∨
      (∃ latest, server.registry.lastHeartbeat.lookup after.clientId = some latest) ∨
      ∃ now later, server.loop = .cancelling now after.clientId later := by
  cases move with
  | wake phase _ | stop phase _ | collect phase _ _ | finishTick phase =>
      have held := tracked.beating j after time listed served stamped
      simp only [phase, reduceCtorEq, exists_false, or_false] at held
      exact held.imp_right Or.inl
  | @expire now id later phase =>
      have held := tracked.beating j after time listed served stamped
      simp only [phase, reduceCtorEq, exists_false, or_false] at held
      by_cases expired : after.clientId = id
      · exact Or.inr (Or.inr ⟨now, later, by rw [expired]⟩)
      · refine held.imp_right fun ⟨latest, beats⟩ => Or.inl ⟨latest, ?_⟩
        change (host.registry.lastHeartbeat.erase id).lookup _ = _
        rw [HashMap.lookup_erase, if_neg expired, beats]
  | @cancelExpired now id later phase =>
      by_cases address : after.clientId = id
      · exact Or.inl (tracked.registered.cancels listed served started address)
      · rcases Server.cancelActive_successor listed with ⟨conn, present, successor, _⟩
        rcases tracked.beating j conn time present (successor.served served) stamped with
          cancelled | beats | ⟨_, _, cancelling⟩
        · exact Or.inl (successor.cancelled cancelled)
        · exact Or.inr (Or.inl (successor.clientId ▸ beats))
        · rw [phase] at cancelling
          cases cancelling
          exact absurd successor.clientId address

theorem Tracked.beating_step (tracked : Tracked past host.toServer)
    (move : HostMove config host action next) (j : ConnId) (after : Conn) (time : Instant)
    (listed : next.conns[j]? = some after) (served : after.phase.served = true)
    (stamped : StampedAt (past ++ [⟨host.now, action⟩]) j time) :
    after.cancelled = true ∨
      (∃ latest, next.registry.lastHeartbeat.lookup after.clientId = some latest) ∨
      ∃ now later, next.loop = .cancelling now after.clientId later := by
  have earlier (other : ∀ i, action ≠ .conn i .insertHeartbeat) : StampedAt past j time :=
    (stampedAt_now stamped).resolve_right fun now => other j now.2
  have started : after.phase ≠ .insertActive := by
    rcases tracked.started_step move j time stamped with ⟨conn, found, started⟩
    rw [listed] at found
    cases found
    exact started
  cases move with
  | accept accepting clientId clientIp =>
      have before := earlier (by simp)
      rcases getElem?_concat listed with old | ⟨rfl, _⟩
      · exact tracked.beating j after time old served before
      · rcases tracked.started _ time before with ⟨conn, present, _⟩
        rcases List.getElem?_eq_some_iff.mp present with ⟨inside, _⟩
        exact absurd inside (Nat.lt_irrefl _)
  | @conn i conn step effect present move =>
      rw [getElem?_afterConn _ present] at listed
      split at listed
      · next same =>
          subst same
          cases listed
          rcases stampedAt_now stamped with before | ⟨_, now⟩
          · rcases tracked.beating j conn time present (move.served served) before with
              cancelled | beats | cancelling
            · exact Or.inl cancelled
            · exact Or.inr (Or.inl (move.keepsBeating served (Or.inr beats)))
            · exact Or.inr (Or.inr cancelling)
          · cases now
            exact Or.inr (Or.inl (move.keepsBeating served (Or.inl rfl)))
      · next other =>
          have before : StampedAt past j time := (stampedAt_now stamped).resolve_right fun now =>
            other (Action.conn.inj now.2).1.symm
          have different : after.clientId ≠ conn.clientId := fun same =>
            other (tracked.distinct j i after conn listed present (Conn.live_of_served served)
              move.live same)
          change _ ∨ (∃ latest, effect.registry.lastHeartbeat.lookup after.clientId = _) ∨ _
          rw [(move.frame different).2.1]
          exact tracked.beating j after time listed served before
  | loop move => exact tracked.beating_loop move listed served started (earlier (by simp))
  | @kickCancel clientId found =>
      rcases Server.cancelActive_successor listed with ⟨conn, present, successor, _⟩
      rw [successor.clientId]
      exact (tracked.beating j conn time present (successor.served served)
        (earlier (by simp))).imp_left successor.cancelled
  | _ => exact tracked.beating j after time listed served (earlier (by simp))

theorem Tracked.step (move : HostMove config host action next)
    (tracked : Tracked past host.toServer) (fresh : FreshAddress host action) :
    Tracked (past ++ [⟨host.now, action⟩]) next.toServer where
  distinct := tracked.distinct.step move fresh
  registered := tracked.registered.step move tracked.distinct
  started := tracked.started_step move
  owner := tracked.owner_step move
  beating := tracked.beating_step move

end Step

theorem tracked_new (now : Instant) : Tracked [] (Host.new now).toServer where
  distinct := by
    intro i j first second listed
    cases listed
  registered := by
    intro i conn listed
    cases listed
  started i time stamped := absurd stamped List.not_mem_nil
  owner clientId time found := by cases found
  beating := by
    intro i conn time listed
    cases listed

theorem tracked_run {config : HostConfig} {begin : Instant} {events : List Event} {host : Host}
    (fresh : FreshAddresses config begin events)
    (reached : run (step config) (Host.new begin) events = some host) :
    Tracked events host.toServer := by
  refine run_invariant (fun past host => Tracked past host.toServer)
    (tracked_new begin) ?_ fresh reached
  intro past host event next _ tracked free taken
  exact Tracked.step (step_eq_some taken).2 tracked free

/-! ## One tick of the loop -/

/-- The action by which the loop reads the map of heartbeats. -/
def Action.collects : Action → Bool
  | .loop (.collect _) => true
  | _ => false

/-- `past` ends where the loop, woken at `snapshot`, is about to read the heartbeats;
the event `collect` reads them, and after `later` the loop has processed all ids. -/
structure CompletedTick (config : HostConfig) (begin : Instant) (past : List Event)
    (collect : Event) (later : List Event) (snapshot : Instant) (final : Host) : Prop where
  collects : collect.action.collects = true
  woken : (run (step config) (Host.new begin) past).map (fun host => host.loop) =
    some (.woken snapshot)
  reached : run (step config) (Host.new begin) (past ++ collect :: later) = some final
  sameTick : ∀ event ∈ later, event.action.collects = false
  completed : final.loop = .expiring snapshot []

/-- The connection is cancelled if it was accepted more than 15 s before the snapshot,
is still in its loop, and has had no ping answered with status 0 in the 15 s before. -/
def EvictsSilent (past : List Event) (snapshot : Instant) (final : Host) (i : ConnId) : Prop :=
  ∀ conn accepted, final.conns[i]? = some conn → conn.phase.served = true →
    AcceptedAt past i accepted → accepted + heartbeatTimeout < snapshot →
    (∀ answered, AnsweredAt past i answered → answered + heartbeatTimeout < snapshot) →
      conn.cancelled = true

/-- The connection has stamped a heartbeat before the snapshot, and a stamp within the
15 s before it comes from an answer within them. -/
structure HeardInTime (past : List Event) (snapshot : Instant) (i : ConnId) : Prop where
  heard : ∃ time, StampedAt past i time
  prompt : ∀ time, StampedAt past i time → snapshot ≤ time + heartbeatTimeout →
    ∃ answered, AnsweredAt past i answered ∧ snapshot ≤ answered + heartbeatTimeout

theorem mem_timedOut {now : Instant} {order : List (String × Instant)} {id : String} :
    id ∈ timedOut now order ↔ ∃ last, (id, last) ∈ order ∧ last + heartbeatTimeout < now := by
  have late (last : Instant) : heartbeatTimeout < now - last ↔ last + heartbeatTimeout < now :=
    Nat.lt_sub_iff_add_lt'
  rw [timedOut, List.mem_map]
  constructor
  · rintro ⟨⟨other, last⟩, listed, rfl⟩
    rw [List.mem_filter, decide_eq_true_eq, late] at listed
    exact ⟨last, listed⟩
  · rintro ⟨last, listed, old⟩
    refine ⟨(id, last), List.mem_filter.mpr ⟨listed, ?_⟩, rfl⟩
    rw [decide_eq_true_eq, late]
    exact old

/-- The connection is cancelled, has left its loop, or its id is still to be processed. -/
def Server.DueIn (server : Server) (snapshot : Instant) (i : ConnId) : Prop :=
  ∀ conn, server.conns[i]? = some conn → conn.phase.served = true →
    conn.cancelled = true ∨
    (∃ ids, server.loop = .expiring snapshot ids ∧ conn.clientId ∈ ids) ∨
    ∃ id later, server.loop = .cancelling snapshot id later ∧ conn.clientId ∈ id :: later

section Tick

variable {config : HostConfig} {host next : Host} {past : List Event} {i : ConnId}
  {snapshot : Instant}

/-- Reading the map puts every silent connection on the list. -/
theorem Tracked.dueIn_collect (tracked : Tracked past host.toServer)
    (woken : host.loop = .woken snapshot) (heard : ∃ time, StampedAt past i time)
    (silent : ∀ time, StampedAt past i time → time + heartbeatTimeout < snapshot)
    {order : List (String × Instant)} (iterates : host.registry.lastHeartbeat.Iterates order) :
    Server.DueIn { host.toServer with loop := .expiring snapshot (timedOut snapshot order) }
      snapshot i := by
  intro conn listed served
  rcases heard with ⟨time, stamped⟩
  rcases tracked.beating i conn time listed served stamped with
    cancelled | ⟨latest, beats⟩ | ⟨now, later, cancelling⟩
  · exact Or.inl cancelled
  · rcases tracked.owner _ latest beats with ⟨k, other, present, address, keeps, own⟩
    have same : k = i := tracked.distinct k i other conn present listed
      (Conn.live_of_keepsStamp keeps) (Conn.live_of_served served) address
    subst same
    refine Or.inr (Or.inl ⟨_, rfl, mem_timedOut.mpr ⟨latest, ?_, silent latest own⟩⟩)
    exact iterates.mem_iff.mpr beats
  · rw [woken] at cancelling
    cases cancelling

theorem Server.DueIn.cancelActive {server : Server} (registered : server.Registered)
    (due : server.DueIn snapshot i) {now : Instant} {id : String} {later : List String}
    (phase : server.loop = .cancelling now id later)
    (started : ∀ conn, (server.cancelActive id).conns[i]? = some conn →
      conn.phase ≠ .insertActive) :
    Server.DueIn { server.cancelActive id with loop := .expiring now later } snapshot i := by
  intro after listed served
  by_cases address : after.clientId = id
  · exact Or.inl (registered.cancels listed served (started after listed) address)
  · rcases Server.cancelActive_successor listed with ⟨conn, present, successor, _⟩
    rcases due conn present (successor.served served) with cancelled | ⟨ids, expiring, _⟩ |
      ⟨first, others, cancelling, member⟩
    · exact Or.inl (successor.cancelled cancelled)
    · rw [phase] at expiring
      cases expiring
    · rw [phase] at cancelling
      cases cancelling
      rw [← successor.clientId] at member
      exact Or.inr (Or.inl ⟨later, rfl, (List.mem_cons.mp member).resolve_left address⟩)

theorem Server.DueIn.step {action : Action} (move : HostMove config host action next)
    (due : host.DueIn snapshot i) (tracked : Tracked past host.toServer)
    (heard : ∃ time, StampedAt past i time) (sameTick : action.collects = false) :
    next.DueIn snapshot i := by
  have started : ∀ conn, next.conns[i]? = some conn → conn.phase ≠ .insertActive := by
    intro conn listed
    rcases heard with ⟨time, stamped⟩
    rcases tracked.started_step move i time (stamped.concat _) with ⟨other, found, started⟩
    rw [listed] at found
    cases found
    exact started
  intro after listed served
  rcases move.conn_cases listed with ⟨_, _, _, new, _⟩ | ⟨conn, present, successor, _⟩
  · rcases heard with ⟨time, stamped⟩
    rcases tracked.started i time stamped with ⟨conn, present, _⟩
    rcases List.getElem?_eq_some_iff.mp present with ⟨inside, _⟩
    exact absurd new (Nat.ne_of_lt inside)
  · have held := due conn present (successor.served served)
    rw [← successor.clientId] at held
    have held := held.imp_left successor.cancelled
    cases move with
    | loop move =>
        cases move with
        | wake phase _ => simp_all
        | stop phase _ => simp_all
        | collect phase order _ => cases sameTick
        | @expire now id later phase =>
            rcases held with cancelled | ⟨ids, expiring, member⟩ | ⟨_, _, cancelling, _⟩
            · exact Or.inl cancelled
            · rw [phase] at expiring
              cases expiring
              exact Or.inr (Or.inr ⟨id, later, rfl, member⟩)
            · rw [phase] at cancelling
              cases cancelling
        | cancelExpired phase =>
            exact due.cancelActive tracked.registered phase started after listed served
        | finishTick phase => simp_all
    | _ => exact held

/-- The later part of a tick keeps every silent connection due. -/
theorem dueIn_run {begin : Instant} {later : List Event} {final : Host}
    (fresh : FreshAddresses config begin (past ++ later))
    (reached : run (step config) (Host.new begin) past = some host)
    (heard : ∃ time, StampedAt past i time) (due : host.DueIn snapshot i)
    (sameTick : ∀ event ∈ later, event.action.collects = false)
    (completes : run (step config) host later = some final) : final.DueIn snapshot i := by
  have start : Tracked (past ++ []) host.toServer ∧ host.DueIn snapshot i :=
    ⟨(List.append_nil past).symm ▸ tracked_run fresh.before reached, due⟩
  refine (run_invariant
    (fun done state => Tracked (past ++ done) state.toServer ∧ state.DueIn snapshot i)
    start ?_ ((fresh.after reached).and_labels sameTick) completes).2
  rintro done state event next _ ⟨tracked, due⟩ ⟨free, same⟩ taken
  have move := (step_eq_some taken).2
  rw [← List.append_assoc]
  refine ⟨Tracked.step move tracked free, Server.DueIn.step move due tracked ?_ same⟩
  rcases heard with ⟨time, stamped⟩
  exact ⟨time, List.mem_append_left _ stamped⟩

end Tick

/-- Every tick evicts every connection that has been heard of: in a run whose
connections come from free addresses, a connection that has stamped a heartbeat
before the snapshot, and none within 15 s that was not also answered within them, is
cancelled when the tick completes if it has been silent for 15 s. -/
theorem heartbeatTick_evicts {config : HostConfig} {begin : Instant} {past later : List Event}
    {collect : Event} {snapshot : Instant} {final : Host}
    (tick : CompletedTick config begin past collect later snapshot final)
    (fresh : FreshAddresses config begin (past ++ collect :: later)) {i : ConnId}
    (heard : HeardInTime past snapshot i) : EvictsSilent past snapshot final i := by
  intro conn accepted listed served _ _ silent
  have unstamped : ∀ time, StampedAt past i time → time + heartbeatTimeout < snapshot := by
    intro time stamped
    by_contra recent
    rcases heard.prompt time stamped (Nat.le_of_not_lt recent) with ⟨answered, written, inside⟩
    exact absurd (silent answered written) (Nat.not_lt.mpr inside)
  rcases run_append_eq_some.mp tick.reached with ⟨host, before, rest⟩
  rcases run_cons_eq_some.mp rest with ⟨collected, taken, completes⟩
  have woken : host.loop = .woken snapshot := by
    have found := tick.woken
    rw [before] at found
    exact Option.some.inj found
  have due : collected.DueIn snapshot i := by
    have tracked := tracked_run fresh.before before
    have move := (step_eq_some taken).2
    have collects := tick.collects
    generalize collect.action = action at move collects
    cases move with
    | loop move =>
        cases move with
        | collect phase order iterates =>
            have same := phase.symm.trans woken
            cases same
            exact tracked.dueIn_collect woken heard.heard unstamped iterates
        | _ => cases collects
    | _ => cases collects
  have split : past ++ collect :: later = (past ++ [collect]) ++ later := by simp
  have done := dueIn_run (split ▸ fresh) (run_concat_eq_some.mpr ⟨host, before, taken⟩)
    (heard.heard.imp fun _ stamped => stamped.concat collect) due tick.sameTick completes
  rcases done conn listed served with cancelled | ⟨ids, expiring, member⟩ | ⟨_, _, cancelling, _⟩
  · exact cancelled
  · rw [tick.completed] at expiring
    cases expiring
    exact absurd member List.not_mem_nil
  · rw [tick.completed] at cancelling
    cases cancelling

/-- The first 20 s with a guest that pings once, at the start. -/
def pingingPast : List Event :=
  sampleJoin 0 0 "10.144.144.5:54321" "10.144.144.5" ++ sampleRequest 0 0 "g1" ++
    sampleRecord 0 0 ++ [⟨secs 20, .loop .wake⟩]

/-- The first 20 s with a guest that never pings. -/
def silentPast : List Event :=
  sampleJoin 0 0 "10.144.144.5:54321" "10.144.144.5" ++ [⟨secs 20, .loop .wake⟩]

/-- The guest that pinged once is evicted by the tick at 20 s. -/
theorem heartbeatTick_evicts_pinging :
    ∃ final, CompletedTick sampleConfig 0 pingingPast
        ⟨secs 20, .loop (.collect [("10.144.144.5:54321", 0)])⟩
        [⟨secs 20, .loop .expire⟩, ⟨secs 20, .loop .cancelExpired⟩] (secs 20) final ∧
      EvictsSilent pingingPast (secs 20) final 0 := by
  have tick : CompletedTick sampleConfig 0 pingingPast
      ⟨secs 20, .loop (.collect [("10.144.144.5:54321", 0)])⟩
      [⟨secs 20, .loop .expire⟩, ⟨secs 20, .loop .cancelExpired⟩] (secs 20) _ :=
    { collects := rfl
      woken := by decide +kernel
      reached := run_eq_getD (by decide +kernel)
      sameTick := by decide +kernel
      completed := by decide +kernel }
  have fresh : FreshAddresses sampleConfig 0
      (pingingPast ++ ⟨secs 20, .loop (.collect [("10.144.144.5:54321", 0)])⟩ ::
        [⟨secs 20, .loop .expire⟩, ⟨secs 20, .loop .cancelExpired⟩]) := by
    rw [FreshAddresses]
    decide +kernel
  have heard : HeardInTime pingingPast (secs 20) 0 := by
    have stamps : ∀ time, StampedAt pingingPast 0 time ↔ time = 0 := by
      simp [StampedAt, pingingPast, sampleJoin, sampleRequest, sampleRecord]
    refine ⟨⟨0, (stamps 0).mpr rfl⟩, ?_⟩
    intro time stamped recent
    rw [(stamps time).mp stamped] at recent
    exact absurd recent (by decide)
  exact ⟨_, tick, heartbeatTick_evicts tick fresh heard⟩

/-- A guest that never pings is still served, and not cancelled, when the tick at 20 s
completes. -/
theorem silent_not_evicted :
    ∃ final, CompletedTick sampleConfig 0 silentPast ⟨secs 20, .loop (.collect [])⟩ []
        (secs 20) final ∧
      FreshAddresses sampleConfig 0 (silentPast ++ [⟨secs 20, .loop (.collect [])⟩]) ∧
      ¬ EvictsSilent silentPast (secs 20) final 0 := by
  refine ⟨_, ⟨rfl, by decide +kernel, run_eq_getD (by decide +kernel), by decide +kernel,
    by decide +kernel⟩, ?_, ?_⟩
  · rw [FreshAddresses]
    decide +kernel
  · intro evicts
    have listed : ((run (step sampleConfig) (Host.new 0)
        (silentPast ++ [⟨secs 20, .loop (.collect [])⟩])).getD (Host.new 0)).conns[0]? =
        some ⟨"10.144.144.5:54321", "10.144.144.5", false, .pollServer⟩ := by
      decide +kernel
    have unanswered : ∀ answered, AnsweredAt silentPast 0 answered →
        answered + heartbeatTimeout < secs 20 := by
      simp [AnsweredAt, silentPast, sampleJoin]
    have cancelled := evicts _ 0 listed rfl ⟨_, _, List.mem_cons_self⟩ (by decide) unanswered
    cases cancelled

end Center
end QomicexConnector
