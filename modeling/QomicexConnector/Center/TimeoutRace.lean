import QomicexConnector.Center.HeartbeatTimeout

namespace QomicexConnector
namespace Center

open Library

/-!
# Heartbeats that arrive while a tick is processed

A tick of the timeout loop reads the map of heartbeats once and then processes the expired
ids one by one, taking a lock for each half.  It does not look at a heartbeat again before it
removes it and cancels the connection.  The invariant below says what the reading has
established for every id that is still to be processed; the only steps that invalidate it are
a new heartbeat and a new registration under such an id.
-/

/-! ## What an expiry rests on -/

/-- The loop is about to cancel under an id: `collect` is its last reading of the map, and
`expire` the removal of the entry of this id. -/
structure ProcessedBy (past before : List Event) (collect : Event) (between : List Event)
    (expire : Event) (after : List Event) : Prop where
  split : past = before ++ collect :: (between ++ expire :: after)
  collects : collect.action.collects = true
  expires : expire.action = .loop .expire
  sameTick : ∀ event ∈ between ++ expire :: after, event.action.collects = false
  sameId : ∀ event ∈ after, event.action ≠ .loop .expire

/-- The connection had recorded a heartbeat when the map was read; all heartbeats it had
recorded by the removal of its entry were then more than 15 s old; and none was recorded
since the map was read. -/
structure ExpiredTimely (before : List Event) (collect : Event) (between : List Event)
    (expire : Event) (after : List Event) (i : ConnId) : Prop where
  heard : ∃ time, StampedAt before i time
  old : ∀ time, StampedAt (before ++ collect :: between) i time →
    time + heartbeatTimeout < expire.time
  unrefreshed : ∀ time, ¬ StampedAt (collect :: (between ++ expire :: after)) i time

/-- Wherever the loop cancels a token, the expiry was timely for the connection. -/
def CancelsTimely (past : List Event) (host : Host) (event : Event) : Prop :=
  event.action = .loop .cancelExpired → ∀ now id later i,
    host.loop = .cancelling now id later → host.registry.activeClients.lookup id = some i →
      ∃ before collect between expire after, ProcessedBy past before collect between expire after ∧
        ExpiredTimely before collect between expire after i

/-! ## The steps that race with the loop -/

/-- The ids that the loop has collected and not yet processed. -/
def LoopPhase.pending : LoopPhase → List String
  | .expiring _ ids => ids
  | .cancelling _ id later => id :: later
  | _ => []

/-- No connection registers itself or stamps its heartbeat under an id that the loop has still
to process. -/
def Undisturbed (host : Host) : Action → Prop
  | .conn i .insertActive | .conn i .insertHeartbeat =>
      ∀ conn ∈ host.conns[i]?, conn.clientId ∉ host.loop.pending
  | _ => True

instance (host : Host) (action : Action) : Decidable (Undisturbed host action) :=
  match action with
  | .conn i .insertActive | .conn i .insertHeartbeat =>
      inferInstanceAs (Decidable (∀ conn ∈ host.conns[i]?, conn.clientId ∉ host.loop.pending))
  | .conn _ .insertIp | .conn _ .pollServer | .conn _ .pollConn | .conn _ .pending
  | .conn _ (.received _) | .conn _ .readFailed | .conn _ (.handle _) | .conn _ .answered
  | .conn _ .written | .conn _ .writeFailed | .conn _ .insertMachine | .conn _ .removeActive
  | .conn _ .removeHeartbeat | .conn _ .removeIp | .conn _ .removeMachine
  | .accept _ _ _ | .stopAccepting | .cancelServer | .loop _ | .kickFind _ _ | .kickCancel _
  | .consume _ | .removePlayer _ _ | .handlePlayerPing _ _ | .enlistHost _ => isTrue trivial

/-! ## The invariant -/

/-- The connection has not yet removed its token. -/
def ConnPhase.keepsToken : ConnPhase → Bool
  | .insertActive | .removeHeartbeat | .removeIp | .removeMachine | .ended => false
  | _ => true

theorem Conn.live_of_keepsToken {conn : Conn} (keeps : conn.phase.keepsToken = true) :
    conn.live := by
  intro ended
  rw [ended] at keeps
  cases keeps

/-- The connection had recorded heartbeats in `before`, all more than 15 s before the time,
and has recorded none in `since`. -/
structure Silent (now : Instant) (before since : List Event) (i : ConnId) : Prop where
  heard : ∃ time, StampedAt before i time
  old : ∀ time, StampedAt before i time → time + heartbeatTimeout < now
  unrefreshed : ∀ time, ¬ StampedAt since i time

/-- Whoever is active under one of the ids has been silent. -/
def AllSilent (registry : ClientRegistry ConnId) (ids : List String) (now : Instant)
    (before since : List Event) : Prop :=
  ∀ id ∈ ids, ∀ i, registry.activeClients.lookup id = some i → Silent now before since i

/-- What the current tick has established. -/
def TickRecord (past : List Event) (host : Host) : Prop :=
  match host.loop with
  | .woken now => now ≤ host.now
  | .expiring now ids =>
      now ≤ host.now ∧ ∃ before collect between, past = before ++ collect :: between ∧
        collect.action.collects = true ∧ (∀ event ∈ between, event.action.collects = false) ∧
        AllSilent host.registry ids now before (collect :: between)
  | .cancelling now id later =>
      now ≤ host.now ∧ ∃ before collect between expire after,
        ProcessedBy past before collect between expire after ∧ now ≤ expire.time ∧
        AllSilent host.registry (id :: later) now before (collect :: (between ++ expire :: after))
  | .sleeping _ | .stopped => True

/-- How the events, the entries and the current tick belong together. -/
structure Timed (past : List Event) (host : Host) : Prop where
  tracked : Tracked past host.toServer
  elapsed : ∀ event ∈ past, event.time ≤ host.now
  holder : ∀ id i, host.registry.activeClients.lookup id = some i →
    ∃ conn, host.conns[i]? = some conn ∧ conn.clientId = id ∧ conn.phase.keepsToken = true
  latest : ∀ (i : ConnId) (conn : Conn) last time, host.conns[i]? = some conn → conn.live →
    host.registry.lastHeartbeat.lookup conn.clientId = some last → StampedAt past i time →
      time ≤ last
  tick : TickRecord past host

/-! ## The entries of the active connections -/

namespace ConnMove

variable {config : HostConfig} {host : Host} {i : ConnId} {conn : Conn} {step : ConnStep}
  {effect : ConnEffect}

/-- An entry was there before, or the task has just made it. -/
theorem active_of (move : ConnMove config host i conn step effect) {id : String} {k : ConnId}
    (found : effect.registry.activeClients.lookup id = some k) :
    host.registry.activeClients.lookup id = some k ∨
      step = .insertActive ∧ conn.clientId = id ∧ k = i := by
  cases move with
  | insertActive phase =>
      change (host.registry.activeClients.insert conn.clientId i).lookup id = some k at found
      rw [HashMap.lookup_insert] at found
      split at found
      · next own =>
          cases found
          exact Or.inr ⟨rfl, own.symm, rfl⟩
      · exact Or.inl found
  | removeActive phase =>
      change (host.registry.activeClients.erase conn.clientId).lookup id = some k at found
      rw [HashMap.lookup_erase] at found
      split at found
      · cases found
      · exact Or.inl found
  | _ => exact Or.inl found

/-- A task that still has its entry has not come to removing it. -/
theorem keepsToken (move : ConnMove config host i conn step effect) {k : ConnId}
    (found : effect.registry.activeClients.lookup conn.clientId = some k)
    (before : conn.phase.keepsToken = true ∨ step = .insertActive) :
    effect.phase.keepsToken = true := by
  have known (other : step ≠ .insertActive) := before.resolve_right other
  cases move with
  | insertActive phase => rfl
  | removeActive phase =>
      change (host.registry.activeClients.erase conn.clientId).lookup _ = some k at found
      rw [AList.lookup_erase] at found
      cases found
  | removeHeartbeat phase | removeIp phase | removeMachine phase =>
      have kept := known (by simp)
      rw [phase] at kept
      cases kept
  | _ => rfl

/-- A heartbeat is the one the task has just stamped, or it was there before. -/
theorem beat_of (move : ConnMove config host i conn step effect) {last : Instant}
    (found : effect.registry.lastHeartbeat.lookup conn.clientId = some last) :
    step = .insertHeartbeat ∧ last = host.now ∨
      step ≠ .insertHeartbeat ∧ host.registry.lastHeartbeat.lookup conn.clientId = some last := by
  cases move with
  | stamped phase _ | stampedOnly phase _ =>
      change (host.registry.lastHeartbeat.insert _ _).lookup _ = _ at found
      rw [AList.lookup_insert, Option.some.injEq] at found
      exact Or.inl ⟨rfl, found.symm⟩
  | removeHeartbeat phase =>
      change (host.registry.lastHeartbeat.erase _).lookup _ = _ at found
      rw [AList.lookup_erase] at found
      cases found
  | _ => exact Or.inr ⟨by simp, found⟩

end ConnMove

section Step

variable {config : HostConfig} {host next : Host} {action : Action} {past : List Event}

theorem HostMove.now_eq (move : HostMove config host action next) : next.now = host.now := by
  cases move <;> rfl

theorem Server.active_of_cancelActive {server : Server} {cancelled id : String} {k : ConnId}
    (found : (server.cancelActive cancelled).registry.activeClients.lookup id = some k) :
    id ≠ cancelled ∧ server.registry.activeClients.lookup id = some k := by
  change (server.registry.activeClients.erase cancelled).lookup id = some k at found
  rw [HashMap.lookup_erase] at found
  split at found
  · cases found
  · next different => exact ⟨different, found⟩

theorem HostMove.active_of (move : HostMove config host action next) {id : String} {k : ConnId}
    (found : next.registry.activeClients.lookup id = some k) :
    host.registry.activeClients.lookup id = some k ∨ action = .conn k .insertActive ∧
      ∃ conn, host.conns[k]? = some conn ∧ conn.clientId = id := by
  cases move with
  | @conn i conn step effect listed move =>
      rcases move.active_of found with earlier | ⟨rfl, own, rfl⟩
      · exact Or.inl earlier
      · exact Or.inr ⟨rfl, conn, listed, own⟩
  | loop move =>
      cases move with
      | cancelExpired phase => exact Or.inl (Server.active_of_cancelActive found).2
      | _ => exact Or.inl found
  | kickCancel _ => exact Or.inl (Server.active_of_cancelActive found).2
  | _ => exact Or.inl found

/-- An entry in `active_clients` belongs to a connection with this address that has not yet
removed it. -/
theorem Timed.holder_step (timed : Timed past host) (move : HostMove config host action next)
    (id : String) (k : ConnId) (found : next.registry.activeClients.lookup id = some k) :
    ∃ conn, next.conns[k]? = some conn ∧ conn.clientId = id ∧ conn.phase.keepsToken = true := by
  have before : ∃ conn, host.conns[k]? = some conn ∧ conn.clientId = id ∧
      (conn.phase.keepsToken = true ∨ action = .conn k .insertActive) := by
    rcases move.active_of found with earlier | ⟨registers, conn, listed, address⟩
    · rcases timed.holder id k earlier with ⟨conn, listed, address, keeps⟩
      exact ⟨conn, listed, address, Or.inl keeps⟩
    · exact ⟨conn, listed, address, Or.inr registers⟩
  rcases before with ⟨conn, listed, address, keeps⟩
  cases move with
  | @conn i other step effect present move =>
      by_cases same : k = i
      · subst same
        cases listed.symm.trans present
        refine ⟨_, getElem?_afterConn_self _ present, address, ?_⟩
        apply move.keepsToken (address ▸ found)
        apply keeps.imp_right
        intro registers
        cases registers
        rfl
      · refine ⟨conn, ?_, address, keeps.resolve_right ?_⟩
        · rw [getElem?_afterConn _ present, if_neg same, listed]
        · intro registers
          cases registers
          exact same rfl
  | loop move =>
      have kept := keeps.resolve_right (by simp)
      cases move with
      | cancelExpired phase =>
          rcases Server.cancelActive_listed listed _ with ⟨after, present, successor, phase⟩
          exact ⟨after, present, successor.clientId.trans address, phase ▸ kept⟩
      | _ => exact ⟨conn, listed, address, kept⟩
  | kickCancel _ =>
      have kept := keeps.resolve_right (by simp)
      rcases Server.cancelActive_listed listed _ with ⟨after, present, successor, phase⟩
      exact ⟨after, present, successor.clientId.trans address, phase ▸ kept⟩
  | accept accepting clientId clientIp =>
      rcases List.getElem?_eq_some_iff.mp listed with ⟨inside, _⟩
      exact ⟨conn, (List.getElem?_append_left inside).trans listed, address,
        keeps.resolve_right (by simp)⟩
  | _ => exact ⟨conn, listed, address, keeps.resolve_right (by simp)⟩

/-- The entry of an address is the latest stamp of the connection that has it. -/
theorem Timed.latest_step (timed : Timed past host) (move : HostMove config host action next)
    (j : ConnId) (after : Conn) (last time : Instant) (listed : next.conns[j]? = some after)
    (live : after.live) (found : next.registry.lastHeartbeat.lookup after.clientId = some last)
    (stamped : StampedAt (past ++ [⟨host.now, action⟩]) j time) : time ≤ last := by
  rcases move.conn_cases listed with ⟨_, _, rfl, new, _⟩ | ⟨before, present, successor, _⟩
  · rcases stampedAt_now stamped with earlier | ⟨_, isStamp⟩
    · rcases timed.tracked.started j time earlier with ⟨conn, present, _⟩
      rcases List.getElem?_eq_some_iff.mp present with ⟨inside, _⟩
      exact absurd new (Nat.ne_of_lt inside)
    · cases isStamp
  rw [successor.clientId] at found
  have beforeLive := successor.live live
  -- where the event is no stamp of the connection, the entry is an older one
  have older (unstamped : action ≠ .conn j .insertHeartbeat)
      (earlier : host.registry.lastHeartbeat.lookup before.clientId = some last) : time ≤ last := by
    rcases stampedAt_now stamped with past | ⟨_, isStamp⟩
    · exact timed.latest j before last time present beforeLive earlier past
    · exact absurd isStamp unstamped
  cases move with
  | @conn i conn step effect earlier move =>
      by_cases same : j = i
      · subst same
        cases present.symm.trans earlier
        rcases move.beat_of found with ⟨rfl, rfl⟩ | ⟨other, beats⟩
        · rcases stampedAt_now stamped with past | ⟨now, _⟩
          · exact timed.elapsed _ past
          · exact Nat.le_of_eq now
        · refine older ?_ beats
          intro isStamp
          cases isStamp
          exact other rfl
      · have different : before.clientId ≠ conn.clientId := fun address =>
          same (timed.tracked.distinct j i before conn present earlier beforeLive move.live address)
        refine older ?_ ((move.frame different).2.1.symm.trans found)
        intro isStamp
        cases isStamp
        exact same rfl
  | loop move =>
      cases move with
      | @expire now id later phase =>
          change (host.registry.lastHeartbeat.erase id).lookup _ = some last at found
          rw [HashMap.lookup_erase] at found
          split at found
          · cases found
          · exact older (by simp) found
      | _ => exact older (by simp) found
  | _ => exact older (by simp) found

/-! ## What a tick keeps established -/

theorem Silent.concat {now : Instant} {before since : List Event} {i : ConnId} {event : Event}
    (silent : Silent now before since i) (other : event.action ≠ .conn i .insertHeartbeat) :
    Silent now before (since ++ [event]) i where
  heard := silent.heard
  old := silent.old
  unrefreshed := by
    intro time stamped
    rcases stampedAt_concat.mp stamped with earlier | isStamp
    · exact silent.unrefreshed time earlier
    · rw [isStamp] at other
      exact other rfl

theorem AllSilent.concat {ids kept : List String} {now : Instant} {before since : List Event}
    {event : Event} (silent : AllSilent host.registry ids now before since)
    (keeps : ∀ id ∈ kept, ∀ i, next.registry.activeClients.lookup id = some i →
      id ∈ ids ∧ host.registry.activeClients.lookup id = some i ∧
        event.action ≠ .conn i .insertHeartbeat) :
    AllSilent next.registry kept now before (since ++ [event]) := by
  intro id listed i found
  rcases keeps id listed i found with ⟨earlier, active, other⟩
  exact (silent id earlier i active).concat other

/-- Under an id that the loop has still to process nobody registers or stamps. -/
theorem Timed.undisturbed (timed : Timed past host) (move : HostMove config host action next)
    (undisturbed : Undisturbed host action) {id : String} (pending : id ∈ host.loop.pending)
    {i : ConnId} (found : next.registry.activeClients.lookup id = some i) :
    host.registry.activeClients.lookup id = some i ∧ action ≠ .conn i .insertHeartbeat := by
  rcases move.active_of found with earlier | ⟨rfl, conn, listed, address⟩
  · refine ⟨earlier, ?_⟩
    rintro rfl
    rcases timed.holder id i earlier with ⟨conn, listed, address, _⟩
    exact undisturbed conn listed (address ▸ pending)
  · exact absurd (address ▸ pending) (undisturbed conn listed)

/-- An event outside of the loop adds itself to the current tick. -/
theorem TickRecord.concat {event : Event} (record : TickRecord past host)
    (loop : next.loop = host.loop) (now : next.now = host.now)
    (outside : ∀ step, event.action ≠ .loop step)
    (keeps : ∀ id ∈ host.loop.pending, ∀ i, next.registry.activeClients.lookup id = some i →
      host.registry.activeClients.lookup id = some i ∧ event.action ≠ .conn i .insertHeartbeat) :
    TickRecord (past ++ [event]) next := by
  have reads : event.action.collects = false := by
    cases acted : event.action with
    | loop step => exact absurd acted (outside step)
    | _ => rfl
  rw [TickRecord, loop, now]
  rw [TickRecord] at record
  cases phase : host.loop with
  | sleeping since => trivial
  | stopped => trivial
  | woken snapshot =>
      rw [phase] at record
      exact record
  | expiring snapshot ids =>
      rw [phase] at record keeps
      rcases record with ⟨elapsed, before, collect, between, split, collects, sameTick, silent⟩
      refine ⟨elapsed, before, collect, between ++ [event], ?_, collects, ?_, ?_⟩
      · rw [split, List.append_assoc, List.cons_append]
      · exact List.forall_mem_append.mpr ⟨sameTick, List.forall_mem_singleton.mpr reads⟩
      · refine silent.concat ?_
        intro id listed i found
        exact ⟨listed, keeps id listed i found⟩
  | cancelling snapshot id later =>
      rw [phase] at record keeps
      rcases record with ⟨elapsed, before, collect, between, expire, after, processed, due, silent⟩
      refine ⟨elapsed, before, collect, between, expire, after ++ [event],
        ⟨?_, processed.collects, processed.expires, ?_, ?_⟩, due, ?_⟩
      · rw [processed.split]
        simp only [List.append_assoc, List.cons_append]
      · rw [← List.cons_append, ← List.append_assoc]
        exact List.forall_mem_append.mpr
          ⟨processed.sameTick, List.forall_mem_singleton.mpr reads⟩
      · exact List.forall_mem_append.mpr
          ⟨processed.sameId, List.forall_mem_singleton.mpr (outside _)⟩
      · have shape : collect :: (between ++ expire :: (after ++ [event])) =
            collect :: (between ++ expire :: after) ++ [event] := by simp
        rw [shape]
        refine silent.concat ?_
        intro other listed i found
        exact ⟨listed, keeps other listed i found⟩

/-- Reading the map finds under the expired ids only connections that have been silent. -/
theorem Timed.silent_collect (timed : Timed past host) {snapshot : Instant}
    {order : List (String × Instant)} (iterates : host.registry.lastHeartbeat.Iterates order)
    {event : Event} (collects : event.action.collects = true) :
    AllSilent host.registry (timedOut snapshot order) snapshot past [event] := by
  intro id expired i active
  rcases mem_timedOut.mp expired with ⟨last, entry, old⟩
  have beats := iterates.mem_iff.mp entry
  rcases timed.holder id i active with ⟨conn, listed, rfl, keeps⟩
  have live := Conn.live_of_keepsToken keeps
  rcases timed.tracked.owner conn.clientId last beats with
    ⟨k, other, present, address, kept, stamped⟩
  have same : k = i := timed.tracked.distinct k i other conn present listed
    (Conn.live_of_keepsStamp kept) live address
  subst same
  refine ⟨⟨last, stamped⟩, ?_, ?_⟩
  · intro time earlier
    have bound := timed.latest k conn last time listed live beats earlier
    exact Nat.lt_of_le_of_lt (Nat.add_le_add_right bound heartbeatTimeout) old
  · intro time isStamp
    have same := List.mem_singleton.mp isStamp
    rw [← same] at collects
    cases collects

theorem Timed.tick_step (timed : Timed past host) (move : HostMove config host action next)
    (undisturbed : Undisturbed host action) : TickRecord (past ++ [⟨host.now, action⟩]) next := by
  have record := timed.tick
  cases move with
  | loop move =>
      rw [TickRecord] at record
      cases move with
      | wake phase due => exact Nat.le_refl _
      | stop phase stopped => trivial
      | finishTick phase => trivial
      | @collect snapshot phase order iterates =>
          rw [phase] at record
          refine ⟨record, past, _, [], rfl, rfl, ?_, timed.silent_collect iterates rfl⟩
          exact fun _ listed => absurd listed List.not_mem_nil
      | @expire snapshot id later phase =>
          rw [phase] at record
          rcases record with ⟨elapsed, before, collect, between, split, collects, sameTick, silent⟩
          refine ⟨elapsed, before, collect, between, ⟨host.now, .loop .expire⟩, [],
            ⟨?_, collects, rfl, ?_, ?_⟩, elapsed, ?_⟩
          · rw [split, List.append_assoc, List.cons_append]
          · exact List.forall_mem_append.mpr ⟨sameTick, List.forall_mem_singleton.mpr rfl⟩
          · exact fun _ listed => absurd listed List.not_mem_nil
          · rw [← List.cons_append]
            refine silent.concat ?_
            intro other listed i found
            exact ⟨listed, found, by simp⟩
      | @cancelExpired snapshot id later phase =>
          rw [phase] at record
          rcases record with
            ⟨elapsed, before, collect, between, expire, after, processed, due, silent⟩
          refine ⟨elapsed, before, collect, between ++ expire :: after ++
            [⟨host.now, .loop .cancelExpired⟩], ?_, processed.collects, ?_, ?_⟩
          · rw [processed.split]
            simp only [List.append_assoc, List.cons_append]
          · exact List.forall_mem_append.mpr
              ⟨processed.sameTick, List.forall_mem_singleton.mpr rfl⟩
          · rw [← List.cons_append]
            refine silent.concat ?_
            intro other listed i found
            exact ⟨List.mem_cons_of_mem _ listed, (Server.active_of_cancelActive found).2, by simp⟩
  | conn listed move =>
      exact record.concat rfl rfl (by simp) fun id pending i found =>
        timed.undisturbed (.conn listed move) undisturbed pending found
  | kickCancel found =>
      exact record.concat rfl rfl (by simp) fun id pending i active =>
        ⟨(Server.active_of_cancelActive active).2, by simp⟩
  | _ => exact record.concat rfl rfl (by simp) fun id pending i active => ⟨active, by simp⟩

theorem Timed.step (timed : Timed past host) (move : HostMove config host action next)
    (fresh : FreshAddress host action) (undisturbed : Undisturbed host action) :
    Timed (past ++ [⟨host.now, action⟩]) next where
  tracked := timed.tracked.step move fresh
  elapsed := by
    rw [move.now_eq]
    exact List.forall_mem_append.mpr
      ⟨timed.elapsed, List.forall_mem_singleton.mpr (Nat.le_refl _)⟩
  holder := timed.holder_step move
  latest := timed.latest_step move
  tick := timed.tick_step move undisturbed

/-- The clock may move on between two events. -/
theorem Timed.atTime (timed : Timed past host) {time : Instant} (forward : host.now ≤ time) :
    Timed past (host.atTime time) where
  tracked := timed.tracked
  elapsed event listed := Nat.le_trans (timed.elapsed event listed) forward
  holder := timed.holder
  latest := timed.latest
  tick := by
    have record := timed.tick
    have loop : (host.atTime time).loop = host.loop := rfl
    rw [TickRecord] at record
    rw [TickRecord, loop]
    cases phase : host.loop with
    | sleeping since => trivial
    | stopped => trivial
    | woken snapshot =>
        rw [phase] at record
        exact Nat.le_trans record forward
    | expiring snapshot ids =>
        rw [phase] at record
        exact ⟨Nat.le_trans record.1 forward, record.2⟩
    | cancelling snapshot id later =>
        rw [phase] at record
        exact ⟨Nat.le_trans record.1 forward, record.2⟩

end Step

/-- Connections come from free addresses, and none registers or stamps under an id that the
loop has still to process. -/
def RaceFree (host : Host) (event : Event) : Prop :=
  FreshAddress host event.action ∧ Undisturbed host event.action

instance (host : Host) (event : Event) : Decidable (RaceFree host event) :=
  inferInstanceAs (Decidable (_ ∧ _))

theorem timed_new (now : Instant) : Timed [] (Host.new now) where
  tracked := tracked_new now
  elapsed event listed := absurd listed List.not_mem_nil
  holder id i active := by cases active
  latest := by
    intro i conn last time listed
    cases listed
  tick := trivial

theorem timed_run {config : HostConfig} {begin : Instant} {events : List Event} {host : Host}
    (raceFree : EveryStep (step config) (Host.new begin) (fun _ => RaceFree) events)
    (reached : run (step config) (Host.new begin) events = some host) : Timed events host := by
  refine run_invariant Timed (timed_new begin) ?_ raceFree reached
  rintro past host event next _ timed ⟨fresh, undisturbed⟩ taken
  rcases step_eq_some taken with ⟨forward, move⟩
  exact (timed.atTime forward).step move fresh undisturbed

/-- In every run without a heartbeat or a registration under an id that is being processed,
the loop cancels only connections whose heartbeats were all too old when it removed their
entry, and never one with a heartbeat since it read the map. -/
theorem expiry_timely {config : HostConfig} {begin : Instant} {events : List Event}
    (raceFree : EveryStep (step config) (Host.new begin) (fun _ => RaceFree) events) :
    EveryStep (step config) (Host.new begin) CancelsTimely events := by
  intro past event later host split reached _ now id rest i phase active
  rw [split] at raceFree
  have record := (timed_run raceFree.before reached).tick
  rw [TickRecord, phase] at record
  rcases record with ⟨_, before, collect, between, expire, after, processed, due, silent⟩
  have isSilent := silent id List.mem_cons_self i active
  refine ⟨before, collect, between, expire, after, processed, isSilent.heard, ?_,
    isSilent.unrefreshed⟩
  intro time stamped
  rcases List.mem_append.mp stamped with earlier | since
  · exact Nat.lt_of_lt_of_le (isSilent.old time earlier) due
  · have listed : StampedAt (collect :: (between ++ expire :: after)) i time := by
      rw [← List.cons_append]
      exact List.mem_append_left _ since
    exact absurd listed (isSilent.unrefreshed time)

/-- The guest that pinged once is about to be cancelled by the tick at 20 s. -/
def expiredPast : List Event :=
  pingingPast ++ [⟨secs 20, .loop (.collect [("10.144.144.5:54321", 0)])⟩,
    ⟨secs 20, .loop .expire⟩]

/-- The same guest pings again after the tick has read the map. -/
def refreshedPast : List Event :=
  pingingPast ++ ⟨secs 20, .loop (.collect [("10.144.144.5:54321", 0)])⟩ ::
    (sampleRequest (secs 20) 0 "g1" ++ sampleRecord (secs 20) 0 ++ [⟨secs 20, .loop .expire⟩])

theorem expiry_timely_pinging :
    ∃ before collect between expire after,
      ProcessedBy expiredPast before collect between expire after ∧
        ExpiredTimely before collect between expire after 0 := by
  have raceFree : EveryStep (step sampleConfig) (Host.new 0) (fun _ => RaceFree)
      (expiredPast ++ [⟨secs 20, .loop .cancelExpired⟩]) := by
    decide +kernel
  have reached : run (step sampleConfig) (Host.new 0) expiredPast = some _ :=
    run_eq_getD (by decide +kernel)
  exact expiry_timely raceFree expiredPast _ [] _ rfl reached rfl (secs 20) "10.144.144.5:54321" []
    0 (by decide +kernel) (by decide +kernel)

/-- The guest is cancelled with a heartbeat 0 s old. -/
theorem refreshed_is_expired :
    FreshAddresses sampleConfig 0 (refreshedPast ++ [⟨secs 20, .loop .cancelExpired⟩]) ∧
      (run (step sampleConfig) (Host.new 0)
        (refreshedPast ++ [⟨secs 20, .loop .cancelExpired⟩])).isSome = true ∧
      ¬ EveryStep (step sampleConfig) (Host.new 0) CancelsTimely
        (refreshedPast ++ [⟨secs 20, .loop .cancelExpired⟩]) := by
  refine ⟨?_, by decide +kernel, ?_⟩
  · rw [FreshAddresses]
    decide +kernel
  intro timely
  have reached : run (step sampleConfig) (Host.new 0) refreshedPast = some _ :=
    run_eq_getD (by decide +kernel)
  rcases timely refreshedPast _ [] _ rfl reached rfl (secs 20) "10.144.144.5:54321" [] 0
    (by decide +kernel) (by decide +kernel) with
    ⟨before, collect, between, expire, after, processed, expired⟩
  have stamped : StampedAt refreshedPast 0 (secs 20) := by
    simp [StampedAt, refreshedPast, sampleRequest, sampleRecord]
  have elapsed : ∀ event ∈ refreshedPast, event.time ≤ secs 20 := by decide +kernel
  rw [processed.split] at stamped elapsed
  rcases List.mem_append.mp stamped with earlier | since
  · have old := expired.old (secs 20) (List.mem_append_left _ earlier)
    have late := elapsed expire (by simp)
    exact absurd (Nat.lt_of_lt_of_le old late) (by decide)
  · exact expired.unrefreshed (secs 20) since

end Center
end QomicexConnector
