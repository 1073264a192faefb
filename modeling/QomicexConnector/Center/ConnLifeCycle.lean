import QomicexConnector.Center.HostServer

namespace QomicexConnector
namespace Center

open Library

/-!
# The life of a connection

A connection registers itself in four maps, is served, clears the maps again and
sends one disconnect message.  Between any two of its steps the timeout loop may
remove its heartbeat and its token, a kick may remove its token, and a late
heartbeat may put an entry back.

What a task has still to clear is told by where it stands in its cleanup, and no
other task writes under its address.  The account of a run keeps, for every
connection, the messages it has sent and the machine ids it has recorded.
-/

/-- The machine id that a step of a connection records. -/
def recordedBy : ConnPhase → ConnStep → List String
  | .insertMachine machineId, .insertMachine => [machineId]
  | _, _ => []

/-- The disconnect message an event sends, with the connection it comes from. -/
def sentMessages (config : HostConfig) (host : Host) (event : Event) : List (ConnId × String) :=
  match event.action with
  | .conn i step =>
      let effect := (host.conns[i]?).bind fun conn =>
        connEffect config (host.atTime event.time) i conn conn.phase step
      (effect.bind ConnEffect.message).toList.map (Prod.mk i)
  | _ => []

/-- The machine id an event records, with the connection it is recorded for. -/
def recordedIds (host : Host) (event : Event) : List (ConnId × String) :=
  match event.action with
  | .conn i step =>
      ((host.conns[i]?).map fun conn => recordedBy conn.phase step).getD [] |>.map (Prod.mk i)
  | _ => []

/-- The message an event takes from the channel. -/
def consumedMessages (host : Host) (event : Event) : List String :=
  match event.action with
  | .consume _ => host.queue.head?.toList
  | _ => []

/-- The part of an account that is about one connection. -/
def ofConn (i : ConnId) (account : List (ConnId × String)) : List String :=
  (account.filter fun entry => entry.1 == i).map Prod.snd

/-- The addresses of the connections that are accepted. -/
def acceptedIds (events : List Event) : List String :=
  events.filterMap fun event =>
    match event.action with
    | .accept _ clientId _ => some clientId
    | _ => none

/-- None of the four maps has an entry of the address. -/
structure ClientRegistry.Lacks (registry : ClientRegistry ConnId) (clientId : String) : Prop where
  heartbeat : registry.lastHeartbeat.lookup clientId = none
  active : registry.activeClients.lookup clientId = none
  machine : registry.clientMachine.lookup clientId = none
  ip : registry.clientIp.lookup clientId = none

/-! ## One connection -/

/-- How many of the four maps the cleanup of a connection has been through. -/
def ConnPhase.cleared : ConnPhase → Nat
  | .removeHeartbeat => 1
  | .removeIp => 2
  | .removeMachine => 3
  | .ended => 4
  | _ => 0

/-- What the registry holds of a connection, and what it has told of itself: the maps
its cleanup has been through have nothing of it, and the machine id is the one
recorded last until the disconnect message carries it away. -/
structure LifeCycle (registry : ClientRegistry ConnId) (clientId : String) (phase : ConnPhase)
    (sent recorded : List String) : Prop where
  active : 1 ≤ phase.cleared → registry.activeClients.lookup clientId = none
  heartbeat : 2 ≤ phase.cleared → registry.lastHeartbeat.lookup clientId = none
  ip : 3 ≤ phase.cleared → registry.clientIp.lookup clientId = none
  machine : registry.clientMachine.lookup clientId =
    if phase = .ended then none else recorded.getLast?
  sent : sent = if phase = .ended then [recorded.getLast?.getD ""] else []

namespace LifeCycle

variable {registry : ClientRegistry ConnId} {clientId : String} {phase : ConnPhase}
  {sent recorded : List String}

/-- A connection that has ended has left nothing behind. -/
theorem lacks (life : LifeCycle registry clientId .ended sent recorded) :
    registry.Lacks clientId where
  heartbeat := life.heartbeat (by decide)
  active := life.active (by decide)
  machine := life.machine
  ip := life.ip (by decide)

/-- A connection whose cleanup has not cleared anything. -/
theorem uncleared (untouched : phase.cleared = 0)
    (machine : registry.clientMachine.lookup clientId = recorded.getLast?) :
    LifeCycle registry clientId phase [] recorded := by
  have running : phase ≠ .ended := by
    rintro rfl
    cases untouched
  refine ⟨?_, ?_, ?_, by rw [machine, if_neg running], by rw [if_neg running]⟩ <;>
    · intro cleared
      omega

/-- Who removes the token or the heartbeat of an address does no harm. -/
theorem frame (life : LifeCycle registry clientId phase sent recorded)
    {next : ClientRegistry ConnId}
    (active : registry.activeClients.lookup clientId = none →
      next.activeClients.lookup clientId = none)
    (heartbeat : registry.lastHeartbeat.lookup clientId = none →
      next.lastHeartbeat.lookup clientId = none)
    (ip : next.clientIp.lookup clientId = registry.clientIp.lookup clientId)
    (machine : next.clientMachine.lookup clientId = registry.clientMachine.lookup clientId) :
    LifeCycle next clientId phase sent recorded where
  active cleared := active (life.active cleared)
  heartbeat cleared := heartbeat (life.heartbeat cleared)
  ip cleared := ip.trans (life.ip cleared)
  machine := machine.trans life.machine
  sent := life.sent

/-- The connection's own step. -/
theorem step {conn : Conn} {config : HostConfig} {host : Host}
    (life : LifeCycle host.registry conn.clientId conn.phase sent recorded)
    {i : ConnId} {connStep : ConnStep} {effect : ConnEffect}
    (move : ConnMove config host i conn connStep effect) :
    LifeCycle effect.registry conn.clientId effect.phase (sent ++ effect.message.toList)
      (recorded ++ recordedBy conn.phase connStep) := by
  have running : conn.phase ≠ .ended := move.live
  have holds : host.registry.clientMachine.lookup conn.clientId = recorded.getLast? := by
    rw [life.machine, if_neg running]
  have silent : sent = [] := by rw [life.sent, if_neg running]
  have active := life.active
  have heartbeat := life.heartbeat
  have ip := life.ip
  subst silent
  cases move with
  | @insertMachine machineId phase =>
      rw [phase]
      apply uncleared rfl
      rw [recordedBy, List.getLast?_concat]
      exact AList.lookup_insert _
  | removeActive phase =>
      rw [phase] at active heartbeat ip ⊢
      constructor <;> simp_all [Host.goto, recordedBy, ConnPhase.cleared, ClientRegistry.removeActive]
  | removeHeartbeat phase =>
      rw [phase] at active heartbeat ip ⊢
      constructor <;> simp_all [Host.goto, recordedBy, ConnPhase.cleared, ClientRegistry.removeHeartbeat]
  | removeIp phase =>
      rw [phase] at active heartbeat ip ⊢
      constructor <;> simp_all [Host.goto, recordedBy, ConnPhase.cleared, ClientRegistry.removeIp]
  | removeMachine phase =>
      rw [phase] at active heartbeat ip ⊢
      constructor <;> simp_all [Host.goto, recordedBy, ConnPhase.cleared, ClientRegistry.removeMachine]
  | _ phase =>
      -- the task stays outside its cleanup and records nothing
      rw [phase]
      refine uncleared ?_ ?_
      · rfl
      · rw [recordedBy, List.append_nil]
        · exact holds
        · simp

end LifeCycle

/-! ## The account of a run -/

theorem ofConn_append (i : ConnId) (first later : List (ConnId × String)) :
    ofConn i (first ++ later) = ofConn i first ++ ofConn i later := by
  rw [ofConn, List.filter_append, List.map_append, ofConn, ofConn]

theorem ofConn_own (i : ConnId) (told : List String) : ofConn i (told.map (Prod.mk i)) = told := by
  rw [ofConn, List.filter_eq_self.mpr (by simp), List.map_map]
  exact List.map_id told

theorem ofConn_other {i j : ConnId} (different : j ≠ i) (told : List String) :
    ofConn j (told.map (Prod.mk i)) = [] := by
  rw [ofConn, List.filter_eq_nil_iff.mpr (by simp [different.symm]), List.map_nil]

theorem acceptedIds_append (first later : List Event) :
    acceptedIds (first ++ later) = acceptedIds first ++ acceptedIds later :=
  List.filterMap_append

/-- A task leaves the source address of others alone too. -/
theorem ConnMove.frame_ip {config : HostConfig} {host : Host} {i : ConnId} {conn : Conn}
    {connStep : ConnStep} {effect : ConnEffect} (move : ConnMove config host i conn connStep effect)
    {other : String} (different : other ≠ conn.clientId) :
    effect.registry.clientIp.lookup other = host.registry.clientIp.lookup other := by
  cases move with
  | insertIp phase => exact AList.lookup_insert_ne different
  | removeIp phase => exact AList.lookup_erase_ne different
  | _ => rfl

/-- Who is not a connection removes tokens and heartbeats and writes nothing. -/
theorem HostMove.removes {config : HostConfig} {host next : Host} {action : Action}
    (move : HostMove config host action next) (noConn : ∀ i step, action ≠ .conn i step)
    (clientId : String) :
    (host.registry.activeClients.lookup clientId = none →
        next.registry.activeClients.lookup clientId = none) ∧
      (host.registry.lastHeartbeat.lookup clientId = none →
        next.registry.lastHeartbeat.lookup clientId = none) ∧
      next.registry.clientIp.lookup clientId = host.registry.clientIp.lookup clientId := by
  have erased : ∀ {Value : Type} (map : HashMap String Value) id, map.lookup clientId = none →
      AList.lookup clientId (map.erase id) = none := by
    intro Value map id absent
    rw [HashMap.lookup_erase, absent, ite_self]
  cases move with
  | conn listed move => exact absurd rfl (noConn _ _)
  | loop move =>
      cases move with
      | expire phase => exact ⟨id, erased _ _, rfl⟩
      | cancelExpired phase => exact ⟨erased _ _, id, rfl⟩
      | _ => exact ⟨id, id, rfl⟩
  | kickCancel found => exact ⟨erased _ _, id, rfl⟩
  | _ => exact ⟨id, id, rfl⟩

/-- Connections keep their addresses. -/
theorem HostMove.addresses {config : HostConfig} {host next : Host} {action : Action}
    (move : HostMove config host action next)
    (noAccept : ∀ i clientId clientIp, action ≠ .accept i clientId clientIp) :
    next.conns.map Conn.clientId = host.conns.map Conn.clientId := by
  apply List.ext_getElem?
  intro j
  rw [List.getElem?_map, List.getElem?_map]
  cases earlier : host.conns[j]? with
  | some before =>
      rcases move.conn_listed earlier with ⟨after, listed, successor, _⟩
      rw [listed, Option.map_some, Option.map_some, successor.clientId]
  | none =>
      cases later : next.conns[j]? with
      | none => rfl
      | some after =>
          rcases move.conn_cases later with ⟨clientId, clientIp, accepts, _⟩ | ⟨before, listed, _⟩
          · exact absurd accepts (noAccept j clientId clientIp)
          · rw [earlier] at listed
            cases listed

/-- The step of a connection, with the effect it has. -/
theorem step_conn_eq_some {config : HostConfig} {host next : Host} {time : Instant} {i : ConnId}
    {connStep : ConnStep} (taken : step config host ⟨time, .conn i connStep⟩ = some next) :
    ∃ conn effect, host.conns[i]? = some conn ∧
      connEffect config (host.atTime time) i conn conn.phase connStep = some effect ∧
      next = (host.atTime time).afterConn i conn effect := by
  rw [step] at taken
  split at taken
  · rw [act] at taken
    split at taken
    · next conn listed =>
        rcases Option.map_eq_some_iff.mp taken with ⟨effect, changed, rfl⟩
        exact ⟨conn, effect, listed, changed, rfl⟩
    · cases taken
  · cases taken

/-- What the account of the events so far says about the host. -/
structure Account (host : Host) (sent recorded : List (ConnId × String))
    (accepted : List String) : Prop where
  conns : ∀ i conn, host.conns[i]? = some conn →
    LifeCycle host.registry conn.clientId conn.phase (ofConn i sent) (ofConn i recorded)
  unheard : ∀ i, host.conns.length ≤ i → ofConn i sent = [] ∧ ofConn i recorded = []
  addresses : host.conns.map Conn.clientId = accepted
  strange : ∀ clientId, clientId ∉ accepted → host.registry.clientMachine.lookup clientId = none

namespace Account

variable {config : HostConfig} {host next : Host} {sent recorded : List (ConnId × String)}
  {accepted : List String}

theorem length_eq (account : Account host sent recorded accepted) :
    host.conns.length = accepted.length := by
  rw [← account.addresses, List.length_map]

/-- Connections with different numbers have different addresses. -/
theorem address_ne (account : Account host sent recorded accepted) (distinct : accepted.Nodup)
    {i j : ConnId} {first second : Conn} (firstListed : host.conns[i]? = some first)
    (secondListed : host.conns[j]? = some second) (different : j ≠ i) :
    second.clientId ≠ first.clientId := by
  intro same
  rw [← account.addresses] at distinct
  rcases List.getElem?_eq_some_iff.mp secondListed with ⟨inside, _⟩
  apply different
  apply (List.getElem?_inj (by simpa using inside) distinct).mp
  rw [List.getElem?_map, List.getElem?_map, firstListed, secondListed, Option.map_some,
    Option.map_some, same]

theorem conn (account : Account host sent recorded accepted) (distinct : accepted.Nodup)
    {i : ConnId} {conn : Conn} {connStep : ConnStep} {effect : ConnEffect}
    (listed : host.conns[i]? = some conn) (move : ConnMove config host i conn connStep effect) :
    Account (host.afterConn i conn effect) (sent ++ effect.message.toList.map (Prod.mk i))
      (recorded ++ (recordedBy conn.phase connStep).map (Prod.mk i)) accepted := by
  have addresses : (host.afterConn i conn effect).conns.map Conn.clientId = accepted :=
    ((HostMove.conn listed move).addresses fun _ _ _ => Action.noConfusion).trans
      account.addresses
  refine ⟨?_, ?_, addresses, ?_⟩
  · intro j other present
    rw [getElem?_afterConn effect listed] at present
    rw [ofConn_append, ofConn_append]
    split at present
    · next same =>
        subst same
        cases present
        rw [ofConn_own, ofConn_own]
        exact (account.conns j conn listed).step move
    · next different =>
        rw [ofConn_other different, ofConn_other different, List.append_nil, List.append_nil]
        have elsewhere := account.address_ne distinct listed present different
        have ⟨active, heartbeat, machine⟩ := move.frame elsewhere
        exact (account.conns j other present).frame active.trans heartbeat.trans
          (move.frame_ip elsewhere) machine
  · intro j beyond
    rw [← List.length_map Conn.clientId, addresses, ← account.length_eq] at beyond
    have inside : i < host.conns.length := (List.getElem?_eq_some_iff.mp listed).1
    have different : j ≠ i := by
      rintro rfl
      exact absurd inside (Nat.not_lt.mpr beyond)
    rw [ofConn_append, ofConn_append, ofConn_other different, ofConn_other different,
      List.append_nil, List.append_nil]
    exact account.unheard j beyond
  · intro clientId unknown
    have elsewhere : clientId ≠ conn.clientId := by
      rintro rfl
      rw [← account.addresses] at unknown
      exact unknown (List.mem_map_of_mem (List.mem_of_getElem? listed))
    exact (move.frame elsewhere).2.2.trans (account.strange clientId unknown)

theorem accept (account : Account host sent recorded accepted) (clientId clientIp : String)
    (fresh : clientId ∉ accepted) :
    Account { host with conns := host.conns ++ [⟨clientId, clientIp, false, .insertActive⟩] }
      sent recorded (accepted ++ [clientId]) := by
  refine ⟨?_, ?_, ?_, ?_⟩
  · intro j conn listed
    rcases getElem?_concat listed with old | ⟨rfl, rfl⟩
    · exact account.conns j conn old
    · have ⟨nothingSent, nothingRecorded⟩ := account.unheard _ (Nat.le_refl _)
      rw [nothingSent, nothingRecorded]
      exact LifeCycle.uncleared rfl (account.strange clientId fresh)
  · intro j beyond
    rw [List.length_append] at beyond
    exact account.unheard j (by omega)
  · rw [List.map_append, account.addresses]
    rfl
  · intro other unknown
    exact account.strange other fun known => unknown (List.mem_append_left _ known)

/-- The events of all the others. -/
theorem others (account : Account host sent recorded accepted) {action : Action}
    (move : HostMove config host action next) (noConn : ∀ i step, action ≠ .conn i step)
    (noAccept : ∀ i clientId clientIp, action ≠ .accept i clientId clientIp) :
    Account next sent recorded accepted := by
  have addresses := (move.addresses noAccept).trans account.addresses
  refine ⟨?_, ?_, addresses, ?_⟩
  · intro j after listed
    rcases move.conn_cases listed with ⟨clientId, clientIp, accepts, _⟩ |
      ⟨before, earlier, successor, phase⟩
    · exact absurd accepts (noAccept j clientId clientIp)
    · have same := phase.resolve_right fun ⟨step, own⟩ => noConn j step own
      have ⟨active, heartbeat, ip⟩ := move.removes noConn before.clientId
      have machine := congrArg (AList.lookup before.clientId) (move.clientMachine_eq noConn)
      rw [same, successor.clientId]
      exact (account.conns j before earlier).frame active heartbeat ip machine
  · intro j beyond
    rw [← List.length_map Conn.clientId, addresses, ← account.length_eq] at beyond
    exact account.unheard j beyond
  · intro clientId unknown
    rw [move.clientMachine_eq noConn]
    exact account.strange clientId unknown

/-- Every event keeps the account, if it brings no address a second time. -/
theorem step (account : Account host sent recorded accepted) {event : Event}
    (distinct : (accepted ++ acceptedIds [event]).Nodup)
    (taken : Center.step config host event = some next) :
    Account next (sent ++ sentMessages config host event) (recorded ++ recordedIds host event)
      (accepted ++ acceptedIds [event]) := by
  rcases event with ⟨time, action⟩
  rcases step_eq_some taken with ⟨_, move⟩
  have now : Account (host.atTime time) sent recorded accepted := ⟨account.conns, account.unheard,
    account.addresses, account.strange⟩
  cases action with
  | accept i clientId clientIp =>
      have fresh : clientId ∉ accepted := by
        intro known
        exact List.disjoint_of_nodup_append distinct known List.mem_cons_self
      generalize host.atTime time = current at move now
      cases move with
      | accept accepting =>
          change Account _ (sent ++ []) (recorded ++ []) (accepted ++ [clientId])
          rw [List.append_nil, List.append_nil]
          exact now.accept clientId clientIp fresh
  | conn i connStep =>
      rcases step_conn_eq_some taken with ⟨conn, effect, listed, changed, rfl⟩
      have told : sentMessages config host ⟨time, .conn i connStep⟩ =
          effect.message.toList.map (Prod.mk i) := by
        simp only [sentMessages, listed, Option.bind_some, changed]
      have noted : recordedIds host ⟨time, .conn i connStep⟩ =
          (recordedBy conn.phase connStep).map (Prod.mk i) := by
        simp only [recordedIds, listed, Option.map_some, Option.getD_some]
      have unique : accepted.Nodup := (List.nodup_append.mp distinct).1
      change Account _ _ _ (accepted ++ [])
      rw [told, noted, List.append_nil]
      exact now.conn unique listed (connEffect_eq_some changed)
  | _ =>
      change Account _ (sent ++ []) (recorded ++ []) (accepted ++ [])
      rw [List.append_nil, List.append_nil, List.append_nil]
      exact now.others move (fun _ _ => Action.noConfusion) fun _ _ _ => Action.noConfusion

end Account

/-- The channel delivers what the connections send, in order. -/
theorem channel_step {config : HostConfig} {host next : Host} {event : Event}
    (taken : step config host event = some next) :
    consumedMessages host event ++ next.queue =
      host.queue ++ (sentMessages config host event).map Prod.snd := by
  rcases event with ⟨time, action⟩
  rcases step_eq_some taken with ⟨_, move⟩
  have queue : (host.atTime time).queue = host.queue := rfl
  dsimp only at move
  generalize host.atTime time = current at move queue
  cases move with
  | conn _ _ =>
      rcases step_conn_eq_some taken with ⟨conn, effect, listed, changed, stepped⟩
      simp only [stepped, sentMessages, listed, Option.bind_some, changed, List.map_map]
      rw [Function.comp_def, List.map_id']
      rfl
  | consume _ queued =>
      change host.queue.head?.toList ++ _ = host.queue ++ []
      rw [← queue, queued, List.append_nil]
      rfl
  | loop inner =>
      change [] ++ current.queue = host.queue ++ []
      rw [queue, List.append_nil, List.nil_append]
  | _ =>
      change [] ++ current.queue = host.queue ++ []
      rw [queue, List.append_nil, List.nil_append]

section Runs

variable {config : HostConfig} {begin : Instant} {events : List Event} {host : Host}

theorem account_of_run (distinct : (acceptedIds events).Nodup)
    (reached : run (step config) (Host.new begin) events = some host) :
    Account host (emitted (step config) (sentMessages config) (Host.new begin) events)
      (emitted (step config) recordedIds (Host.new begin) events) (acceptedIds events) := by
  have every : EveryStep (step config) (Host.new begin)
      (fun past _ event => (acceptedIds past ++ acceptedIds [event]).Nodup) events := by
    intro past event later state split _
    rw [split, ← List.singleton_append, ← List.append_assoc, acceptedIds_append,
      acceptedIds_append] at distinct
    exact (List.nodup_append.mp distinct).1
  refine run_invariant (fun past host => Account host
    (emitted (step config) (sentMessages config) (Host.new begin) past)
    (emitted (step config) recordedIds (Host.new begin) past) (acceptedIds past)) ?_ ?_ every
    reached
  · refine ⟨?_, fun _ _ => ⟨rfl, rfl⟩, rfl, fun _ _ => rfl⟩
    intro i conn listed
    cases listed
  · intro past state event next arrived account fresh taken
    rw [emitted_concat arrived, emitted_concat arrived, acceptedIds_append]
    exact account.step fresh taken

theorem channel_of_run (reached : run (step config) (Host.new begin) events = some host) :
    emitted (step config) consumedMessages (Host.new begin) events ++ host.queue =
      (emitted (step config) (sentMessages config) (Host.new begin) events).map Prod.snd := by
  refine history_invariant (fun past host =>
    emitted (step config) consumedMessages (Host.new begin) past ++ host.queue =
      (emitted (step config) (sentMessages config) (Host.new begin) past).map Prod.snd) rfl ?_
    reached
  intro past state event next arrived holds taken
  rw [emitted_concat arrived, emitted_concat arrived, List.map_append, ← holds, List.append_assoc,
    List.append_assoc, channel_step taken]

/-- The life cycle of every connection, in every run whose connections come from
different addresses.  A connection that has ended has sent one message, the machine id
recorded last, and has no entry left; one that has not has sent none.  What was sent
and not yet consumed is in the channel, in order. -/
theorem conn_life_cycle (distinct : (acceptedIds events).Nodup)
    (reached : run (step config) (Host.new begin) events = some host) :
    let sent := emitted (step config) (sentMessages config) (Host.new begin) events
    let recorded := emitted (step config) recordedIds (Host.new begin) events
    let consumed := emitted (step config) consumedMessages (Host.new begin) events
    (∀ i conn, host.conns[i]? = some conn →
      (conn.phase = .ended → ofConn i sent = [(ofConn i recorded).getLast?.getD ""] ∧
        host.registry.Lacks conn.clientId) ∧
      (conn.phase ≠ .ended → ofConn i sent = [])) ∧
    (∀ i, host.conns.length ≤ i → ofConn i sent = []) ∧
    consumed ++ host.queue = sent.map Prod.snd := by
  intro sent recorded consumed
  have account := account_of_run distinct reached
  refine ⟨?_, fun i beyond => (account.unheard i beyond).1, channel_of_run reached⟩
  intro i conn listed
  have life := account.conns i conn listed
  constructor
  · intro ended
    rw [ended] at life
    exact ⟨life.sent, life.lacks⟩
  · intro running
    rw [life.sent, if_neg running]

end Runs

/-- A guest pings and leaves while another connection is open. -/
def sampleVisits : List Event :=
  sampleJoin 0 0 "10.144.144.5:54321" "10.144.144.5" ++ sampleRequest 0 0 "g1" ++
    sampleJoin 0 1 "10.144.144.6:54321" "10.144.144.6" ++ sampleRecord 0 0 ++ sampleLeave 1 0

theorem conn_life_cycle_visits :
    ∃ host, run (step sampleConfig) (Host.new 0) sampleVisits = some host ∧
      ofConn 0 (emitted (step sampleConfig) (sentMessages sampleConfig) (Host.new 0)
        sampleVisits) = ["g1"] ∧
      host.registry.Lacks "10.144.144.5:54321" := by
  have reached : run (step sampleConfig) (Host.new 0) sampleVisits = some _ :=
    run_eq_getD (by decide +kernel)
  have life := (conn_life_cycle (by decide +kernel) reached).1 0
    ⟨"10.144.144.5:54321", "10.144.144.5", false, .ended⟩ (by decide +kernel)
  have ⟨told, lacks⟩ := life.1 rfl
  refine ⟨_, reached, told.trans ?_, lacks⟩
  decide +kernel

end Center
end QomicexConnector
