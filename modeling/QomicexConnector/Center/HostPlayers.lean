import QomicexConnector.Center.HostServer

namespace QomicexConnector
namespace Center

open Library

/-!
# Players and connections

The player list is keyed by machine id, the registry by client address, and the
news of an ended connection reaches the list through a queue.  Two laws are proved
for the runs in which they hold: a connected player is listed, and a listed guest
is connected.  Each is a statement about quiescent states, derived from an
invariant of all states, in which a connection counts from the moment it is about
to record its machine id.
-/

/-! ## What a handler does to the players -/

section Handler

variable {config : HostConfig} {choice : HandlerChoice} {request : ProtocolRequest}
  {players : List PlayerInfo}

theorem customHandlers_keys (config : HostConfig) (choice : HandlerChoice) :
    (customHandlers config choice).map ProtocolHandler.key = config.customKeys := by
  rw [customHandlers, List.map_map]
  exact List.map_id _

theorem lookup_hostTable {handler : ProtocolHandler (List PlayerInfo)} {key : String} :
    (protocolTable (assembleProtocols (hostHandlers config choice)
        (customHandlers config choice))).lookup key = some handler ↔
      handler ∈ assembleProtocols (hostHandlers config choice) (customHandlers config choice) ∧
        handler.key = key := by
  rcases config.checked with ⟨accepted, checked⟩
  rw [← customHandlers_keys config choice] at checked
  exact lookup_protocolTable _ checked

/-- Only the ping handler changes the players. -/
theorem hostDispatch_other (other : request.key ≠ "c:player_ping") :
    (hostDispatch config choice request players).2 = players := by
  rw [hostDispatch, dispatch]
  split
  · next handler found =>
      rcases lookup_hostTable.mp found with ⟨listed, key⟩
      rcases List.mem_append.mp listed with standard | custom
      · simp only [List.mem_cons, List.not_mem_nil, or_false] at standard
        rcases standard with rfl | rfl | rfl | rfl | rfl
        · rfl
        · rfl
        · rfl
        · exact absurd key.symm other
        · rw [playerProfilesListProtocol]
          dsimp only
          split <;> rfl
      · rcases List.mem_map.mp custom with ⟨_, _, rfl⟩
        rfl
  · rfl

theorem hostDispatch_ping (ping : request.key = "c:player_ping") :
    hostDispatch config choice request players =
      (playerPingProtocol config.fromSlice (hostHandlers config choice).onPlayerPing).handle
        request players := by
  have found : (protocolTable (assembleProtocols (hostHandlers config choice)
      (customHandlers config choice))).lookup request.key = some
        (playerPingProtocol config.fromSlice (hostHandlers config choice).onPlayerPing) := by
    refine lookup_hostTable.mpr ⟨List.mem_append_left _ ?_, ping.symm⟩
    simp [hostHandlers]
  rw [hostDispatch, dispatch, found]

/-- Whatever the handler, it changes the players by updates of the two kinds only. -/
theorem hostDispatch_updates (config : HostConfig) (choice : HandlerChoice)
    (request : ProtocolRequest) (players : List PlayerInfo) :
    ∃ updates : List PlayerUpdate,
      (hostDispatch config choice request players).2 = updates.foldl PlayerUpdate.apply players := by
  by_cases ping : request.key = "c:player_ping"
  · rw [hostDispatch_ping ping, playerPingProtocol]
    dsimp only
    cases parsePlayerInfo config.fromSlice request.body with
    | error message => exact ⟨[], rfl⟩
    | ok info =>
        cases hook : config.pingHook with
        | true =>
            refine ⟨choice.updates, ?_⟩
            cases verdict : choice.verdict <;> simp [hostHandlers, hook, verdict]
        | false =>
            refine ⟨[.ping choice.attempts info], ?_⟩
            simp [hostHandlers, hook, PlayerUpdate.apply]
  · exact ⟨[], hostDispatch_other ping⟩

/-- With the standard behaviour an accepted ping enlists the player it names, and
any other request leaves the players alone. -/
theorem hostDispatch_standard (standard : config.pingHook = false) (choice : HandlerChoice)
    (request : ProtocolRequest) (players : List PlayerInfo) :
    (hostDispatch config choice request players).2 = players ∧
        isAcceptedPing request (hostDispatch config choice request players).1 = false ∨
      ∃ info, parsePlayerInfo config.fromSlice request.body = .ok info ∧
        request.key = "c:player_ping" ∧
        hostDispatch config choice request players =
          (⟨0, []⟩, onPlayerPingImpl choice.attempts info players) := by
  by_cases ping : request.key = "c:player_ping"
  · rw [hostDispatch_ping ping, playerPingProtocol]
    dsimp only
    cases parsed : parsePlayerInfo config.fromSlice request.body with
    | error message =>
        refine Or.inl ⟨rfl, ?_⟩
        simp [isAcceptedPing, errorResponse, ProtocolResponse.isSuccess]
    | ok info =>
        refine Or.inr ⟨info, rfl, ping, ?_⟩
        simp [hostHandlers, standard]
  · refine Or.inl ⟨hostDispatch_other ping, ?_⟩
    simp [isAcceptedPing, ping]

end Handler

/-! ## The machine ids of the connections -/

/-- The machine id a task has accepted and is about to record. -/
def ConnPhase.recording (config : HostConfig) : ConnPhase → Option String
  | .writing request response =>
      if isAcceptedPing request response then recordedMachineId config.fromSlice request.body
      else none
  | .insertHeartbeat request => recordedMachineId config.fromSlice request.body
  | .insertMachine machineId => some machineId
  | _ => none

/-- A request is being handled, answered or recorded. -/
def ConnPhase.inProgress : ConnPhase → Bool
  | .handling _ | .writing _ _ | .insertHeartbeat _ | .insertMachine _ => true
  | _ => false

/-- A ping that can be parsed is being handled. -/
def ConnPhase.pinging (config : HostConfig) : ConnPhase → Bool
  | .handling request =>
      request.key == "c:player_ping" && (parsePlayerInfo config.fromSlice request.body).isOk
  | _ => false

theorem ConnPhase.pinging_handling {config : HostConfig} {request : ProtocolRequest}
    {info : PlayerInfo} (ping : request.key = "c:player_ping")
    (parsed : parsePlayerInfo config.fromSlice request.body = .ok info) :
    (ConnPhase.handling request).pinging config = true := by
  rw [ConnPhase.pinging, parsed, Bool.and_eq_true, beq_iff_eq]
  exact ⟨ping, rfl⟩

/-- No request is in progress and every disconnect message has been consumed. -/
def Host.Quiescent (host : Host) : Prop :=
  host.queue = [] ∧ ∀ conn ∈ host.conns, conn.phase.inProgress = false

instance (host : Host) : Decidable host.Quiescent := inferInstanceAs (Decidable (_ ∧ _))

/-- The connection has recorded the machine id, or is about to. -/
def Server.Names (config : HostConfig) (server : Server) (conn : Conn) (machineId : String) :
    Prop :=
  server.registry.clientMachine.lookup conn.clientId = some machineId ∨
    conn.phase.recording config = some machineId

instance (config : HostConfig) (server : Server) (conn : Conn) (machineId : String) :
    Decidable (server.Names config conn machineId) := inferInstanceAs (Decidable (_ ∨ _))

/-- A machine id is recorded under the address of an unfinished connection only. -/
def Server.MachinesOwned (server : Server) : Prop :=
  ∀ clientId machineId, server.registry.clientMachine.lookup clientId = some machineId →
    ∃ (i : ConnId) (conn : Conn), server.conns[i]? = some conn ∧ conn.clientId = clientId ∧
      conn.live

namespace ConnMove

variable {config : HostConfig} {host : Host} {i : ConnId} {conn : Conn} {step : ConnStep}
  {effect : ConnEffect}

/-- What is recorded under the own address after a step was recorded before it or
was about to be, and the connection has not finished. -/
theorem machine (move : ConnMove config host i conn step effect) {machineId : String}
    (found : effect.registry.clientMachine.lookup conn.clientId = some machineId) :
    effect.phase ≠ .ended ∧ host.Names config conn machineId := by
  cases move with
  | insertMachine phase =>
      change (host.registry.clientMachine.insert _ _).lookup _ = _ at found
      rw [AList.lookup_insert] at found
      exact ⟨by simp [Host.goto], Or.inr (by rw [phase]; exact found)⟩
  | removeMachine phase =>
      change (host.registry.clientMachine.erase _).lookup _ = _ at found
      rw [AList.lookup_erase] at found
      cases found
  | _ => exact ⟨by simp [Host.goto], Or.inl found⟩

/-- The players change only where a handler is called. -/
theorem players (move : ConnMove config host i conn step effect) :
    effect.players = host.players ∨ ∃ request choice, conn.phase = .handling request ∧
      step = .handle choice ∧
      effect.players = (hostDispatch config choice request host.players).2 ∧
      effect.phase = .writing request (hostDispatch config choice request host.players).1 := by
  cases move with
  | @handle request response players phase choice result =>
      exact Or.inr ⟨request, choice, phase, rfl, by rw [result], by rw [result]; rfl⟩
  | _ => exact Or.inl rfl

/-- A machine id about to be recorded was so before, or a handler has just accepted it. -/
theorem recording (move : ConnMove config host i conn step effect) {machineId : String}
    (records : effect.phase.recording config = some machineId) :
    conn.phase.recording config = some machineId ∨
      ∃ request choice, conn.phase = .handling request ∧ step = .handle choice ∧
        effect.players = (hostDispatch config choice request host.players).2 ∧
        isAcceptedPing request (hostDispatch config choice request host.players).1 = true ∧
        recordedMachineId config.fromSlice request.body = some machineId := by
  cases move with
  | @handle request response players phase choice result =>
      change (if isAcceptedPing request response then _ else none) = some machineId at records
      split at records
      · next accepted =>
          refine Or.inr ⟨request, choice, phase, rfl, ?_⟩
          rw [result]
          exact ⟨rfl, accepted, records⟩
      · cases records
  | answered phase accepted =>
      exact Or.inl (by rw [phase, ConnPhase.recording, if_pos accepted]; exact records)
  | stamped phase recorded =>
      exact Or.inl (by rw [phase]; exact recorded.trans records)
  | _ => cases records

end ConnMove

section Owned

variable {config : HostConfig} {host next : Host} {action : Action}

theorem Server.MachinesOwned.step (move : HostMove config host action next)
    (owned : host.MachinesOwned) : next.MachinesOwned := by
  intro clientId machineId found
  by_cases isConn : ∃ i step, action = .conn i step
  · rcases isConn with ⟨i, step, rfl⟩
    cases move with
    | @conn i conn step effect listed move =>
        change effect.registry.clientMachine.lookup clientId = some machineId at found
        by_cases own : clientId = conn.clientId
        · subst own
          exact ⟨i, _, getElem?_afterConn_self _ listed, rfl, (move.machine found).1⟩
        · rw [(move.frame own).2.2] at found
          rcases owned clientId machineId found with ⟨k, other, present, address, live⟩
          refine ⟨k, other, ?_, address, live⟩
          rw [getElem?_afterConn _ listed, if_neg, present]
          rintro rfl
          rw [present] at listed
          cases listed
          exact own address.symm
  · have noConn : ∀ i step, action ≠ .conn i step := fun i step same => isConn ⟨i, step, same⟩
    rw [move.clientMachine_eq noConn] at found
    rcases owned clientId machineId found with ⟨k, other, present, address, live⟩
    rcases move.conn_listed present with ⟨after, listed, successor, phase⟩
    have phase := phase.resolve_right fun ⟨step, same⟩ => noConn k step same
    refine ⟨k, after, listed, successor.clientId.trans address, ?_⟩
    rw [Conn.live, phase]
    exact live

end Owned

/-- Who is named after an event that is none of a connection was named before it. -/
theorem HostMove.names_before {config : HostConfig} {host next : Host} {action : Action}
    (move : HostMove config host action next) (noConn : ∀ i step, action ≠ .conn i step)
    (noAccept : ∀ i clientId clientIp, action ≠ .accept i clientId clientIp) {j : ConnId}
    {after : Conn} {machineId : String} (listed : next.conns[j]? = some after) (live : after.live)
    (names : next.Names config after machineId) :
    ∃ before, host.conns[j]? = some before ∧ before.live ∧ before.Successor after ∧
      host.Names config before machineId := by
  rcases move.conn_cases listed with ⟨clientId, clientIp, accepts, _⟩ |
    ⟨before, present, successor, phase⟩
  · exact absurd accepts (noAccept j clientId clientIp)
  · have phase := phase.resolve_right fun ⟨step, same⟩ => noConn j step same
    refine ⟨before, present, successor.live live, successor, ?_⟩
    rw [Server.Names, move.clientMachine_eq noConn, successor.clientId, phase] at names
    exact names

/-! ## A connected player is listed -/

/-- The step keeps connected players listed.  An accepted connection comes from a free
address, the handler of a ping that can be parsed obtains the list's lock, `remove_player`
is not called, and a disconnect message that names a listed guest finds no unfinished,
uncancelled connection of the same machine id. -/
def KeepsRejoined (config : HostConfig) (host : Host) : Action → Prop
  | .conn i (.handle choice) => ∀ conn ∈ host.conns[i]?, conn.phase.pinging config = true →
      acquires lockRetryLimit choice.attempts = true
  | .consume _ => ∀ message ∈ host.queue.head?, message ≠ "" →
      ∀ player ∈ host.players.find? (fun player => player.machineId == message),
        player.kind = .guest → ∀ conn ∈ host.conns, conn.live → conn.cancelled = false →
          ¬ host.Names config conn message
  | .removePlayer _ _ => False
  | .accept i clientId clientIp => FreshAddress host (.accept i clientId clientIp)
  | _ => True

instance (config : HostConfig) (host : Host) (action : Action) :
    Decidable (KeepsRejoined config host action) := by
  unfold KeepsRejoined
  split <;> infer_instance

/-- In a quiescent state the machine id of every unfinished, uncancelled connection is
listed. -/
def Host.RejoinedListed (host : Host) : Prop :=
  host.Quiescent → ∀ conn ∈ host.conns, conn.live → conn.cancelled = false →
    ∀ machineId, host.registry.clientMachine.lookup conn.clientId = some machineId →
      machineId ∈ machineIds host.players

theorem KeepsRejoined.fresh {config : HostConfig} {host : Host} {action : Action}
    (keeps : KeepsRejoined config host action) : FreshAddress host action := by
  cases action with
  | accept i clientId clientIp => exact keeps
  | _ => trivial

/-- The invariant behind it, for every state. -/
def Host.ConnectedListed (config : HostConfig) (host : Host) : Prop :=
  ∀ (i : ConnId) (conn : Conn) machineId, host.conns[i]? = some conn → conn.live →
    conn.cancelled = false → host.Names config conn machineId → machineId ∈ machineIds host.players

section Connected

variable {config : HostConfig} {host next : Host} {action : Action}

/-- An accepted ping lists the player it names, and no handler removes one. -/
theorem listed_of_dispatch (standard : config.pingHook = false) {choice : HandlerChoice}
    {request : ProtocolRequest} {players : List PlayerInfo} {machineId : String}
    (acquired : (ConnPhase.handling request).pinging config = true →
      acquires lockRetryLimit choice.attempts = true)
    (named : machineId ∈ machineIds players ∨
      isAcceptedPing request (hostDispatch config choice request players).1 = true ∧
        recordedMachineId config.fromSlice request.body = some machineId) :
    machineId ∈ machineIds (hostDispatch config choice request players).2 := by
  rcases hostDispatch_standard standard choice request players with
    ⟨same, refused⟩ | ⟨info, parsed, ping, result⟩
  · rw [same]
    refine named.resolve_right fun ⟨accepted, _⟩ => ?_
    rw [accepted] at refused
    cases refused
  · rw [result, onPlayerPingImpl_of_acquired (acquired (ConnPhase.pinging_handling ping parsed))]
    refine mem_machineIds_pingUpdate.mpr (named.imp_right fun ⟨_, recorded⟩ => ?_)
    rcases parsePlayerInfo_of_recorded recorded with ⟨other, also, rfl⟩
    rw [parsed] at also
    cases also
    rfl

/-- A disconnect message takes no one off the list who is still connected. -/
theorem listed_of_consume {attempts : Nat → Bool} {message machineId : String}
    {players : List PlayerInfo} (listed : machineId ∈ machineIds players)
    (spared : message ≠ "" → ∀ player,
      players.find? (fun player => player.machineId == message) = some player →
      player.kind = .guest → machineId ≠ message) :
    machineId ∈
      machineIds (onClientDisconnectedImpl attempts (disconnectedMachine message) players) := by
  rw [disconnectedMachine]
  split
  · exact listed
  · next named =>
      rw [onClientDisconnectedImpl, withPlayersWrite]
      split
      · by_cases same : machineId = message
        · have unchanged : removeUpdate message players = players := by
            rw [← same] at spared ⊢
            rcases mem_machineIds.mp listed with ⟨entry, present, address⟩
            have first : (players.find? fun player => player.machineId == machineId).isSome :=
              List.find?_isSome.mpr ⟨entry, present, by simpa using address⟩
            rcases Option.isSome_iff_exists.mp first with ⟨player, found⟩
            apply removeUpdate_host found
            cases kind : player.kind with
            | host => rfl
            | guest =>
                refine absurd rfl (spared ?_ player found kind)
                simpa [same] using named
          rw [unchanged]
          exact listed
        · exact (mem_machineIds_removeUpdate same).mpr listed
      · exact listed

theorem Host.ConnectedListed.step (standard : config.pingHook = false)
    (move : HostMove config host action next) (connected : host.ConnectedListed config)
    (distinct : host.DistinctAddresses) (owned : host.MachinesOwned)
    (keeps : KeepsRejoined config host action) : next.ConnectedListed config := by
  intro j after machineId listed live uncancelled names
  have before (noConn : ∀ i step, action ≠ .conn i step)
      (noAccept : ∀ i clientId clientIp, action ≠ .accept i clientId clientIp) :
      ∃ conn ∈ host.conns, conn.live ∧ conn.cancelled = false ∧ host.Names config conn machineId ∧
        machineId ∈ machineIds host.players := by
    rcases move.names_before noConn noAccept listed live names with
      ⟨conn, present, alive, successor, named⟩
    have running : conn.cancelled = false := by
      cases cancelled : conn.cancelled with
      | false => rfl
      | true => rw [successor.cancelled cancelled] at uncancelled; cases uncancelled
    exact ⟨conn, List.mem_of_getElem? present, alive, running, named,
      connected j conn machineId present alive running named⟩
  cases move with
  | accept accepting clientId clientIp =>
      rcases getElem?_concat listed with old | ⟨_, rfl⟩
      · exact connected j after machineId old live uncancelled names
      · rcases names with found | records
        · rcases owned clientId machineId found with ⟨i, conn, present, address, alive⟩
          exact absurd address (keeps conn (List.mem_of_getElem? present) alive)
        · cases records
  | @conn i conn step effect present move =>
      have acquired {request : ProtocolRequest} {choice : HandlerChoice}
          (phase : conn.phase = .handling request) (handles : step = .handle choice)
          (pinging : (ConnPhase.handling request).pinging config = true) :
          acquires lockRetryLimit choice.attempts = true := by
        subst handles
        refine keeps conn present ?_
        rwa [phase]
      have grows (listed : machineId ∈ machineIds host.players) :
          machineId ∈ machineIds effect.players := by
        rcases move.players with same | ⟨request, choice, phase, handles, players, _⟩
        · exact same ▸ listed
        · exact players ▸ listed_of_dispatch standard (acquired phase handles) (Or.inl listed)
      rw [getElem?_afterConn _ present] at listed
      split at listed
      · next same =>
          subst same
          cases listed
          have held (named : host.Names config conn machineId) :
              machineId ∈ machineIds effect.players :=
            grows (connected j conn machineId present move.live uncancelled named)
          rcases names with found | records
          · exact held (move.machine found).2
          · rcases move.recording records with earlier |
              ⟨request, choice, phase, handles, players, accepted, recorded⟩
            · exact held (Or.inr earlier)
            · change machineId ∈ machineIds effect.players
              rw [players]
              exact listed_of_dispatch standard (acquired phase handles)
                (Or.inr ⟨accepted, recorded⟩)
      · next other =>
          have different : after.clientId ≠ conn.clientId := fun same =>
            other (distinct j i after conn listed present live move.live same)
          refine grows (connected j after machineId listed live uncancelled ?_)
          exact names.imp_left (move.frame different).2.2.symm.trans
  | consume attempts queued =>
      rcases before (by simp) (by simp) with ⟨conn, present, alive, running, named, listed⟩
      apply listed_of_consume listed
      rintro message player found guest rfl
      exact keeps _ (by rw [queued]; rfl) message player found guest conn present alive running named
  | removePlayer attempts removed => exact absurd keeps id
  | handlePlayerPing attempts info =>
      rcases before (by simp) (by simp) with ⟨_, _, _, _, _, listed⟩
      change machineId ∈ machineIds (withPlayersWrite attempts (pingUpdate info) host.players)
      rw [withPlayersWrite]
      split
      · exact mem_machineIds_pingUpdate.mpr (Or.inl listed)
      · exact listed
  | enlistHost nodeId =>
      rcases before (by simp) (by simp) with ⟨_, _, _, _, _, listed⟩
      rw [machineIds_append]
      exact List.mem_append_left _ listed
  | _ =>
      rcases before (by simp) (by simp) with ⟨_, _, _, _, _, listed⟩
      exact listed

end Connected

theorem distinctAddresses_new (now : Instant) : (Host.new now).DistinctAddresses := by
  intro i j first second listed
  cases listed

theorem machinesOwned_new (now : Instant) : (Host.new now).MachinesOwned := by
  intro clientId machineId found
  cases found

/-- In a run whose steps all keep connected players listed, with the standard behaviour
of `player_ping`, an old connection never takes a player off the list who has joined
again on a newer one. -/
theorem rejoined_stay_listed {config : HostConfig} (standard : config.pingHook = false)
    {begin : Instant} {events : List Event} {host : Host}
    (keeps : EveryStep (step config) (Host.new begin)
      (fun _ host event => KeepsRejoined config host event.action) events)
    (reached : run (step config) (Host.new begin) events = some host) : host.RejoinedListed := by
  have invariant : host.DistinctAddresses ∧ host.MachinesOwned ∧ host.ConnectedListed config := by
    refine run_invariant (fun _ host => host.DistinctAddresses ∧ host.MachinesOwned ∧
      host.ConnectedListed config) ⟨distinctAddresses_new begin, machinesOwned_new begin, ?_⟩ ?_
      keeps reached
    · intro i conn machineId listed
      cases listed
    · rintro past host event next _ ⟨distinct, owned, connected⟩ keeps taken
      have move := (step_eq_some taken).2
      exact ⟨Server.DistinctAddresses.step move distinct keeps.fresh,
        Server.MachinesOwned.step move owned,
        Host.ConnectedListed.step standard move connected distinct owned keeps⟩
  intro _ conn listed live running machineId found
  rcases List.mem_iff_getElem?.mp listed with ⟨i, present⟩
  exact invariant.2.2 i conn machineId present live running (Or.inl found)

/-- A guest whose old connection is over, message consumed, before it joins again. -/
def orderlyRejoin : List Event :=
  sampleJoin 0 0 "10.144.144.5:54321" "10.144.144.5" ++ sampleRequest 0 0 "g1" ++
    sampleRecord 0 0 ++ sampleLeave 1 0 ++ [⟨1, .consume fun _ => true⟩] ++
    sampleJoin 2 1 "10.144.144.5:54322" "10.144.144.5" ++ sampleRequest 2 1 "g1" ++
    sampleRecord 2 1

/-- The same guest, whose old connection ends after it has joined again. -/
def overlappingRejoin : List Event :=
  sampleJoin 0 0 "10.144.144.5:54321" "10.144.144.5" ++ sampleRequest 0 0 "g1" ++
    sampleRecord 0 0 ++ sampleJoin 1 1 "10.144.144.5:54322" "10.144.144.5" ++
    sampleRequest 1 1 "g1" ++ sampleRecord 1 1 ++ sampleLeave 2 0 ++ [⟨2, .consume fun _ => true⟩]

theorem rejoined_stay_listed_orderly :
    ∃ host, run (step sampleConfig) (Host.new 0) orderlyRejoin = some host ∧
      host.RejoinedListed :=
  ⟨_, run_eq_getD (by decide +kernel),
    rejoined_stay_listed rfl (by decide +kernel) (run_eq_getD (by decide +kernel))⟩

/-- The message of the old connection removes the guest who is connected. -/
theorem rejoined_not_listed :
    ∃ host, run (step sampleConfig) (Host.new 0) overlappingRejoin = some host ∧
      FreshAddresses sampleConfig 0 overlappingRejoin ∧ ¬ host.RejoinedListed := by
  refine ⟨_, run_eq_getD (by decide +kernel), ?_, ?_⟩
  · rw [FreshAddresses]
    decide +kernel
  · intro listed
    have quiet : ((run (step sampleConfig) (Host.new 0) overlappingRejoin).getD
        (Host.new 0)).Quiescent := by
      decide +kernel
    have present : (⟨"10.144.144.5:54322", "10.144.144.5", false, .pollServer⟩ : Conn) ∈
        ((run (step sampleConfig) (Host.new 0) overlappingRejoin).getD (Host.new 0)).conns := by
      decide +kernel
    have mapped : ((run (step sampleConfig) (Host.new 0) overlappingRejoin).getD
        (Host.new 0)).registry.clientMachine.lookup "10.144.144.5:54322" = some "g1" := by
      decide +kernel
    have found := listed quiet _ present (by decide) rfl "g1" mapped
    revert found
    decide +kernel

/-! ## A listed guest is connected -/

/-- Connection `i` pings as `ScaffoldingGuest` does, always under the one machine id
`names i`; nobody else enlists guests. -/
def PingsAsGuest (config : HostConfig) (names : ConnId → String) : Action → Prop
  | .conn i (.received request) => request.key = "c:player_ping" →
      recordedMachineId config.fromSlice request.body = some (names i)
  | .handlePlayerPing _ _ => False
  | _ => True

/-- The step leaves no guest behind.  An accepted connection comes from a free address,
the removal of a listed guest obtains the list's lock, and a write of the answer to an
accepted ping fails only where the connection has recorded its machine id before. -/
def LeavesNoGhost (config : HostConfig) (host : Host) : Action → Prop
  | .conn i .writeFailed => ∀ conn ∈ host.conns[i]?, conn.phase.recording config ≠ none →
      host.registry.clientMachine.lookup conn.clientId ≠ none
  | .consume attempts => ∀ message ∈ host.queue.head?, message ≠ "" →
      ∀ player ∈ host.players.find? (fun player => player.machineId == message),
        player.kind = .guest → acquires lockRetryLimit attempts = true
  | .accept i clientId clientIp => FreshAddress host (.accept i clientId clientIp)
  | _ => True

instance (config : HostConfig) (host : Host) (action : Action) :
    Decidable (LeavesNoGhost config host action) := by
  unfold LeavesNoGhost
  split <;> infer_instance

instance (config : HostConfig) (names : ConnId → String) (action : Action) :
    Decidable (PingsAsGuest config names action) := by
  unfold PingsAsGuest
  split <;> infer_instance

theorem LeavesNoGhost.fresh {config : HostConfig} {host : Host} {action : Action}
    (leaves : LeavesNoGhost config host action) : FreshAddress host action := by
  cases action with
  | accept i clientId clientIp => exact leaves
  | _ => trivial

/-- In a quiescent state every guest on the list has an unfinished connection that
recorded its machine id. -/
def Host.NoGhosts (host : Host) : Prop :=
  host.Quiescent → ∀ player ∈ host.players, player.kind = .guest →
    ∃ conn ∈ host.conns, conn.live ∧
      host.registry.clientMachine.lookup conn.clientId = some player.machineId

/-- The pings a task still has in hand carry the machine id. -/
def ConnPhase.PingsAs (config : HostConfig) (name : String) : ConnPhase → Prop
  | .handling request | .writing request _ => request.key = "c:player_ping" →
      recordedMachineId config.fromSlice request.body = some name
  | .insertHeartbeat request => recordedMachineId config.fromSlice request.body = some name
  | .insertMachine machineId => machineId = name
  | _ => True

theorem ping_of_accepted {request : ProtocolRequest} {response : ProtocolResponse}
    (accepted : isAcceptedPing request response = true) : request.key = "c:player_ping" := by
  rw [isAcceptedPing, Bool.and_eq_true, beq_iff_eq] at accepted
  exact accepted.1

theorem ConnPhase.PingsAs.recording {config : HostConfig} {name machineId : String}
    {phase : ConnPhase} (pings : phase.PingsAs config name)
    (records : phase.recording config = some machineId) : machineId = name := by
  cases phase with
  | writing request response =>
      rw [ConnPhase.recording] at records
      split at records
      · next accepted =>
          exact Option.some.inj (records.symm.trans (pings (ping_of_accepted accepted)))
      · cases records
  | insertHeartbeat request => exact Option.some.inj (records.symm.trans pings)
  | insertMachine recorded => exact (Option.some.inj records).symm.trans pings
  | _ => cases records

namespace ConnMove

variable {config : HostConfig} {host : Host} {i : ConnId} {conn : Conn} {step : ConnStep}
  {effect : ConnEffect}

theorem pingsAs (move : ConnMove config host i conn step effect) {names : ConnId → String}
    (before : conn.phase.PingsAs config (names i))
    (guest : PingsAsGuest config names (.conn i step)) :
    effect.phase.PingsAs config (names i) := by
  cases move with
  | received phase request => exact guest
  | handle phase choice result => rw [phase] at before; exact before
  | answered phase accepted => rw [phase] at before; exact before (ping_of_accepted accepted)
  | stamped phase recorded =>
      rw [phase] at before
      exact Option.some.inj (recorded.symm.trans before)
  | _ => trivial

/-- A machine id named by a connection stays named, or is sent off as the connection
ends, or was about to be recorded when a write failed, or is replaced by another one. -/
theorem names_kept (move : ConnMove config host i conn step effect) {machineId : String}
    (names : host.Names config conn machineId) :
    (effect.phase ≠ .ended ∧ (effect.registry.clientMachine.lookup conn.clientId = some machineId ∨
        effect.phase.recording config = some machineId)) ∨
      effect.message = some machineId ∨
      (step = .writeFailed ∧ conn.phase.recording config = some machineId ∧
        effect.phase ≠ .ended ∧ effect.registry = host.registry) ∨
      ∃ other, other ≠ machineId ∧ conn.phase = .insertMachine other := by
  rcases names with found | records
  · cases move with
    | @insertMachine other phase =>
        by_cases same : other = machineId
        · subst same
          exact Or.inl ⟨by simp [Host.goto], Or.inl (AList.lookup_insert _)⟩
        · exact Or.inr (Or.inr (Or.inr ⟨other, same, phase⟩))
    | removeMachine phase => exact Or.inr (Or.inl (by rw [found]; rfl))
    | _ => exact Or.inl ⟨by simp [Host.goto], Or.inl found⟩
  · cases move with
    | answered phase accepted =>
        rw [phase, ConnPhase.recording, if_pos accepted] at records
        exact Or.inl ⟨by simp [Host.goto], Or.inr records⟩
    | written phase other =>
        rw [phase, ConnPhase.recording, if_neg (by simp [other])] at records
        cases records
    | writeFailed phase => exact Or.inr (Or.inr (Or.inl ⟨rfl, records, by simp [Host.goto], rfl⟩))
    | stamped phase recorded =>
        rw [phase] at records
        exact Or.inl ⟨by simp [Host.goto], Or.inr (recorded.symm.trans records)⟩
    | stampedOnly phase unrecorded =>
        rw [phase] at records
        cases unrecorded.symm.trans records
    | insertMachine phase =>
        rw [phase] at records
        cases records
        exact Or.inl ⟨by simp [Host.goto], Or.inl (AList.lookup_insert _)⟩
    | _ => simp_all [ConnPhase.recording]

end ConnMove

/-- A disconnect message with the machine id is under way, or an unfinished connection
names it. -/
def Host.AccountsFor (config : HostConfig) (host : Host) (machineId : String) : Prop :=
  machineId ∈ host.queue ∨ ∃ (i : ConnId) (conn : Conn), host.conns[i]? = some conn ∧
    conn.live ∧ host.Names config conn machineId

/-- The invariant behind the absence of ghosts. -/
structure Host.Accounted (config : HostConfig) (names : ConnId → String) (host : Host) :
    Prop where
  distinct : host.DistinctAddresses
  owned : host.MachinesOwned
  own : ∀ (i : ConnId) (conn : Conn) machineId, host.conns[i]? = some conn → conn.live →
    host.registry.clientMachine.lookup conn.clientId = some machineId → machineId = names i
  pings : ∀ (i : ConnId) (conn : Conn), host.conns[i]? = some conn →
    conn.phase.PingsAs config (names i)
  noRepeats : NoGuestRepeats host.players
  guests : ∀ player ∈ host.players, player.kind = .guest →
    player.machineId ≠ "" ∧ host.AccountsFor config player.machineId

section Accounted

variable {config : HostConfig} {names : ConnId → String} {host next : Host} {action : Action}

theorem Host.Accounted.own_step (accounted : host.Accounted config names)
    (fresh : FreshAddress host action) (move : HostMove config host action next) (j : ConnId)
    (after : Conn) (machineId : String) (listed : next.conns[j]? = some after)
    (live : after.live)
    (found : next.registry.clientMachine.lookup after.clientId = some machineId) :
    machineId = names j := by
  cases move with
  | accept accepting clientId clientIp =>
      rcases getElem?_concat listed with old | ⟨_, rfl⟩
      · exact accounted.own j after machineId old live found
      · rcases accounted.owned clientId machineId found with ⟨i, conn, present, address, alive⟩
        exact absurd address (fresh conn (List.mem_of_getElem? present) alive)
  | @conn i conn step effect present move =>
      rw [getElem?_afterConn _ present] at listed
      split at listed
      · next same =>
          subst same
          cases listed
          rcases (move.machine found).2 with earlier | records
          · exact accounted.own j conn machineId present move.live earlier
          · exact (accounted.pings j conn present).recording records
      · next other =>
          have different : after.clientId ≠ conn.clientId := fun same =>
            other (accounted.distinct j i after conn listed present live move.live same)
          exact accounted.own j after machineId listed live
            ((move.frame different).2.2.symm.trans found)
  | loop move =>
      cases move with
      | cancelExpired phase =>
          rcases Server.cancelActive_successor listed with ⟨conn, present, successor, _⟩
          rw [successor.clientId] at found
          exact accounted.own j conn machineId present (successor.live live) found
      | _ => exact accounted.own j after machineId listed live found
  | kickCancel kicked =>
      rcases Server.cancelActive_successor listed with ⟨conn, present, successor, _⟩
      rw [successor.clientId] at found
      exact accounted.own j conn machineId present (successor.live live) found
  | _ => exact accounted.own j after machineId listed live found

theorem Host.Accounted.pings_step (accounted : host.Accounted config names)
    (guest : PingsAsGuest config names action) (move : HostMove config host action next)
    (j : ConnId) (after : Conn) (listed : next.conns[j]? = some after) :
    after.phase.PingsAs config (names j) := by
  rcases move.conn_cases listed with ⟨_, _, _, _, rfl⟩ | ⟨before, present, _, same | ⟨step, rfl⟩⟩
  · trivial
  · rw [same]
    exact accounted.pings j before present
  · cases move with
    | conn earlier move =>
        rw [getElem?_afterConn_self _ earlier] at listed
        cases listed
        exact move.pingsAs (accounted.pings j _ earlier) guest

theorem noRepeats_step (standard : config.pingHook = false) (before : NoGuestRepeats host.players)
    (move : HostMove config host action next) : NoGuestRepeats next.players := by
  cases move with
  | conn present move =>
      change NoGuestRepeats (ConnEffect.players _)
      rcases move.players with same | ⟨request, choice, _, _, players, _⟩
      · rw [same]
        exact before
      · rw [players]
        rcases hostDispatch_standard standard choice request host.players with
          ⟨same, _⟩ | ⟨info, _, _, result⟩
        · rw [same]
          exact before
        · rw [result]
          exact noGuestRepeats_onPlayerPingImpl _ info before
  | consume attempts queued => exact noGuestRepeats_onClientDisconnectedImpl attempts _ before
  | removePlayer attempts machineId =>
      exact noGuestRepeats_onClientDisconnectedImpl attempts (some machineId) before
  | handlePlayerPing attempts info => exact noGuestRepeats_onPlayerPingImpl attempts info before
  | enlistHost nodeId =>
      apply before.concat
      intro guest
      cases guest
  | _ => exact before

/-- Every step but the consumption of a message keeps track of a machine id. -/
theorem Host.Accounted.accountsFor_step (accounted : host.Accounted config names)
    (leaves : LeavesNoGhost config host action) (move : HostMove config host action next)
    (noConsume : ∀ attempts, action ≠ .consume attempts) {machineId : String}
    (accounts : host.AccountsFor config machineId) : next.AccountsFor config machineId := by
  by_cases isConn : ∃ i step, action = .conn i step
  · rcases isConn with ⟨i, step, rfl⟩
    cases move with
    | @conn i conn step effect present move =>
        rcases accounts with queued | ⟨j, other, listed, live, named⟩
        · exact Or.inl (List.mem_append_left _ queued)
        · by_cases same : j = i
          · subst same
            rw [present] at listed
            cases listed
            have here (unfinished : effect.phase ≠ .ended)
                (named : effect.registry.clientMachine.lookup conn.clientId = some machineId ∨
                  effect.phase.recording config = some machineId) :
                (host.afterConn j conn effect).AccountsFor config machineId :=
              Or.inr ⟨j, _, getElem?_afterConn_self _ present, unfinished, named⟩
            rcases move.names_kept named with ⟨unfinished, kept⟩ | sent | ⟨rfl, records, unfinished, same⟩ |
              ⟨replacing, different, phase⟩
            · exact here unfinished kept
            · exact Or.inl (List.mem_append_right _ (by rw [sent]; exact List.mem_singleton_self _))
            · refine here unfinished (Or.inl ?_)
              have known := leaves conn present (by rw [records]; simp)
              rcases Option.ne_none_iff_exists'.mp known with ⟨recorded, found⟩
              rw [same, found, accounted.own j conn recorded present live found,
                (accounted.pings j conn present).recording records]
            · refine absurd ?_ different
              have mine := accounted.pings j conn present
              rw [phase] at mine
              rcases named with found | records
              · exact mine.trans (accounted.own j conn machineId present live found).symm
              · rw [phase] at records
                exact Option.some.inj records
          · have different : other.clientId ≠ conn.clientId := fun address =>
              same (accounted.distinct j i other conn listed present live move.live address)
            refine Or.inr ⟨j, other, ?_, live, ?_⟩
            · rw [getElem?_afterConn _ present, if_neg same, listed]
            · exact named.imp_left (move.frame different).2.2.trans
  · have noConn : ∀ i step, action ≠ .conn i step := fun i step same => isConn ⟨i, step, same⟩
    have queue : next.queue = host.queue := by
      cases move with
      | conn => exact absurd rfl (noConn _ _)
      | consume attempts _ => exact absurd rfl (noConsume attempts)
      | _ => rfl
    rcases accounts with queued | ⟨j, conn, listed, live, named⟩
    · exact Or.inl (queue ▸ queued)
    · rcases move.conn_listed listed with ⟨after, found, successor, phase⟩
      have phase := phase.resolve_right fun ⟨step, same⟩ => noConn j step same
      refine Or.inr ⟨j, after, found, ?_, ?_⟩
      · rw [Conn.live, phase]
        exact live
      · rw [Server.Names, move.clientMachine_eq noConn, successor.clientId, phase]
        exact named

/-- A handled ping enlists its player, whose connection is about to record it. -/
theorem Host.Accounted.guests_handle (standard : config.pingHook = false)
    (named : ∀ i, names i ≠ "") (accounted : host.Accounted config names) {i : ConnId}
    {conn : Conn} {step : ConnStep} {effect : ConnEffect} (present : host.conns[i]? = some conn)
    (move : ConnMove config host i conn step effect) {player : PlayerInfo}
    (listed : player ∈ effect.players) (guest : player.kind = .guest) :
    player.machineId ≠ "" ∧ (host.AccountsFor config player.machineId ∨
      effect.phase.recording config = some player.machineId ∧ effect.phase ≠ .ended) := by
  have before {earlier : PlayerInfo} (listed : earlier ∈ host.players)
      (id : earlier.machineId = player.machineId) (kind : earlier.kind = player.kind) :
      player.machineId ≠ "" ∧ (host.AccountsFor config player.machineId ∨
        effect.phase.recording config = some player.machineId ∧ effect.phase ≠ .ended) := by
    rw [← id]
    exact (accounted.guests earlier listed (kind.trans guest)).imp_right Or.inl
  rcases move.players with same | ⟨request, choice, phase, rfl, players, writing⟩
  · exact before (same ▸ listed) rfl rfl
  · rw [players] at listed
    rcases hostDispatch_standard standard choice request host.players with
      ⟨same, _⟩ | ⟨info, parsed, ping, result⟩
    · exact before (same ▸ listed) rfl rfl
    · rw [result, onPlayerPingImpl, withPlayersWrite] at listed
      split at listed
      · rcases mem_pingUpdate listed with ⟨earlier, listed, id, kind⟩ | ⟨id, _⟩
        · exact before listed id kind
        · have mine := accounted.pings i conn present
          rw [phase] at mine
          have recorded := mine ping
          rcases parsePlayerInfo_of_recorded recorded with ⟨other, also, same⟩
          rw [parsed] at also
          cases also
          have isMine : player.machineId = names i := id.trans same
          refine ⟨isMine ▸ named i, Or.inr ?_⟩
          rw [writing, result, isMine]
          refine ⟨?_, by simp⟩
          rw [ConnPhase.recording, if_pos (by simp [isAcceptedPing, ping,
            ProtocolResponse.isSuccess])]
          exact recorded
      · exact before listed rfl rfl

theorem Host.Accounted.guests_step (standard : config.pingHook = false)
    (named : ∀ i, names i ≠ "") (accounted : host.Accounted config names)
    (guests : PingsAsGuest config names action) (leaves : LeavesNoGhost config host action)
    (move : HostMove config host action next) (player : PlayerInfo)
    (listed : player ∈ next.players) (guest : player.kind = .guest) :
    player.machineId ≠ "" ∧ next.AccountsFor config player.machineId := by
  have kept (noConsume : ∀ attempts, action ≠ .consume attempts)
      (before : player ∈ host.players) :
      player.machineId ≠ "" ∧ next.AccountsFor config player.machineId :=
    (accounted.guests player before guest).imp_right
      (accounted.accountsFor_step leaves move noConsume)
  have keepsAccount (noConsume : ∀ attempts, action ≠ .consume attempts)
      (before : host.AccountsFor config player.machineId) :
      next.AccountsFor config player.machineId :=
    accounted.accountsFor_step leaves move noConsume before
  cases move with
  | conn present move =>
      rcases accounted.guests_handle standard named present move listed guest with
        ⟨nonempty, earlier | ⟨records, unfinished⟩⟩
      · exact ⟨nonempty, keepsAccount (by simp) earlier⟩
      · exact ⟨nonempty, Or.inr ⟨_, _, getElem?_afterConn_self _ present, unfinished,
          Or.inr records⟩⟩
  | @consume attempts message later queued =>
      have before := (onClientDisconnectedImpl_sublist _ _ _).subset listed
      rcases accounted.guests player before guest with ⟨nonempty, inQueue | connected⟩
      · refine ⟨nonempty, Or.inl ?_⟩
        rw [queued] at inQueue
        apply (List.mem_cons.mp inQueue).resolve_left
        rintro rfl
        exact no_guest_of_consumed accounted.noRepeats nonempty
          (leaves _ (by rw [queued]; rfl) nonempty) listed guest rfl
      · exact ⟨nonempty, Or.inr connected⟩
  | removePlayer attempts machineId =>
      exact kept (by simp)
        ((onClientDisconnectedImpl_sublist attempts (some machineId) _).subset listed)
  | handlePlayerPing attempts info => exact absurd guests id
  | enlistHost nodeId =>
      rcases List.mem_append.mp listed with before | new
      · exact kept (by simp) before
      · rw [List.mem_singleton.mp new] at guest
        cases guest
  | _ => exact kept (by simp) listed

theorem Host.Accounted.step (standard : config.pingHook = false) (named : ∀ i, names i ≠ "")
    (accounted : host.Accounted config names) (guests : PingsAsGuest config names action)
    (leaves : LeavesNoGhost config host action) (move : HostMove config host action next) :
    next.Accounted config names where
  distinct := accounted.distinct.step move leaves.fresh
  owned := accounted.owned.step move
  own := accounted.own_step leaves.fresh move
  pings := accounted.pings_step guests move
  noRepeats := noRepeats_step standard accounted.noRepeats move
  guests := accounted.guests_step standard named guests leaves move

/-- The clock plays no part. -/
theorem Host.Accounted.atTime (accounted : host.Accounted config names) (time : Instant) :
    (host.atTime time).Accounted config names :=
  ⟨accounted.distinct, accounted.owned, accounted.own, accounted.pings, accounted.noRepeats,
    accounted.guests⟩

end Accounted

theorem accounted_new (config : HostConfig) (names : ConnId → String) (now : Instant) :
    (Host.new now).Accounted config names where
  distinct := distinctAddresses_new now
  owned := machinesOwned_new now
  own := by
    intro i conn machineId listed
    cases listed
  pings := by
    intro i conn listed
    cases listed
  noRepeats := NoGuestRepeats.nil
  guests player listed := absurd listed List.not_mem_nil

/-- The recorded names of a quiescent state are those in the map. -/
theorem Host.Quiescent.recorded {config : HostConfig} {host : Host} (quiet : host.Quiescent)
    {conn : Conn} (listed : conn ∈ host.conns) {machineId : String}
    (named : host.Names config conn machineId) :
    host.registry.clientMachine.lookup conn.clientId = some machineId := by
  apply named.resolve_right
  intro records
  have idle := quiet.2 conn listed
  generalize conn.phase = phase at records idle
  cases phase <;> simp_all [ConnPhase.inProgress, ConnPhase.recording]

/-- In a run whose connections ping as guests do and whose steps all leave no guest
behind, every guest on the list of a quiescent state is connected. -/
theorem no_ghost_players {config : HostConfig} (standard : config.pingHook = false)
    (names : ConnId → String) (named : ∀ i, names i ≠ "") {begin : Instant} {events : List Event}
    {host : Host} (guests : ∀ event ∈ events, PingsAsGuest config names event.action)
    (leaves : EveryStep (step config) (Host.new begin)
      (fun _ host event => LeavesNoGhost config host event.action) events)
    (reached : run (step config) (Host.new begin) events = some host) : host.NoGhosts := by
  have accounted : host.Accounted config names := by
    refine run_invariant (fun _ host => host.Accounted config names)
      (accounted_new config names begin) ?_ (leaves.and_labels guests) reached
    rintro past host event next _ accounted ⟨leaves, guests⟩ taken
    exact (accounted.atTime event.time).step standard named guests leaves (step_eq_some taken).2
  intro quiet player listed guest
  rcases (accounted.guests player listed guest).2 with queued | ⟨i, conn, present, live, named⟩
  · rw [quiet.1] at queued
    cases queued
  · have member := List.mem_of_getElem? present
    exact ⟨conn, member, live, quiet.recorded member named⟩

/-- A guest that joins, pings and leaves in good order. -/
def orderlyVisit : List Event :=
  sampleJoin 0 0 "10.144.144.5:54321" "10.144.144.5" ++ sampleRequest 0 0 "g1" ++
    sampleRecord 0 0 ++ sampleLeave 1 0 ++ [⟨1, .consume fun _ => true⟩]

/-- A guest whose connection breaks while its first ping is answered. -/
def brokenFirstPing : List Event :=
  sampleJoin 0 0 "10.144.144.5:54321" "10.144.144.5" ++ sampleRequest 0 0 "g1" ++
    [⟨0, .conn 0 .writeFailed⟩] ++ sampleCleanup 1 0 ++ [⟨1, .consume fun _ => true⟩]

theorem no_ghost_players_orderly :
    ∃ host, run (step sampleConfig) (Host.new 0) orderlyVisit = some host ∧ host.NoGhosts :=
  ⟨_, run_eq_getD (by decide +kernel),
    no_ghost_players rfl (fun _ => "g1") (by simp) (by decide +kernel)
      (by decide +kernel) (run_eq_getD (by decide +kernel))⟩

/-- The guest of the broken first ping stays on the list. -/
theorem ghost_after_broken_ping :
    ∃ host, run (step sampleConfig) (Host.new 0) brokenFirstPing = some host ∧
      FreshAddresses sampleConfig 0 brokenFirstPing ∧
      (∀ event ∈ brokenFirstPing, PingsAsGuest sampleConfig (fun _ => "g1") event.action) ∧
      ¬ host.NoGhosts := by
  refine ⟨_, run_eq_getD (by decide +kernel), ?_, by decide +kernel, ?_⟩
  · rw [FreshAddresses]
    decide +kernel
  · rw [Host.NoGhosts]
    decide +kernel

end Center
end QomicexConnector
