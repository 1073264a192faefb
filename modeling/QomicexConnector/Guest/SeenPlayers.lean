import QomicexConnector.Center.HostPlayers
import QomicexConnector.Center.PlayerRegisters
import QomicexConnector.Guest.PlayerWire

namespace QomicexConnector
namespace Guest

open Library
open Center
open Json
open QomicexConnector.Core

/-!
# What guests see of the players

Any guest may ask for the player list at any time, while others ping, leave and are removed.
What it is shown of a machine is settled by the events that name the machine, in the order of
the host's run: each event of the host rewrites registers of the list, `get_player_list` reads
all of them at one moment, and two answers differ by the events in between.
-/

/-! ## Events as changes of registers -/

/-- The updates of the list that one call of a handler performs. -/
def dispatchUpdates (config : HostConfig) (choice : HandlerChoice) (request : ProtocolRequest) :
    List PlayerUpdate :=
  if request.key = "c:player_ping" then
    match parsePlayerInfo config.fromSlice request.body with
    | .ok info => if config.pingHook then choice.updates else [.ping choice.attempts info]
    | .error _ => []
  else []

/-- The changes of registers among updates; without the lock there is none. -/
def performedChanges (updates : List PlayerUpdate) : List (KeyedChange String PlayerInfo) :=
  updates.filterMap fun update =>
    match update with
    | .ping attempts _ | .disconnected attempts _ =>
        if acquires lockRetryLimit attempts then update.keyed else none

/-- The host's own entry. -/
def enlistChange (config : CenterConfig) (nodeId : Option String) :
    KeyedChange String PlayerInfo where
  key := config.machineId
  change _ := some (hostEntry config nodeId)

/-- The registers that an event rewrites. -/
def playerChanges (config : HostConfig) (host : Host) (event : Event) :
    List (KeyedChange String PlayerInfo) :=
  match event.action with
  | .conn i (.handle choice) =>
      match host.conns[i]?.map Conn.phase with
      | some (.handling request) => performedChanges (dispatchUpdates config choice request)
      | _ => []
  | .consume attempts =>
      performedChanges (host.queue.head?.toList.map fun message =>
        .disconnected attempts (disconnectedMachine message))
  | .removePlayer attempts machineId =>
      performedChanges [.disconnected attempts (some machineId)]
  | .handlePlayerPing attempts info => performedChanges [.ping attempts info]
  | .enlistHost nodeId => [enlistChange config.toCenterConfig nodeId]
  | _ => []

/-- The host is enlisted while nobody has its machine id. -/
def EnlistsNew (config : HostConfig) (host : Host) : Action → Prop
  | .enlistHost _ => config.machineId ∉ machineIds host.players
  | _ => True

instance (config : HostConfig) (host : Host) (action : Action) :
    Decidable (EnlistsNew config host action) := by
  unfold EnlistsNew
  split <;> infer_instance

/-- A host in the register stays there, as a host. -/
def KeepsHost (op : KeyedChange String PlayerInfo) : Prop :=
  ∀ before : PlayerInfo, before.kind = .host →
    ∃ after, op.change (some before) = some after ∧ after.kind = .host

theorem mem_performedChanges {updates : List PlayerUpdate} {op : KeyedChange String PlayerInfo}
    (listed : op ∈ performedChanges updates) : ∃ update ∈ updates, update.keyed = some op := by
  rcases List.mem_filterMap.mp listed with ⟨update, member, performed⟩
  refine ⟨update, member, ?_⟩
  cases update <;> simp only [Option.ite_none_right_eq_some] at performed <;> exact performed.2

theorem keepsHost_of_keyed {update : PlayerUpdate} {op : KeyedChange String PlayerInfo}
    (keyed : update.keyed = some op) : KeepsHost op := by
  intro before kind
  match update, keyed with
  | .ping attempts info, rfl => exact ⟨_, rfl, kind⟩
  | .disconnected attempts (some removed), rfl => exact ⟨before, if_pos kind, kind⟩

/-- Whatever the event, its changes keep the machine id and the host. -/
theorem playerChanges_keep {config : HostConfig} {host : Host} {event : Event}
    {op : KeyedChange String PlayerInfo} (listed : op ∈ playerChanges config host event) :
    op.KeepsKey PlayerInfo.machineId ∧ KeepsHost op := by
  have updates {updates : List PlayerUpdate} (listed : op ∈ performedChanges updates) :
      op.KeepsKey PlayerInfo.machineId ∧ KeepsHost op := by
    rcases mem_performedChanges listed with ⟨update, _, keyed⟩
    exact ⟨PlayerUpdate.keepsKey keyed, keepsHost_of_keyed keyed⟩
  rw [playerChanges] at listed
  split at listed
  · split at listed
    · exact updates listed
    · cases listed
  · exact updates listed
  · exact updates listed
  · exact updates listed
  · rw [List.mem_singleton.mp listed]
    refine ⟨?_, fun _ _ => ⟨_, rfl, rfl⟩⟩
    intro before after _ result
    cases result
    rfl
  · cases listed

/-! ## The list after an event -/

theorem applyAll_eq_performed (updates : List PlayerUpdate) (players : List PlayerInfo) :
    applyAll updates players =
      alterAll PlayerInfo.machineId (performedChanges updates) players := by
  induction updates generalizing players with
  | nil => rfl
  | cons update later inductionHypothesis =>
      rw [applyAll, List.foldl_cons, ← applyAll, inductionHypothesis, performedChanges,
        performedChanges, List.filterMap_cons]
      by_cases acquired : update.Acquires
      · cases keyed : update.keyed with
        | none =>
            rw [PlayerUpdate.apply_of_not_keyed keyed]
            cases update <;> simp
        | some op =>
            rw [PlayerUpdate.apply_of_keyed acquired keyed]
            cases update <;> simp only [PlayerUpdate.Acquires] at acquired <;>
              simp only [acquired, ↓reduceIte] <;> rfl
      · have same : update.apply players = players := by
          cases update with
          | ping attempts info => exact onPlayerPingImpl_of_refused acquired info players
          | disconnected attempts machineId =>
              exact onClientDisconnectedImpl_of_refused acquired machineId players
        rw [same]
        cases update <;> simp only [PlayerUpdate.Acquires] at acquired <;>
          simp only [acquired, Bool.false_eq_true, ↓reduceIte]

theorem hostDispatch_applyAll (config : HostConfig) (choice : HandlerChoice)
    (request : ProtocolRequest) (players : List PlayerInfo) :
    (hostDispatch config choice request players).2 =
      applyAll (dispatchUpdates config choice request) players := by
  rw [dispatchUpdates]
  by_cases ping : request.key = "c:player_ping"
  · rw [hostDispatch_ping ping, playerPingProtocol, if_pos ping]
    dsimp only
    cases parsePlayerInfo config.fromSlice request.body with
    | error message => rfl
    | ok info =>
        cases hook : config.pingHook with
        | true =>
            cases verdict : choice.verdict <;> simp [hostHandlers, hook, verdict, applyAll]
        | false => simp [hostHandlers, hook, PlayerUpdate.apply, applyAll]
  · rw [hostDispatch_other ping, if_neg ping]
    rfl

/-- A new entry joins at the end. -/
theorem alter_enlistChange {config : CenterConfig} {players : List PlayerInfo}
    (new : config.machineId ∉ machineIds players) (nodeId : Option String) :
    (enlistChange config nodeId).alter PlayerInfo.machineId players =
      players ++ [hostEntry config nodeId] := by
  induction players with
  | nil => rfl
  | cons player later inductionHypothesis =>
      rw [machineIds_cons, List.mem_cons, not_or] at new
      have other : player.machineId ≠ (enlistChange config nodeId).key :=
        fun same => new.1 same.symm
      rw [KeyedChange.alter, if_neg other, inductionHypothesis new.2]
      rfl

/-- The list after an event is the list before it with the registers rewritten. -/
theorem players_step {config : HostConfig} {host next : Host} {event : Event}
    (taken : step config host event = some next) (enlists : EnlistsNew config host event.action) :
    next.players =
      alterAll PlayerInfo.machineId (playerChanges config host event) host.players := by
  rcases step_eq_some taken with ⟨_, move⟩
  rcases event with ⟨time, action⟩
  dsimp only at move enlists
  cases move with
  | @conn i conn step effect listed move =>
      change effect.players = _
      change host.conns[i]? = some conn at listed
      rw [playerChanges]
      rcases move.players with same | ⟨request, choice, phase, rfl, players, _⟩
      · have unchanged : effect.players = host.players := same
        cases move with
        | @handle request response players phase choice result =>
            simp only [listed, Option.map_some, phase]
            rw [← applyAll_eq_performed, ← hostDispatch_applyAll]
            exact congrArg Prod.snd result.symm
        | _ => exact unchanged
      · simp only [listed, Option.map_some, phase]
        rw [players, hostDispatch_applyAll, applyAll_eq_performed]
        rfl
  | @consume attempts message later queued =>
      change host.queue = message :: later at queued
      rw [playerChanges]
      simp only [queued, List.head?_cons, Option.toList_some, List.map_cons, List.map_nil]
      rw [← applyAll_eq_performed]
      rfl
  | removePlayer attempts machineId =>
      rw [playerChanges, ← applyAll_eq_performed]
      rfl
  | handlePlayerPing attempts info =>
      rw [playerChanges, ← applyAll_eq_performed]
      rfl
  | enlistHost nodeId => exact (alter_enlistChange enlists nodeId).symm
  | _ => rfl

/-- The list after a run. -/
theorem players_run {config : HostConfig} {host final : Host} {events : List Event}
    (went : run (step config) host events = some final)
    (enlists : EveryStep (step config) host
      (fun _ host event => EnlistsNew config host event.action) events) :
    final.players = alterAll PlayerInfo.machineId
      (emitted (step config) (playerChanges config) host events) host.players := by
  refine run_invariant (fun past state => state.players = alterAll PlayerInfo.machineId
    (emitted (step config) (playerChanges config) host past) host.players) rfl ?_ enlists went
  intro past state event next reached before enlists taken
  rw [players_step taken enlists, before, emitted_concat reached, alterAll, alterAll, alterAll,
    List.foldl_append]

theorem changes_keep {config : HostConfig} {host : Host} {events : List Event} :
    ∀ op ∈ emitted (step config) (playerChanges config) host events,
      op.KeepsKey PlayerInfo.machineId ∧ KeepsHost op := by
  intro op listed
  rcases mem_emitted.mp listed with ⟨_, _, _, _, _, _, shown⟩
  exact playerChanges_keep shown

/-! ## What an answer shows -/

/-- The list that a guest's `get_player_list` returns when the host answers in this state. -/
def Seen (config : HostConfig) (host : Host) (players : List PlayerInfo) : Prop :=
  ∃ choice request, acquires lockRetryLimit choice.attempts = true ∧
    request.key = "c:player_profiles_list" ∧
    getPlayerList config.fromSlice (hostDispatch config choice request host.players).1.body =
      .ok players

/-- The library prints the list of this state so that it can be read. -/
def Printable (config : HostConfig) (host : Host) : Prop :=
  PrintsBack config.toVec config.fromSlice (.array (host.players.map playerToEntry))

theorem hostDispatch_profiles {config : HostConfig} {choice : HandlerChoice}
    {request : ProtocolRequest} {players : List PlayerInfo}
    (key : request.key = "c:player_profiles_list") :
    hostDispatch config choice request players =
      (playerProfilesListProtocol config.toVec (hostHandlers config choice).getPlayers).handle
        request players := by
  have found : (protocolTable (assembleProtocols (hostHandlers config choice)
      (customHandlers config choice))).lookup request.key = some
        (playerProfilesListProtocol config.toVec (hostHandlers config choice).getPlayers) := by
    refine lookup_hostTable.mpr ⟨List.mem_append_left _ ?_, key.symm⟩
    simp [hostHandlers]
  rw [hostDispatch, dispatch, found]

/-- An answer shows the list as it is. -/
theorem seen_iff {config : HostConfig} {host : Host} (printable : Printable config host)
    {players : List PlayerInfo} : Seen config host players ↔ players = host.players := by
  have shown {choice : HandlerChoice} {request : ProtocolRequest}
      (acquired : acquires lockRetryLimit choice.attempts = true)
      (key : request.key = "c:player_profiles_list") :
      getPlayerList config.fromSlice (hostDispatch config choice request host.players).1.body =
        .ok host.players := by
    have read : (hostHandlers config choice).getPlayers host.players = host.players := by
      simp [hostHandlers, withPlayersRead, acquired]
    have printed : PrintsBack config.toVec config.fromSlice
        (.array (((hostHandlers config choice).getPlayers host.players).map playerToEntry)) := by
      rw [read]
      exact printable
    rw [hostDispatch_profiles key]
    refine (getPlayerList_playerProfilesList _ request host.players printed).trans ?_
    rw [read]
  constructor
  · rintro ⟨choice, request, acquired, key, answered⟩
    rw [shown acquired key] at answered
    cases answered
    rfl
  · rintro rfl
    exact ⟨⟨fun _ => true, true, [], ⟨0, []⟩⟩, ⟨"c", "player_profiles_list", []⟩, by decide, rfl,
      shown (by decide) rfl⟩

/-! ## Two answers of one run -/

theorem nodup_players {config : HostConfig} {begin : Instant} {events : List Event} {host : Host}
    (reached : run (step config) (Host.new begin) events = some host)
    (enlists : EveryStep (step config) (Host.new begin)
      (fun _ host event => EnlistsNew config host event.action) events) :
    (host.players.map PlayerInfo.machineId).Nodup := by
  rw [players_run reached enlists]
  exact nodup_alterAll (fun op listed => (changes_keep op listed).1) List.nodup_nil

/-- A host in a register outlives every sequence of changes. -/
theorem registerAfter_host {ops : List (KeyedChange String PlayerInfo)}
    (keeps : ∀ op ∈ ops, KeepsHost op) (machineId : String) {player : PlayerInfo}
    (kind : player.kind = .host) :
    ∃ after, registerAfter ops machineId (some player) = some after ∧ after.kind = .host := by
  induction ops generalizing player with
  | nil => exact ⟨player, rfl, kind⟩
  | cons op later inductionHypothesis =>
      have others : ∀ other ∈ later, KeepsHost other :=
        fun other listed => keeps other (List.mem_cons_of_mem _ listed)
      rw [registerAfter, List.filter_cons]
      split
      · rcases keeps op List.mem_cons_self player kind with ⟨changed, result, stays⟩
        rw [List.foldl_cons, result]
        exact inductionHypothesis others stays
      · exact inductionHypothesis others kind

/-- Whatever happens between two answers, each names a machine once, an entry differs by what
the events in between that name its machine make of it, and the host never disappears. -/
theorem seen_players {config : HostConfig} {begin : Instant} {events later : List Event}
    {host final : Host} (reached : run (step config) (Host.new begin) events = some host)
    (went : run (step config) host later = some final)
    (enlists : EveryStep (step config) (Host.new begin)
      (fun _ host event => EnlistsNew config host event.action) (events ++ later))
    (printable : Printable config host) (printableLater : Printable config final)
    {before after : List PlayerInfo} (seen : Seen config host before)
    (seenLater : Seen config final after) :
    (machineIds before).Nodup ∧ (machineIds after).Nodup ∧
      (∀ machineId, playerAt machineId after =
        registerAfter (emitted (step config) (playerChanges config) host later) machineId
          (playerAt machineId before)) ∧
      ∀ player ∈ before, player.kind = .host →
        ∃ same ∈ after, same.machineId = player.machineId ∧ same.kind = .host := by
  rw [seen_iff printable] at seen
  rw [seen_iff printableLater] at seenLater
  subst seen seenLater
  have distinct := nodup_players reached enlists.before
  have lists := players_run went (enlists.after reached)
  have keeps : ∀ op ∈ emitted (step config) (playerChanges config) host later,
      op.KeepsKey PlayerInfo.machineId ∧ KeepsHost op := changes_keep
  have registers (machineId : String) : playerAt machineId final.players =
      registerAfter (emitted (step config) (playerChanges config) host later) machineId
        (playerAt machineId host.players) := by
    rw [playerAt, lists]
    exact entryAt_alterAll (fun op listed => (keeps op listed).1) distinct machineId
  refine ⟨distinct, ?_, registers, ?_⟩
  · exact nodup_players (run_append_eq_some.mpr ⟨host, reached, went⟩) enlists
  · intro player listed kind
    have found := (mem_iff_entryAt distinct).mp listed
    have register := registers player.machineId
    rw [playerAt, playerAt, found] at register
    rcases registerAfter_host (fun op listed => (keeps op listed).2) player.machineId kind with
      ⟨same, stays, sameKind⟩
    rw [stays] at register
    have key := List.find?_some register
    exact ⟨same, List.mem_of_find?_eq_some register, of_decide_eq_true key, sameKind⟩

/-! ## A guest joins between two answers -/

def hostOnlyText : List UInt8 := utf8Bytes
  ("[\x7b\"name\":\"Host\",\"machine_id\":\"h1\",\"easytier_id\":null,\"vendor\":\"qml\"," ++
    "\"kind\":\"HOST\"\x7d]")

def seenToVec : Json → Except String (List UInt8)
  | .array [_] => .ok hostOnlyText
  | value => wireToVec value

def seenFromSlice (body : List UInt8) : Except String Json :=
  if body = hostOnlyText then .ok (.array [wireObject none (some "HOST") "h1" "Host"])
  else wireFromSlice body

/-- The sample host with a printer and a parser for the lists of one and of two. -/
def seenConfig : HostConfig :=
  { sampleConfig with toVec := seenToVec, fromSlice := seenFromSlice }

/-- The ping that `send_player_ping` makes of the sample guest. -/
def seenPing : ProtocolRequest := ⟨"c", "player_ping", utf8Bytes
  ("\x7b\"name\":\"Guest\",\"machine_id\":\"g1\",\"easytier_id\":\"\",\"vendor\":\"qml\"," ++
    "\"kind\":null\x7d")⟩

def seenStart : List Event := [⟨0, .enlistHost none⟩]

def seenJoin : List Event :=
  sampleJoin 1 0 "10.144.144.5:54321" "10.144.144.5" ++
    [⟨1, .conn 0 .pollServer⟩, ⟨1, .conn 0 .pollConn⟩, ⟨1, .conn 0 (.received seenPing)⟩,
      ⟨1, .conn 0 (.handle sampleChoice)⟩]

def seenHost : Host := (run (step seenConfig) (Host.new 0) seenStart).getD (Host.new 0)

def seenFinal : Host := (run (step seenConfig) seenHost seenJoin).getD seenHost

theorem printable_seenHost : Printable seenConfig seenHost := by
  have players : seenHost.players = wirePlayers.take 1 := by decide +kernel
  rw [Printable, players]
  refine ⟨hostOnlyText, .array [wireObject none (some "HOST") "h1" "Host"], rfl, ?_,
    .array (.cons ?_ .nil)⟩
  · change seenFromSlice hostOnlyText = _
    rw [seenFromSlice, if_pos rfl]
  · apply wireObject_reordered none (some "HOST") "h1" "Host" wireKeys_struct

theorem printable_seenFinal : Printable seenConfig seenFinal := by
  have players : seenFinal.players = wirePlayers := by decide +kernel
  rw [Printable, players]
  rcases printsBack_wirePlayers with ⟨body, parsed, printed, read, same⟩
  have other : body ≠ hostOnlyText := by
    rintro rfl
    rw [wirePlayers, wireToVec] at printed
    exact absurd printed (by decide +kernel)
  exact ⟨body, parsed, printed, (if_neg other).trans read, same⟩

/-- The host alone first, then with a guest whose entry is that of its ping. -/
theorem seen_players_joined :
    Seen seenConfig seenHost (wirePlayers.take 1) ∧ Seen seenConfig seenFinal wirePlayers ∧
      (machineIds wirePlayers).Nodup ∧
      playerAt "g1" wirePlayers =
        registerAfter (emitted (step seenConfig) (playerChanges seenConfig) seenHost seenJoin)
          "g1" none := by
  have seen : Seen seenConfig seenHost (wirePlayers.take 1) :=
    (seen_iff printable_seenHost).mpr (by decide +kernel)
  have seenLater : Seen seenConfig seenFinal wirePlayers :=
    (seen_iff printable_seenFinal).mpr (by decide +kernel)
  rcases seen_players (run_eq_getD (by decide +kernel)) (run_eq_getD (by decide +kernel))
    (by decide +kernel) printable_seenHost printable_seenFinal seen seenLater with
    ⟨_, distinct, registers, _⟩
  exact ⟨seen, seenLater, distinct, registers "g1"⟩

end Guest
end QomicexConnector
