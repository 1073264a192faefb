import QomicexConnector.Center.ConnLifeCycle
import QomicexConnector.Guest.SeenPlayers

namespace QomicexConnector
namespace Guest

open Library
open Center
open Json

/-!
# A visit as the others see it

A guest's profile is printed by the guest, in `send_player_ping` or in the heartbeat, read by the
host, kept in a list that many tasks write, printed again and read by whoever asks.  Where no one
else uses the guest's machine id, the list shows the guest from the first ping that is handled
until the host has consumed the message of its connection, whatever happens to the others.
-/

/-! ## Whose machine it is -/

/-- The body is one that the guest sends, in some state of its own. -/
def SentBy (config : HostConfig) (setup : GuestConfig) (body : List UInt8) : Prop :=
  ∃ guest : ScaffoldingGuest,
    (PrintsBack config.toVec config.fromSlice (guest.playerProfile setup).toJson ∧
        pingBody config.toVec setup guest = .ok body) ∨
      (PrintsBack config.toVec config.fromSlice (guest.heartbeatJson setup) ∧
        heartbeatBody config.toVec setup guest = .ok body)

/-- What connection `j` may send as a ping while the guest is on connection `i`. -/
def PingFits (config : HostConfig) (setup : GuestConfig) (i j : ConnId) (body : List UInt8) :
    Prop :=
  if j = i then SentBy config setup body
  else recordedMachineId config.fromSlice body ≠ some setup.machineId

/-- Connection `i` sends the guest's pings, and no other one names its machine. -/
def PingsFrom (config : HostConfig) (setup : GuestConfig) (i : ConnId) : Action → Prop
  | .conn j (.received request) =>
      request.key = "c:player_ping" → PingFits config setup i j request.body
  | _ => True

/-- The lock is obtained for the pings of the connection and for its message, no one else adds
or removes the machine, and the host is enlisted only while its own machine is not listed. -/
def LeavesAlone (config : HostConfig) (machineId : String) (i : ConnId) (host : Host) :
    Action → Prop
  | .conn j (.handle choice) => j = i → ∀ conn ∈ host.conns[j]?, conn.phase.pinging config = true →
      acquires lockRetryLimit choice.attempts = true
  | .consume attempts => ∀ message ∈ host.queue.head?, message = machineId →
      acquires lockRetryLimit attempts = true
  | .removePlayer _ removed => removed ≠ machineId
  | .handlePlayerPing _ info => info.machineId ≠ machineId
  | .enlistHost _ => config.machineId ∉ machineIds host.players
  | _ => True

instance (config : HostConfig) (machineId : String) (i : ConnId) (host : Host) (action : Action) :
    Decidable (LeavesAlone config machineId i host action) :=
  match action with
  | .conn j step =>
      match step with
      | .handle choice => inferInstanceAs (Decidable (j = i → ∀ conn ∈ host.conns[j]?,
          conn.phase.pinging config = true → acquires lockRetryLimit choice.attempts = true))
      | .insertActive | .insertIp | .pollServer | .pollConn | .pending | .received _ | .readFailed
      | .answered | .written | .writeFailed | .insertHeartbeat | .insertMachine | .removeActive
      | .removeHeartbeat | .removeIp | .removeMachine => isTrue trivial
  | .consume attempts => inferInstanceAs (Decidable (∀ message ∈ host.queue.head?,
      message = machineId → acquires lockRetryLimit attempts = true))
  | .removePlayer _ removed => inferInstanceAs (Decidable (removed ≠ machineId))
  | .handlePlayerPing _ info => inferInstanceAs (Decidable (info.machineId ≠ machineId))
  | .enlistHost _ => inferInstanceAs (Decidable (config.machineId ∉ machineIds host.players))
  | .accept _ _ _ | .stopAccepting | .cancelServer | .loop _ | .kickFind _ _ | .kickCancel _ =>
      isTrue trivial

theorem LeavesAlone.enlistsNew {config : HostConfig} {machineId : String} {i : ConnId}
    {host : Host} {action : Action} (alone : LeavesAlone config machineId i host action) :
    EnlistsNew config host action := by
  cases action with
  | enlistHost nodeId => exact alone
  | _ => trivial

/-- What a handler finds is what the guest is. -/
theorem SentBy.parsed {config : HostConfig} {setup : GuestConfig} {body : List UInt8}
    (sent : SentBy config setup body) :
    ∃ guest : ScaffoldingGuest,
      parsePlayerInfo config.fromSlice body = .ok (guest.playerInfo setup) := by
  rcases sent with ⟨guest, ⟨inverse, printed⟩ | ⟨inverse, printed⟩⟩
  · rcases parsePlayerInfo_ping setup guest inverse with ⟨other, also, read⟩
    rw [printed] at also
    cases also
    exact ⟨guest, read⟩
  · rcases parsePlayerInfo_heartbeat setup guest inverse with ⟨other, also, read⟩
    rw [printed] at also
    cases also
    exact ⟨guest, read⟩

/-- A machine id that the handler enlists is recorded as well, unless it is empty. -/
theorem recorded_of_parsePlayerInfo {fromSlice : List UInt8 → Except String Json}
    {body : List UInt8} {info : PlayerInfo} (parsed : parsePlayerInfo fromSlice body = .ok info)
    (named : info.machineId ≠ "") : recordedMachineId fromSlice body = some info.machineId := by
  rw [parsePlayerInfo] at parsed
  rw [recordedMachineId]
  cases read : fromSlice body with
  | error message =>
      rw [read] at parsed
      cases parsed
  | ok root =>
      rw [read] at parsed
      cases parsed
      dsimp only at named ⊢
      cases found : root.get "machine_id" with
      | none => simp [found] at named
      | some value => rfl

/-! ## Who records the machine -/

/-- The pings a task has in hand are those its connection may send. -/
def PhaseFits (config : HostConfig) (setup : GuestConfig) (i j : ConnId) : ConnPhase → Prop
  | .handling request | .writing request _ =>
      request.key = "c:player_ping" → PingFits config setup i j request.body
  | .insertHeartbeat request => PingFits config setup i j request.body
  | .insertMachine machineId => machineId = setup.machineId ↔ j = i
  | _ => True

section Visit

variable {config : HostConfig} {setup : GuestConfig} {i : ConnId}

/-- The machine is recorded by its own connection alone. -/
theorem PingFits.recorded (named : setup.machineId ≠ "") {j : ConnId} {body : List UInt8}
    (fits : PingFits config setup i j body) {machineId : String}
    (recorded : recordedMachineId config.fromSlice body = some machineId) :
    machineId = setup.machineId ↔ j = i := by
  rw [PingFits] at fits
  split at fits
  · next same =>
      rcases fits.parsed with ⟨guest, parsed⟩
      have own := recorded_of_parsePlayerInfo parsed named
      rw [recorded] at own
      exact iff_of_true (Option.some.inj own) same
  · next other =>
      refine iff_of_false ?_ other
      rintro rfl
      exact fits recorded

theorem phaseFits_connMove (named : setup.machineId ≠ "") {host : Host} {j : ConnId} {conn : Conn}
    {step : ConnStep} {effect : ConnEffect} (move : ConnMove config host j conn step effect)
    (before : PhaseFits config setup i j conn.phase)
    (pings : PingsFrom config setup i (.conn j step)) :
    PhaseFits config setup i j effect.phase := by
  cases move with
  | received phase request => exact pings
  | handle phase choice result => rw [phase] at before; exact before
  | answered phase accepted => rw [phase] at before; exact before (ping_of_accepted accepted)
  | stamped phase recorded => rw [phase] at before; exact before.recorded named recorded
  | _ => trivial

theorem phaseFits_of_run (named : setup.machineId ≠ "") {begin : Instant} {events : List Event}
    {host : Host} (pings : ∀ event ∈ events, PingsFrom config setup i event.action)
    (reached : run (step config) (Host.new begin) events = some host) {j : ConnId} {conn : Conn}
    (listed : host.conns[j]? = some conn) : PhaseFits config setup i j conn.phase := by
  have every : EveryStep (step config) (Host.new begin) (fun _ _ _ => True) events :=
    fun _ _ _ _ _ _ => trivial
  refine run_invariant (fun _ host => ∀ j conn, host.conns[j]? = some conn →
    PhaseFits config setup i j conn.phase) ?_ ?_ (every.and_labels pings) reached j conn listed
  · intro j conn listed
    cases listed
  · intro past host event next _ before ⟨_, pings⟩ taken j after present
    have move := (step_eq_some taken).2
    rcases move.conn_cases present with ⟨_, _, _, _, rfl⟩ | ⟨earlier, old, _, same | ⟨step, own⟩⟩
    · trivial
    · rw [same]
      exact before j earlier old
    · rw [own] at move pings
      cases move with
      | conn there move =>
          rw [getElem?_afterConn_self _ there] at present
          cases present
          exact phaseFits_connMove named move (before j _ there) pings

theorem mem_ofConn {j : ConnId} {machineId : String} {account : List (ConnId × String)} :
    machineId ∈ ofConn j account ↔ (j, machineId) ∈ account := by
  simp [ofConn]

theorem recorded_iff (named : setup.machineId ≠ "") {begin : Instant} {events : List Event}
    (pings : ∀ event ∈ events, PingsFrom config setup i event.action) {j : ConnId}
    {machineId : String}
    (recorded : machineId ∈ ofConn j (emitted (step config) recordedIds (Host.new begin) events)) :
    machineId = setup.machineId ↔ j = i := by
  rcases mem_emitted.mp (mem_ofConn.mp recorded) with
    ⟨past, ⟨time, action⟩, later, state, split, arrived, shown⟩
  have earlier : ∀ event ∈ past, PingsFrom config setup i event.action := by
    intro event listed
    exact pings event (split ▸ List.mem_append_left _ listed)
  cases action with
  | conn k connStep =>
      rcases List.mem_map.mp shown with ⟨recordedId, listed, same⟩
      cases same
      cases found : state.conns[j]? with
      | none =>
          rw [found] at listed
          cases listed
      | some conn =>
          have fits := phaseFits_of_run named earlier arrived found
          rw [found, Option.map_some, Option.getD_some] at listed
          cases phase : conn.phase with
          | insertMachine storedId =>
              rw [phase] at fits listed
              cases connStep with
              | insertMachine =>
                  rw [List.mem_singleton.mp listed]
                  exact fits
              | _ => cases listed
          | _ =>
              rw [phase] at listed
              cases listed
  | _ => cases shown

/-! ## The end of the visit -/

section Ended

variable {begin : Instant} {events : List Event} {host : Host}

/-- A message with the machine id comes from its connection, which has ended. -/
theorem ended_of_consumed (named : setup.machineId ≠ "") (distinct : (acceptedIds events).Nodup)
    (pings : ∀ event ∈ events, PingsFrom config setup i event.action)
    (reached : run (step config) (Host.new begin) events = some host)
    (consumed : setup.machineId ∈ emitted (step config) consumedMessages (Host.new begin) events) :
    ∃ conn, host.conns[i]? = some conn ∧ conn.phase = .ended := by
  rcases conn_life_cycle distinct reached with ⟨lives, unheard, channel⟩
  have sent : setup.machineId ∈
      (emitted (step config) (sentMessages config) (Host.new begin) events).map Prod.snd := by
    rw [← channel]
    exact List.mem_append_left _ consumed
  rcases List.mem_map.mp sent with ⟨⟨j, message⟩, told, rfl⟩
  have message := mem_ofConn.mpr told
  cases found : host.conns[j]? with
  | none =>
      rw [unheard j (List.getElem?_eq_none_iff.mp found)] at message
      cases message
  | some conn =>
      have ⟨whenEnded, whenLive⟩ := lives j conn found
      by_cases ended : conn.phase = .ended
      · rw [(whenEnded ended).1, List.mem_singleton] at message
        cases last : (ofConn j (emitted (step config) recordedIds (Host.new begin)
            events)).getLast? with
        | none =>
            rw [last] at message
            exact absurd message named
        | some recorded =>
            rw [last, Option.getD_some] at message
            have own := (recorded_iff named pings (List.mem_of_getLast? last)).mp message.symm
            exact ⟨conn, own ▸ found, ended⟩
      · rw [whenLive ended] at message
        cases message

/-- When the connection has ended and recorded the machine, the message is on its way. -/
theorem consumed_of_ended (named : setup.machineId ≠ "") (distinct : (acceptedIds events).Nodup)
    (pings : ∀ event ∈ events, PingsFrom config setup i event.action)
    (reached : run (step config) (Host.new begin) events = some host) {conn : Conn}
    (listed : host.conns[i]? = some conn) (ended : conn.phase = .ended)
    (recorded : ofConn i (emitted (step config) recordedIds (Host.new begin) events) ≠ [])
    (drained : host.queue = []) :
    setup.machineId ∈ emitted (step config) consumedMessages (Host.new begin) events := by
  rcases conn_life_cycle distinct reached with ⟨lives, _, channel⟩
  have told := ((lives i conn listed).1 ended).1
  rw [drained, List.append_nil] at channel
  rw [channel]
  have own := (recorded_iff named pings (List.getLast_mem recorded)).mpr rfl
  rw [List.getLast?_eq_some_getLast recorded, Option.getD_some, own] at told
  have sent := mem_ofConn.mp (told ▸ List.mem_singleton_self setup.machineId)
  exact List.mem_map_of_mem sent

end Ended

/-! ## The register of the machine -/

/-- The players that the handled pings of connection `i` describe. -/
def handledPings (config : HostConfig) (i : ConnId) (host : Host) (event : Event) :
    List PlayerInfo :=
  match event.action with
  | .conn j (.handle _) =>
      match host.conns[j]?.map Conn.phase with
      | some (.handling request) =>
          if j = i ∧ request.key = "c:player_ping" then
            (parsePlayerInfo config.fromSlice request.body).toOption.toList
          else []
      | _ => []
  | _ => []

/-- The entry of the guest after the pings: the EasyTier id is the last one that was sent. -/
def shownAs (setup : GuestConfig) (pings : List PlayerInfo) : Option PlayerInfo :=
  if pings = [] then none
  else some {
    name := setup.playerName
    machineId := setup.machineId
    easytierId := (pings.filterMap PlayerInfo.easytierId).getLast?
    vendor := setup.vendor
    kind := .guest }

/-- A ping in the register. -/
def pinged (register : Option PlayerInfo) (info : PlayerInfo) : Option PlayerInfo :=
  (PlayerUpdate.ping (fun _ => true) info).onRegister register

theorem shownAs_ping (pings : List PlayerInfo) (guest : ScaffoldingGuest) :
    pinged (shownAs setup pings) (guest.playerInfo setup) =
      shownAs setup (pings ++ [guest.playerInfo setup]) := by
  have more : pings ++ [guest.playerInfo setup] ≠ [] := List.concat_ne_nil _ _
  rw [shownAs, shownAs, if_neg more, List.filterMap_append, List.getLast?_append]
  split
  · next noPings =>
      subst noPings
      rw [pinged, PlayerUpdate.onRegister, List.filterMap_cons]
      cases sent : (guest.playerInfo setup).easytierId <;> simp [ScaffoldingGuest.playerInfo]
  · rw [pinged, PlayerUpdate.onRegister, List.filterMap_cons]
    cases sent : (guest.playerInfo setup).easytierId <;> simp [ScaffoldingGuest.playerInfo]

/-- Pings of the guest, one after another. -/
theorem shownAs_pings {later : List PlayerInfo}
    (own : ∀ info ∈ later, ∃ guest : ScaffoldingGuest, info = guest.playerInfo setup)
    (pings : List PlayerInfo) :
    later.foldl pinged (shownAs setup pings) = shownAs setup (pings ++ later) := by
  induction later generalizing pings with
  | nil => rw [List.foldl_nil, List.append_nil]
  | cons info later inductionHypothesis =>
      rcases own info List.mem_cons_self with ⟨guest, rfl⟩
      rw [List.foldl_cons, shownAs_ping, inductionHypothesis, List.append_assoc,
        List.singleton_append]
      exact fun other listed => own other (List.mem_cons_of_mem _ listed)

/-- A handled ping is in the hands of connection `i`. -/
theorem handling_of_mem_handledPings {host : Host} {event : Event} {info : PlayerInfo}
    (listed : info ∈ handledPings config i host event) :
    ∃ conn request, host.conns[i]? = some conn ∧ conn.phase = .handling request ∧
      request.key = "c:player_ping" ∧ parsePlayerInfo config.fromSlice request.body = .ok info := by
  rw [handledPings] at listed
  split at listed
  · next j choice action =>
      split at listed
      · next request phase =>
          split at listed
          · next own =>
              rcases Option.map_eq_some_iff.mp phase with ⟨conn, found, handling⟩
              rw [own.1] at found
              refine ⟨conn, request, found, handling, own.2, ?_⟩
              cases parsed : parsePlayerInfo config.fromSlice request.body with
              | error message =>
                  rw [parsed] at listed
                  cases listed
              | ok other =>
                  rw [parsed] at listed
                  rw [List.mem_singleton.mp listed]
          · cases listed
      · cases listed
  · cases listed

theorem handledPings_own {host : Host} {event : Event}
    (fits : ∀ j conn, host.conns[j]? = some conn → PhaseFits config setup i j conn.phase)
    {info : PlayerInfo} (listed : info ∈ handledPings config i host event) :
    ∃ guest : ScaffoldingGuest, info = guest.playerInfo setup := by
  rcases handling_of_mem_handledPings listed with ⟨conn, request, found, handling, key, parsed⟩
  have mine := fits i conn found
  rw [handling] at mine
  have sent := mine key
  rw [PingFits, if_pos rfl] at sent
  rcases sent.parsed with ⟨guest, same⟩
  exact ⟨guest, Except.ok.inj (parsed.symm.trans same)⟩

/-- Whoever pings is not at its end. -/
theorem live_of_handledPings {host : Host} {event : Event}
    (pings : handledPings config i host event ≠ []) {conn : Conn}
    (listed : host.conns[i]? = some conn) : conn.phase ≠ .ended := by
  intro ended
  rcases List.exists_mem_of_ne_nil _ pings with ⟨info, member⟩
  rcases handling_of_mem_handledPings member with ⟨other, request, found, handling, _⟩
  rw [listed] at found
  cases found
  rw [ended] at handling
  cases handling

theorem registerAfter_unnamed {updates : List PlayerUpdate} {machineId : String}
    (unnamed : ∀ update ∈ updates, update.names machineId = false) (register : Option PlayerInfo) :
    registerAfter (performedChanges updates) machineId register = register := by
  rw [registerAfter, List.filter_eq_nil_iff.mpr, List.foldl_nil]
  intro op listed
  rcases mem_performedChanges listed with ⟨update, member, keyed⟩
  rw [← (PlayerUpdate.names_of_keyed keyed machineId).1, unnamed update member]
  exact Bool.false_ne_true

theorem registerAfter_named {update : PlayerUpdate} {machineId : String}
    (acquired : update.Acquires) (names : update.names machineId = true)
    (register : Option PlayerInfo) :
    registerAfter (performedChanges [update]) machineId register = update.onRegister register := by
  have performed : performedChanges [update] = keyedChanges [update] := by
    apply List.filterMap_congr
    intro other listed
    rw [List.mem_singleton.mp listed]
    cases update <;> exact if_pos acquired
  rw [performed, registerAfter_keyedChanges, List.filter_cons, if_pos names]
  rfl

/-- A handled ping, of the guest or of another. -/
theorem registerAfter_ping (standard : config.pingHook = false) (named : setup.machineId ≠ "")
    {j : ConnId} {choice : HandlerChoice} {request : ProtocolRequest}
    (fits : request.key = "c:player_ping" → PingFits config setup i j request.body)
    (acquired : j = i → (ConnPhase.handling request).pinging config = true →
      acquires lockRetryLimit choice.attempts = true)
    (register : Option PlayerInfo) :
    registerAfter (performedChanges (dispatchUpdates config choice request)) setup.machineId
        register =
      (if j = i ∧ request.key = "c:player_ping" then
        (parsePlayerInfo config.fromSlice request.body).toOption.toList
      else []).foldl pinged register := by
  rw [dispatchUpdates]
  by_cases ping : request.key = "c:player_ping"
  · have fits := fits ping
    rw [if_pos ping]
    cases parsed : parsePlayerInfo config.fromSlice request.body with
    | error message =>
        rw [Except.toOption, Option.toList_none, ite_self]
        rfl
    | ok info =>
        simp only [standard, Bool.false_eq_true, ↓reduceIte]
        by_cases own : j = i
        · rw [PingFits, if_pos own] at fits
          rcases fits.parsed with ⟨guest, same⟩
          rw [parsed] at same
          cases same
          have lock : (PlayerUpdate.ping choice.attempts (guest.playerInfo setup)).Acquires :=
            acquired own (ConnPhase.pinging_handling ping parsed)
          have names : (PlayerUpdate.ping choice.attempts (guest.playerInfo setup)).names
              setup.machineId = true := beq_self_eq_true _
          rw [if_pos ⟨own, ping⟩, registerAfter_named lock names]
          cases register <;> rfl
        · rw [PingFits, if_neg own] at fits
          rw [if_neg fun both => own both.1, registerAfter_unnamed, List.foldl_nil]
          intro update listed
          rw [List.mem_singleton.mp listed]
          refine beq_false_of_ne fun same => fits ?_
          rw [← same]
          exact recorded_of_parsePlayerInfo parsed (same ▸ named)
  · rw [if_neg ping, if_neg fun both => ping both.2]
    rfl

/-- What an event makes of the register of the machine. -/
theorem registerAfter_playerChanges (standard : config.pingHook = false)
    (named : setup.machineId ≠ "") (other : config.machineId ≠ setup.machineId) {host : Host}
    {event : Event}
    (fits : ∀ j conn, host.conns[j]? = some conn → PhaseFits config setup i j conn.phase)
    (alone : LeavesAlone config setup.machineId i host event.action)
    (register : Option PlayerInfo) :
    registerAfter (playerChanges config host event) setup.machineId register =
      if setup.machineId ∈ consumedMessages host event then
        register.filter fun player => player.kind = .host
      else (handledPings config i host event).foldl pinged register := by
  rcases event with ⟨time, action⟩
  cases action with
  | conn j step =>
      cases step with
      | handle choice =>
          rw [playerChanges, handledPings, consumedMessages, if_neg List.not_mem_nil]
          dsimp only
          cases found : host.conns[j]? with
          | none => rfl
          | some conn =>
              have mine := fits j conn found
              rw [Option.map_some]
              cases phase : conn.phase with
              | handling request =>
                  rw [phase] at mine
                  refine registerAfter_ping standard named mine (fun own pinging => ?_) register
                  refine alone own conn found ?_
                  rwa [phase]
              | _ => rfl
      | _ => rfl
  | consume attempts =>
      rw [playerChanges, handledPings, consumedMessages]
      dsimp only
      cases head : host.queue.head? with
      | none => rfl
      | some message =>
          rw [Option.toList_some, List.map_cons, List.map_nil]
          by_cases own : message = setup.machineId
          · subst own
            have nonempty : disconnectedMachine setup.machineId = some setup.machineId :=
              if_neg (by rwa [String.isEmpty_iff])
            have lock : (PlayerUpdate.disconnected attempts (some setup.machineId)).Acquires :=
              alone _ head rfl
            rw [if_pos (List.mem_singleton_self _), nonempty,
              registerAfter_named lock (beq_self_eq_true _)]
            cases register with
            | none => rfl
            | some player => simp [PlayerUpdate.onRegister, Option.filter]
          · rw [if_neg fun listed => own (List.mem_singleton.mp listed).symm, registerAfter_unnamed]
            · rfl
            · intro update listed
              rw [List.mem_singleton.mp listed, disconnectedMachine]
              split
              · rfl
              · exact beq_false_of_ne own
  | removePlayer attempts removed =>
      rw [playerChanges, registerAfter_unnamed]
      · rfl
      · intro update listed
        rw [List.mem_singleton.mp listed]
        exact beq_false_of_ne alone
  | handlePlayerPing attempts info =>
      rw [playerChanges, registerAfter_unnamed]
      · rfl
      · intro update listed
        rw [List.mem_singleton.mp listed]
        exact beq_false_of_ne alone
  | enlistHost nodeId =>
      have unnamed : registerAfter [enlistChange config.toCenterConfig nodeId] setup.machineId
          register = register := by
        rw [registerAfter, List.filter_cons_of_neg (by simp [enlistChange, other])]
        rfl
      exact unnamed
  | _ => rfl

/-! ## What is shown -/

theorem shownAs_left (pings : List PlayerInfo) :
    (shownAs setup pings).filter (fun player => player.kind = .host) = none := by
  rw [shownAs]
  split
  · rfl
  · rfl

section Runs

variable {begin : Instant} {events : List Event} {host : Host}

/-- The register of the machine follows the pings of its connection up to the message. -/
theorem visit_register (standard : config.pingHook = false) (named : setup.machineId ≠ "")
    (other : config.machineId ≠ setup.machineId) (distinct : (acceptedIds events).Nodup)
    (pings : ∀ event ∈ events, PingsFrom config setup i event.action)
    (alone : EveryStep (step config) (Host.new begin)
      (fun _ host event => LeavesAlone config setup.machineId i host event.action) events)
    (reached : run (step config) (Host.new begin) events = some host) :
    playerAt setup.machineId host.players =
      if setup.machineId ∈ emitted (step config) consumedMessages (Host.new begin) events then none
      else shownAs setup (emitted (step config) (handledPings config i) (Host.new begin) events) := by
  -- the conditions on the whole run, as conditions on each of its beginnings
  have every : EveryStep (step config) (Host.new begin) (fun past host event =>
      LeavesAlone config setup.machineId i host event.action ∧ (acceptedIds past).Nodup ∧
      (∀ event ∈ past, PingsFrom config setup i event.action) ∧
      EveryStep (step config) (Host.new begin)
        (fun _ host event => EnlistsNew config host event.action) (past ++ [event])) events := by
    intro past event later state split arrived
    refine ⟨alone past event later state split arrived, ?_, ?_, ?_⟩
    · rw [split, acceptedIds_append] at distinct
      exact (List.nodup_append.mp distinct).1
    · intro earlier listed
      exact pings earlier (split ▸ List.mem_append_left _ listed)
    · intro before current after state inner reached
      refine (alone before current (after ++ later) state ?_ reached).enlistsNew
      rw [split, ← List.singleton_append, ← List.append_assoc, inner]
      simp
  refine run_invariant (fun past host => playerAt setup.machineId host.players =
    if setup.machineId ∈ emitted (step config) consumedMessages (Host.new begin) past then none
    else shownAs setup (emitted (step config) (handledPings config i) (Host.new begin) past))
    rfl ?_ every reached
  rintro past state event next arrived before ⟨alone, distinct, pings, enlists⟩ taken
  have fits : ∀ j conn, state.conns[j]? = some conn → PhaseFits config setup i j conn.phase :=
    fun j conn listed => phaseFits_of_run named pings arrived listed
  have nodup := nodup_players arrived enlists.before
  rw [players_step taken (enlists.last arrived), playerAt,
    entryAt_alterAll (fun op listed => (playerChanges_keep listed).1) nodup,
    registerAfter_playerChanges standard named other fits alone, ← playerAt, before,
    emitted_concat arrived, emitted_concat arrived]
  by_cases leaves : setup.machineId ∈ consumedMessages state event
  · rw [if_pos leaves, if_pos (List.mem_append_right _ leaves)]
    split
    · rfl
    · exact shownAs_left _
  · rw [if_neg leaves]
    by_cases gone : setup.machineId ∈
        emitted (step config) consumedMessages (Host.new begin) past
    · rw [if_pos gone, if_pos (List.mem_append_left _ gone)]
      -- the connection has ended and pings no more
      rcases ended_of_consumed named distinct pings arrived gone with ⟨conn, listed, ended⟩
      have silent : handledPings config i state event = [] := by
        by_contra pinging
        exact live_of_handledPings pinging listed ended
      rw [silent, List.foldl_nil]
    · rw [if_neg gone, if_neg fun listed => (List.mem_append.mp listed).elim gone leaves]
      exact shownAs_pings (fun info listed => handledPings_own fits listed) _

/-- Whoever asks for the players is shown the guest as it last described itself, from its first
handled ping until the message of its connection has been consumed, and not before or after.  The
message comes when the connection has ended, and it does come if the machine was recorded. -/
theorem visit_seen (standard : config.pingHook = false) (named : setup.machineId ≠ "")
    (other : config.machineId ≠ setup.machineId) (distinct : (acceptedIds events).Nodup)
    (pings : ∀ event ∈ events, PingsFrom config setup i event.action)
    (alone : EveryStep (step config) (Host.new begin)
      (fun _ host event => LeavesAlone config setup.machineId i host event.action) events)
    (reached : run (step config) (Host.new begin) events = some host)
    (printable : Printable config host) {players : List PlayerInfo}
    (seen : Seen config host players) :
    let consumed := emitted (step config) consumedMessages (Host.new begin) events
    let recorded := emitted (step config) recordedIds (Host.new begin) events
    (playerAt setup.machineId players = if setup.machineId ∈ consumed then none
      else shownAs setup
        (emitted (step config) (handledPings config i) (Host.new begin) events)) ∧
      (setup.machineId ∈ consumed → ∃ conn, host.conns[i]? = some conn ∧ conn.phase = .ended) ∧
      ∀ conn, host.conns[i]? = some conn → conn.phase = .ended → ofConn i recorded ≠ [] →
        host.queue = [] → setup.machineId ∈ consumed := by
  intro consumed recorded
  rw [seen_iff printable] at seen
  subst seen
  refine ⟨visit_register standard named other distinct pings alone reached, ?_, ?_⟩
  · exact ended_of_consumed named distinct pings reached
  · intro conn listed ended
    exact consumed_of_ended named distinct pings reached listed ended

end Runs

end Visit

/-- The guest joins the host, leaves again, and its message is consumed. -/
def seenVisit : List Event :=
  seenStart ++ seenJoin ++ sampleRecord 1 0 ++ sampleLeave 2 0 ++ [⟨2, .consume fun _ => true⟩]

def seenVisited : Host := (run (step seenConfig) (Host.new 0) seenVisit).getD (Host.new 0)

/-- The ping of the run is one that the guest prints. -/
theorem sentBy_seenPing : SentBy seenConfig wireSetup seenPing.body := by
  refine ⟨wireGuest, Or.inl ⟨?_, rfl⟩⟩
  rcases printsBack_wireProfile with ⟨body, parsed, printed, read, same⟩
  have another : body ≠ hostOnlyText := by
    rintro rfl
    exact absurd printed (by decide +kernel)
  exact ⟨body, parsed, printed, (if_neg another).trans read, same⟩

theorem pingsFrom_seenVisit :
    ∀ event ∈ seenVisit, PingsFrom seenConfig wireSetup 0 event.action := by
  simp [seenVisit, seenStart, seenJoin, Center.sampleJoin, sampleRecord, sampleLeave, sampleCleanup,
    PingsFrom, PingFits, sentBy_seenPing]

/-- The list of two while the guest is there, and the host alone when it has left. -/
theorem visit_seen_joined_left :
    playerAt "g1" wirePlayers = shownAs wireSetup [wireGuest.playerInfo wireSetup] ∧
      playerAt "g1" (wirePlayers.take 1) = none ∧
      ∃ conn, seenVisited.conns[0]? = some conn ∧ conn.phase = .ended := by
  have joined : run (step seenConfig) (Host.new 0) (seenStart ++ seenJoin) = some seenFinal :=
    run_append_eq_some.mpr
      ⟨seenHost, run_eq_getD (by decide +kernel), run_eq_getD (by decide +kernel)⟩
  have left : run (step seenConfig) (Host.new 0) seenVisit = some seenVisited :=
    run_eq_getD (by decide +kernel)
  have start : ∀ event ∈ seenStart ++ seenJoin, PingsFrom seenConfig wireSetup 0 event.action := by
    intro event listed
    apply pingsFrom_seenVisit
    rw [seenVisit, List.append_assoc, List.append_assoc]
    exact List.mem_append_left _ listed
  have printableLeft : Printable seenConfig seenVisited := by
    have players : seenVisited.players = seenHost.players := by decide +kernel
    rw [Printable, players]
    exact printable_seenHost
  have there := visit_seen rfl (by decide) (by decide) (by decide +kernel) start
    (by decide +kernel) joined printable_seenFinal
    ((seen_iff printable_seenFinal).mpr (by decide +kernel : wirePlayers = _))
  have after := visit_seen rfl (by decide) (by decide) (by decide +kernel) pingsFrom_seenVisit
    (by decide +kernel) left printableLeft
    ((seen_iff printableLeft).mpr (by decide +kernel : wirePlayers.take 1 = _))
  have notYet : "g1" ∉ emitted (step seenConfig) consumedMessages (Host.new 0)
      (seenStart ++ seenJoin) := by decide +kernel
  have consumed : "g1" ∈ emitted (step seenConfig) consumedMessages (Host.new 0) seenVisit := by
    decide +kernel
  have once : emitted (step seenConfig) (handledPings seenConfig 0) (Host.new 0)
      (seenStart ++ seenJoin) = [wireGuest.playerInfo wireSetup] := by decide +kernel
  refine ⟨?_, after.1.trans (if_pos consumed), after.2.1 consumed⟩
  rw [← once]
  exact there.1.trans (if_neg notYet)

end Guest
end QomicexConnector
