import QomicexConnector.Guest.PortForwards
import QomicexConnector.Library.LabelledRun
import QomicexConnector.Library.NumberedList

namespace QomicexConnector
namespace Guest

open Library Easytier
open QomicexConnector.Core

/-!
# Calls of `map_minecraft_port` that overlap

A call looks for a kept address, asks the host, adds a rule and keeps the address, and it
takes another lock for each of these.  Here a call goes from one lock to the next, and other
calls may go on in between.  A call that nothing comes between is the call of
`Guest.ScaffoldingGuest`.
-/

/-- Where a call stands. -/
inductive MapPhase where
  | called
  | checked (configReady : Bool)
  | inRoom
  | hostRead (host : Option String)
  | missed
  | answered (mcPort : UInt16)
  | located (center : CenterDiscoveryResult) (mcPort : UInt16)
  | forwarding (center : CenterDiscoveryResult) (mcPort : UInt16)
  | portFound (center : CenterDiscoveryResult) (mcPort localPort : UInt16)
  | noted (forward : String) (localPort : UInt16)
  | writing (host : String) (port : UInt16)
  | halfWritten (host : String) (port : UInt16)
  | returned (result : Except ScaffoldingError (String × UInt16))
  deriving DecidableEq

/-- Where a call stands after it has held a lock, the guest then, and the rules that it has
added to the running instance. -/
structure Advance where
  phase : MapPhase
  guest : ScaffoldingGuest
  added : List String

structure MappingGuest where
  guest : ScaffoldingGuest
  added : List String
  calls : List MapPhase

/-- `traffic` is what other requests do to the connection. -/
inductive MapStep where
  | call
  | advance (i : Nat) (outcome : MapOutcome)
  | traffic (client : TcpClient)

section Steps

variable {Inet Uri Addr : Type} (parsers : AddressParsers Inet Uri Addr)

def MapPhase.advance (guest : ScaffoldingGuest) (outcome : MapOutcome) :
    MapPhase → Option Advance
  | .called => some ⟨.checked guest.config.isSome, guest, []⟩
  | .checked configReady =>
      if configReady && guest.center.isSome then some ⟨.inRoom, guest, []⟩
      else some ⟨.returned (.error (.centerConnection "尚未加入房间")), guest, []⟩
  | .inRoom => some ⟨.hostRead guest.minecraftHost, guest, []⟩
  | .hostRead host =>
      match host, guest.minecraftPort with
      | some host, some port => some ⟨.returned (.ok (host, port)), guest, []⟩
      | _, _ => some ⟨.missed, guest, []⟩
  | .missed =>
      match guest.getServerPort outcome.serverPort with
      | (.error error, after) => some ⟨.returned (.error error), after, []⟩
      | (.ok mcPort, after) => some ⟨.answered mcPort, after, []⟩
  | .answered mcPort =>
      match guest.center with
      | some center => some ⟨.located center mcPort, guest, []⟩
      | none => some ⟨.returned (.error (.centerConnection "尚未加入房间")), guest, []⟩
  | .located center mcPort =>
      if guest.usePortForward then some ⟨.forwarding center mcPort, guest, []⟩
      else some ⟨.writing center.virtualIp mcPort, guest, []⟩
  | .forwarding center mcPort => some ⟨.portFound center mcPort outcome.localPort, guest, []⟩
  | .portFound center mcPort localPort =>
      let forward := ScaffoldingGuest.forwardRule localPort center.virtualIp mcPort
      some ⟨.noted forward localPort, guest.pushForward forward, []⟩
  | .noted forward localPort =>
      match guest.applyPortForwardPatch parsers forward outcome.patched with
      | .error error => some ⟨.returned (.error error), guest, []⟩
      | .ok _ => some ⟨.writing "127.0.0.1" localPort, guest, [forward]⟩
  | .writing host port =>
      some ⟨.halfWritten host port, { guest with minecraftHost := some host }, []⟩
  | .halfWritten host port =>
      some ⟨.returned (.ok (host, port)), { guest with minecraftPort := some port }, []⟩
  | .returned _ => none

def mapStep (state : MappingGuest) : MapStep → Option MappingGuest
  | .call => some { state with calls := state.calls ++ [.called] }
  | .advance i outcome =>
      match state.calls[i]? with
      | some phase =>
          (phase.advance parsers state.guest outcome).map fun next =>
            ⟨next.guest, state.added ++ next.added, state.calls.set i next.phase⟩
      | none => none
  | .traffic client => some { state with guest := { state.guest with tcp := client } }

end Steps

/-- The host has answered the call, which then goes on to map the port. -/
def MapPhase.inFlight : MapPhase → Bool
  | .answered _ | .located .. | .forwarding .. | .portFound .. | .noted .. | .writing ..
  | .halfWritten .. => true
  | _ => false

/-- No call is mapping the port. -/
def MappingGuest.Resting (state : MappingGuest) : Prop :=
  ∀ phase ∈ state.calls, phase.inFlight = false

/-- The host answers the call. -/
def MappingGuest.answers (state : MappingGuest) (i : Nat) (outcome : MapOutcome) : Bool :=
  match state.calls[i]?, (state.guest.getServerPort outcome.serverPort).1 with
  | some .missed, .ok _ => true
  | _, _ => false

/-- When the host answers a call, no address is kept and no other call is mapping the port. -/
def RaceFree (state : MappingGuest) : MapStep → Prop
  | .advance i outcome =>
      state.answers i outcome = true → state.guest.minecraftPort = none ∧ state.Resting
  | .call | .traffic _ => True

instance (state : MappingGuest) (label : MapStep) : Decidable (RaceFree state label) :=
  match label with
  | .advance i outcome => inferInstanceAs (Decidable (state.answers i outcome = true →
      state.guest.minecraftPort = none ∧ ∀ phase ∈ state.calls, phase.inFlight = false))
  | .call => isTrue trivial
  | .traffic _ => isTrue trivial

/-- The port has been mapped once at most, and all calls agree on it. -/
structure MappedOnce (state : MappingGuest) : Prop where
  same : ∀ (i j : Nat) first second, state.calls[i]? = some (.returned (.ok first)) →
    state.calls[j]? = some (.returned (.ok second)) → first = second
  kept : ∀ (i : Nat) host port, state.calls[i]? = some (.returned (.ok (host, port))) →
    state.guest.minecraftHost = some host ∧ state.guest.minecraftPort = some port
  oneRule : state.added.length ≤ 1

/-! ## One call alone -/

section Alone

variable {Inet Uri Addr : Type} {parsers : AddressParsers Inet Uri Addr}

/-- The only call, from where it stands, returns with the result and leaves the guest so. -/
def Ends (parsers : AddressParsers Inet Uri Addr) (outcome : MapOutcome)
    (guest : ScaffoldingGuest) (phase : MapPhase)
    (ending : Except ScaffoldingError (String × UInt16) × ScaffoldingGuest) : Prop :=
  ∀ added, ∃ steps all, run (mapStep parsers) ⟨guest, added, [phase]⟩
    (List.replicate steps (.advance 0 outcome)) = some ⟨ending.2, all, [.returned ending.1]⟩

variable {outcome : MapOutcome} {guest : ScaffoldingGuest}

theorem ends_returned (result : Except ScaffoldingError (String × UInt16)) :
    Ends parsers outcome guest (.returned result) (result, guest) :=
  fun added => ⟨0, added, rfl⟩

theorem ends_of_advance {phase : MapPhase} {next : Advance}
    {ending : Except ScaffoldingError (String × UInt16) × ScaffoldingGuest}
    (advances : phase.advance parsers guest outcome = some next)
    (rest : Ends parsers outcome next.guest next.phase ending) :
    Ends parsers outcome guest phase ending := by
  intro added
  rcases rest (added ++ next.added) with ⟨steps, all, reached⟩
  refine ⟨steps + 1, all, ?_⟩
  rw [List.replicate_succ, run_cons_eq_some]
  refine ⟨_, ?_, reached⟩
  rw [mapStep]
  dsimp only [List.getElem?_cons_zero]
  rw [advances]
  rfl

theorem ends_mapForwarded (guest : ScaffoldingGuest) (center : CenterDiscoveryResult)
    (mcPort : UInt16) : Ends parsers outcome guest (.forwarding center mcPort)
      (guest.mapForwarded parsers center mcPort outcome) := by
  let forward := ScaffoldingGuest.forwardRule outcome.localPort center.virtualIp mcPort
  let pushed := guest.pushForward forward
  have finds : MapPhase.advance parsers guest outcome (.forwarding center mcPort) =
      some ⟨.portFound center mcPort outcome.localPort, guest, []⟩ := rfl
  have notes : MapPhase.advance parsers guest outcome
      (.portFound center mcPort outcome.localPort) =
        some ⟨.noted forward outcome.localPort, pushed, []⟩ := rfl
  refine ends_of_advance finds (ends_of_advance notes ?_)
  unfold ScaffoldingGuest.mapForwarded
  dsimp only
  cases patched : pushed.applyPortForwardPatch parsers forward outcome.patched with
  | error error =>
      have advances : MapPhase.advance parsers pushed outcome (.noted forward outcome.localPort) =
          some ⟨.returned (.error error), pushed, []⟩ := by
        rw [MapPhase.advance, patched]
      exact ends_of_advance advances (ends_returned _)
  | ok _ =>
      have advances : MapPhase.advance parsers pushed outcome (.noted forward outcome.localPort) =
          some ⟨.writing "127.0.0.1" outcome.localPort, pushed, [forward]⟩ := by
        rw [MapPhase.advance, patched]
      refine ends_of_advance advances ?_
      exact ends_of_advance rfl (ends_of_advance rfl (ends_returned _))

variable (parsers outcome) in
theorem ends_mapAsking {center : CenterDiscoveryResult} (known : guest.center = some center) :
    Ends parsers outcome guest .missed (guest.mapAsking parsers center outcome) := by
  have untouched : (guest.getServerPort outcome.serverPort).2.center = guest.center := rfl
  rw [ScaffoldingGuest.mapAsking]
  cases asked : guest.getServerPort outcome.serverPort with
  | mk result after =>
      rw [asked] at untouched
      cases result with
      | error error =>
          have advances : MapPhase.advance parsers guest outcome .missed =
              some ⟨.returned (.error error), after, []⟩ := by
            rw [MapPhase.advance, asked]
          exact ends_of_advance advances (ends_returned _)
      | ok mcPort =>
          have answers : MapPhase.advance parsers guest outcome .missed =
              some ⟨.answered mcPort, after, []⟩ := by
            rw [MapPhase.advance, asked]
          have locates : MapPhase.advance parsers after outcome (.answered mcPort) =
              some ⟨.located center mcPort, after, []⟩ := by
            rw [MapPhase.advance, untouched.trans known]
          refine ends_of_advance answers (ends_of_advance locates ?_)
          dsimp only
          cases forwards : after.usePortForward with
          | true =>
              have advances : MapPhase.advance parsers after outcome (.located center mcPort) =
                  some ⟨.forwarding center mcPort, after, []⟩ := by
                rw [MapPhase.advance, forwards, if_pos rfl]
              rw [if_pos rfl]
              exact ends_of_advance advances (ends_mapForwarded after center mcPort)
          | false =>
              have advances : MapPhase.advance parsers after outcome (.located center mcPort) =
                  some ⟨.writing center.virtualIp mcPort, after, []⟩ := by
                rw [MapPhase.advance, forwards, if_neg Bool.false_ne_true]
              rw [if_neg Bool.false_ne_true]
              refine ends_of_advance advances ?_
              exact ends_of_advance rfl (ends_of_advance rfl (ends_returned _))

/-- A call that nothing comes between is a call of `map_minecraft_port`. -/
theorem ends_mapMinecraftPort (guest : ScaffoldingGuest) (outcome : MapOutcome) :
    Ends parsers outcome guest .called (guest.mapMinecraftPort parsers outcome) := by
  refine ends_of_advance rfl ?_
  rw [ScaffoldingGuest.mapMinecraftPort]
  dsimp only
  cases guest.config with
  | none =>
      refine ends_of_advance rfl ?_
      exact ends_returned _
  | some config =>
      cases known : guest.center with
      | none =>
          have advances : MapPhase.advance parsers guest outcome (.checked true) =
              some ⟨.returned (.error (.centerConnection "尚未加入房间")), guest, []⟩ := by
            rw [MapPhase.advance, known]
            rfl
          exact ends_of_advance advances (ends_returned _)
      | some center =>
          have advances : MapPhase.advance parsers guest outcome (.checked true) =
              some ⟨.inRoom, guest, []⟩ := by
            rw [MapPhase.advance, known]
            rfl
          refine ends_of_advance advances (ends_of_advance rfl ?_)
          have asking := ends_mapAsking parsers outcome known
          dsimp only
          cases guest.minecraftHost with
          | none =>
              refine ends_of_advance rfl ?_
              exact asking
          | some host =>
              cases port : guest.minecraftPort with
              | none =>
                  have misses : MapPhase.advance parsers guest outcome (.hostRead (some host)) =
                      some ⟨.missed, guest, []⟩ := by
                    unfold MapPhase.advance
                    dsimp only
                    rw [port]
                  exact ends_of_advance misses asking
              | some kept =>
                  have hits : MapPhase.advance parsers guest outcome (.hostRead (some host)) =
                      some ⟨.returned (.ok (host, kept)), guest, []⟩ := by
                    unfold MapPhase.advance
                    dsimp only
                    rw [port]
                  exact ends_of_advance hits (ends_returned _)

end Alone

/-! ## What a call knows -/

/-- What holds of the kept address and of the added rules while a call stands where it does
and no two calls map the port at a time. -/
def MapPhase.Fits (guest : ScaffoldingGuest) (added : List String) : MapPhase → Prop
  | .answered _ | .located .. | .forwarding .. | .portFound .. | .noted .. =>
      guest.minecraftHost = none ∧ guest.minecraftPort = none ∧ added = []
  | .writing .. => guest.minecraftHost = none ∧ guest.minecraftPort = none ∧ added.length ≤ 1
  | .halfWritten host _ =>
      guest.minecraftHost = some host ∧ guest.minecraftPort = none ∧ added.length ≤ 1
  | .hostRead (some host) => guest.minecraftHost = some host
  | .returned (.ok (host, port)) =>
      guest.minecraftHost = some host ∧ guest.minecraftPort = some port
  | _ => True

/-- The kept address is the same. -/
structure SameAddress (first second : ScaffoldingGuest) : Prop where
  host : first.minecraftHost = second.minecraftHost
  port : first.minecraftPort = second.minecraftPort

theorem SameAddress.refl (guest : ScaffoldingGuest) : SameAddress guest guest := ⟨rfl, rfl⟩

/-- What was kept of the address is still kept. -/
structure ExtendsAddress (before after : ScaffoldingGuest) : Prop where
  host : ∀ host, before.minecraftHost = some host → after.minecraftHost = some host
  port : ∀ port, before.minecraftPort = some port → after.minecraftPort = some port

theorem MapPhase.fits_congr {before after : ScaffoldingGuest} (same : SameAddress before after)
    (added : List String) (phase : MapPhase) : phase.Fits before added ↔ phase.Fits after added := by
  unfold MapPhase.Fits
  rw [same.host, same.port]

theorem MapPhase.fits_of_extends {before after : ScaffoldingGuest}
    (extended : ExtendsAddress before after) {added now : List String} {phase : MapPhase}
    (idle : phase.inFlight = false) (fits : phase.Fits before added) : phase.Fits after now := by
  cases phase with
  | hostRead host =>
      cases host with
      | none => trivial
      | some host => exact extended.host host fits
  | returned result =>
      cases result with
      | error error => trivial
      | ok address => exact ⟨extended.host _ fits.1, extended.port _ fits.2⟩
  | called => trivial
  | checked ready => trivial
  | inRoom => trivial
  | missed => trivial
  | answered mcPort => cases idle
  | located center mcPort => cases idle
  | forwarding center mcPort => cases idle
  | portFound center mcPort localPort => cases idle
  | noted forward localPort => cases idle
  | writing host port => cases idle
  | halfWritten host port => cases idle

section Moves

variable {Inet Uri Addr : Type} {parsers : AddressParsers Inet Uri Addr}

/-- The kinds of advance. -/
inductive MapMove (guest : ScaffoldingGuest) (outcome : MapOutcome) : MapPhase → Advance → Prop
  | looks {phase next : MapPhase} {after : ScaffoldingGuest} (idle : phase.inFlight = false)
      (stays : next.inFlight = false) (same : SameAddress guest after)
      (fits : ∀ added, phase.Fits guest added → next.Fits after added) :
      MapMove guest outcome phase ⟨next, after, []⟩
  | answers {mcPort : UInt16} {after : ScaffoldingGuest} (same : SameAddress guest after)
      (answered : (guest.getServerPort outcome.serverPort).1 = .ok mcPort) :
      MapMove guest outcome .missed ⟨.answered mcPort, after, []⟩
  | maps {phase next : MapPhase} {after : ScaffoldingGuest} {added : List String}
      (mapping : phase.inFlight = true) (goesOn : next.inFlight = true)
      (same : SameAddress guest after)
      (fits : ∀ earlier, phase.Fits guest earlier → next.Fits after (earlier ++ added)) :
      MapMove guest outcome phase ⟨next, after, added⟩
  | fails {phase : MapPhase} {after : ScaffoldingGuest} (error : ScaffoldingError)
      (mapping : phase.inFlight = true) (same : SameAddress guest after)
      (fits : ∀ earlier, phase.Fits guest earlier →
        guest.minecraftHost = none ∧ guest.minecraftPort = none ∧ earlier = []) :
      MapMove guest outcome phase ⟨.returned (.error error), after, []⟩
  | writesHost (host : String) (port : UInt16) :
      MapMove guest outcome (.writing host port)
        ⟨.halfWritten host port, { guest with minecraftHost := some host }, []⟩
  | writesPort (host : String) (port : UInt16) :
      MapMove guest outcome (.halfWritten host port)
        ⟨.returned (.ok (host, port)), { guest with minecraftPort := some port }, []⟩

theorem MapPhase.advance_eq_some {guest : ScaffoldingGuest} {outcome : MapOutcome} {phase : MapPhase}
    {next : Advance} (advances : phase.advance parsers guest outcome = some next) :
    MapMove guest outcome phase next := by
  have here := SameAddress.refl guest
  cases phase with
  | called =>
      cases advances
      exact .looks rfl rfl here fun _ _ => trivial
  | checked ready =>
      rw [MapPhase.advance] at advances
      split at advances
      · cases advances
        exact .looks rfl rfl here fun _ _ => trivial
      · cases advances
        exact .looks rfl rfl here fun _ _ => trivial
  | inRoom =>
      cases advances
      refine .looks rfl rfl here fun _ _ => ?_
      cases host : guest.minecraftHost with
      | none => trivial
      | some host => exact host
  | hostRead host =>
      unfold MapPhase.advance at advances
      dsimp only at advances
      split at advances
      · next port kept =>
          cases advances
          exact .looks rfl rfl here fun _ fits => ⟨fits, kept⟩
      · cases advances
        exact .looks rfl rfl here fun _ _ => trivial
  | missed =>
      rw [MapPhase.advance] at advances
      have same : SameAddress guest (guest.getServerPort outcome.serverPort).2 := ⟨rfl, rfl⟩
      split at advances
      · next error after asked =>
          cases advances
          rw [asked] at same
          exact .looks rfl rfl same fun _ _ => trivial
      · next mcPort after asked =>
          cases advances
          rw [asked] at same
          exact .answers same (congrArg Prod.fst asked)
  | answered mcPort =>
      rw [MapPhase.advance] at advances
      split at advances
      · cases advances
        refine .maps rfl rfl here fun earlier fits => ?_
        rw [List.append_nil]
        exact fits
      · cases advances
        exact .fails _ rfl here fun _ fits => fits
  | located center mcPort =>
      rw [MapPhase.advance] at advances
      split at advances
      · cases advances
        refine .maps rfl rfl here fun earlier fits => ?_
        rw [List.append_nil]
        exact fits
      · cases advances
        refine .maps rfl rfl here fun earlier fits => ?_
        rcases fits with ⟨host, port, rfl⟩
        exact ⟨host, port, Nat.zero_le 1⟩
  | forwarding center mcPort =>
      cases advances
      refine .maps rfl rfl here fun earlier fits => ?_
      rw [List.append_nil]
      exact fits
  | portFound center mcPort localPort =>
      cases advances
      refine .maps rfl rfl ⟨rfl, rfl⟩ fun earlier fits => ?_
      rw [List.append_nil]
      exact fits
  | noted forward localPort =>
      rw [MapPhase.advance] at advances
      split at advances
      · cases advances
        exact .fails _ rfl here fun _ fits => fits
      · cases advances
        refine .maps rfl rfl here fun earlier fits => ?_
        rcases fits with ⟨host, port, rfl⟩
        exact ⟨host, port, le_refl 1⟩
  | writing host port =>
      cases advances
      exact .writesHost host port
  | halfWritten host port =>
      cases advances
      exact .writesPort host port
  | returned result => cases advances

end Moves

/-! ## One mapping at a time -/

theorem MappingGuest.resting_iff {state : MappingGuest} : state.Resting ↔
    ∀ (i : Nat) phase, state.calls[i]? = some phase → phase.inFlight = false := by
  constructor
  · intro resting i phase listed
    exact resting phase (List.mem_of_getElem? listed)
  · intro idle phase listed
    rcases List.mem_iff_getElem?.mp listed with ⟨i, isListed⟩
    exact idle i phase isListed

structure Serial (state : MappingGuest) : Prop where
  fits : ∀ (i : Nat) phase, state.calls[i]? = some phase → phase.Fits state.guest state.added
  alone : ∀ (i j : Nat) first second, state.calls[i]? = some first →
    state.calls[j]? = some second → first.inFlight = true → second.inFlight = true → i = j
  rest : state.Resting →
    state.guest.minecraftHost.isSome = state.guest.minecraftPort.isSome ∧
      (state.guest.minecraftPort = none → state.added = []) ∧ state.added.length ≤ 1

theorem serial_new {guest : ScaffoldingGuest} (keeps : KeepsAddress guest) :
    Serial ⟨guest, [], []⟩ where
  fits i _ listed := by cases (List.getElem?_nil).symm.trans listed
  alone i _ _ _ listed := by cases (List.getElem?_nil).symm.trans listed
  rest _ := ⟨keeps.1, fun _ => rfl, Nat.zero_le 1⟩

namespace Serial

variable {state : MappingGuest}

/-- While one call maps the port, the others do not. -/
theorem others_idle (serial : Serial state) {i : Nat} {phase : MapPhase}
    (listed : state.calls[i]? = some phase) (mapping : phase.inFlight = true) {j : Nat}
    {other : MapPhase} (different : j ≠ i) (listedOther : state.calls[j]? = some other) :
    other.inFlight = false := by
  by_contra busy
  exact different (serial.alone j i other phase listedOther listed (eq_true_of_ne_false busy) mapping)

theorem oneRule (serial : Serial state) : state.added.length ≤ 1 := by
  by_cases resting : state.Resting
  · exact (serial.rest resting).2.2
  · rw [MappingGuest.resting_iff] at resting
    push Not at resting
    rcases resting with ⟨i, phase, listed, busy⟩
    have fits := serial.fits i phase listed
    have none (empty : state.added = []) : state.added.length ≤ 1 := by
      rw [empty]
      exact Nat.zero_le 1
    cases phase with
    | answered mcPort => exact none fits.2.2
    | located center mcPort => exact none fits.2.2
    | forwarding center mcPort => exact none fits.2.2
    | portFound center mcPort localPort => exact none fits.2.2
    | noted forward localPort => exact none fits.2.2
    | writing host port => exact fits.2.2
    | halfWritten host port => exact fits.2.2
    | _ => exact absurd rfl busy

theorem mappedOnce (serial : Serial state) : MappedOnce state where
  same i j first second listedFirst listedSecond := by
    have firstFits := serial.fits i _ listedFirst
    have secondFits := serial.fits j _ listedSecond
    have hosts := firstFits.1.symm.trans secondFits.1
    have ports := firstFits.2.symm.trans secondFits.2
    exact Prod.ext (Option.some.inj hosts) (Option.some.inj ports)
  kept i host port listed := serial.fits i _ listed
  oneRule := serial.oneRule

/-- The state when a call has advanced, by what is known of the call and of the others. -/
theorem of_advance (serial : Serial state) {i : Nat} {phase : MapPhase} {next : Advance}
    (listed : state.calls[i]? = some phase)
    (own : next.phase.Fits next.guest (state.added ++ next.added))
    (others : ∀ (j : Nat) other, j ≠ i → state.calls[j]? = some other →
      other.Fits next.guest (state.added ++ next.added))
    (single : next.phase.inFlight = true → ∀ (j : Nat) other, j ≠ i →
      state.calls[j]? = some other → other.inFlight = false)
    (rest : next.phase.inFlight = false → (∀ (j : Nat) other, j ≠ i →
      state.calls[j]? = some other → other.inFlight = false) →
      next.guest.minecraftHost.isSome = next.guest.minecraftPort.isSome ∧
        (next.guest.minecraftPort = none → state.added ++ next.added = []) ∧
          (state.added ++ next.added).length ≤ 1) :
    Serial ⟨next.guest, state.added ++ next.added, state.calls.set i next.phase⟩ where
  fits j other listedAfter := by
    rw [getElem?_set_listed listed] at listedAfter
    split at listedAfter
    · cases listedAfter
      exact own
    · next different => exact others j other different listedAfter
  alone first second one two listedOne listedTwo busyOne busyTwo := by
    rw [getElem?_set_listed listed] at listedOne listedTwo
    split at listedOne
    · next sameOne =>
        cases listedOne
        split at listedTwo
        · next sameTwo => exact sameOne.trans sameTwo.symm
        · next different =>
            have idle := single busyOne second two different listedTwo
            cases idle.symm.trans busyTwo
    · next differentOne =>
        split at listedTwo
        · cases listedTwo
          have idle := single busyTwo first one differentOne listedOne
          cases idle.symm.trans busyOne
        · exact serial.alone first second one two listedOne listedTwo busyOne busyTwo
  rest resting := by
    have idle := MappingGuest.resting_iff.mp resting
    refine rest (idle i next.phase ?_) fun j other different listedOther => ?_
    · rw [getElem?_set_listed listed, if_pos rfl]
    · refine idle j other ?_
      rw [getElem?_set_listed listed, if_neg different]
      exact listedOther

/-- A call advances while the address that is kept stays kept and no other call maps the
port. -/
theorem others_fit (serial : Serial state) {i : Nat} {phase : MapPhase}
    (listed : state.calls[i]? = some phase) (mapping : phase.inFlight = true)
    {after : ScaffoldingGuest} (extended : ExtendsAddress state.guest after) (now : List String)
    (j : Nat) (other : MapPhase) (different : j ≠ i) (listedOther : state.calls[j]? = some other) :
    other.Fits after now :=
  MapPhase.fits_of_extends extended (serial.others_idle listed mapping different listedOther)
    (serial.fits j other listedOther)

theorem advance (serial : Serial state) {i : Nat} {phase : MapPhase} {outcome : MapOutcome}
    {next : Advance} (listed : state.calls[i]? = some phase)
    (free : RaceFree state (.advance i outcome)) (move : MapMove state.guest outcome phase next) :
    Serial ⟨next.guest, state.added ++ next.added, state.calls.set i next.phase⟩ := by
  have before := serial.fits i phase listed
  cases move with
  | looks idle stays same fits =>
      apply serial.of_advance listed
      · exact fits _ (by rw [List.append_nil]; exact before)
      · intro j other _ listedOther
        rw [List.append_nil]
        exact (MapPhase.fits_congr same _ other).mp (serial.fits j other listedOther)
      · intro busy
        cases stays.symm.trans busy
      · intro _ others
        rw [List.append_nil, ← same.host, ← same.port]
        refine serial.rest (MappingGuest.resting_iff.mpr fun j other listedOther => ?_)
        by_cases here : j = i
        · subst here
          cases listed.symm.trans listedOther
          exact idle
        · exact others j other here listedOther
  | @answers mcPort after same answered =>
      have isAnswered : state.answers i outcome = true := by
        rw [MappingGuest.answers, listed, answered]
      have ⟨unkept, resting⟩ := free isAnswered
      have ⟨whole, unmapped, _⟩ := serial.rest resting
      apply serial.of_advance listed
      · rw [unkept] at whole
        have noHost := Option.isSome_eq_false_iff.mp whole
        refine ⟨same.host.symm.trans (Option.isNone_iff_eq_none.mp noHost),
          same.port.symm.trans unkept, ?_⟩
        rw [List.append_nil]
        exact unmapped unkept
      · intro j other _ listedOther
        rw [List.append_nil]
        exact (MapPhase.fits_congr same _ other).mp (serial.fits j other listedOther)
      · intro _ j other _ listedOther
        exact resting other (List.mem_of_getElem? listedOther)
      · intro idle
        cases idle
  | @maps phase _ after added mapping goesOn same fits =>
      have extended : ExtendsAddress state.guest after :=
        ⟨fun _ kept => same.host.symm.trans kept, fun _ kept => same.port.symm.trans kept⟩
      apply serial.of_advance listed
      · exact fits _ before
      · exact serial.others_fit listed mapping extended _
      · intro _ j other different listedOther
        exact serial.others_idle listed mapping different listedOther
      · intro idle
        cases goesOn.symm.trans idle
  | @fails phase after error mapping same fits =>
      have extended : ExtendsAddress state.guest after :=
        ⟨fun _ kept => same.host.symm.trans kept, fun _ kept => same.port.symm.trans kept⟩
      have ⟨noHost, noPort, unmapped⟩ := fits _ before
      apply serial.of_advance listed
      · trivial
      · exact serial.others_fit listed mapping extended _
      · intro busy
        cases busy
      · intro _ _
        rw [← same.host, ← same.port, noHost, noPort, unmapped]
        exact ⟨rfl, fun _ => rfl, Nat.zero_le 1⟩
  | writesHost host port =>
      have ⟨noHost, noPort, few⟩ := before
      have extended : ExtendsAddress state.guest
          { state.guest with minecraftHost := some host } := by
        refine ⟨fun earlier kept => ?_, fun _ kept => kept⟩
        cases noHost.symm.trans kept
      apply serial.of_advance listed
      · refine ⟨rfl, noPort, ?_⟩
        rw [List.append_nil]
        exact few
      · exact serial.others_fit listed rfl extended _
      · intro _ j other different listedOther
        exact serial.others_idle listed rfl different listedOther
      · intro idle
        cases idle
  | writesPort host port =>
      have ⟨isHost, noPort, few⟩ := before
      have extended : ExtendsAddress state.guest
          { state.guest with minecraftPort := some port } := by
        refine ⟨fun _ kept => kept, fun earlier kept => ?_⟩
        cases noPort.symm.trans kept
      apply serial.of_advance listed
      · exact ⟨isHost, rfl⟩
      · exact serial.others_fit listed rfl extended _
      · intro busy
        cases busy
      · intro _ _
        dsimp only
        rw [isHost, List.append_nil]
        refine ⟨rfl, ?_, few⟩
        rintro ⟨⟩

variable {Inet Uri Addr : Type} {parsers : AddressParsers Inet Uri Addr}

theorem step (serial : Serial state) {label : MapStep} {next : MappingGuest}
    (free : RaceFree state label) (taken : mapStep parsers state label = some next) :
    Serial next := by
  cases label with
  | call =>
      cases taken
      constructor
      · intro i phase listed
        rcases getElem?_concat listed with earlier | ⟨_, rfl⟩
        · exact serial.fits i phase earlier
        · trivial
      · intro i j first second listedFirst listedSecond busyFirst busySecond
        rcases getElem?_concat listedFirst with earlierFirst | ⟨_, rfl⟩
        · rcases getElem?_concat listedSecond with earlierSecond | ⟨_, rfl⟩
          · exact serial.alone i j first second earlierFirst earlierSecond busyFirst busySecond
          · cases busySecond
        · cases busyFirst
      · intro resting
        exact serial.rest fun phase listed => resting phase (List.mem_append_left _ listed)
  | advance i outcome =>
      rw [mapStep] at taken
      split at taken
      · next phase listed =>
          rcases Option.map_eq_some_iff.mp taken with ⟨advanced, advances, rfl⟩
          exact serial.advance listed free (MapPhase.advance_eq_some advances)
      · cases taken
  | traffic client =>
      cases taken
      have same : SameAddress state.guest { state.guest with tcp := client } := ⟨rfl, rfl⟩
      constructor
      · intro i phase listed
        exact (MapPhase.fits_congr same _ phase).mp (serial.fits i phase listed)
      · exact serial.alone
      · exact serial.rest

end Serial

section Mapping

variable {Inet Uri Addr : Type} (parsers : AddressParsers Inet Uri Addr) (setup : GuestConfig)

/-- A guest that has gone through these calls, when no call of `map_minecraft_port` is under
way. -/
def mappingStart (history : List GuestCall) : MappingGuest :=
  ⟨afterCalls (guestCall parsers setup) ScaffoldingGuest.new history, [], []⟩

variable {parsers setup}

/-- Calls of `map_minecraft_port` that overlap map the port once, as long as the host
answers each call that finds no kept address when none is kept still and no other call is
mapping. -/
theorem mappedOnce_of_raceFree {history : List GuestCall} {labels : List MapStep}
    {final : MappingGuest}
    (every : EveryStep (mapStep parsers) (mappingStart parsers setup history)
      (fun _ => RaceFree) labels)
    (reached : run (mapStep parsers) (mappingStart parsers setup history) labels = some final) :
    MappedOnce final := by
  have keeps : KeepsAddress (afterCalls (guestCall parsers setup) ScaffoldingGuest.new history) :=
    afterCalls_keeps keepsAddress_call ⟨rfl, fun kept => Bool.noConfusion kept⟩ history
  have serial : Serial final := by
    refine run_invariant (fun _ => Serial) (serial_new keeps) ?_ every reached
    intro _ state label next _ before free taken
    exact before.step free taken
  exact serial.mappedOnce

end Mapping

/-- A guest that is connected over a port forward. -/
def forwardedHistory : List GuestCall := [.connect ("first", "secret") 0 forwardedJoin]

/-- The call goes on this many times, and finds this local port. -/
def goesOn (i : Nat) (localPort : UInt16) (steps : Nat) : List MapStep :=
  List.replicate steps (.advance i ⟨sampleDelivery ⟨0, [99, 221]⟩, localPort, .ok ()⟩)

/-- A second call begins when the first has returned. -/
def consecutiveCalls : List MapStep := .call :: goesOn 0 4001 12 ++ .call :: goesOn 1 4002 4

theorem mappedOnce_consecutive : ∃ final, run (mapStep sampleParsers)
    (mappingStart sampleParsers sampleSetup forwardedHistory) consecutiveCalls = some final ∧
      MappedOnce final := by
  have possible : (run (mapStep sampleParsers)
      (mappingStart sampleParsers sampleSetup forwardedHistory) consecutiveCalls).isSome = true := by
    decide +kernel
  have free : EveryStep (mapStep sampleParsers)
      (mappingStart sampleParsers sampleSetup forwardedHistory) (fun _ => RaceFree)
      consecutiveCalls := by
    decide +kernel
  have reached := run_eq_getD possible
  exact ⟨_, reached, mappedOnce_of_raceFree free reached⟩

/-- Both calls look for a kept address before either has asked the host. -/
def overlappingCalls : List MapStep :=
  .call :: .call :: goesOn 0 4001 4 ++ goesOn 1 4002 4 ++ goesOn 0 4001 8 ++ goesOn 1 4002 8

/-- Each of the two calls adds a rule of its own, and they return different ports. -/
theorem overlapping_calls_map_twice : (run (mapStep sampleParsers)
    (mappingStart sampleParsers sampleSetup forwardedHistory) overlappingCalls).map
      (fun final => (final.added, final.calls, final.guest.minecraftPort)) =
    some (["tcp://127.0.0.1:4001/10.0.0.1:25565", "tcp://127.0.0.1:4002/10.0.0.1:25565"],
      [.returned (.ok ("127.0.0.1", 4001)), .returned (.ok ("127.0.0.1", 4002))], some 4002) := by
  decide +kernel

end Guest
end QomicexConnector
