import Mathlib.Data.List.Induction
import QomicexConnector.Center.PlayerRegisters
import QomicexConnector.Guest.ScaffoldingGuest

namespace QomicexConnector
namespace Center

open Library
open QomicexConnector.Core

/-!
# The EasyTier id of a listed player

The host needs the EasyTier id of a player to ban it, so `on_player_ping_impl` is to take a
new id only from a ping that has a valid one.  It tests whether the member was read as a
text at all; the empty text passes, and a guest without a node id sends just that.  Pings and
removals act on the entries of each player separately, so that a history keeps an id exactly
if none of its events blanks the first entry of the player.
-/

/-! ## What reaches the list -/

/-- A ping with this body is handled, or a disconnect message is consumed. -/
inductive ListEvent where
  | ping (attempts : Nat → Bool) (body : List UInt8)
  | disconnected (attempts : Nat → Bool) (machineId : Option String)

/-- The handler of `c:player_ping` with the standard behaviour. -/
def standardPing (fromSlice : List UInt8 → Except String Json) (attempts : Nat → Bool) :
    ProtocolHandler (List PlayerInfo) :=
  playerPingProtocol fromSlice fun info players => (true, onPlayerPingImpl attempts info players)

section Events

variable (fromSlice : List UInt8 → Except String Json)

def afterEvent (players : List PlayerInfo) : ListEvent → List PlayerInfo
  | .ping attempts body =>
      ((standardPing fromSlice attempts).handle ⟨"c", "player_ping", body⟩ players).2
  | .disconnected attempts machineId => onClientDisconnectedImpl attempts machineId players

def afterEvents (players : List PlayerInfo) (events : List ListEvent) : List PlayerInfo :=
  events.foldl (afterEvent fromSlice) players

/-- The list holds a non-empty EasyTier id for the player. -/
def HasEasytierId (machineId : String) (players : List PlayerInfo) : Prop :=
  ∃ player id, playerAt machineId players = some player ∧ player.easytierId = some id ∧ id ≠ ""

/-- Once the list holds a non-empty EasyTier id for the player, it does so as long as the
player stays in the list. -/
def KeepsEasytierId (machineId : String) (players : List PlayerInfo) (events : List ListEvent) :
    Prop :=
  ∀ past between later, events = past ++ between ++ later →
    HasEasytierId machineId (afterEvents fromSlice players past) →
    (∀ first rest, between = first ++ rest →
      machineId ∈ machineIds (afterEvents fromSlice players (past ++ first))) →
    HasEasytierId machineId (afterEvents fromSlice players (past ++ between))

/-- The entries with the machine id.  There is one at most, unless the host joins under the
id of a guest that is there already. -/
def entriesOf (machineId : String) (players : List PlayerInfo) : List PlayerInfo :=
  players.filter fun player => decide (player.machineId = machineId)

/-- The event gets the lock, and it is a ping of the player with an empty EasyTier id, or it
takes a guest off the list behind which an entry with its machine id and without an EasyTier
id comes to light. -/
def ListEvent.Blanks (machineId : String) (players : List PlayerInfo) : ListEvent → Prop
  | .ping attempts body => acquires lockRetryLimit attempts = true ∧
      ∃ info, parsePlayerInfo fromSlice body = .ok info ∧ info.machineId = machineId ∧
        info.easytierId = some ""
  | .disconnected attempts removed => acquires lockRetryLimit attempts = true ∧
      removed = some machineId ∧ ∃ guest next later,
        entriesOf machineId players = guest :: next :: later ∧ guest.kind = .guest ∧
          (next.easytierId = none ∨ next.easytierId = some "")

/-- No such event comes while the list holds a non-empty EasyTier id for the player. -/
def NeverBlanked (machineId : String) (players : List PlayerInfo) (events : List ListEvent) :
    Prop :=
  ∀ past event later, events = past ++ event :: later →
    HasEasytierId machineId (afterEvents fromSlice players past) →
      ¬ event.Blanks fromSlice machineId (afterEvents fromSlice players past)

end Events

/-! ## The entries of one player -/

section Entries

variable {players : List PlayerInfo} {machineId : String}

theorem entriesOf_cons (machineId : String) (existing : PlayerInfo) (later : List PlayerInfo) :
    entriesOf machineId (existing :: later) =
      if existing.machineId = machineId then existing :: entriesOf machineId later
      else entriesOf machineId later := by
  rw [entriesOf, List.filter_cons]
  simp only [decide_eq_true_eq]
  rfl

theorem playerAt_eq_head? (machineId : String) (players : List PlayerInfo) :
    playerAt machineId players = (entriesOf machineId players).head? := by
  induction players with
  | nil => rfl
  | cons existing later inductionHypothesis =>
      rw [playerAt, entryAt_cons, entriesOf_cons]
      split
      · rfl
      · exact inductionHypothesis

theorem entriesOf_ne_nil_iff : entriesOf machineId players ≠ [] ↔
    machineId ∈ machineIds players := by
  rw [Ne, ← List.head?_eq_none_iff, ← playerAt_eq_head?, playerAt, entryAt_eq_none_iff, not_not]
  rfl

/-- A ping does to the entries of the player what it does to the list, and nothing to the
others. -/
theorem entriesOf_pingUpdate (info : PlayerInfo) (machineId : String) (players : List PlayerInfo) :
    entriesOf machineId (pingUpdate info players) =
      if info.machineId = machineId then pingUpdate info (entriesOf machineId players)
      else entriesOf machineId players := by
  induction players with
  | nil =>
      rw [pingUpdate, entriesOf_cons]
      rfl
  | cons existing later inductionHypothesis =>
      rw [pingUpdate]
      by_cases own : existing.machineId = info.machineId
      · rw [if_pos own, entriesOf_cons, entriesOf_cons]
        dsimp only
        by_cases named : existing.machineId = machineId
        · rw [if_pos named, if_pos (own.symm.trans named), if_pos named, pingUpdate, if_pos own]
        · have other : ¬ info.machineId = machineId := fun same => named (own.trans same)
          rw [if_neg named, if_neg other, if_neg named]
      · rw [if_neg own, entriesOf_cons, entriesOf_cons, inductionHypothesis]
        by_cases named : info.machineId = machineId
        · have other : ¬ existing.machineId = machineId := fun same => own (same.trans named.symm)
          rw [if_pos named, if_neg other, if_neg other, if_pos named]
        · rw [if_neg named, if_neg named]

/-- So does a removal. -/
theorem entriesOf_removeUpdate (removed machineId : String) (players : List PlayerInfo) :
    entriesOf machineId (removeUpdate removed players) =
      if removed = machineId then removeUpdate removed (entriesOf machineId players)
      else entriesOf machineId players := by
  induction players with
  | nil =>
      rw [removeUpdate]
      split <;> rfl
  | cons existing later inductionHypothesis =>
      rw [removeUpdate]
      by_cases own : existing.machineId = removed
      · rw [if_pos own, entriesOf_cons, own]
        by_cases named : removed = machineId
        · rw [if_pos named, if_pos named, removeUpdate, if_pos own]
          split
          · rw [entriesOf_cons, own, if_pos named]
          · rfl
        · rw [if_neg named, if_neg named]
          split
          · rw [entriesOf_cons, own, if_neg named]
          · rfl
      · rw [if_neg own, entriesOf_cons, entriesOf_cons, inductionHypothesis]
        by_cases named : removed = machineId
        · have other : ¬ existing.machineId = machineId := fun same => own (same.trans named.symm)
          rw [if_pos named, if_neg other, if_neg other, if_pos named]
        · rw [if_neg named, if_neg named]

theorem machineId_of_entriesOf {first : PlayerInfo} {later : List PlayerInfo}
    (entries : entriesOf machineId players = first :: later) : first.machineId = machineId := by
  have listed : first ∈ entriesOf machineId players := by
    rw [entries]
    exact List.mem_cons_self
  exact of_decide_eq_true (List.mem_filter.mp listed).2

/-- The EasyTier id of a player is that of the first entry. -/
theorem hasEasytierId_iff : HasEasytierId machineId players ↔
    ∃ first later id, entriesOf machineId players = first :: later ∧
      first.easytierId = some id ∧ id ≠ "" := by
  rw [HasEasytierId, playerAt_eq_head?]
  constructor
  · rintro ⟨first, id, found, held, nonempty⟩
    rcases List.head?_eq_some_iff.mp found with ⟨later, entries⟩
    exact ⟨first, later, id, entries, held, nonempty⟩
  · rintro ⟨first, later, id, entries, held, nonempty⟩
    exact ⟨first, id, by rw [entries]; rfl, held, nonempty⟩

theorem HasEasytierId.congr {other : List PlayerInfo} (has : HasEasytierId machineId players)
    (same : entriesOf machineId other = entriesOf machineId players) :
    HasEasytierId machineId other := by
  rw [hasEasytierId_iff] at has ⊢
  rwa [same]

theorem HasEasytierId.listed (has : HasEasytierId machineId players) :
    machineId ∈ machineIds players := by
  rcases hasEasytierId_iff.mp has with ⟨first, later, _, entries, _⟩
  apply entriesOf_ne_nil_iff.mp
  rw [entries]
  exact List.cons_ne_nil first later

end Entries

/-! ## One event -/

section Steps

variable {fromSlice : List UInt8 → Except String Json} {players : List PlayerInfo}
  {machineId : String}

theorem afterEvent_ping (attempts : Nat → Bool) (body : List UInt8) :
    afterEvent fromSlice players (.ping attempts body) =
      match parsePlayerInfo fromSlice body with
      | .ok info => onPlayerPingImpl attempts info players
      | .error _ => players := by
  rw [afterEvent, standardPing, playerPingProtocol]
  dsimp only
  cases parsePlayerInfo fromSlice body <;> rfl

/-- What an event does to the entries of the player: nothing, or what a ping or a removal
does to the list. -/
theorem entriesOf_afterEvent (fromSlice : List UInt8 → Except String Json)
    (players : List PlayerInfo) (machineId : String) (event : ListEvent) :
    (entriesOf machineId (afterEvent fromSlice players event) = entriesOf machineId players ∧
        ¬ event.Blanks fromSlice machineId players) ∨
      (∃ attempts body info, event = .ping attempts body ∧
        acquires lockRetryLimit attempts = true ∧
        parsePlayerInfo fromSlice body = .ok info ∧ info.machineId = machineId ∧
        entriesOf machineId (afterEvent fromSlice players event) =
          pingUpdate info (entriesOf machineId players)) ∨
      ∃ attempts, event = .disconnected attempts (some machineId) ∧
        acquires lockRetryLimit attempts = true ∧
        entriesOf machineId (afterEvent fromSlice players event) =
          removeUpdate machineId (entriesOf machineId players) := by
  cases event with
  | ping attempts body =>
      rw [afterEvent_ping]
      cases parsed : parsePlayerInfo fromSlice body with
      | error message =>
          refine Or.inl ⟨rfl, ?_⟩
          rintro ⟨_, info, ok, _⟩
          cases parsed.symm.trans ok
      | ok info =>
          dsimp only
          by_cases acquired : acquires lockRetryLimit attempts = true
          · rw [onPlayerPingImpl_of_acquired acquired, entriesOf_pingUpdate]
            by_cases named : info.machineId = machineId
            · rw [if_pos named]
              exact Or.inr (Or.inl ⟨attempts, body, info, rfl, acquired, parsed, named, rfl⟩)
            · refine Or.inl ⟨if_neg named, ?_⟩
              rintro ⟨_, sent, ok, isMachine, _⟩
              cases parsed.symm.trans ok
              exact named isMachine
          · rw [onPlayerPingImpl_of_refused acquired]
            exact Or.inl ⟨rfl, fun blanks => acquired blanks.1⟩
  | disconnected attempts removed =>
      rw [afterEvent]
      by_cases acquired : acquires lockRetryLimit attempts = true
      · cases removed with
        | none =>
            refine Or.inl ⟨rfl, ?_⟩
            rintro ⟨_, named, _⟩
            cases named
        | some removed =>
            rw [onClientDisconnectedImpl_of_acquired acquired, entriesOf_removeUpdate]
            by_cases named : removed = machineId
            · subst named
              rw [if_pos rfl]
              exact Or.inr (Or.inr ⟨attempts, rfl, acquired, rfl⟩)
            · refine Or.inl ⟨if_neg named, ?_⟩
              rintro ⟨_, same, _⟩
              exact named (Option.some.inj same)
      · rw [onClientDisconnectedImpl_of_refused acquired]
        exact Or.inl ⟨rfl, fun blanks => acquired blanks.1⟩

/-- While the player stays, the event keeps the non-empty id exactly if it does not blank
it. -/
theorem hasEasytierId_afterEvent (has : HasEasytierId machineId players) {event : ListEvent}
    (stays : machineId ∈ machineIds (afterEvent fromSlice players event)) :
    HasEasytierId machineId (afterEvent fromSlice players event) ↔
      ¬ event.Blanks fromSlice machineId players := by
  rcases hasEasytierId_iff.mp has with ⟨first, later, id, entries, held, nonempty⟩
  rcases entriesOf_afterEvent fromSlice players machineId event with ⟨same, harmless⟩ |
    ⟨attempts, body, info, rfl, acquired, parsed, named, after⟩ | ⟨attempts, rfl, acquired, after⟩
  · exact iff_of_true (has.congr same) harmless
  · have own : first.machineId = info.machineId :=
      (machineId_of_entriesOf entries).trans named.symm
    rw [entries, pingUpdate, if_pos own] at after
    rw [hasEasytierId_iff, after]
    cases brought : info.easytierId with
    | none =>
        refine iff_of_true ⟨_, later, id, rfl, held, nonempty⟩ ?_
        rintro ⟨_, sent, ok, _, empty⟩
        cases parsed.symm.trans ok
        cases brought.symm.trans empty
    | some new =>
        constructor
        · rintro ⟨_, _, other, same, heldAfter, nonemptyAfter⟩ ⟨_, sent, ok, _, empty⟩
          cases same
          cases parsed.symm.trans ok
          cases brought.symm.trans empty
          cases heldAfter
          exact nonemptyAfter rfl
        · intro valid
          refine ⟨_, later, new, rfl, rfl, ?_⟩
          rintro rfl
          exact valid ⟨acquired, info, parsed, named, brought⟩
  · have own := machineId_of_entriesOf entries
    rw [entries, removeUpdate, if_pos own] at after
    by_cases host : first.kind = .host
    · rw [if_pos host] at after
      refine iff_of_true (has.congr (after.trans entries.symm)) ?_
      rintro ⟨_, _, guest, next, rest, listed, isGuest, _⟩
      cases entries.symm.trans listed
      cases host.symm.trans isGuest
    · rw [if_neg host] at after
      have isGuest : first.kind = .guest := by
        cases kind : first.kind with
        | host => exact absurd kind host
        | guest => rfl
      have remains := entriesOf_ne_nil_iff.mpr stays
      rw [after] at remains
      rw [hasEasytierId_iff, after]
      rcases List.exists_cons_of_ne_nil remains with ⟨next, rest, rfl⟩
      constructor
      · rintro ⟨_, _, other, same, heldAfter, nonemptyAfter⟩ ⟨_, _, guest, _, _, listed, _, blank⟩
        cases same
        cases entries.symm.trans listed
        rcases blank with none | empty
        · cases heldAfter.symm.trans none
        · cases heldAfter.symm.trans empty
          exact nonemptyAfter rfl
      · intro harmless
        have blank : ¬ (next.easytierId = none ∨ next.easytierId = some "") := fun blank =>
          harmless ⟨acquired, rfl, first, next, rest, entries, isGuest, blank⟩
        cases uncovered : next.easytierId with
        | none => exact absurd (Or.inl uncovered) blank
        | some other =>
            refine ⟨next, rest, other, rfl, uncovered, ?_⟩
            rintro rfl
            exact blank (Or.inr uncovered)

theorem afterEvents_concat (past : List ListEvent) (event : ListEvent) :
    afterEvents fromSlice players (past ++ [event]) =
      afterEvent fromSlice (afterEvents fromSlice players past) event :=
  List.foldl_concat ..

/-- An event that blanks the id leaves the player listed. -/
theorem listed_of_blanks (has : HasEasytierId machineId players) {event : ListEvent}
    (blanks : event.Blanks fromSlice machineId players) :
    machineId ∈ machineIds (afterEvent fromSlice players event) := by
  rcases hasEasytierId_iff.mp has with ⟨first, later, _, entries, _⟩
  have own := machineId_of_entriesOf entries
  apply entriesOf_ne_nil_iff.mp
  rcases entriesOf_afterEvent fromSlice players machineId event with ⟨_, harmless⟩ |
    ⟨attempts, body, info, rfl, _, _, named, after⟩ | ⟨attempts, rfl, _, after⟩
  · exact absurd blanks harmless
  · rw [after, entries, pingUpdate, if_pos (own.trans named.symm)]
    exact List.cons_ne_nil _ _
  · rcases blanks with ⟨_, _, guest, next, rest, listed, isGuest, _⟩
    cases entries.symm.trans listed
    have leaves : first.kind ≠ .host := by
      rw [isGuest]
      exact PlayerKind.noConfusion
    rw [after, entries, removeUpdate, if_pos own, if_neg leaves]
    exact List.cons_ne_nil next rest

variable (fromSlice players) in
/-- A player whose EasyTier id is known keeps a non-empty one through a history of pings and
disconnect messages exactly if no ping of the player that gets the lock brings an empty one
then, and no removal uncovers an entry without one. -/
theorem keepsEasytierId_iff (machineId : String) (events : List ListEvent) :
    KeepsEasytierId fromSlice machineId players events ↔
      NeverBlanked fromSlice machineId players events := by
  constructor
  · intro keeps past event later split has blanks
    have stays := listed_of_blanks has blanks
    have kept := keeps past [event] later (by rw [split]; simp) has ?_
    · rw [afterEvents_concat] at kept
      exact (hasEasytierId_afterEvent has stays).mp kept blanks
    · intro first rest isPart
      rcases List.append_eq_singleton_iff.mp isPart.symm with ⟨rfl, _⟩ | ⟨rfl, _⟩
      · rw [List.append_nil]
        exact has.listed
      · rw [afterEvents_concat]
        exact stays
  · intro never past between later split has stays
    induction between using List.reverseRecOn generalizing later with
    | nil => rwa [List.append_nil]
    | append_singleton between event inductionHypothesis =>
        have before := inductionHypothesis (event :: later) (by rw [split]; simp)
          fun first rest isPart => stays first (rest ++ [event]) (by rw [isPart, List.append_assoc])
        have listed := stays (between ++ [event]) [] (List.append_nil _).symm
        rw [← List.append_assoc, afterEvents_concat] at listed ⊢
        apply (hasEasytierId_afterEvent before listed).mpr
        exact never (past ++ between) event later (by rw [split]; simp) before

end Steps

/-! ## The pings of a guest -/

/-- The body of a guest as far as the samples read it. -/
def profileBody (machineId easytierId : String) : List UInt8 :=
  utf8Bytes ("\x7b\"machine_id\":\"" ++ machineId ++ "\",\"easytier_id\":\"" ++ easytierId ++
    "\"\x7d")

def profileFromSlice (body : List UInt8) : Except String Json :=
  match ["peer-1", "peer-2", ""].find? fun easytierId => profileBody "g1" easytierId == body with
  | some easytierId =>
      .ok (.object [("machine_id", .string "g1"), ("easytier_id", .string easytierId)])
  | none => .error "expected value at line 1 column 1"

def profileSetup : Guest.GuestConfig :=
  ⟨"Guest", "g1", "qml", [], none, fun entry =>
    profileBody entry.machineId (entry.easytierId.getD "")⟩

/-- A guest that has negotiated the flag and has no node id. -/
def unlocatedGuest : Guest.ScaffoldingGuest :=
  { Guest.ScaffoldingGuest.new with negotiated := Guest.standardProtocols }

/-- A ping with this EasyTier id, and the ping of the guest without a node id. -/
def samplePingWith (easytierId : String) : ListEvent :=
  .ping (fun _ => true) (profileBody "g1" easytierId)

def unlocatedPing : ListEvent :=
  .ping (fun _ => true) (profileSetup.toVec (unlocatedGuest.playerProfile profileSetup))

/-- The guest without a node id sends an empty one, which replaces the id that the host has
had. -/
theorem empty_easytierId_replaces :
    (unlocatedGuest.playerProfile profileSetup).easytierId = some "" ∧
      ¬ KeepsEasytierId profileFromSlice "g1" [] [samplePingWith "peer-1", unlocatedPing] := by
  refine ⟨by decide +kernel, ?_⟩
  intro keeps
  have before : playerAt "g1" (afterEvents profileFromSlice [] [samplePingWith "peer-1"]) =
      some ⟨"", "g1", some "peer-1", "", .guest⟩ := by decide +kernel
  have after : playerAt "g1" (afterEvents profileFromSlice []
      [samplePingWith "peer-1", unlocatedPing]) = some ⟨"", "g1", some "", "", .guest⟩ := by
    decide +kernel
  have kept := keeps [samplePingWith "peer-1"] [unlocatedPing] [] rfl
    ⟨_, "peer-1", before, rfl, by decide⟩ ?_
  · rcases kept with ⟨player, easytierId, found, held, nonempty⟩
    cases after.symm.trans found
    cases held
    exact nonempty rfl
  · intro first rest isPart
    rcases List.append_eq_singleton_iff.mp isPart.symm with ⟨rfl, _⟩ | ⟨rfl, _⟩
    · decide +kernel
    · decide +kernel

end Center
end QomicexConnector
