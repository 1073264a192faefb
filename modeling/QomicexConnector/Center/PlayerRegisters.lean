import QomicexConnector.Library.KeyedList
import QomicexConnector.Center.PlayerList

namespace QomicexConnector
namespace Center

open Library

/-!
# The player list as a family of registers

What the list is for: one register for each machine id, empty while no player with
that id is there.  The operations of `ScaffoldingCenter` search the list from the
front, remove by position and append at the end.  With distinct machine ids this is
the same as rewriting one register, so what the list says about a machine depends on
the operations that name that machine and on nothing else.
-/

namespace PlayerUpdate

/-- The update names the machine id. -/
def names (machineId : String) : PlayerUpdate → Bool
  | .ping _ info => info.machineId == machineId
  | .disconnected _ (some removed) => removed == machineId
  | .disconnected _ none => false

/-- What the update makes of the register it names.  A ping joins as a guest whatever
kind it carries; it leaves the kind of an entry as it is, and its EasyTier id unless it
brings one.  A host is never removed. -/
def onRegister : PlayerUpdate → Option PlayerInfo → Option PlayerInfo
  | .ping _ info, none => some { info with kind := .guest }
  | .ping _ info, some existing =>
      some { existing with
        name := info.name
        vendor := info.vendor
        easytierId := info.easytierId.or existing.easytierId }
  | .disconnected _ (some _), some existing =>
      if existing.kind = .host then some existing else none
  | .disconnected _ _, register => register

/-- The update of a register filled at a known time, made at time `now`: an entry that
stays keeps the time at which it joined. -/
def onJoined (update : PlayerUpdate) (now : Nat) (register : Option (Stamped PlayerInfo)) :
    Option (Stamped PlayerInfo) :=
  (update.onRegister (register.map Stamped.entry)).map fun player =>
    ⟨(register.map Stamped.time).getD now, player⟩

/-- The update obtains the lock of the list. -/
def Acquires : PlayerUpdate → Prop
  | .ping attempts _ | .disconnected attempts _ => acquires lockRetryLimit attempts = true

/-- No machine id is named by both updates. -/
def Independent (first second : PlayerUpdate) : Prop :=
  ∀ machineId, first.names machineId = true → second.names machineId = false

/-- The update as a change of one register, if it names any. -/
def keyed : PlayerUpdate → Option (KeyedChange String PlayerInfo)
  | .ping attempts info => some ⟨info.machineId, (ping attempts info).onRegister⟩
  | .disconnected attempts (some removed) =>
      some ⟨removed, (disconnected attempts (some removed)).onRegister⟩
  | .disconnected _ none => none

theorem names_of_keyed {update : PlayerUpdate} {op : KeyedChange String PlayerInfo}
    (keyed : update.keyed = some op) (machineId : String) :
    update.names machineId = decide (op.key = machineId) ∧ op.change = update.onRegister := by
  match update, keyed with
  | .ping attempts info, rfl => exact ⟨rfl, rfl⟩
  | .disconnected attempts (some removed), rfl => exact ⟨rfl, rfl⟩

theorem names_of_not_keyed {update : PlayerUpdate} (unkeyed : update.keyed = none)
    (machineId : String) : update.names machineId = false := by
  match update, unkeyed with
  | .disconnected attempts none, _ => rfl

theorem keepsKey {update : PlayerUpdate} {op : KeyedChange String PlayerInfo}
    (keyed : update.keyed = some op) : op.KeepsKey PlayerInfo.machineId := by
  intro before after held result
  match update, keyed with
  | .ping attempts info, rfl =>
      cases before with
      | none =>
          cases result
          rfl
      | some existing =>
          cases result
          exact held existing rfl
  | .disconnected attempts (some removed), rfl =>
      cases before with
      | none => cases result
      | some existing =>
          dsimp only [onRegister] at result
          split at result
          · cases result
            exact held _ rfl
          · cases result

theorem pingUpdate_eq_alter (attempts : Nat → Bool) (info : PlayerInfo)
    (players : List PlayerInfo) :
    pingUpdate info players =
      KeyedChange.alter PlayerInfo.machineId ⟨info.machineId, (ping attempts info).onRegister⟩
        players := by
  induction players with
  | nil => rfl
  | cons existing later inductionHypothesis =>
      rw [pingUpdate, KeyedChange.alter, inductionHypothesis]
      split
      · have merged : (if info.easytierId.isSome then info.easytierId else existing.easytierId) =
            info.easytierId.or existing.easytierId := by
          cases info.easytierId <;> rfl
        rw [merged]
        rfl
      · rfl

theorem removeUpdate_eq_alter (attempts : Nat → Bool) (removed : String)
    (players : List PlayerInfo) :
    removeUpdate removed players =
      KeyedChange.alter PlayerInfo.machineId
        ⟨removed, (disconnected attempts (some removed)).onRegister⟩ players := by
  induction players with
  | nil => rfl
  | cons existing later inductionHypothesis =>
      rw [removeUpdate, KeyedChange.alter, inductionHypothesis]
      split
      · dsimp only [onRegister]
        split <;> rfl
      · rfl

/-- An update that obtains the lock changes the one register it names. -/
theorem apply_of_keyed {update : PlayerUpdate} (acquired : update.Acquires)
    {op : KeyedChange String PlayerInfo} (keyed : update.keyed = some op)
    (players : List PlayerInfo) :
    update.apply players = op.alter PlayerInfo.machineId players := by
  match update, keyed with
  | .ping attempts info, rfl =>
      have lock : acquires lockRetryLimit attempts = true := acquired
      rw [apply, onPlayerPingImpl_of_acquired lock]
      exact pingUpdate_eq_alter attempts info players
  | .disconnected attempts (some removed), rfl =>
      have lock : acquires lockRetryLimit attempts = true := acquired
      rw [apply, onClientDisconnectedImpl_of_acquired lock]
      exact removeUpdate_eq_alter attempts removed players

theorem apply_of_not_keyed {update : PlayerUpdate} (unkeyed : update.keyed = none)
    (players : List PlayerInfo) : update.apply players = players := by
  match update, unkeyed with
  | .disconnected attempts none, _ => rfl

end PlayerUpdate

/-! ## Sequences of updates -/

/-- The players after the updates, made in order. -/
def applyAll (updates : List PlayerUpdate) (players : List PlayerInfo) : List PlayerInfo :=
  updates.foldl PlayerUpdate.apply players

/-- The entry of a machine id. -/
def playerAt (machineId : String) (players : List PlayerInfo) : Option PlayerInfo :=
  entryAt PlayerInfo.machineId machineId players

/-- The entries of the list, each with its position as the time at which it joined. -/
def joinedInitially (players : List PlayerInfo) : List (Stamped PlayerInfo) :=
  players.zipIdx.map fun numbered => ⟨numbered.2, numbered.1⟩

def joinedAt (machineId : String) (joined : List (Stamped PlayerInfo)) :
    Option (Stamped PlayerInfo) :=
  entryAt (PlayerInfo.machineId ∘ Stamped.entry) machineId joined

/-- The changes of registers among the updates. -/
def keyedChanges (updates : List PlayerUpdate) : List (KeyedChange String PlayerInfo) :=
  updates.filterMap PlayerUpdate.keyed

/-- The changes of registers, each with the time of its update. -/
def timedChanges (start : Nat) (updates : List PlayerUpdate) :
    List (Nat × KeyedChange String PlayerInfo) :=
  (updates.zipIdx start).filterMap fun numbered => numbered.1.keyed.map fun op => (numbered.2, op)

theorem keyedChanges_keepsKey (updates : List PlayerUpdate) :
    ∀ op ∈ keyedChanges updates, op.KeepsKey PlayerInfo.machineId := by
  intro op listed
  rcases List.mem_filterMap.mp listed with ⟨update, _, keyed⟩
  exact PlayerUpdate.keepsKey keyed

theorem applyAll_eq_alterAll {updates : List PlayerUpdate}
    (acquired : ∀ update ∈ updates, update.Acquires) (players : List PlayerInfo) :
    applyAll updates players = alterAll PlayerInfo.machineId (keyedChanges updates) players := by
  induction updates generalizing players with
  | nil => rfl
  | cons update later inductionHypothesis =>
      have others : ∀ other ∈ later, other.Acquires :=
        fun other listed => acquired other (List.mem_cons_of_mem _ listed)
      rw [applyAll, List.foldl_cons, ← applyAll, inductionHypothesis others, keyedChanges,
        keyedChanges]
      cases keyed : update.keyed with
      | none => rw [List.filterMap_cons_none keyed, PlayerUpdate.apply_of_not_keyed keyed]
      | some op =>
          rw [List.filterMap_cons_some keyed,
            PlayerUpdate.apply_of_keyed (acquired update List.mem_cons_self) keyed]
          rfl

/-- The changes with a key are the updates that name it. -/
theorem registerAfter_keyedChanges (updates : List PlayerUpdate) (machineId : String)
    (register : Option PlayerInfo) :
    registerAfter (keyedChanges updates) machineId register =
      (updates.filter (PlayerUpdate.names machineId)).foldl
        (fun register update => update.onRegister register) register := by
  induction updates generalizing register with
  | nil => rfl
  | cons update later inductionHypothesis =>
      cases keyed : update.keyed with
      | none =>
          rw [keyedChanges, List.filterMap_cons_none keyed, List.filter_cons,
            PlayerUpdate.names_of_not_keyed keyed]
          exact inductionHypothesis register
      | some op =>
          have ⟨named, change⟩ := PlayerUpdate.names_of_keyed keyed machineId
          rw [keyedChanges, List.filterMap_cons_some keyed, registerAfter, List.filter_cons,
            List.filter_cons, named]
          split
          · rw [List.foldl_cons, List.foldl_cons, change]
            exact inductionHypothesis _
          · exact inductionHypothesis register

theorem timedChanges_cons_none {update : PlayerUpdate} (unkeyed : update.keyed = none)
    (later : List PlayerUpdate) (start : Nat) :
    timedChanges start (update :: later) = timedChanges (start + 1) later := by
  rw [timedChanges, List.zipIdx_cons, List.filterMap_cons_none (by rw [unkeyed]; rfl)]
  rfl

theorem timedChanges_cons_some {update : PlayerUpdate} {op : KeyedChange String PlayerInfo}
    (keyed : update.keyed = some op) (later : List PlayerUpdate) (start : Nat) :
    timedChanges start (update :: later) = (start, op) :: timedChanges (start + 1) later := by
  rw [timedChanges, List.zipIdx_cons, List.filterMap_cons, keyed]
  rfl

theorem registerAfter_timedChanges (updates : List PlayerUpdate) (start : Nat)
    (machineId : String) (register : Option (Stamped PlayerInfo)) :
    registerAfter (stampedAll (timedChanges start updates)) machineId register =
      ((updates.zipIdx start).filter fun numbered => numbered.1.names machineId).foldl
        (fun register numbered => numbered.1.onJoined numbered.2 register) register := by
  induction updates generalizing start register with
  | nil => rfl
  | cons update later inductionHypothesis =>
      rw [List.zipIdx_cons]
      cases keyed : update.keyed with
      | none =>
          rw [timedChanges_cons_none keyed, List.filter_cons,
            PlayerUpdate.names_of_not_keyed keyed]
          exact inductionHypothesis (start + 1) register
      | some op =>
          have ⟨named, change⟩ := PlayerUpdate.names_of_keyed keyed machineId
          rw [timedChanges_cons_some keyed, stampedAll, List.map_cons, registerAfter,
            List.filter_cons, List.filter_cons, named]
          have key : (op.stamped start).key = op.key := rfl
          rw [key]
          split
          · rw [List.foldl_cons, List.foldl_cons]
            have same : (op.stamped start).change register = update.onJoined start register := by
              rw [KeyedChange.stamped, PlayerUpdate.onJoined, change]
            rw [same]
            exact inductionHypothesis (start + 1) _
          · exact inductionHypothesis (start + 1) register

theorem timedChanges_ordered (start : Nat) (updates : List PlayerUpdate) :
    (timedChanges start updates).map Prod.snd = keyedChanges updates ∧
      ((timedChanges start updates).Pairwise fun earlier later => earlier.1 < later.1) ∧
      ∀ timed ∈ timedChanges start updates, start ≤ timed.1 := by
  induction updates generalizing start with
  | nil => exact ⟨rfl, List.Pairwise.nil, fun _ listed => absurd listed List.not_mem_nil⟩
  | cons update later inductionHypothesis =>
      rcases inductionHypothesis (start + 1) with ⟨changes, increasing, after⟩
      cases keyed : update.keyed with
      | none =>
          rw [timedChanges_cons_none keyed, changes, keyedChanges, keyedChanges,
            List.filterMap_cons_none keyed]
          exact ⟨rfl, increasing, fun timed listed => Nat.le_of_succ_le (after timed listed)⟩
      | some op =>
          rw [timedChanges_cons_some keyed, List.map_cons, changes, keyedChanges, keyedChanges,
            List.filterMap_cons_some keyed]
          refine ⟨rfl, List.pairwise_cons.mpr ⟨after, increasing⟩, ?_⟩
          intro timed listed
          rcases List.mem_cons.mp listed with rfl | inside
          · exact Nat.le_refl start
          · exact Nat.le_of_succ_le (after timed inside)

theorem joinedInitially_players (players : List PlayerInfo) :
    (joinedInitially players).map Stamped.entry = players := by
  rw [joinedInitially, List.map_map]
  exact List.zipIdx_map_fst 0 players

theorem joinedInitially_inOrder (players : List PlayerInfo) :
    InOrder players.length (joinedInitially players) := by
  have times : (joinedInitially players).map Stamped.time = List.range' 0 players.length := by
    rw [joinedInitially, List.map_map]
    exact List.zipIdx_map_snd 0 players
  constructor
  · rw [← List.pairwise_map, times]
    exact List.pairwise_lt_range'
  · intro stamped listed
    have inside : stamped.time ∈ (joinedInitially players).map Stamped.time :=
      List.mem_map_of_mem listed
    rw [times, List.mem_range'_1, Nat.zero_add] at inside
    exact inside.2

/-- Neighbouring updates that name different machine ids may be exchanged. -/
theorem applyAll_swap {before after : List PlayerUpdate} {first second : PlayerUpdate}
    (acquired : ∀ update ∈ before ++ first :: second :: after, update.Acquires)
    (independent : first.Independent second) {players : List PlayerInfo}
    (distinct : (machineIds players).Nodup) :
    (applyAll (before ++ first :: second :: after) players).Perm
      (applyAll (before ++ second :: first :: after) players) := by
  have swapped : (before ++ first :: second :: after).Perm (before ++ second :: first :: after) :=
    (List.Perm.swap second first after).append_left before
  have alsoAcquired : ∀ update ∈ before ++ second :: first :: after, update.Acquires :=
    fun update listed => acquired update (swapped.mem_iff.mpr listed)
  rw [applyAll_eq_alterAll acquired, applyAll_eq_alterAll alsoAcquired, keyedChanges, keyedChanges,
    List.filterMap_append, List.filterMap_append]
  cases firstKeyed : first.keyed with
  | none =>
      rw [List.filterMap_cons_none firstKeyed, List.filterMap_cons, List.filterMap_cons,
        List.filterMap_cons_none firstKeyed]
  | some firstOp =>
  cases secondKeyed : second.keyed with
  | none =>
      rw [List.filterMap_cons_some firstKeyed, List.filterMap_cons_none secondKeyed,
        List.filterMap_cons_none secondKeyed, List.filterMap_cons_some firstKeyed]
  | some secondOp =>
      rw [List.filterMap_cons_some firstKeyed, List.filterMap_cons_some secondKeyed,
        List.filterMap_cons_some secondKeyed, List.filterMap_cons_some firstKeyed]
      have different : firstOp.key ≠ secondOp.key := by
        intro same
        have named := (PlayerUpdate.names_of_keyed firstKeyed firstOp.key).1
        have unnamed := independent firstOp.key (by rw [named, decide_eq_true rfl])
        rw [(PlayerUpdate.names_of_keyed secondKeyed firstOp.key).1, same, decide_eq_true rfl]
          at unnamed
        cases unnamed
      apply alterAll_swap _ different distinct
      intro op listed
      apply keyedChanges_keepsKey (before ++ first :: second :: after)
      rw [keyedChanges, List.filterMap_append, List.filterMap_cons_some firstKeyed,
        List.filterMap_cons_some secondKeyed]
      exact listed

/-- The list refines one register for each machine id.  Its machine ids stay distinct;
the entry of each is the fold of the updates that name it; updates that name different
ones commute up to the order of the list; and the entries stand in the order of joining,
where an entry that stays keeps the time at which it joined. -/
theorem players_refine_registers {initial : List PlayerInfo}
    (distinct : (machineIds initial).Nodup) {updates : List PlayerUpdate}
    (acquired : ∀ update ∈ updates, update.Acquires) :
    let final := applyAll updates initial
    (machineIds final).Nodup ∧
      (∀ machineId, playerAt machineId final =
        (updates.filter (PlayerUpdate.names machineId)).foldl
          (fun register update => update.onRegister register) (playerAt machineId initial)) ∧
      (∀ before first second after, updates = before ++ first :: second :: after →
        first.Independent second →
          final.Perm (applyAll (before ++ second :: first :: after) initial)) ∧
      ∃ joined : List (Stamped PlayerInfo), joined.map Stamped.entry = final ∧
        (joined.Pairwise fun earlier later => earlier.time < later.time) ∧
        ∀ machineId, joinedAt machineId joined =
          ((updates.zipIdx initial.length).filter fun numbered => numbered.1.names machineId).foldl
            (fun register numbered => numbered.1.onJoined numbered.2 register)
            (joinedAt machineId (joinedInitially initial)) := by
  have keeps := keyedChanges_keepsKey updates
  refine ⟨?_, ?_, ?_, ?_⟩
  · rw [applyAll_eq_alterAll acquired]
    exact nodup_alterAll keeps distinct
  · intro machineId
    rw [applyAll_eq_alterAll acquired, playerAt, entryAt_alterAll keeps distinct,
      registerAfter_keyedChanges]
    rfl
  · rintro before first second after rfl independent
    exact applyAll_swap acquired independent distinct
  · rcases timedChanges_ordered initial.length updates with ⟨changes, increasing, after⟩
    have joined := alterAll_inOrder PlayerInfo.machineId (joinedInitially_inOrder initial)
      increasing after
    rw [changes, joinedInitially_players, ← applyAll_eq_alterAll acquired] at joined
    refine ⟨_, joined.1, joined.2, ?_⟩
    intro machineId
    have timedKeeps : ∀ timed ∈ timedChanges initial.length updates,
        timed.2.KeepsKey PlayerInfo.machineId := by
      intro timed listed
      exact keeps timed.2 (changes ▸ List.mem_map_of_mem listed)
    have stampedDistinct :
        ((joinedInitially initial).map (PlayerInfo.machineId ∘ Stamped.entry)).Nodup := by
      rw [← List.map_map, joinedInitially_players]
      exact distinct
    rw [joinedAt, entryAt_alterAll (keepsKey_stampedAll timedKeeps) stampedDistinct,
      registerAfter_timedChanges]
    rfl

/-- A host and a guest who pings, is removed and joins again: the entry of the host is
the one at the start. -/
theorem players_refine_registers_sample :
    let host : PlayerInfo := ⟨"h", "m0", none, "q", .host⟩
    let guest : PlayerInfo := ⟨"a", "m1", some "e", "q", .host⟩
    let always : Nat → Bool := fun _ => true
    let updates : List PlayerUpdate :=
      [.ping always guest, .disconnected always (some "m0"), .disconnected always (some "m1"),
        .ping always guest]
    (machineIds (applyAll updates [host])).Nodup ∧
      playerAt "m0" (applyAll updates [host]) = some host := by
  intro host guest always updates
  have distinct : (machineIds [host]).Nodup := List.nodup_singleton _
  have acquired : ∀ update ∈ updates, update.Acquires := by
    intro update listed
    have lock : acquires lockRetryLimit always = true :=
      acquires_eq_true_iff.mpr ⟨0, by decide, rfl⟩
    simp only [updates, List.mem_cons, List.not_mem_nil, or_false] at listed
    rcases listed with rfl | rfl | rfl | rfl <;> exact lock
  have refined := players_refine_registers distinct acquired
  refine ⟨refined.1, (refined.2.1 "m0").trans ?_⟩
  decide

end Center
end QomicexConnector
