import QomicexConnector.Models

namespace QomicexConnector
namespace Center

/-!
# The player list of the host

The updates `ScaffoldingCenter` performs on its list of players.  Each is one
short critical section of the list's lock, entered by `with_players_write` after
at most `lockRetryLimit` attempts and skipped when none succeeds.  What the
invariants of the host need from an update is stated here once: the machine ids
it leaves, the guests it leaves and the host entries it leaves.
-/

def lockRetryLimit : Nat := 10000

/-- The retry loop around `try_write` and `try_read`: `attempts` tells which
attempt would succeed. -/
def acquires : Nat → (Nat → Bool) → Bool
  | 0, _ => false
  | limit + 1, attempts => attempts 0 || acquires limit fun attempt => attempts (attempt + 1)

def withPlayersWrite (attempts : Nat → Bool) (update : List PlayerInfo → List PlayerInfo)
    (players : List PlayerInfo) : List PlayerInfo :=
  if acquires lockRetryLimit attempts then update players else players

def withPlayersRead (attempts : Nat → Bool) (players : List PlayerInfo) :
    Option (List PlayerInfo) :=
  if acquires lockRetryLimit attempts then some players else none

/-- The update of `on_player_ping_impl`: the first entry with the machine id takes
the new name and vendor, and the new EasyTier id if there is one; without such an
entry the player joins as a guest. -/
def pingUpdate (info : PlayerInfo) : List PlayerInfo → List PlayerInfo
  | [] => [{ info with kind := .guest }]
  | existing :: later =>
      if existing.machineId = info.machineId then
        { existing with
          name := info.name
          easytierId := if info.easytierId.isSome then info.easytierId else existing.easytierId
          vendor := info.vendor } :: later
      else existing :: pingUpdate info later

/-- The update of `on_client_disconnected_impl`: the first entry with the machine id
leaves, unless it is the host. -/
def removeUpdate (machineId : String) : List PlayerInfo → List PlayerInfo
  | [] => []
  | existing :: later =>
      if existing.machineId = machineId then
        if existing.kind = .host then existing :: later else later
      else existing :: removeUpdate machineId later

def onPlayerPingImpl (attempts : Nat → Bool) (info : PlayerInfo) (players : List PlayerInfo) :
    List PlayerInfo :=
  withPlayersWrite attempts (pingUpdate info) players

def onClientDisconnectedImpl (attempts : Nat → Bool) (machineId : Option String)
    (players : List PlayerInfo) : List PlayerInfo :=
  match machineId with
  | some machineId => withPlayersWrite attempts (removeUpdate machineId) players
  | none => players

/-- `remove_player`. -/
def removePlayer (attempts : Nat → Bool) (machineId : String) (players : List PlayerInfo) :
    List PlayerInfo :=
  onClientDisconnectedImpl attempts (some machineId) players

/-- `handle_player_ping`. -/
def handlePlayerPing (attempts : Nat → Bool) (info : PlayerInfo) (players : List PlayerInfo) :
    List PlayerInfo :=
  onPlayerPingImpl attempts info players

/-- The updates other parts of the program may perform on the list. -/
inductive PlayerUpdate where
  | ping (attempts : Nat → Bool) (info : PlayerInfo)
  | disconnected (attempts : Nat → Bool) (machineId : Option String)

def PlayerUpdate.apply (players : List PlayerInfo) : PlayerUpdate → List PlayerInfo
  | .ping attempts info => onPlayerPingImpl attempts info players
  | .disconnected attempts machineId => onClientDisconnectedImpl attempts machineId players

/-- How the consumer of the disconnect channel reads a message. -/
def disconnectedMachine (message : String) : Option String :=
  if message.isEmpty then none else some message

theorem acquires_eq_true_iff {limit : Nat} {attempts : Nat → Bool} :
    acquires limit attempts = true ↔ ∃ attempt < limit, attempts attempt = true := by
  induction limit generalizing attempts with
  | zero => simp [acquires]
  | succ limit inductionHypothesis =>
      rw [acquires, Bool.or_eq_true, inductionHypothesis]
      constructor
      · rintro (first | ⟨attempt, inside, later⟩)
        · exact ⟨0, Nat.succ_pos limit, first⟩
        · exact ⟨attempt + 1, Nat.succ_lt_succ inside, later⟩
      · rintro ⟨attempt, inside, succeeds⟩
        cases attempt with
        | zero => exact Or.inl succeeds
        | succ attempt => exact Or.inr ⟨attempt, Nat.lt_of_succ_lt_succ inside, succeeds⟩

/-! ## With the lock and without it -/

section Lock

variable {attempts : Nat → Bool}

theorem onPlayerPingImpl_of_acquired (acquired : acquires lockRetryLimit attempts = true)
    (info : PlayerInfo) (players : List PlayerInfo) :
    onPlayerPingImpl attempts info players = pingUpdate info players := if_pos acquired

theorem onPlayerPingImpl_of_refused (refused : ¬ acquires lockRetryLimit attempts = true)
    (info : PlayerInfo) (players : List PlayerInfo) :
    onPlayerPingImpl attempts info players = players := if_neg refused

theorem onClientDisconnectedImpl_of_acquired (acquired : acquires lockRetryLimit attempts = true)
    (machineId : String) (players : List PlayerInfo) :
    onClientDisconnectedImpl attempts (some machineId) players = removeUpdate machineId players :=
  if_pos acquired

theorem onClientDisconnectedImpl_of_refused (refused : ¬ acquires lockRetryLimit attempts = true)
    (machineId : Option String) (players : List PlayerInfo) :
    onClientDisconnectedImpl attempts machineId players = players := by
  cases machineId with
  | none => rfl
  | some machineId => exact if_neg refused

end Lock

/-! ## The machine ids of the list -/

def machineIds (players : List PlayerInfo) : List String := players.map PlayerInfo.machineId

@[simp] theorem machineIds_nil : machineIds [] = [] := rfl

@[simp] theorem machineIds_cons (player : PlayerInfo) (players : List PlayerInfo) :
    machineIds (player :: players) = player.machineId :: machineIds players := rfl

@[simp] theorem machineIds_append (players others : List PlayerInfo) :
    machineIds (players ++ others) = machineIds players ++ machineIds others :=
  List.map_append

theorem mem_machineIds {machineId : String} {players : List PlayerInfo} :
    machineId ∈ machineIds players ↔ ∃ player ∈ players, player.machineId = machineId :=
  List.mem_map

/-- A ping adds its machine id at the end if it is new. -/
theorem machineIds_pingUpdate (info : PlayerInfo) (players : List PlayerInfo) :
    machineIds (pingUpdate info players) =
      if info.machineId ∈ machineIds players then machineIds players
      else machineIds players ++ [info.machineId] := by
  induction players with
  | nil => simp [pingUpdate]
  | cons existing later inductionHypothesis =>
      rw [pingUpdate]
      by_cases same : existing.machineId = info.machineId
      · simp [same]
      · have different : info.machineId ≠ existing.machineId := fun equal => same equal.symm
        rw [if_neg same, machineIds_cons, inductionHypothesis, machineIds_cons]
        by_cases present : info.machineId ∈ machineIds later
        · rw [if_pos present, if_pos (List.mem_cons_of_mem _ present)]
        · rw [if_neg present, if_neg fun listed => (List.mem_cons.mp listed).elim different present]
          rfl

theorem mem_machineIds_pingUpdate {info : PlayerInfo} {players : List PlayerInfo}
    {machineId : String} :
    machineId ∈ machineIds (pingUpdate info players) ↔
      machineId ∈ machineIds players ∨ machineId = info.machineId := by
  rw [machineIds_pingUpdate]
  split
  · next present =>
      constructor
      · exact Or.inl
      · rintro (listed | rfl)
        · exact listed
        · exact present
  · rw [List.mem_append, List.mem_singleton]

theorem removeUpdate_sublist (machineId : String) (players : List PlayerInfo) :
    (removeUpdate machineId players).Sublist players := by
  induction players with
  | nil => exact List.Sublist.refl []
  | cons existing later inductionHypothesis =>
      rw [removeUpdate]
      split
      · split
        · exact List.Sublist.refl _
        · exact List.sublist_cons_self _ _
      · exact inductionHypothesis.cons_cons existing

/-- A removal affects no other machine id. -/
theorem mem_machineIds_removeUpdate {removed machineId : String} (different : machineId ≠ removed)
    {players : List PlayerInfo} :
    machineId ∈ machineIds (removeUpdate removed players) ↔ machineId ∈ machineIds players := by
  induction players with
  | nil => rfl
  | cons existing later inductionHypothesis =>
      rw [removeUpdate]
      by_cases same : existing.machineId = removed
      · rw [if_pos same]
        split
        · rfl
        · rw [machineIds_cons, List.mem_cons, same]
          exact ⟨Or.inr, fun either => either.resolve_left different⟩
      · rw [if_neg same, machineIds_cons, machineIds_cons, List.mem_cons, List.mem_cons,
          inductionHypothesis]

/-- A removal that finds the host changes nothing. -/
theorem removeUpdate_host {machineId : String} {players : List PlayerInfo} {player : PlayerInfo}
    (found : players.find? (fun player => player.machineId == machineId) = some player)
    (host : player.kind = .host) : removeUpdate machineId players = players := by
  induction players with
  | nil => rfl
  | cons existing later inductionHypothesis =>
      rw [removeUpdate]
      by_cases same : existing.machineId = machineId
      · rw [List.find?_cons_of_pos (by simpa using same), Option.some.injEq] at found
        rw [if_pos same, if_pos (found ▸ host)]
      · rw [List.find?_cons_of_neg (by simpa using same)] at found
        rw [if_neg same, inductionHypothesis found]

/-! ## The guests of the list -/

/-- No guest repeats the machine id of an entry before it.  A host entry may: it is
appended without a look at the list. -/
def NoGuestRepeats (players : List PlayerInfo) : Prop :=
  players.Pairwise fun earlier later =>
    later.kind = .guest → earlier.machineId ≠ later.machineId

namespace NoGuestRepeats

variable {players : List PlayerInfo}

theorem nil : NoGuestRepeats [] := List.Pairwise.nil

theorem concat {player : PlayerInfo} (before : NoGuestRepeats players)
    (new : player.kind = .guest → player.machineId ∉ machineIds players) :
    NoGuestRepeats (players ++ [player]) := by
  refine List.pairwise_append.mpr ⟨before, List.pairwise_singleton _ _, ?_⟩
  intro earlier listed later single guest same
  rw [List.mem_singleton] at single
  subst single
  exact new guest (mem_machineIds.mpr ⟨earlier, listed, same⟩)

end NoGuestRepeats

/-- A guest is the entry found under its machine id. -/
theorem NoGuestRepeats.find?_guest {players : List PlayerInfo} (before : NoGuestRepeats players)
    {player : PlayerInfo} (listed : player ∈ players) (guest : player.kind = .guest) :
    players.find? (fun entry => entry.machineId == player.machineId) = some player := by
  induction players with
  | nil => exact absurd listed List.not_mem_nil
  | cons first later inductionHypothesis =>
      rcases List.pairwise_cons.mp before with ⟨ahead, rest⟩
      rcases List.mem_cons.mp listed with rfl | inside
      · exact List.find?_cons_of_pos (by simp)
      · rw [List.find?_cons_of_neg (by simpa using ahead player inside guest)]
        exact inductionHypothesis rest inside

/-- An entry after a ping is the pinged one or has the machine id and the kind of an
entry before it. -/
theorem mem_pingUpdate {info player : PlayerInfo} {players : List PlayerInfo}
    (listed : player ∈ pingUpdate info players) :
    (∃ before ∈ players, before.machineId = player.machineId ∧ before.kind = player.kind) ∨
      player.machineId = info.machineId ∧ player.kind = .guest := by
  induction players with
  | nil =>
      rw [pingUpdate, List.mem_singleton] at listed
      exact Or.inr (by rw [listed]; exact ⟨rfl, rfl⟩)
  | cons existing later inductionHypothesis =>
      rw [pingUpdate] at listed
      split at listed
      · rcases List.mem_cons.mp listed with rfl | listed
        · exact Or.inl ⟨existing, List.mem_cons_self, rfl, rfl⟩
        · exact Or.inl ⟨player, List.mem_cons_of_mem _ listed, rfl, rfl⟩
      · rcases List.mem_cons.mp listed with rfl | listed
        · exact Or.inl ⟨player, List.mem_cons_self, rfl, rfl⟩
        · rcases inductionHypothesis listed with ⟨before, inside, same⟩ | new
          · exact Or.inl ⟨before, List.mem_cons_of_mem _ inside, same⟩
          · exact Or.inr new

theorem noGuestRepeats_pingUpdate (info : PlayerInfo) {players : List PlayerInfo}
    (before : NoGuestRepeats players) : NoGuestRepeats (pingUpdate info players) := by
  induction players with
  | nil => exact List.pairwise_singleton _ _
  | cons existing later inductionHypothesis =>
      rcases List.pairwise_cons.mp before with ⟨first, rest⟩
      rw [pingUpdate]
      split
      · exact List.pairwise_cons.mpr ⟨first, rest⟩
      · next different =>
          refine List.pairwise_cons.mpr ⟨?_, inductionHypothesis rest⟩
          intro player listed guest same
          rcases mem_pingUpdate listed with ⟨entry, inside, ids, kinds⟩ | ⟨ids, _⟩
          · exact first entry inside (kinds.trans guest) (same.trans ids.symm)
          · exact different (same.trans ids)

theorem noGuestRepeats_removeUpdate (machineId : String) {players : List PlayerInfo}
    (before : NoGuestRepeats players) : NoGuestRepeats (removeUpdate machineId players) :=
  before.sublist (removeUpdate_sublist machineId players)

/-- Where no guest repeats a machine id, a removal leaves no guest with its id. -/
theorem removeUpdate_no_guest {machineId : String} {players : List PlayerInfo}
    (before : NoGuestRepeats players) {player : PlayerInfo}
    (listed : player ∈ removeUpdate machineId players) (guest : player.kind = .guest) :
    player.machineId ≠ machineId := by
  induction players with
  | nil => exact absurd listed List.not_mem_nil
  | cons existing later inductionHypothesis =>
      rcases List.pairwise_cons.mp before with ⟨first, rest⟩
      rw [removeUpdate] at listed
      split at listed
      · next same =>
          have others : ∀ other ∈ later, other.kind = .guest → other.machineId ≠ machineId :=
            fun other inside kind equal => first other inside kind (same.trans equal.symm)
          split at listed
          · next host =>
              rcases List.mem_cons.mp listed with rfl | inside
              · rw [guest] at host
                cases host
              · exact others player inside guest
          · exact others player listed guest
      · next different =>
          rcases List.mem_cons.mp listed with rfl | inside
          · exact different
          · exact inductionHypothesis rest inside

theorem noGuestRepeats_onPlayerPingImpl (attempts : Nat → Bool) (info : PlayerInfo)
    {players : List PlayerInfo} (before : NoGuestRepeats players) :
    NoGuestRepeats (onPlayerPingImpl attempts info players) := by
  rw [onPlayerPingImpl, withPlayersWrite]
  split
  · exact noGuestRepeats_pingUpdate info before
  · exact before

theorem noGuestRepeats_onClientDisconnectedImpl (attempts : Nat → Bool)
    (machineId : Option String) {players : List PlayerInfo} (before : NoGuestRepeats players) :
    NoGuestRepeats (onClientDisconnectedImpl attempts machineId players) := by
  cases machineId with
  | none => exact before
  | some machineId =>
      rw [onClientDisconnectedImpl, withPlayersWrite]
      split
      · exact noGuestRepeats_removeUpdate machineId before
      · exact before

theorem onClientDisconnectedImpl_sublist (attempts : Nat → Bool) (machineId : Option String)
    (players : List PlayerInfo) :
    (onClientDisconnectedImpl attempts machineId players).Sublist players := by
  cases machineId with
  | none => exact List.Sublist.refl players
  | some machineId =>
      rw [onClientDisconnectedImpl, withPlayersWrite]
      split
      · exact removeUpdate_sublist machineId players
      · exact List.Sublist.refl players

/-- A consumed message leaves no guest with its machine id, if the removal of a guest
obtains the lock. -/
theorem no_guest_of_consumed {attempts : Nat → Bool} {message : String}
    {players : List PlayerInfo} (before : NoGuestRepeats players) (nonempty : message ≠ "")
    (acquired : ∀ player ∈ players.find? (fun player => player.machineId == message),
      player.kind = .guest → acquires lockRetryLimit attempts = true)
    {player : PlayerInfo}
    (listed : player ∈ onClientDisconnectedImpl attempts (disconnectedMachine message) players)
    (guest : player.kind = .guest) : player.machineId ≠ message := by
  rw [disconnectedMachine, if_neg (by simpa using nonempty), onClientDisconnectedImpl,
    withPlayersWrite] at listed
  split at listed
  · exact removeUpdate_no_guest before listed guest
  · next refused =>
      rintro rfl
      exact refused (acquired player (before.find?_guest listed guest) guest)

/-! ## The host entries of the list -/

def hostCount (players : List PlayerInfo) : Nat :=
  players.countP fun player => player.kind == .host

/-- The machine ids are pairwise distinct and at most one entry is a host. -/
def WellListed (players : List PlayerInfo) : Prop :=
  (machineIds players).Nodup ∧ hostCount players ≤ 1

instance (players : List PlayerInfo) : Decidable (WellListed players) :=
  inferInstanceAs (Decidable (_ ∧ _))

/-- Distinct machine ids, and no host entry under another id than the host's. -/
structure HostOnlyAs (machineId : String) (players : List PlayerInfo) : Prop where
  distinct : (machineIds players).Nodup
  hosts : ∀ player ∈ players, player.kind = .host → player.machineId = machineId

namespace HostOnlyAs

variable {machineId : String} {players : List PlayerInfo}

theorem nil (machineId : String) : HostOnlyAs machineId [] :=
  ⟨List.nodup_nil, fun _ listed => absurd listed List.not_mem_nil⟩

theorem sublist {fewer : List PlayerInfo} (before : HostOnlyAs machineId players)
    (sub : fewer.Sublist players) : HostOnlyAs machineId fewer :=
  ⟨(sub.map PlayerInfo.machineId).nodup before.distinct,
    fun player listed => before.hosts player (sub.subset listed)⟩

theorem hostCount_le (before : HostOnlyAs machineId players) : hostCount players ≤ 1 := by
  induction players with
  | nil => exact Nat.zero_le 1
  | cons first later inductionHypothesis =>
      have rest := before.sublist (List.sublist_cons_self first later)
      rw [hostCount, List.countP_cons]
      split
      · next isHost =>
          have alone : later.countP (fun player => player.kind == .host) = 0 := by
            rw [List.countP_eq_zero]
            intro player listed alsoHost
            have distinct := before.distinct
            rw [machineIds_cons, List.nodup_cons] at distinct
            refine distinct.1 (mem_machineIds.mpr ⟨player, listed, ?_⟩)
            rw [before.hosts first List.mem_cons_self (by simpa using isHost)]
            exact before.hosts player (List.mem_cons_of_mem _ listed) (by simpa using alsoHost)
          exact Nat.le_of_eq (congrArg (· + 1) alone)
      · exact inductionHypothesis rest

theorem wellListed (before : HostOnlyAs machineId players) : WellListed players :=
  ⟨before.distinct, before.hostCount_le⟩

theorem pingUpdate (before : HostOnlyAs machineId players) (info : PlayerInfo) :
    HostOnlyAs machineId (pingUpdate info players) where
  distinct := by
    rw [machineIds_pingUpdate]
    split
    · exact before.distinct
    · next absent =>
        rw [List.nodup_append]
        refine ⟨before.distinct, List.pairwise_singleton _ _, ?_⟩
        rintro id listed other single rfl
        exact absent (List.mem_singleton.mp single ▸ listed)
  hosts player listed host := by
    rcases mem_pingUpdate listed with ⟨earlier, present, id, kind⟩ | ⟨_, guest⟩
    · rw [← id]
      exact before.hosts earlier present (kind.trans host)
    · rw [guest] at host
      cases host

/-- Pings and disconnections keep the list as it should be. -/
theorem apply (before : HostOnlyAs machineId players) (update : PlayerUpdate) :
    HostOnlyAs machineId (update.apply players) := by
  cases update with
  | ping attempts info =>
      rw [PlayerUpdate.apply, onPlayerPingImpl, withPlayersWrite]
      split
      · exact before.pingUpdate info
      · exact before
  | disconnected attempts removed =>
      exact before.sublist (onClientDisconnectedImpl_sublist attempts removed players)

/-- So does the host's own entry where its machine id is not taken. -/
theorem enlist {player : PlayerInfo} (before : HostOnlyAs machineId players)
    (own : player.machineId = machineId) (free : machineId ∉ machineIds players) :
    HostOnlyAs machineId (players ++ [player]) where
  distinct := by
    rw [machineIds_append, List.nodup_append]
    refine ⟨before.distinct, List.pairwise_singleton _ _, ?_⟩
    rintro id listed other single rfl
    rw [List.mem_singleton.mp single, own] at listed
    exact free listed
  hosts entry listed host := by
    rcases List.mem_append.mp listed with earlier | new
    · exact before.hosts entry earlier host
    · rw [List.mem_singleton.mp new]
      exact own

end HostOnlyAs

/-- An entry appended under a machine id that is taken repeats it. -/
theorem not_wellListed_append {player : PlayerInfo} {players : List PlayerInfo}
    (taken : player.machineId ∈ machineIds players) : ¬ WellListed (players ++ [player]) := by
  rintro ⟨distinct, _⟩
  rw [machineIds_append, List.nodup_append] at distinct
  exact distinct.2.2 _ taken _ (List.mem_singleton_self _) rfl

end Center
end QomicexConnector
