import QomicexConnector.Library.WatchChannel

namespace QomicexConnector
namespace Guest

open Library

/-!
# Telling the caller that the connection is lost

The heartbeat loops of a guest and the channel of `connection_lost_rx`.  Only `true` is
ever sent to the channel: by `on_failed` when the callback has returned an error, which
ends the loop, and by a callback or a `send_player_ping` that finds no stream.  Nobody
sends it again later.

So a loss is known exactly if one of the sendings up to then found a receiver.
-/

/-- Where a task running `HeartbeatService::run` stands: in its `select!`, in the
callback before and after the test for a stream, or at its end. -/
inductive BeatPhase where
  | selecting
  | checking
  | reporting
  | pinging
  | failing
  | failed
  | cancelled
  deriving DecidableEq

/-- `unreported` counts the calls of `send_player_ping` that have found no stream and
not yet sent the notice. -/
structure LinkMonitor where
  connected : Bool
  connectionLost : Watch Bool
  beats : List BeatPhase
  unreported : Nat
  deriving DecidableEq

/-- `ScaffoldingGuest::new` keeps the sending half of the channel only. -/
def LinkMonitor.new : LinkMonitor := ⟨false, Watch.sender false, [], 0⟩

inductive LinkStep where
  | connected
  | disconnected
  | pingUnconnected
  | reportUnconnected
  | startHeartbeat
  | tick (i : Nat)
  | check (i : Nat)
  | report (i : Nat)
  | pinged (i : Nat)
  | pingFailed (i : Nat)
  | onFailed (i : Nat)
  | cancel (i : Nat)
  | connectionLostRx
  | dropReceiver

/-- The task goes on from one phase to another, if it is there. -/
def LinkMonitor.advance (link : LinkMonitor) (i : Nat) (before after : BeatPhase) :
    Option LinkMonitor :=
  if link.beats[i]? = some before then some { link with beats := link.beats.set i after } else none

def LinkMonitor.sendLost (link : LinkMonitor) : LinkMonitor :=
  { link with connectionLost := link.connectionLost.send true }

def linkStep (link : LinkMonitor) : LinkStep → Option LinkMonitor
  | .connected => some { link with connected := true }
  | .disconnected => some { link with connected := false }
  | .pingUnconnected =>
      if link.connected then none else some { link with unreported := link.unreported + 1 }
  | .reportUnconnected =>
      if 0 < link.unreported then
        some { link.sendLost with unreported := link.unreported - 1 }
      else none
  | .startHeartbeat => some { link with beats := link.beats ++ [.selecting] }
  | .tick i => link.advance i .selecting .checking
  | .check i => link.advance i .checking (if link.connected then .pinging else .reporting)
  | .report i => (link.advance i .reporting .selecting).map LinkMonitor.sendLost
  | .pinged i => link.advance i .pinging .selecting
  | .pingFailed i => link.advance i .pinging .failing
  | .onFailed i => (link.advance i .failing .failed).map LinkMonitor.sendLost
  | .cancel i => link.advance i .selecting .cancelled
  | .connectionLostRx => some { link with connectionLost := link.connectionLost.subscribe }
  | .dropReceiver =>
      if 0 < link.connectionLost.receivers then
        some { link with connectionLost := link.connectionLost.dropReceiver }
      else none

/-- What a step does to the channel. -/
def linkOp (_link : LinkMonitor) : LinkStep → Option (WatchOp Bool)
  | .reportUnconnected | .report _ | .onFailed _ => some (.send true)
  | .connectionLostRx => some .subscribe
  | .dropReceiver => some .dropReceiver
  | _ => none

theorem advance_eq_some {link next : LinkMonitor} {i : Nat} {before after : BeatPhase}
    (taken : link.advance i before after = some next) :
    link.beats[i]? = some before ∧ next = { link with beats := link.beats.set i after } := by
  rw [LinkMonitor.advance] at taken
  split at taken <;> cases taken
  exact ⟨‹_›, rfl⟩

theorem linkStep_drives : DrivesChannel linkStep LinkMonitor.connectionLost linkOp := by
  intro link label next taken
  cases label with
  | tick i | check i | pinged i | pingFailed i | cancel i =>
      rw [(advance_eq_some taken).2]
      rfl
  | report i | onFailed i =>
      rcases Option.map_eq_some_iff.mp taken with ⟨moved, advanced, rfl⟩
      rw [(advance_eq_some advanced).2]
      rfl
  | pingUnconnected | reportUnconnected | dropReceiver =>
      rw [linkStep] at taken
      split at taken <;> cases taken
      rfl
  | _ =>
      cases taken
      rfl

/-- Some notice of the run so far found a receiver. -/
def NoticeHeard (labels : List LinkStep) : Prop :=
  emitted linkStep (heardAt LinkMonitor.connectionLost linkOp) LinkMonitor.new labels ≠ []

/-- The channel shows the loss exactly if some notice found a receiver. -/
theorem lost_iff_noticeHeard {labels : List LinkStep} {link : LinkMonitor}
    (reached : run linkStep LinkMonitor.new labels = some link) :
    link.connectionLost.value = true ↔ NoticeHeard labels := by
  have single : ∀ link label sent, linkOp link label = some (.send sent) → sent = true := by
    intro link label sent op
    cases label <;> cases op
    all_goals rfl
  have shown := value_of_run_single linkStep_drives single reached
  rw [shown]
  exact ⟨fun either => either.resolve_left Bool.false_ne_true, Or.inr⟩

/-- A callback has returned an error and its loop has ended. -/
def LinkMonitor.HasFailed (link : LinkMonitor) : Prop := .failed ∈ link.beats

/-- After a failure receivers show the loss: those obtained earlier, and one that is
obtained now. -/
def LinkMonitor.LossKnown (link : LinkMonitor) : Prop :=
  link.HasFailed →
    link.connectionLost.value = true ∧ link.connectionLost.subscribe.value = true

/-- The failure of a heartbeat finds a receiver, or some notice before it did. -/
def FailureHeard (past : List LinkStep) (link : LinkMonitor) : LinkStep → Prop
  | .onFailed i => link.beats[i]? = some .failing →
      0 < link.connectionLost.receivers ∨ NoticeHeard past
  | _ => True

/-- A notice that has found a receiver is not forgotten. -/
theorem NoticeHeard.later {past : List LinkStep} {link : LinkMonitor} (heard : NoticeHeard past)
    (reached : run linkStep LinkMonitor.new past = some link) (label : LinkStep) :
    NoticeHeard (past ++ [label]) := by
  rw [NoticeHeard, emitted_concat reached]
  exact List.append_ne_nil_of_left_ne_nil heard _

/-- The notice of a failure is heard by whoever is a receiver then. -/
theorem noticeHeard_onFailed_iff {past : List LinkStep} {link : LinkMonitor}
    (reached : run linkStep LinkMonitor.new past = some link) (i : Nat) :
    NoticeHeard (past ++ [.onFailed i]) ↔
      0 < link.connectionLost.receivers ∨ NoticeHeard past := by
  rw [NoticeHeard, emitted_concat reached, heardAt, linkOp, Option.bind_some, WatchOp.heard,
    NoticeHeard]
  by_cases receiver : 0 < link.connectionLost.receivers
  · simp [receiver]
  · simp [receiver]

/-- A loop fails by its own step only. -/
theorem hasFailed_step {link next : LinkMonitor} {label : LinkStep}
    (taken : linkStep link label = some next) (failed : next.HasFailed) :
    link.HasFailed ∨ ∃ i, label = .onFailed i ∧ link.beats[i]? = some .failing := by
  have moved : ∀ {i : Nat} {before after : BeatPhase} {moved : LinkMonitor},
      link.advance i before after = some moved → after ≠ .failed → .failed ∈ moved.beats →
        link.HasFailed := by
    intro i before after moved advanced other listed
    rw [(advance_eq_some advanced).2] at listed
    exact (List.mem_or_eq_of_mem_set listed).resolve_right fun same => other same.symm
  cases label with
  | startHeartbeat =>
      cases taken
      rcases List.mem_append.mp failed with old | new
      · exact Or.inl old
      · rw [List.mem_singleton] at new
        cases new
  | tick i | pinged i | pingFailed i | cancel i =>
      exact Or.inl (moved taken BeatPhase.noConfusion failed)
  | check i =>
      refine Or.inl (moved taken ?_ failed)
      split <;> exact BeatPhase.noConfusion
  | report i =>
      rcases Option.map_eq_some_iff.mp taken with ⟨between, advanced, rfl⟩
      exact Or.inl (moved advanced BeatPhase.noConfusion failed)
  | onFailed i =>
      rcases Option.map_eq_some_iff.mp taken with ⟨between, advanced, rfl⟩
      exact Or.inr ⟨i, rfl, (advance_eq_some advanced).1⟩
  | pingUnconnected | reportUnconnected | dropReceiver =>
      rw [linkStep] at taken
      split at taken <;> cases taken
      exact Or.inl failed
  | _ =>
      cases taken
      exact Or.inl failed

/-- A failure is known to every receiver, whenever it is obtained, in every state of the
run exactly if each failure finds a receiver or some notice before it did. -/
theorem loss_known_iff (labels : List LinkStep) :
    EveryState linkStep LinkMonitor.new LinkMonitor.LossKnown labels ↔
      EveryStep linkStep LinkMonitor.new FailureHeard labels := by
  constructor
  · intro known past label later link split reached
    cases label with
    | onFailed i =>
        intro failing
        have taken : linkStep link (.onFailed i) =
            some ({ link with beats := link.beats.set i .failed }).sendLost := by
          rw [linkStep, LinkMonitor.advance, if_pos failing, Option.map_some]
        have arrived := run_concat_eq_some.mpr ⟨link, reached, taken⟩
        have inside := (List.getElem?_eq_some_iff.mp failing).1
        have shown := known (past ++ [.onFailed i]) later _ (by rw [split]; simp) arrived
        exact (noticeHeard_onFailed_iff reached i).mp ((lost_iff_noticeHeard arrived).mp
          (shown (List.mem_set inside BeatPhase.failed)).1)
    | _ => trivial
  · intro every past later final split reached
    rw [split] at every
    suffices holds : final.HasFailed → NoticeHeard past by
      intro failed
      have shown := (lost_iff_noticeHeard reached).mpr (holds failed)
      exact ⟨shown, shown⟩
    refine run_invariant (fun past link => link.HasFailed → NoticeHeard past) ?_ ?_ every.before
      reached
    · intro failed
      cases failed
    · intro before link label next arrived heard allowed taken failed
      rcases hasFailed_step taken failed with earlier | ⟨i, rfl, failing⟩
      · exact (heard earlier).later arrived label
      · exact (noticeHeard_onFailed_iff arrived i).mpr (allowed failing)

/-- The heartbeat of a connection that breaks fails before anybody asks for a receiver. -/
theorem loss_missed_by_late_receiver :
    ∃ link, run linkStep LinkMonitor.new
        [.connected, .startHeartbeat, .tick 0, .check 0, .pingFailed 0, .onFailed 0,
          .connectionLostRx] = some link ∧
      link.HasFailed ∧ 0 < link.connectionLost.receivers ∧ ¬link.LossKnown := by
  refine ⟨_, rfl, ?_, by decide, fun known => ?_⟩
  · exact List.mem_cons_self
  · exact absurd (known List.mem_cons_self).1 (by decide)

end Guest
end QomicexConnector
