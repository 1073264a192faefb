import QomicexConnector.Library.LabelledRun
import QomicexConnector.Library.Notify

namespace QomicexConnector

open Library

/-!
# Cancellation tokens

`util.rs`.  The clones of a token share one `TokenState`, and the calls of `cancel` and of
`cancelled` on them go on side by side: here a call goes from one access to the shared state to
the next, and any other call may come in between.  A future of `cancelled` may be dropped where
it is not running, before its first poll or at its `await`.

`cancel` sets the flag before it notifies, and `cancelled` asks for its future before it looks at
the flag for the last time.  So a call that begins to wait has its future from before any
`notify_waiters` that the cancellation is still to make.

Other models of this development have a token as its flag alone, and a branch that waits for it
may be taken as soon as the flag is set.  By the results below no call returns earlier than that,
and none is held up once a `cancel` has finished.
-/

structure TokenState (State : Type) where
  cancelled : Bool
  notify : State
  deriving DecidableEq

/-- Where a call of `cancel` stands. -/
inductive CancelPhase where
  | called
  | stored
  | finished
  deriving DecidableEq

/-- Where a call of `cancelled` stands. -/
inductive CancelledPhase (Future : Type) where
  | called
  | unset
  | created (notified : Future)
  | suspended (notified : Future)
  | returned
  | dropped
  deriving DecidableEq

/-- A token with the calls on its clones, in the order in which they were made. -/
structure SharedToken (State Future : Type) where
  token : TokenState State
  cancels : List CancelPhase
  waits : List (CancelledPhase Future)
  deriving DecidableEq

/-- The steps of the calls, which are numbered in their order. -/
inductive TokenStep where
  | cancel
  | wait
  | advanceCancel (i : Nat)
  | advanceWait (i : Nat)
  | drop (i : Nat)
  deriving DecidableEq

section Steps

variable {State Future : Type} (notify : Notify State Future)

def TokenState.new : TokenState State := ⟨false, notify.new⟩

def TokenState.isCancelled (token : TokenState State) : Bool := token.cancelled

def SharedToken.new : SharedToken State Future := ⟨.new notify, [], []⟩

/-- `cancel`. -/
def CancelPhase.advance (token : TokenState State) :
    CancelPhase → Option (CancelPhase × TokenState State)
  | .called => some (.stored, { token with cancelled := true })
  | .stored => some (.finished, { token with notify := notify.notifyWaiters token.notify })
  | .finished => none

/-- `cancelled`; the await goes on only when its future is woken. -/
def CancelledPhase.advance (token : TokenState State) :
    CancelledPhase Future → Option (CancelledPhase Future × TokenState State)
  | .called => if token.isCancelled then some (.returned, token) else some (.unset, token)
  | .unset =>
      match notify.notified token.notify with
      | (after, notified) => some (.created notified, { token with notify := after })
  | .created notified =>
      if token.isCancelled then some (.returned, token) else some (.suspended notified, token)
  | .suspended notified =>
      if notify.woken token.notify notified then some (.returned, token) else none
  | .returned | .dropped => none

/-- The future of a call is not running. -/
def CancelledPhase.atRest : CancelledPhase Future → Bool
  | .called | .suspended _ => true
  | .unset | .created _ | .returned | .dropped => false

def tokenStep (state : SharedToken State Future) : TokenStep → Option (SharedToken State Future)
  | .cancel => some { state with cancels := state.cancels ++ [.called] }
  | .wait => some { state with waits := state.waits ++ [.called] }
  | .advanceCancel i =>
      match state.cancels[i]? with
      | some phase =>
          (phase.advance notify state.token).map fun next =>
            { state with token := next.2, cancels := state.cancels.set i next.1 }
      | none => none
  | .advanceWait i =>
      match state.waits[i]? with
      | some phase =>
          (phase.advance notify state.token).map fun next =>
            { state with token := next.2, waits := state.waits.set i next.1 }
      | none => none
  | .drop i =>
      match state.waits[i]? with
      | some phase =>
          if phase.atRest then some { state with waits := state.waits.set i .dropped } else none
      | none => none

end Steps

/-! ## What the calls have asked of the notification -/

def CancelPhase.notifyCalls : CancelPhase → List NotifyCall
  | .stored => [.notifyWaiters]
  | .called | .finished => []

def CancelledPhase.notifyCalls {Future : Type} : CancelledPhase Future → List NotifyCall
  | .unset => [.notified]
  | .called | .created _ | .suspended _ | .returned | .dropped => []

theorem CancelledPhase.notifyWaiters_not_mem_notifyCalls {Future : Type}
    (phase : CancelledPhase Future) : .notifyWaiters ∉ phase.notifyCalls := by
  cases phase <;> simp [CancelledPhase.notifyCalls]

def TokenStep.notifyCalls {State Future : Type} (state : SharedToken State Future) :
    TokenStep → List NotifyCall
  | .advanceCancel i => (state.cancels[i]?.map CancelPhase.notifyCalls).getD []
  | .advanceWait i => (state.waits[i]?.map CancelledPhase.notifyCalls).getD []
  | .cancel | .wait | .drop _ => []

section Invariant

variable {State Future : Type} (notify : Notify State Future)

/-- What holds of a call of `cancelled`, by where it stands, after these calls of the
notification.  One that is suspended has its future from before the notification of every
cancellation that is finished. -/
def CancelledPhase.Sound (calls : List NotifyCall) (cancelled : Bool)
    (cancels : List CancelPhase) : CancelledPhase Future → Prop
  | .called | .unset | .dropped => True
  | .created notified => ∃ later, notify.HandedOut calls notified later
  | .suspended notified => ∃ later, notify.HandedOut calls notified later ∧
      (.finished ∈ cancels → .notifyWaiters ∈ later)
  | .returned => cancelled = true

/-- The flag is set before anybody is notified, and every call of `cancelled` is in order. -/
structure WakesAll (calls : List NotifyCall) (state : SharedToken State Future) : Prop where
  asked : state.token.notify = notify.after calls
  notified : .notifyWaiters ∈ calls → state.token.cancelled = true
  cancels : ∀ phase ∈ state.cancels, phase ≠ .called → state.token.cancelled = true
  waits : ∀ phase ∈ state.waits, phase.Sound notify calls state.token.cancelled state.cancels

variable {notify} {calls : List NotifyCall} {state next : SharedToken State Future}

theorem wakesAll_new : WakesAll notify [] (SharedToken.new notify) where
  asked := rfl
  notified none := absurd none List.not_mem_nil
  cancels _ none := absurd none List.not_mem_nil
  waits _ none := absurd none List.not_mem_nil

/-- What has been found of a call stays true: a cancellation that finishes notifies first. -/
theorem CancelledPhase.Sound.mono {phase : CancelledPhase Future} {set setNext : Bool}
    {cancels cancelsNext : List CancelPhase} (sound : phase.Sound notify calls set cancels)
    {more : List NotifyCall} (kept : set = true → setNext = true)
    (finished : .finished ∈ cancelsNext → .finished ∈ cancels ∨ .notifyWaiters ∈ more) :
    phase.Sound notify (calls ++ more) setNext cancelsNext := by
  cases phase with
  | called => trivial
  | unset => trivial
  | dropped => trivial
  | created notified =>
      rcases sound with ⟨later, handed⟩
      exact ⟨later ++ more, handed.append more⟩
  | suspended notified =>
      rcases sound with ⟨later, handed, woken⟩
      refine ⟨later ++ more, handed.append more, fun ends => ?_⟩
      apply List.mem_append.mpr
      exact (finished ends).imp_left woken
  | returned => exact kept sound

/-- A call of `cancel` goes on. -/
theorem WakesAll.advanceCancel (wakes : WakesAll notify calls state)
    {phase after : CancelPhase} (listed : phase ∈ state.cancels) {token : TokenState State}
    (taken : phase.advance notify state.token = some (after, token)) :
    token.cancelled = true ∧ token.notify = notify.after (calls ++ phase.notifyCalls) ∧
      (after = .finished → .notifyWaiters ∈ phase.notifyCalls) := by
  cases phase with
  | called =>
      cases taken
      rw [CancelPhase.notifyCalls, List.append_nil, ← wakes.asked]
      exact ⟨rfl, rfl, nofun⟩
  | stored =>
      cases taken
      rw [CancelPhase.notifyCalls, Notify.after_concat, ← wakes.asked]
      exact ⟨wakes.cancels .stored listed nofun, rfl, fun _ => List.mem_singleton_self _⟩
  | finished => cases taken

/-- A call of `cancelled` goes on. -/
theorem WakesAll.advanceWait (laws : notify.WakesEarlier) (wakes : WakesAll notify calls state)
    {phase after : CancelledPhase Future} (listed : phase ∈ state.waits)
    {token : TokenState State}
    (taken : phase.advance notify state.token = some (after, token)) :
    token.cancelled = state.token.cancelled ∧
      token.notify = notify.after (calls ++ phase.notifyCalls) ∧
      after.Sound notify (calls ++ phase.notifyCalls) state.token.cancelled state.cancels := by
  have sound := wakes.waits phase listed
  cases phase with
  | called =>
      rw [CancelledPhase.advance] at taken
      rw [CancelledPhase.notifyCalls, List.append_nil, ← wakes.asked]
      split at taken
      · next set =>
          cases taken
          exact ⟨rfl, rfl, set⟩
      · cases taken
        exact ⟨rfl, rfl, trivial⟩
  | unset =>
      cases taken
      rw [CancelledPhase.notifyCalls, Notify.after_concat, ← wakes.asked]
      refine ⟨rfl, rfl, [], ?_⟩
      rw [wakes.asked]
      exact Notify.handedOut_last calls
  | created notified =>
      rw [CancelledPhase.advance] at taken
      rw [CancelledPhase.notifyCalls, List.append_nil, ← wakes.asked]
      split at taken
      · next set =>
          cases taken
          exact ⟨rfl, rfl, set⟩
      · next unset =>
          cases taken
          rcases sound with ⟨later, handed⟩
          refine ⟨rfl, rfl, later, handed, fun finished => ?_⟩
          -- the flag is not set, so no cancellation is finished
          have set := wakes.cancels .finished finished nofun
          exact absurd set unset
  | suspended notified =>
      rw [CancelledPhase.advance] at taken
      rw [CancelledPhase.notifyCalls, List.append_nil, ← wakes.asked]
      split at taken
      · next woken =>
          cases taken
          rcases sound with ⟨later, handed, _⟩
          rw [wakes.asked] at woken
          have made := (laws.woken_iff_of_handedOut handed).mp woken
          exact ⟨rfl, rfl, wakes.notified (handed.mem made)⟩
      · cases taken
  | returned => cases taken
  | dropped => cases taken

/-- Every step keeps the calls in order. -/
theorem WakesAll.step (laws : notify.WakesEarlier) (wakes : WakesAll notify calls state)
    {label : TokenStep} (taken : tokenStep notify state label = some next) :
    WakesAll notify (calls ++ label.notifyCalls state) next := by
  cases label with
  | cancel =>
      cases taken
      rw [TokenStep.notifyCalls, List.append_nil]
      refine ⟨wakes.asked, wakes.notified, ?_, ?_⟩
      · intro phase listed begun
        rcases List.mem_append.mp listed with old | new
        · exact wakes.cancels phase old begun
        · exact absurd (List.mem_singleton.mp new) begun
      · intro phase listed
        rw [← List.append_nil calls]
        apply (wakes.waits phase listed).mono id
        simp
  | wait =>
      cases taken
      rw [TokenStep.notifyCalls, List.append_nil]
      refine ⟨wakes.asked, wakes.notified, wakes.cancels, ?_⟩
      intro phase listed
      rcases List.mem_append.mp listed with old | new
      · exact wakes.waits phase old
      · rw [List.mem_singleton.mp new]
        trivial
  | drop i =>
      simp only [tokenStep] at taken
      split at taken
      · next phase listed =>
          split at taken
          · cases taken
            rw [TokenStep.notifyCalls, List.append_nil]
            refine ⟨wakes.asked, wakes.notified, wakes.cancels, ?_⟩
            intro other member
            rcases List.mem_or_eq_of_mem_set member with old | rfl
            · exact wakes.waits other old
            · trivial
          · cases taken
      · cases taken
  | advanceCancel i =>
      simp only [tokenStep] at taken
      split at taken
      · next phase listed =>
          rcases Option.map_eq_some_iff.mp taken with ⟨⟨after, token⟩, advanced, rfl⟩
          have ⟨set, asked, finishes⟩ := wakes.advanceCancel (List.mem_of_getElem? listed) advanced
          rw [TokenStep.notifyCalls, listed, Option.map_some, Option.getD_some]
          refine ⟨asked, fun _ => set, fun _ _ _ => set, ?_⟩
          intro wait member
          apply (wakes.waits wait member).mono fun _ => set
          intro finished
          rcases List.mem_or_eq_of_mem_set finished with old | new
          · exact Or.inl old
          · exact Or.inr (finishes new.symm)
      · cases taken
  | advanceWait i =>
      simp only [tokenStep] at taken
      split at taken
      · next phase listed =>
          rcases Option.map_eq_some_iff.mp taken with ⟨⟨after, token⟩, advanced, rfl⟩
          have ⟨same, asked, sound⟩ :=
            wakes.advanceWait laws (List.mem_of_getElem? listed) advanced
          rw [TokenStep.notifyCalls, listed, Option.map_some, Option.getD_some]
          refine ⟨asked, ?_, ?_, ?_⟩
          · intro made
            have earlier : .notifyWaiters ∈ calls :=
              (List.mem_append.mp made).resolve_right phase.notifyWaiters_not_mem_notifyCalls
            exact same.trans (wakes.notified earlier)
          · exact fun other member begun => same.trans (wakes.cancels other member begun)
          · intro other member
            rcases List.mem_or_eq_of_mem_set member with old | rfl
            · apply (wakes.waits other old).mono same.trans
              exact Or.inl
            · exact same.symm ▸ sound
      · cases taken

/-- A finished cancellation has notified the calls that are suspended. -/
theorem WakesAll.woken (laws : notify.WakesEarlier) (wakes : WakesAll notify calls state)
    (finished : .finished ∈ state.cancels) {notified : Future}
    (suspended : .suspended notified ∈ state.waits) :
    notify.woken state.token.notify notified = true := by
  rcases wakes.waits _ suspended with ⟨later, handed, made⟩
  rw [wakes.asked]
  exact (laws.woken_iff_of_handedOut handed).mpr (made finished)

end Invariant

/-! ## Every run -/

section Runs

variable {State Future : Type} {notify : Notify State Future} {labels : List TokenStep}
  {final : SharedToken State Future}

theorem wakesAll_of_run (laws : notify.WakesEarlier)
    (reached : run (tokenStep notify) (.new notify) labels = some final) :
    WakesAll notify (emitted (tokenStep notify) TokenStep.notifyCalls (.new notify) labels)
      final := by
  apply history_invariant (fun past state =>
    WakesAll notify (emitted (tokenStep notify) TokenStep.notifyCalls (.new notify) past) state)
    wakesAll_new ?_ reached
  intro past state label next arrived wakes taken
  rw [emitted_concat arrived]
  exact wakes.step laws taken

/-- When a `cancel` has finished, every call of `cancelled` that is suspended has been notified,
and no call of `cancelled` returns before the flag is set. -/
theorem no_lost_wakeup (laws : notify.WakesEarlier)
    (reached : run (tokenStep notify) (.new notify) labels = some final) :
    (.finished ∈ final.cancels → ∀ notified, .suspended notified ∈ final.waits →
      notify.woken final.token.notify notified = true) ∧
    (.returned ∈ final.waits → final.token.isCancelled = true) := by
  have wakes := wakesAll_of_run laws reached
  constructor
  · intro finished notified suspended
    exact wakes.woken laws finished suspended
  · intro returned
    exact wakes.waits .returned returned

/-- Two calls: one is suspended when the token is cancelled, and one comes after that. -/
def cancelledWhileSuspended : List TokenStep :=
  [.wait, .advanceWait 0, .advanceWait 0, .advanceWait 0, .cancel, .advanceCancel 0,
    .advanceCancel 0, .wait, .advanceWait 1]

theorem no_lost_wakeup_sample :
    ∃ final : SharedToken Nat Nat,
      run (tokenStep Notify.counting) (.new Notify.counting) cancelledWhileSuspended =
        some final ∧
      final.waits = [.suspended 0, .returned] ∧
      Notify.counting.woken final.token.notify 0 = true ∧ final.token.isCancelled = true := by
  have reached : run (tokenStep Notify.counting) (.new Notify.counting) cancelledWhileSuspended =
      some ⟨⟨true, 1⟩, [.finished], [.suspended 0, .returned]⟩ := by decide
  have ⟨woken, set⟩ := no_lost_wakeup Notify.counting_wakesEarlier reached
  exact ⟨_, reached, rfl, woken (by decide) 0 (by decide), set (by decide)⟩

/-- The steps of its own that a call takes at most, once the flag is set. -/
def CancelledPhase.stepsLeft : CancelledPhase Future → Nat
  | .unset => 2
  | .called | .created _ | .suspended _ => 1
  | .returned | .dropped => 0

/-- After a `cancel` no call of `cancelled` is held up: each of its steps brings it nearer to its
return. -/
theorem cancelled_goes_on (laws : notify.WakesEarlier)
    (reached : run (tokenStep notify) (.new notify) labels = some final)
    (finished : .finished ∈ final.cancels) {phase : CancelledPhase Future}
    (listed : phase ∈ final.waits) :
    phase = .returned ∨ phase = .dropped ∨ ∃ after token,
      phase.advance notify final.token = some (after, token) ∧
      after ≠ .dropped ∧ after.stepsLeft + 1 = phase.stepsLeft := by
  have wakes := wakesAll_of_run laws reached
  have set := wakes.cancels .finished finished nofun
  cases phase with
  | returned => exact Or.inl rfl
  | dropped => exact Or.inr (Or.inl rfl)
  | called => exact Or.inr (Or.inr ⟨.returned, final.token, if_pos set, nofun, rfl⟩)
  | unset => exact Or.inr (Or.inr ⟨_, _, rfl, nofun, rfl⟩)
  | created notified => exact Or.inr (Or.inr ⟨.returned, final.token, if_pos set, nofun, rfl⟩)
  | suspended notified =>
      have woken := wakes.woken laws finished listed
      exact Or.inr (Or.inr ⟨.returned, final.token, if_pos woken, nofun, rfl⟩)

end Runs

end QomicexConnector
