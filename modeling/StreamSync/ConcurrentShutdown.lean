import StreamSync.ConcurrentReport

namespace StreamSync

open Run

namespace ReceiveThread

/-- How many steps the thread still takes at most when it is asked to stop. -/
def stepsLeft : ReceiveThread → Nat
  | receiving => 4
  | top => 3
  | finalizing _ => 2
  | shuttingDown _ => 1
  | done _ => 0

theorem stepsLeft_le (thread : ReceiveThread) : thread.stepsLeft ≤ 4 := by
  cases thread <;> exact Nat.le_of_ble_eq_true rfl

theorem stepsLeft_eq_zero {thread : ReceiveThread} (h : thread.stepsLeft = 0) :
    ∃ result, thread = done result := by
  cases thread with
  | done result => exact ⟨result, rfl⟩
  | _ => cases h

end ReceiveThread

namespace HandoffThread

def stepsLeft : HandoffThread → Nat
  | reading => 5
  | accepting => 4
  | serving _ => 4
  | connected => 3
  | writing .. => 3
  | top => 2
  | failing _ => 2
  | stopping _ => 1
  | done _ => 0
  | panicked _ => 0

theorem stepsLeft_le (thread : HandoffThread) : thread.stepsLeft ≤ 5 := by
  cases thread <;> exact Nat.le_of_ble_eq_true rfl

theorem stepsLeft_eq_zero {thread : HandoffThread} (h : thread.stepsLeft = 0) :
    (∃ reason, thread = done reason) ∨ ∃ panic, thread = panicked panic := by
  cases thread with
  | done reason => exact .inl ⟨reason, rfl⟩
  | panicked panic => exact .inr ⟨panic, rfl⟩
  | _ => cases h

end HandoffThread

namespace RuntimeEvent

def isBusy : RuntimeEvent → Bool
  | idle => false
  | _ => true

def isReceived : RuntimeEvent → Bool
  | received .. => true
  | _ => false

def isAnswered : RuntimeEvent → Bool
  | answered .. => true
  | _ => false

end RuntimeEvent

namespace RuntimeAction

def isReceive : RuntimeAction → Bool
  | receive _ => true
  | handoff _ => false

def isHandoff : RuntimeAction → Bool
  | receive _ => false
  | handoff _ => true

end RuntimeAction

/-- A thread that is asked to stop takes one of the steps that it has left, or has none. -/
structure TakesStep (stepsLeft stepsLeft' : Nat) (event : RuntimeEvent) : Prop where
  less : stepsLeft' ≤ stepsLeft - 1
  busy : event.isBusy.toNat + stepsLeft' ≤ stepsLeft

theorem TakesStep.step {stepsLeft stepsLeft' : Nat} (h : stepsLeft' < stepsLeft) (event : RuntimeEvent) :
    TakesStep stepsLeft stepsLeft' event := by
  have hone := event.isBusy.toNat_le
  exact ⟨by omega, by omega⟩

theorem TakesStep.rest : TakesStep 0 0 .idle := ⟨Nat.le_refl 0, Nat.le_refl 0⟩

section Step

variable (config : ServerRuntimeConfig) (policy : ConcurrentRuntimePolicy) (runtime : ConcurrentRuntime)

/-- After a pass of the receive loop. -/
inductive TurnGoes (stopRequested : Bool) : ConcurrentRuntime × RuntimeEvent → Prop
  | top (shared handoff requestsServed event) (hanswered : event.isAnswered = false) :
    TurnGoes stopRequested (⟨shared, stopRequested, .top, handoff, requestsServed⟩, event)
  | shuttingDown (shared result handoff requestsServed event) (hanswered : event.isAnswered = false) :
    TurnGoes stopRequested (⟨shared, stopRequested, .shuttingDown result, handoff, requestsServed⟩, event)

theorem receiveTurn_goes (input : ReceiveInput) :
    TurnGoes runtime.stopRequested (runtime.receiveTurn config policy input) := by
  unfold ConcurrentRuntime.receiveTurn
  cases input.setReadTimeout (policy.effectiveReceiveTimeout input.elapsed) with
  | error kind => exact .shuttingDown _ _ _ _ _ rfl
  | ok =>
    cases input.turn.received with
    | error kind =>
      dsimp only
      split
      next =>
        split
        next => exact .shuttingDown _ _ _ _ _ rfl
        next => exact .shuttingDown _ _ _ _ _ rfl
      next => exact .shuttingDown _ _ _ _ _ rfl
    | ok datagram =>
      dsimp only
      split
      next => exact .shuttingDown _ _ _ _ _ rfl
      next =>
        split
        next => exact .shuttingDown _ _ _ _ _ rfl
        next =>
          split
          next => exact .shuttingDown _ _ _ _ _ rfl
          next => exact .top _ _ _ _ rfl

theorem receiveStep_takesStep (hasked : runtime.stopRequested = true) (input : ReceiveInput) :
    let after := runtime.receiveStep config policy input
    after.1.stopRequested = true ∧
      TakesStep runtime.receive.stepsLeft after.1.receive.stepsLeft after.2 ∧
      (after.2.isReceived = true → 4 ≤ runtime.receive.stepsLeft ∧ after.1.receive.stepsLeft < 4) ∧
      after.2.isAnswered = false := by
  unfold ConcurrentRuntime.receiveStep
  cases hreceive : runtime.receive with
  | top =>
    dsimp only
    rw [if_pos hasked]
    exact ⟨hasked, .step (show 2 < 3 by decide) _, nofun, rfl⟩
  | finalizing reason =>
    refine ⟨hasked, .step ?_ _, nofun, rfl⟩
    dsimp only
    split
    next => exact (show 0 < 2 by decide)
    next => exact (show 1 < 2 by decide)
  | receiving =>
    have hgoes := receiveTurn_goes config policy runtime input
    dsimp only
    generalize runtime.receiveTurn config policy input = after at hgoes
    cases hgoes with
    | top shared handoff requestsServed event hanswered =>
      exact ⟨hasked, .step (show 3 < 4 by decide) _, fun _ => ⟨Nat.le_refl 4, show 3 < 4 by decide⟩, hanswered⟩
    | shuttingDown shared result handoff requestsServed event hanswered =>
      exact ⟨hasked, .step (show 1 < 4 by decide) _, fun _ => ⟨Nat.le_refl 4, show 1 < 4 by decide⟩, hanswered⟩
  | shuttingDown result => exact ⟨rfl, .step (show 0 < 1 by decide) _, nofun, rfl⟩
  | done result =>
    dsimp only
    rw [hreceive]
    exact ⟨hasked, .rest, nofun, rfl⟩

theorem handoffStep_takesStep (hasked : runtime.stopRequested = true) (input : HandoffInput) :
    let after := runtime.handoffStep policy input
    after.1.stopRequested = true ∧ after.1.receive = runtime.receive ∧
      TakesStep runtime.handoff.stepsLeft after.1.handoff.stepsLeft after.2 ∧
      (after.2.isAnswered = true → 4 ≤ runtime.handoff.stepsLeft ∧ after.1.handoff.stepsLeft < 4) ∧
      after.2.isReceived = false := by
  unfold ConcurrentRuntime.handoffStep
  cases hhandoff : runtime.handoff with
  | top =>
    dsimp only
    rw [if_pos hasked]
    exact ⟨hasked, rfl, .step (show 1 < 2 by decide) _, nofun, rfl⟩
  | accepting =>
    dsimp only
    cases input.create with
    | error kind => exact ⟨hasked, rfl, .step (show 2 < 4 by decide) _, nofun, rfl⟩
    | ok =>
      cases input.connect with
      | error kind => exact ⟨hasked, rfl, .step (show 2 < 4 by decide) _, nofun, rfl⟩
      | ok => exact ⟨hasked, rfl, .step (show 3 < 4 by decide) _, nofun, rfl⟩
  | connected =>
    dsimp only
    rw [if_pos hasked]
    exact ⟨hasked, rfl, .step (show 2 < 3 by decide) _, nofun, rfl⟩
  | reading =>
    dsimp only
    cases input.request with
    | error kind => exact ⟨hasked, rfl, .step (show 2 < 5 by decide) _, nofun, rfl⟩
    | ok frame =>
      dsimp only
      cases decodeRequestFrame frame with
      | error error => exact ⟨hasked, rfl, .step (show 2 < 5 by decide) _, nofun, rfl⟩
      | ok request => exact ⟨hasked, rfl, .step (show 4 < 5 by decide) _, nofun, rfl⟩
  | serving request =>
    dsimp only
    cases handleRequest request runtime.shared.server.videoQueue with
    | error panic => exact ⟨hasked, rfl, .step (show 0 < 4 by decide) _, nofun, rfl⟩
    | ok answer =>
      refine ⟨hasked, rfl, .step (show 3 < 4 by decide) _, fun _ => ⟨?_, ?_⟩, rfl⟩
      · exact Nat.le_refl 4
      · exact (show 3 < 4 by decide)
  | writing request response =>
    dsimp only
    cases encodeResponseFrame response with
    | error error => exact ⟨hasked, rfl, .step (show 2 < 3 by decide) _, nofun, rfl⟩
    | ok frame =>
      cases input.write with
      | error kind => exact ⟨hasked, rfl, .step (show 2 < 3 by decide) _, nofun, rfl⟩
      | ok =>
        cases input.flush with
        | error kind => exact ⟨hasked, rfl, .step (show 2 < 3 by decide) _, nofun, rfl⟩
        | ok => exact ⟨hasked, rfl, .step (show 2 < 3 by decide) _, nofun, rfl⟩
  | failing error => exact ⟨hasked, rfl, .step (show 1 < 2 by decide) _, nofun, rfl⟩
  | stopping reason => exact ⟨rfl, rfl, .step (show 0 < 1 by decide) _, nofun, rfl⟩
  | done reason =>
    dsimp only
    rw [hhandoff]
    exact ⟨hasked, rfl, .rest, nofun, rfl⟩
  | panicked panic =>
    dsimp only
    rw [hhandoff]
    exact ⟨hasked, rfl, .rest, nofun, rfl⟩

/-- A step of either thread when one of them has asked for the end. -/
structure StepLeft (action : RuntimeAction) (after : ConcurrentRuntime × RuntimeEvent) : Prop where
  stopRequested : after.1.stopRequested = true
  receive : after.1.receive.stepsLeft ≤ runtime.receive.stepsLeft - action.isReceive.toNat
  handoff : after.1.handoff.stepsLeft ≤ runtime.handoff.stepsLeft - action.isHandoff.toNat
  busy : after.2.isBusy.toNat + after.1.receive.stepsLeft + after.1.handoff.stepsLeft ≤
    runtime.receive.stepsLeft + runtime.handoff.stepsLeft
  packets : after.2.isReceived = true → 4 ≤ runtime.receive.stepsLeft ∧ after.1.receive.stepsLeft < 4
  answers : after.2.isAnswered = true → 4 ≤ runtime.handoff.stepsLeft ∧ after.1.handoff.stepsLeft < 4

theorem step_left (hasked : runtime.stopRequested = true) (action : RuntimeAction) :
    StepLeft runtime action (runtime.step config policy action) := by
  cases action with
  | receive input =>
    obtain ⟨-, hkeeps⟩ := receiveStep_change config policy runtime input
    obtain ⟨hflag, htakes, hreceived, hanswered⟩ := receiveStep_takesStep config policy runtime hasked input
    have hhandoff := congrArg HandoffThread.stepsLeft hkeeps.handoff
    change StepLeft runtime _ (runtime.receiveStep config policy input)
    refine ⟨hflag, htakes.less, hhandoff.le, ?_, hreceived, ?_⟩
    · have hbusy := htakes.busy
      omega
    · rw [hanswered]
      nofun
  | handoff input =>
    obtain ⟨hflag, hkeeps, htakes, hanswered, hreceived⟩ :=
      handoffStep_takesStep policy runtime hasked input
    have hreceive := congrArg ReceiveThread.stepsLeft hkeeps
    change StepLeft runtime _ (runtime.handoffStep policy input)
    refine ⟨hflag, hreceive.le, htakes.less, ?_, ?_, hanswered⟩
    · have hbusy := htakes.busy
      omega
    · rw [hreceived]
      nofun

end Step

/-- What the threads still do when one of them has asked for the end. -/
structure StepsLeft (runtime : ConcurrentRuntime) (later : List RuntimeAction)
    (after : ConcurrentRuntime × List RuntimeEvent) : Prop where
  stopRequested : after.1.stopRequested = true
  receive : after.1.receive.stepsLeft ≤ runtime.receive.stepsLeft - later.countP (·.isReceive)
  handoff : after.1.handoff.stepsLeft ≤ runtime.handoff.stepsLeft - later.countP (·.isHandoff)
  busy : after.2.countP (·.isBusy) + after.1.receive.stepsLeft + after.1.handoff.stepsLeft ≤
    runtime.receive.stepsLeft + runtime.handoff.stepsLeft
  packets : after.2.countP (·.isReceived) ≤ if 4 ≤ runtime.receive.stepsLeft then 1 else 0
  answers : after.2.countP (·.isAnswered) ≤ if 4 ≤ runtime.handoff.stepsLeft then 1 else 0

section Shutdown

variable (config : ServerRuntimeConfig) (policy : ConcurrentRuntimePolicy)

theorem countP_cons_toNat {α : Type} (p : α → Bool) (x : α) (xs : List α) :
    (x :: xs).countP p = xs.countP p + (p x).toNat := by
  rw [List.countP_cons]
  cases p x <;> rfl

/-- What happens once at most, and not after it, happens once at most in a run. -/
theorem once_cons {event : Bool} {count stepsLeft stepsLeft' : Nat} (hless : stepsLeft' ≤ stepsLeft)
    (hevent : event = true → 4 ≤ stepsLeft ∧ stepsLeft' < 4)
    (hcount : count ≤ if 4 ≤ stepsLeft' then 1 else 0) :
    count + event.toNat ≤ if 4 ≤ stepsLeft then 1 else 0 := by
  cases event with
  | false =>
    rw [Bool.toNat_false]
    split at hcount <;> split <;> omega
  | true =>
    obtain ⟨hfour, hless⟩ := hevent rfl
    rw [if_neg (by omega)] at hcount
    rw [if_pos hfour, Bool.toNat_true]
    omega

theorem run_stepsLeft {runtime : ConcurrentRuntime} (hasked : runtime.stopRequested = true)
    (later : List RuntimeAction) :
    StepsLeft runtime later (runtime.goOn config policy later) := by
  induction later generalizing runtime with
  | nil =>
    refine ⟨hasked, Nat.le_refl _, Nat.le_refl _, ?_, Nat.zero_le _, Nat.zero_le _⟩
    exact (congrArg (· + _) (Nat.zero_add _)).le
  | cons action later ih =>
    have hstep := step_left config policy runtime hasked action
    have hlater := ih hstep.stopRequested
    unfold ConcurrentRuntime.goOn at hlater ⊢
    rw [run_cons]
    generalize runtime.step config policy action = middle at *
    have hreceive := hstep.receive
    have hhandoff := hstep.handoff
    have hreceives := hlater.receive
    have hhandoffs := hlater.handoff
    have hbusy := hstep.busy
    have hlaterBusy := hlater.busy
    refine ⟨hlater.stopRequested, ?_, ?_, ?_, ?_, ?_⟩ <;> dsimp only <;> rw [countP_cons_toNat]
    · omega
    · omega
    · omega
    · exact once_cons (hreceive.trans (Nat.sub_le _ _)) hstep.packets hlater.packets
    · exact once_cons (hhandoff.trans (Nat.sub_le _ _)) hstep.answers hlater.answers

/-- What both threads come to when one of them has asked for the end: that one is done, and the other goes
on for five steps at most. -/
structure ShutsDown (later : List RuntimeAction) (after : ConcurrentRuntime × List RuntimeEvent) : Prop where
  stopRequested : after.1.stopRequested = true
  steps : after.2.countP (·.isBusy) ≤ 5
  taken : after.2.countP (·.isReceived) + after.2.countP (·.isAnswered) ≤ 1
  ends : 4 ≤ later.countP (·.isReceive) → 5 ≤ later.countP (·.isHandoff) → after.1.result.isSome = true

/-- The thread that asked has no step left. -/
theorem asked_stepsLeft {events : List RuntimeEvent} {runtime : ConcurrentRuntime}
    (hstops : StopInvariant config policy events runtime) (h : runtime.stopRequested = true) :
    runtime.receive.stepsLeft = 0 ∨ runtime.handoff.stepsLeft = 0 := by
  have hasked := hstops.asked
  rw [h] at hasked
  rcases Bool.or_eq_true _ _ ▸ hasked.symm with hreceive | hhandoff
  · refine .inl ?_
    cases hthread : runtime.receive with
    | done result => rfl
    | _ =>
      rw [hthread] at hreceive
      cases hreceive
  · refine .inr ?_
    cases hthread : runtime.handoff with
    | done reason => rfl
    | _ =>
      rw [hthread] at hhandoff
      cases hhandoff

/-- Once a thread has asked for the end, one more datagram or one more request is taken at most, and both
threads are done as soon as each has had a few steps. -/
theorem concurrent_shutdown (actions later : List RuntimeAction)
    (h : (runConcurrent config policy actions).1.stopRequested = true) :
    ShutsDown later ((runConcurrent config policy actions).1.goOn config policy later) := by
  have hleft := run_stepsLeft config policy h later
  have hreceive := (runConcurrent config policy actions).1.receive.stepsLeft_le
  have hhandoff := (runConcurrent config policy actions).1.handoff.stepsLeft_le
  have hone := asked_stepsLeft config policy (runConcurrent_stops config policy actions) h
  have hbusy := hleft.busy
  have hpackets := hleft.packets
  have hanswers := hleft.answers
  refine ⟨hleft.stopRequested, by omega, ?_, fun hreceives hhandoffs => ?_⟩
  · split at hpackets <;> split at hanswers <;> omega
  have hrunning := (runConcurrent_invariant config policy (actions ++ later)).running
  unfold runConcurrent ConcurrentRuntime.goOn at hrunning
  rw [run_append] at hrunning
  change ∀ panic, ((runConcurrent config policy actions).1.goOn config policy later).1.handoff ≠ _ at hrunning
  have hreceiveLeft := hleft.receive
  have hhandoffLeft := hleft.handoff
  obtain ⟨result, hlast⟩ := ReceiveThread.stepsLeft_eq_zero (by omega :
    ((runConcurrent config policy actions).1.goOn config policy later).1.receive.stepsLeft = 0)
  rcases HandoffThread.stepsLeft_eq_zero (by omega :
    ((runConcurrent config policy actions).1.goOn config policy later).1.handoff.stepsLeft = 0) with
    ⟨reason, hthread⟩ | ⟨panic, hthread⟩
  · unfold ConcurrentRuntime.result
    rw [hlast, hthread]
    cases result <;> rfl
  · exact absurd hthread (hrunning panic)

/-- The handoff thread has served its only request while the receive thread waits for a datagram. -/
def servedActions : List RuntimeAction :=
  List.replicate 3 (receiveOf (.authRequest (cameraRequest "run"))) ++ List.replicate 8 handoffOldest

/-- The receive thread has given up while the handoff thread waits for a request. -/
def silentActions : List RuntimeAction :=
  List.replicate 3 handoffOldest ++
    List.replicate 3 (.receive ⟨0, fun _ => .ok (), ⟨.error .timedOut, .quiet, 0⟩⟩)

def lastActions : List RuntimeAction :=
  List.replicate 5 handoffOldest ++ List.replicate 4 (receiveOf (cameraFrame 1))

theorem concurrent_shutdown_oneMore :
    let served := (runConcurrent oneCameraConfig oneRequestPolicy servedActions).1
    let silent := (runConcurrent oneCameraConfig oneRequestPolicy silentActions).1
    let afterServed := served.goOn oneCameraConfig oneRequestPolicy lastActions
    let afterSilent := silent.goOn oneCameraConfig oneRequestPolicy lastActions
    (served.receive.stepsLeft = 4 ∧ ShutsDown lastActions afterServed ∧
      afterServed.2.countP (·.isReceived) = 1 ∧ afterServed.1.result.isSome = true) ∧
    silent.handoff.stepsLeft = 5 ∧ ShutsDown lastActions afterSilent ∧
      afterSilent.2.countP (·.isAnswered) = 1 ∧ afterSilent.1.result.isSome = true := by
  intro served silent afterServed afterSilent
  have hserved := concurrent_shutdown oneCameraConfig oneRequestPolicy servedActions lastActions
    (by decide +kernel)
  have hsilent := concurrent_shutdown oneCameraConfig oneRequestPolicy silentActions lastActions
    (by decide +kernel)
  have hreceives : lastActions.countP (·.isReceive) = 4 := rfl
  have hhandoffs : lastActions.countP (·.isHandoff) = 5 := rfl
  refine ⟨⟨?_, hserved, ?_, hserved.ends hreceives.ge hhandoffs.ge⟩, ?_, hsilent, ?_,
    hsilent.ends hreceives.ge hhandoffs.ge⟩
  · decide +kernel
  · decide +kernel
  · decide +kernel
  · decide +kernel

end Shutdown

end StreamSync
