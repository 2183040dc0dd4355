import StreamSync.PersistentDecode

namespace StreamSync

open Run PersistentDecodeCall

/-- The payload holds an SPS, a PPS and an IDR NAL unit. -/
def HoldsSpsPpsIdr (payload : List UInt8) : Prop :=
  ContainsNal .sps payload ∧ ContainsNal .pps payload ∧ ContainsNal .idr payload

theorem holdsSpsPpsIdr_of_bootstrapPayload {payload : List UInt8} (h : bootstrapPayload payload = true) :
    HoldsSpsPpsIdr payload := by
  unfold bootstrapPayload at h
  rw [Bool.and_eq_true, Bool.and_eq_true] at h
  obtain ⟨⟨hidr, hsps⟩, hpps⟩ := h
  obtain ⟨sps, pps, idr⟩ := inspectPayload_sound payload
  exact ⟨sps hsps, pps hpps, idr hidr⟩

def PersistentDecodeProcess.Bootstrapped (process : PersistentDecodeProcess) : Prop :=
  ∀ first ∈ process.written.head?, HoldsSpsPpsIdr first

/-- The first payload of every process spawned so far holds an SPS, a PPS and an IDR. -/
def EveryProcessBootstrapped (state : SwitcherPersistentFfmpegDecodeRuntimeState) : Prop :=
  ∀ process ∈ state.processes, process.Bootstrapped

def PersistentDecodeProcess.write (process : PersistentDecodeProcess) (payload : List UInt8) :
    PersistentDecodeProcess := ⟨process.written ++ [payload]⟩

theorem bootstrapped_unwritten : PersistentDecodeProcess.Bootstrapped ⟨[]⟩ := by
  intro first hfirst
  simp at hfirst

/-- A later write leaves the first payload of a process as it is. -/
theorem bootstrapped_write (process : PersistentDecodeProcess) (payload : List UInt8) :
    (process.write payload).Bootstrapped ↔
      process.Bootstrapped ∧ (process.written = [] → HoldsSpsPpsIdr payload) := by
  unfold PersistentDecodeProcess.Bootstrapped PersistentDecodeProcess.write
  cases hw : process.written with
  | nil => simp
  | cons first rest => simp

namespace PersistentDecodeCall

variable (call : PersistentDecodeCall)

@[simp] theorem state_recordPersistentError_session (message : String) :
    (recordPersistentError message call).state.session = call.state.session := rfl

@[simp] theorem state_recordPersistentError_stopped (message : String) :
    (recordPersistentError message call).state.stopped = call.state.stopped := rfl

@[simp] theorem state_fallbackToOneShot (oneShot : SwitcherH264DecodeResult) :
    (fallbackToOneShot oneShot call).1.state = call.state := rfl

@[simp] theorem state_applyRuntimeStateSnapshot :
    (applyRuntimeStateSnapshot call).state = call.state := rfl

theorem processes_stopSession (stderrSummary : Option String) :
    (stopSession stderrSummary call).state.session = none ∧
      (stopSession stderrSummary call).state.stopped = call.state.processes := by
  unfold stopSession SwitcherPersistentFfmpegDecodeRuntimeState.processes
  split
  next h => simp [h]
  next process h => simp [h]

/-- The processes a restart leaves: those before it, and a new one where the spawn succeeds. -/
theorem processes_failAndRestart (message fallbackText : String) (outcomes : PersistentDecodeOutcomes) :
    ∃ fresh, (fresh = [] ∨ fresh = [⟨[]⟩]) ∧
      (failAndRestart message fallbackText outcomes call).state.processes =
        call.state.processes ++ fresh := by
  obtain ⟨hsession, hstopped⟩ := processes_stopSession
    { recordPersistentError message call with
      diagnostics := { (recordPersistentError message call).diagnostics with
        processRestartCount := (recordPersistentError message call).diagnostics.processRestartCount + 1 } }
    outcomes.stderrSummary
  unfold failAndRestart restartSession PersistentDecodeCall.ensureSession
  simp only [hsession, Option.isSome_none, Bool.false_eq_true, if_false]
  cases outcomes.respawn with
  | ok =>
    refine ⟨[⟨[]⟩], Or.inr rfl, ?_⟩
    rw [SwitcherPersistentFfmpegDecodeRuntimeState.processes]
    simp only [hstopped]
    rfl
  | error error =>
    refine ⟨[], Or.inl rfl, ?_⟩
    rw [SwitcherPersistentFfmpegDecodeRuntimeState.processes]
    simp only [hsession, hstopped]
    rfl

theorem processes_failOnTimeout (outcomes : PersistentDecodeOutcomes) :
    (failOnTimeout outcomes call).state.processes = call.state.processes := by
  unfold failOnTimeout
  dsimp only
  split
  next =>
    obtain ⟨hsession, hstopped⟩ := processes_stopSession
      (recordPersistentError "persistent_decode_stdout_read_timeout"
        { call with diagnostics :=
          { call.diagnostics with timeoutCount := call.diagnostics.timeoutCount + 1 } })
      outcomes.stderrSummary
    rw [SwitcherPersistentFfmpegDecodeRuntimeState.processes]
    simp only [markRuntimeDisabled, hsession, hstopped]
    simp [SwitcherPersistentFfmpegDecodeRuntimeState.processes]
  next => rfl

/-- Behind `ensure_session` the payload is written to the session's process, and at most one process
is spawned after it. -/
theorem processes_exchange (input : SwitcherH264DecodeInput) (outcomes : PersistentDecodeOutcomes)
    {process : PersistentDecodeProcess} (hsession : call.state.session = some process) :
    ∃ fresh, (fresh = [] ∨ fresh = [⟨[]⟩]) ∧
      (exchange input outcomes call).1.state.processes =
        call.state.stopped ++ process.write input.encodedPayload :: fresh := by
  have hwritten : (writePayload input.encodedPayload call).state.processes =
      call.state.stopped ++ [process.write input.encodedPayload] := by
    unfold SwitcherPersistentFfmpegDecodeRuntimeState.processes writePayload
    rw [hsession]
    rfl
  have hfailed : ∀ message fallbackText, ∃ fresh, (fresh = [] ∨ fresh = [⟨[]⟩]) ∧
      (failAndRestart message fallbackText outcomes
        (writePayload input.encodedPayload call)).state.processes =
        call.state.stopped ++ process.write input.encodedPayload :: fresh := by
    intro message fallbackText
    obtain ⟨fresh, hfresh, heq⟩ := processes_failAndRestart
      (writePayload input.encodedPayload call) message fallbackText outcomes
    refine ⟨fresh, hfresh, ?_⟩
    rw [heq, hwritten, List.append_assoc, List.singleton_append]
  unfold exchange
  dsimp only
  cases outcomes.write with
  | error error => exact hfailed _ _
  | ok =>
    cases outcomes.readRequest with
    | error message => exact hfailed _ _
    | ok =>
      cases outcomes.read with
      | err message => exact hfailed _ _
      | disconnected => exact hfailed _ _
      | timeout =>
        refine ⟨[], Or.inl rfl, ?_⟩
        rw [state_fallbackToOneShot, processes_failOnTimeout, hwritten]
      | ok bytes extraOutputLen =>
        dsimp only
        split
        next => exact hfailed _ _
        next => exact ⟨[], Or.inl rfl, hwritten⟩

end PersistentDecodeCall

/-- The guards of a call that let its payload through to a running process. -/
structure ReachesProcess (configEnabled : Bool) (input : SwitcherH264DecodeInput)
    (state : SwitcherPersistentFfmpegDecodeRuntimeState) : Prop where
  config : configEnabled = true
  payload : input.encodedPayload ≠ []
  dimensions : ¬(input.width = 0 ∨ input.height = 0)
  enabled : state.runtimeDisabled = false
  unscaled : input.scaledOutputEnabled = false

/-- What a call does to the processes: it writes to the running one, or it leaves them alone, or it
bootstraps a new one with a payload that passed the inspection. -/
theorem decodePersistent_processes (configEnabled : Bool) (input : SwitcherH264DecodeInput)
    (outcomes : PersistentDecodeOutcomes) (state : SwitcherPersistentFfmpegDecodeRuntimeState) :
    (∃ process fresh, ReachesProcess configEnabled input state ∧ state.session = some process ∧
      (fresh = [] ∨ fresh = [⟨[]⟩]) ∧
      (decodePersistent configEnabled input outcomes state).1.state.processes =
        state.stopped ++ process.write input.encodedPayload :: fresh) ∨
    ((ReachesProcess configEnabled input state → state.session = none) ∧
      (decodePersistent configEnabled input outcomes state).1.state.processes = state.processes) ∨
    (∃ fresh, state.session = none ∧ bootstrapPayload input.encodedPayload = true ∧
      (fresh = [] ∨ fresh = [⟨[]⟩]) ∧
      (decodePersistent configEnabled input outcomes state).1.state.processes =
        state.stopped ++ PersistentDecodeProcess.write ⟨[]⟩ input.encodedPayload :: fresh) := by
  unfold decodePersistent
  dsimp only
  split
  next hconfig =>
    refine Or.inr (Or.inl ⟨fun hreach => ?_, rfl⟩)
    rw [hreach.config] at hconfig
    cases hconfig
  next hconfig =>
    split
    next hempty =>
      exact Or.inr (Or.inl ⟨fun hreach => absurd (List.isEmpty_iff.mp hempty) hreach.payload, rfl⟩)
    next hpayload =>
      split
      next hzero => exact Or.inr (Or.inl ⟨fun hreach => absurd hzero hreach.dimensions, rfl⟩)
      next hsize =>
        split
        next hdisabled =>
          refine Or.inr (Or.inl ⟨fun hreach => ?_, rfl⟩)
          exact absurd (hdisabled.symm.trans hreach.enabled) (by decide)
        next henabled =>
          split
          next hscaled =>
            refine Or.inr (Or.inl ⟨fun hreach => ?_, rfl⟩)
            exact absurd (hscaled.symm.trans hreach.unscaled) (by decide)
          next hunscaled =>
            have hreach : ReachesProcess configEnabled input state :=
              ⟨by simpa using hconfig, fun h => hpayload (List.isEmpty_iff.mpr h), hsize,
                Bool.eq_false_iff.mpr henabled, Bool.eq_false_iff.mpr hunscaled⟩
            cases hsession : state.session with
            | some process =>
              obtain ⟨fresh, hfresh, heq⟩ := processes_exchange
                (applyRuntimeStateSnapshot ⟨state, .start configEnabled⟩) input outcomes hsession
              refine Or.inl ⟨process, fresh, hreach, rfl, hfresh, ?_⟩
              rw [if_neg (by simp [hsession]), PersistentDecodeCall.ensureSession, if_pos (by simp [hsession])]
              exact heq
            | none =>
              have hunchanged : state.processes = state.stopped := by
                simp [SwitcherPersistentFfmpegDecodeRuntimeState.processes, hsession]
              rw [hunchanged]
              right
              split
              next hguard =>
                exact Or.inl ⟨fun _ => rfl, hunchanged⟩
              next hguard =>
                have hboot : bootstrapPayload input.encodedPayload = true := by
                  simpa [hsession] using hguard
                rw [PersistentDecodeCall.ensureSession, if_neg (by simp [hsession])]
                cases outcomes.spawn with
                | ok =>
                  obtain ⟨fresh, hfresh, heq⟩ := processes_exchange
                    { state := { state with session := some ⟨[]⟩ }
                      diagnostics :=
                        { (applyRuntimeStateSnapshot ⟨state, .start configEnabled⟩).diagnostics with
                          processSpawnCount := 1 } } input outcomes
                    (show _ = some (⟨[]⟩ : PersistentDecodeProcess) from rfl)
                  exact Or.inr ⟨fresh, rfl, hboot, hfresh, heq⟩
                | error error =>
                  refine Or.inl ⟨fun _ => rfl, ?_⟩
                  dsimp only
                  split
                  next => exact hunchanged
                  next => exact hunchanged

/-- A process that a restart spawned and no call has written to gets a payload it can start from. -/
def RespawnedProcessBootstrapped (configEnabled : Bool)
    (state : SwitcherPersistentFfmpegDecodeRuntimeState) (turn : PersistentDecodeTurn) : Prop :=
  state.session = some ⟨[]⟩ → ReachesProcess configEnabled turn.input state →
    HoldsSpsPpsIdr turn.input.encodedPayload

theorem everyProcessBootstrapped_iff {state : SwitcherPersistentFfmpegDecodeRuntimeState}
    {before after : List PersistentDecodeProcess} {process : PersistentDecodeProcess}
    (h : state.processes = before ++ process :: after) :
    EveryProcessBootstrapped state ↔
      (∀ p ∈ before, p.Bootstrapped) ∧ process.Bootstrapped ∧ ∀ p ∈ after, p.Bootstrapped := by
  unfold EveryProcessBootstrapped
  rw [h]
  simp only [List.mem_append, List.mem_cons]
  constructor
  · intro hall
    exact ⟨fun p hp => hall p (Or.inl hp), hall _ (Or.inr (Or.inl rfl)),
      fun p hp => hall p (Or.inr (Or.inr hp))⟩
  · rintro ⟨hbefore, hprocess, hafter⟩ p (hp | rfl | hp)
    · exact hbefore p hp
    · exact hprocess
    · exact hafter p hp

/-- One call keeps every process bootstrapped exactly when it does not start a respawned one wrongly. -/
theorem persistentDecodeStep_bootstrapped (configEnabled : Bool)
    (state : SwitcherPersistentFfmpegDecodeRuntimeState) (turn : PersistentDecodeTurn) :
    EveryProcessBootstrapped (persistentDecodeStep configEnabled state turn).1 ↔
      EveryProcessBootstrapped state ∧ RespawnedProcessBootstrapped configEnabled state turn := by
  have hfreshBoot : ∀ fresh : List PersistentDecodeProcess, fresh = [] ∨ fresh = [⟨[]⟩] →
      ∀ p ∈ fresh, p.Bootstrapped := by
    rintro fresh (rfl | rfl) p hp
    · simp at hp
    · rw [List.mem_singleton.mp hp]
      exact bootstrapped_unwritten
  rcases decodePersistent_processes configEnabled turn.input turn.outcomes state with
    ⟨process, fresh, hreach, hsession, hfresh, heq⟩ | ⟨hnone, heq⟩ | ⟨fresh, hsession, hboot, hfresh, heq⟩
  · have hbefore : state.processes = state.stopped ++ process :: [] := by
      rw [SwitcherPersistentFfmpegDecodeRuntimeState.processes, hsession]
      rfl
    have hafter : (persistentDecodeStep configEnabled state turn).1.processes =
        state.stopped ++ process.write turn.input.encodedPayload :: fresh := heq
    have hunwritten : RespawnedProcessBootstrapped configEnabled state turn ↔
        (process.written = [] → HoldsSpsPpsIdr turn.input.encodedPayload) := by
      constructor
      · intro h hw
        exact h (by rw [hsession, ← hw]) hreach
      · intro h hs _
        rw [hsession] at hs
        exact h (congrArg PersistentDecodeProcess.written (Option.some.inj hs))
    rw [everyProcessBootstrapped_iff hafter, everyProcessBootstrapped_iff hbefore, bootstrapped_write,
      hunwritten]
    have hall := hfreshBoot fresh hfresh
    constructor
    · rintro ⟨hstopped, ⟨hprocess, hpayload⟩, -⟩
      exact ⟨⟨hstopped, hprocess, by simp⟩, hpayload⟩
    · rintro ⟨⟨hstopped, hprocess, -⟩, hpayload⟩
      exact ⟨hstopped, ⟨hprocess, hpayload⟩, hall⟩
  · have hsame : EveryProcessBootstrapped (persistentDecodeStep configEnabled state turn).1 ↔
        EveryProcessBootstrapped state := by
      unfold EveryProcessBootstrapped
      rw [show (persistentDecodeStep configEnabled state turn).1.processes = state.processes from heq]
    rw [hsame]
    refine ⟨fun h => ⟨h, fun hs hreach => ?_⟩, And.left⟩
    cases (hnone hreach).symm.trans hs
  · have hafter : (persistentDecodeStep configEnabled state turn).1.processes =
        state.stopped ++ PersistentDecodeProcess.write ⟨[]⟩ turn.input.encodedPayload :: fresh := heq
    have hbefore : state.processes = state.stopped := by
      simp [SwitcherPersistentFfmpegDecodeRuntimeState.processes, hsession]
    rw [everyProcessBootstrapped_iff hafter, bootstrapped_write]
    constructor
    · rintro ⟨hstopped, -, -⟩
      refine ⟨fun p hp => hstopped p (hbefore ▸ hp), fun hs _ => ?_⟩
      cases hsession.symm.trans hs
    · rintro ⟨hall, -⟩
      exact ⟨fun p hp => hall p (hbefore ▸ hp),
        ⟨bootstrapped_unwritten, fun _ => holdsSpsPpsIdr_of_bootstrapPayload hboot⟩,
        hfreshBoot fresh hfresh⟩

/-- The first process was written to when it was spawned, so one without a payload is a respawned one. -/
def FirstProcessWritten (state : SwitcherPersistentFfmpegDecodeRuntimeState) : Prop :=
  ∀ process ∈ state.processes.head?, process.written ≠ []

theorem firstProcessWritten_write {before fresh : List PersistentDecodeProcess}
    {process : PersistentDecodeProcess} {payload : List UInt8}
    (hbefore : ∀ p ∈ before.head?, p.written ≠ []) :
    ∀ p ∈ (before ++ process.write payload :: fresh).head?, p.written ≠ [] := by
  cases before with
  | nil =>
    intro p hp
    cases hp
    simp [PersistentDecodeProcess.write]
  | cons first before => exact hbefore

theorem persistentDecodeStep_firstProcessWritten (configEnabled : Bool)
    (state : SwitcherPersistentFfmpegDecodeRuntimeState) (turn : PersistentDecodeTurn)
    (h : FirstProcessWritten state) :
    FirstProcessWritten (persistentDecodeStep configEnabled state turn).1 := by
  have hstopped : ∀ p ∈ state.stopped.head?, p.written ≠ [] := by
    intro p hp
    refine h p ?_
    rw [SwitcherPersistentFfmpegDecodeRuntimeState.processes]
    cases hs : state.stopped with
    | nil => simp [hs] at hp
    | cons first rest => rwa [hs] at hp
  unfold FirstProcessWritten
  rcases decodePersistent_processes configEnabled turn.input turn.outcomes state with
    ⟨process, fresh, -, -, -, heq⟩ | ⟨-, heq⟩ | ⟨fresh, -, -, -, heq⟩
  · rw [show (persistentDecodeStep configEnabled state turn).1.processes = _ from heq]
    exact firstProcessWritten_write hstopped
  · rw [show (persistentDecodeStep configEnabled state turn).1.processes = _ from heq]
    exact h
  · rw [show (persistentDecodeStep configEnabled state turn).1.processes = _ from heq]
    exact firstProcessWritten_write hstopped

/-- A process that is running and was never written to was spawned behind another one. -/
theorem stopped_of_unwritten_session (configEnabled : Bool) (turns : List PersistentDecodeTurn)
    (hsession : (runPersistentDecode configEnabled turns).session = some ⟨[]⟩) :
    (runPersistentDecode configEnabled turns).stopped ≠ [] := by
  have hfirst : FirstProcessWritten (runPersistentDecode configEnabled turns) := by
    refine run_invariant (P := fun _ => True) (fun _ state _ => FirstProcessWritten state) ?_ ?_ turns
      fun _ _ => trivial
    · intro p hp
      cases hp
    · intro _ state _ turn _ h
      exact persistentDecodeStep_firstProcessWritten configEnabled state turn h
  intro hstopped
  have hhead := hfirst ⟨[]⟩ (by
    rw [SwitcherPersistentFfmpegDecodeRuntimeState.processes, hsession, hstopped]
    rfl)
  exact hhead rfl

/-- After any run of calls every process was bootstrapped exactly when no call of the run was the first
to write to a respawned process without an SPS, a PPS and an IDR. -/
theorem runPersistentDecode_bootstrapped_iff (configEnabled : Bool) (turns : List PersistentDecodeTurn) :
    EveryProcessBootstrapped (runPersistentDecode configEnabled turns) ↔
      Along (persistentDecodeStep configEnabled) (RespawnedProcessBootstrapped configEnabled) .default
        turns :=
  run_iff_along (by intro process hp; cases hp) (persistentDecodeStep_bootstrapped configEnabled) turns

/-- An SPS, a PPS and an IDR, each of one byte. -/
def keyPayload : List UInt8 := [0, 0, 1, 0x67, 0, 0, 1, 0x68, 0, 0, 1, 0x65]

/-- One slice that needs the pictures before it. -/
def deltaPayload : List UInt8 := [0, 0, 1, 0x41]

theorem bootstrapPayload_keyPayload : bootstrapPayload keyPayload = true := by
  have hsps : switcherFindAnnexBStartCode keyPayload 0 = some (0, 3) := by decide
  have hpps : switcherFindAnnexBStartCode keyPayload 4 = some (4, 3) := by decide
  have hidr : switcherFindAnnexBStartCode keyPayload 8 = some (8, 3) := by decide
  have hend : switcherFindAnnexBStartCode keyPayload 12 = none := by decide
  have hnextPps : nextNalStart keyPayload (0 + 3) = 4 := by decide
  have hnextIdr : nextNalStart keyPayload (4 + 3) = 8 := by decide
  have hnextEnd : nextNalStart keyPayload (8 + 3) = 12 := by decide
  unfold bootstrapPayload inspectPayload
  rw [inspectFrom_some hsps, if_neg (by decide), if_neg (by decide), hnextPps,
    inspectFrom_some hpps, if_neg (by decide), if_neg (by decide), hnextIdr,
    inspectFrom_some hidr, if_neg (by decide), if_neg (by decide), hnextEnd,
    inspectFrom_none hend]
  decide

/-- The read fails and the restart succeeds. -/
def failedRead : PersistentDecodeOutcomes :=
  ⟨.ok (), .ok (), .ok (), .err "eof", .ok (), none, .deferred .ffmpegUnavailable⟩

def decodeTurn (payload : List UInt8) : PersistentDecodeTurn :=
  ⟨⟨payload, 2, 2, false, none, none⟩, failedRead⟩

theorem not_holdsSpsPpsIdr_deltaPayload : ¬HoldsSpsPpsIdr deltaPayload := by
  rintro ⟨⟨before, header, after, heq, hkind⟩, -, -⟩
  have hlen := congrArg List.length heq
  simp only [deltaPayload, List.length_append, List.length_cons, List.length_nil] at hlen
  have hnil : before = [] := List.eq_nil_of_length_eq_zero (by omega)
  subst hnil
  have hheader : header = 0x41 := by
    have hget := congrArg (fun bytes : List UInt8 => bytes[3]?) heq
    exact (Option.some.inj hget).symm
  subst hheader
  revert hkind
  decide

/-- The payload behind a failed read starts the new process, whatever it holds. -/
theorem runPersistentDecode_not_bootstrapped :
    ¬∀ (configEnabled : Bool) (turns : List PersistentDecodeTurn),
      EveryProcessBootstrapped (runPersistentDecode configEnabled turns) := by
  intro h
  have hrun := h true [decodeTurn keyPayload, decodeTurn deltaPayload]
  have hfirst : (persistentDecodeStep true .default (decodeTurn keyPayload)).1.session = some ⟨[]⟩ ∧
      (persistentDecodeStep true .default (decodeTurn keyPayload)).1.runtimeDisabled = false := by
    unfold persistentDecodeStep decodePersistent
    simp only [decodeTurn, bootstrapPayload_keyPayload]
    exact ⟨rfl, rfl⟩
  have hlast := (persistentDecodeStep_bootstrapped true
    (persistentDecodeStep true .default (decodeTurn keyPayload)).1 (decodeTurn deltaPayload)).mp hrun
  exact not_holdsSpsPpsIdr_deltaPayload (hlast.2 hfirst.1 ⟨rfl, by decide, by decide, hfirst.2, rfl⟩)

end StreamSync
