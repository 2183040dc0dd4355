import StreamSync.OperatorWrapper

namespace StreamSync

open StoppingRun

def IsQuitKey (rawKey : String) : Prop :=
  parseFourViewOperatorWrapperKey rawKey = some 'q' ∨ parseFourViewOperatorWrapperKey rawKey = some 'Q'

/-- The answer to a command ends the wrapper: the command was not sent, or the response gives a reason
to exit. -/
def EndsWrapper : Except String String → Prop
  | .ok response =>
    extractSummaryField response "exit_reason" ≠ none ∧
      extractSummaryField response "exit_reason" ≠ some "none" ∧
      extractSummaryField response "exit_reason" ≠ some "Continue"
  | .error _ => True

/-- The guard after a key, by the reading at which the key armed it. -/
def guardArmedAt : Option UInt64 → FourViewOperatorWrapperGuardState
  | none => .disarmed
  | some armed => ⟨true, some (armed + defaultOperatorWrapperQuitGuardWindowMillis)⟩

/-- Text without an underscore is the sanitized form of itself only. -/
theorem map_sanitizeSummaryChar_inj {l m : List Char} (h : l.map sanitizeSummaryChar = m) (hm : '_' ∉ m) :
    l = m := by
  subst h
  refine ((List.map_congr_left fun char hchar => ?_).trans (List.map_id l)).symm
  rw [id, sanitizeSummaryChar_eq_self_iff]
  intro hsep
  exact hm (List.mem_map.mpr ⟨char, hchar, if_pos hsep⟩)

theorem sanitizeSummaryValue_eq_iff {value text : String} (htext : '_' ∉ text.toList)
    (hself : sanitizeSummaryValue text = text) : sanitizeSummaryValue value = text ↔ value = text := by
  constructor
  · intro h
    have hlist := congrArg String.toList h
    rw [sanitizeSummaryValue, String.toList_ofList] at hlist
    exact String.toList_inj.mp (map_sanitizeSummaryChar_inj hlist htext)
  · rintro rfl
    exact hself

theorem sanitizeSummaryValue_eq_continue_iff {value : String} :
    sanitizeSummaryValue value = "Continue" ↔ value = "Continue" :=
  sanitizeSummaryValue_eq_iff (by decide) (by decide)

theorem ofAnswer_exitReason_iff (answer : Except String String) :
    (WrapperSendReport.ofAnswer answer).exitReason ≠ "Continue" ↔ EndsWrapper answer := by
  cases answer with
  | error error => exact iff_of_true (by decide : "WrapperSendFailed" ≠ "Continue") trivial
  | ok response =>
    unfold EndsWrapper WrapperSendReport.ofAnswer normalizeFourViewOperatorWrapperExitReason
    dsimp only
    cases extractSummaryField response "exit_reason" with
    | none => simp
    | some value =>
      dsimp only
      split
      next h => simp [h]
      next h => simp [h]

theorem ofAnswer_sent_iff (answer : Except String String) :
    (WrapperSendReport.ofAnswer answer).sendResult = "Sent" ↔ answer.isOk = true := by
  cases answer with
  | ok response => exact iff_of_true rfl rfl
  | error error => exact iff_of_false (by decide : "SendFailed" ≠ "Sent") Bool.false_ne_true

theorem ofAnswer_not_ignored (answer : Except String String) :
    (WrapperSendReport.ofAnswer answer).sendResult ≠ "Ignored" := by
  cases answer with
  | ok response => exact (by decide : "Sent" ≠ "Ignored")
  | error error => exact (by decide : "SendFailed" ≠ "Ignored")

theorem mappedWrapperCommand_ne_quit (key : Char) : mappedWrapperCommand key ≠ some "quit" := by
  unfold mappedWrapperCommand
  repeat' split
  all_goals simp

/-- What a key does, by the reading at which the key before it armed the guard. -/
structure KeyRight (armedBefore : Option UInt64) (event : FourViewOperatorWrapperKeyEvent) : Prop where
  quit : "quit" ∈ event.sends.map Prod.fst ↔
    IsQuitKey event.rawKey ∧ ∃ armed, armedBefore = some armed ∧
      event.startMillis.toNat < armed.toNat + 2000
  arms : event.armingMillis.isSome = true ↔
    IsQuitKey event.rawKey ∧ "quit" ∉ event.sends.map Prod.fst
  guard : event.guardState = guardArmedAt event.armingMillis
  single : event.sends.length ≤ 1
  sent : event.summary.sendResult = "Sent" ↔ ∃ send ∈ event.sends, send.2.isOk = true
  ignored : event.summary.sendResult = "Ignored" ↔ ¬IsQuitKey event.rawKey ∧ event.sends = []
  ends : event.summary.exitReason ≠ "Continue" ↔ ∃ send ∈ event.sends, EndsWrapper send.2
  inRange : ∀ armed, event.armingMillis = some armed → armed.toNat < 18446744073709549615

/-- The guard has run out when the clock is at the end of its window or later. -/
theorem clearExpired_guardArmedAt {armedBefore : Option UInt64}
    (harmed : ∀ armed, armedBefore = some armed → armed.toNat < 18446744073709549615)
    (nowMillis : UInt64) :
    (clearExpiredFourViewOperatorWrapperQuitGuard (guardArmedAt armedBefore) nowMillis).quitArmed = true ↔
      ∃ armed, armedBefore = some armed ∧ nowMillis.toNat < armed.toNat + 2000 := by
  cases armedBefore with
  | none => simp [clearExpiredFourViewOperatorWrapperQuitGuard, guardArmedAt,
      FourViewOperatorWrapperGuardState.disarmed]
  | some armed =>
    have hbound := harmed armed rfl
    have hsum : (armed + defaultOperatorWrapperQuitGuardWindowMillis).toNat = armed.toNat + 2000 := by
      rw [UInt64.toNat_add, Nat.mod_eq_of_lt]
      · rfl
      · show armed.toNat + 2000 < 18446744073709551616
        omega
    unfold clearExpiredFourViewOperatorWrapperQuitGuard guardArmedAt
    simp only [Option.any_some, Bool.true_and, decide_eq_true_eq, UInt64.le_iff_toNat_le, hsum,
      Option.some.injEq, exists_eq_left']
    split
    next h => simp [FourViewOperatorWrapperGuardState.disarmed]; omega
    next h => simp; omega

section

variable {hooks : FourViewOperatorWrapperHooks} (controlPipeName : String)

@[simp] theorem keySummary_sendResult (keyIndex : Nat) (rawKey mappedCommand : String)
    (guardState : FourViewOperatorWrapperGuardState) (report : WrapperSendReport) :
    (keySummary keyIndex rawKey mappedCommand guardState report).sendResult = report.sendResult := rfl

@[simp] theorem keySummary_continue_iff (keyIndex : Nat) (rawKey mappedCommand : String)
    (guardState : FourViewOperatorWrapperGuardState) (report : WrapperSendReport) :
    (keySummary keyIndex rawKey mappedCommand guardState report).exitReason = "Continue" ↔
      report.exitReason = "Continue" := sanitizeSummaryValue_eq_continue_iff

/-- A key for which a command is sent, with a guard that is not armed any more. -/
theorem send_right {armedBefore : Option UInt64} {keyIndex : Nat} {rawKey command mapped : String}
    {startMillis : UInt64} {answer : Except String String}
    (hquit : command = "quit" ↔ IsQuitKey rawKey ∧ ∃ armed, armedBefore = some armed ∧
      startMillis.toNat < armed.toNat + 2000) (hother : IsQuitKey rawKey → command = "quit") :
    KeyRight armedBefore ⟨rawKey, startMillis, none, [(command, answer)], .disarmed,
      keySummary keyIndex rawKey mapped .disarmed (.ofAnswer answer)⟩ where
  quit := by simpa [eq_comm] using hquit
  arms := by simpa [eq_comm] using hother
  guard := rfl
  single := by simp
  sent := by simpa using ofAnswer_sent_iff answer
  ignored := by simpa using ofAnswer_not_ignored answer
  ends := by simpa using ofAnswer_exitReason_iff answer
  inRange := by simp

theorem ignored_right {armedBefore : Option UInt64} {keyIndex : Nat} {rawKey : String}
    {startMillis : UInt64} (hother : ¬IsQuitKey rawKey) :
    KeyRight armedBefore ⟨rawKey, startMillis, none, [], .disarmed,
      keySummary keyIndex rawKey "none" .disarmed .ignored⟩ where
  quit := by simp [hother]
  arms := by simp [hother]
  guard := rfl
  single := by simp
  sent := by simp [WrapperSendReport.ignored]
  ignored := by simp [hother, WrapperSendReport.ignored]
  ends := by simp [WrapperSendReport.ignored]
  inRange := by simp

theorem arming_right {armedBefore : Option UInt64} {keyIndex : Nat} {rawKey mapped : String}
    {startMillis armingMillis : UInt64} {guardState : FourViewOperatorWrapperGuardState}
    (hquit : IsQuitKey rawKey)
    (hunarmed : ¬∃ armed, armedBefore = some armed ∧ startMillis.toNat < armed.toNat + 2000)
    (hguard : guardState = guardArmedAt (some armingMillis))
    (hrange : armingMillis.toNat < 18446744073709549615) :
    KeyRight armedBefore ⟨rawKey, startMillis, some armingMillis, [], guardState,
      keySummary keyIndex rawKey mapped guardState .guardArmed⟩ where
  quit := by simpa [hquit] using hunarmed
  arms := by simp [hquit]
  guard := hguard
  single := by simp
  sent := by simp [WrapperSendReport.guardArmed]
  ignored := by simp [hquit, WrapperSendReport.guardArmed]
  ends := by simp [WrapperSendReport.guardArmed]
  inRange := fun armed harmed => by
    cases harmed
    exact hrange

/-- The step: whatever the clock and the pipe say, a key does what it should with the guard that the key
before it left. -/
theorem process_right (hclock : ∀ n, (hooks.nowMillis n).toNat < 18446744073709549615)
    {armedBefore : Option UInt64}
    (harmed : ∀ armed, armedBefore = some armed → armed.toNat < 18446744073709549615)
    (keyIndex : Nat) (rawKey : String) (clockReads sendCalls : Nat) :
    KeyRight armedBefore (processFourViewOperatorWrapperKey hooks controlPipeName keyIndex rawKey
      (guardArmedAt armedBefore) clockReads sendCalls) := by
  have hexpired := clearExpired_guardArmedAt harmed (hooks.nowMillis clockReads)
  unfold processFourViewOperatorWrapperKey
  dsimp only
  split
  next key hkey =>
    split
    next hq =>
      have hquit : IsQuitKey rawKey := by
        rcases hq with rfl | rfl
        · exact .inl hkey
        · exact .inr hkey
      split
      next hguard => exact send_right (iff_of_true rfl ⟨hquit, hexpired.mp hguard⟩) fun _ => rfl
      next hguard => exact arming_right hquit (fun h => hguard (hexpired.mpr h)) rfl (hclock _)
    next hq =>
      have hother : ¬IsQuitKey rawKey := by
        rintro (h | h) <;> cases hkey.symm.trans h <;> exact hq (by decide)
      split
      next command hcommand =>
        have hne : command ≠ "quit" := fun h => mappedWrapperCommand_ne_quit key (h ▸ hcommand)
        exact send_right (iff_of_false hne fun h => hother h.1) fun h => absurd h hother
      next => exact ignored_right hother
  next hkey =>
    refine ignored_right ?_
    rintro (h | h) <;> cases hkey.symm.trans h

/-- The reading at which the last of some keys armed the guard. -/
def lastArming (events : List FourViewOperatorWrapperKeyEvent) : Option UInt64 :=
  events.getLast?.bind (·.armingMillis)

def sentKeys (events : List FourViewOperatorWrapperKeyEvent) : Nat :=
  events.countP fun event => event.summary.sendResult = "Sent"

def ignoredKeys (events : List FourViewOperatorWrapperKeyEvent) : Nat :=
  events.countP fun event => event.summary.sendResult = "Ignored"

/-- What holds of the loop after any number of keys. -/
structure LoopRight (loop : OperatorWrapperLoop) : Prop where
  keys : ∀ i event, loop.events[i]? = some event → KeyRight (lastArming (loop.events.take i)) event
  guard : loop.guardState = guardArmedAt (lastArming loop.events)
  goesOn : ∀ i event, loop.events[i]? = some event → i + 1 < loop.events.length →
    event.summary.exitReason = "Continue"
  commandsSent : loop.commandsSent = UInt32.ofNat (sentKeys loop.events)
  ignoredKeys : loop.ignoredKeys = UInt32.ofNat (ignoredKeys loop.events)

theorem loopRight_start (exitReason : String) : LoopRight (.start exitReason) :=
  ⟨by simp [OperatorWrapperLoop.start], rfl, by simp [OperatorWrapperLoop.start], rfl, rfl⟩

theorem getElem?_concat_cases {α : Type} {xs : List α} {x y : α} {i : Nat}
    (h : (xs ++ [x])[i]? = some y) : (i < xs.length ∧ xs[i]? = some y) ∨ (i = xs.length ∧ x = y) := by
  rcases Nat.lt_trichotomy i xs.length with hlt | rfl | hgt
  · rw [List.getElem?_append_left hlt] at h
    exact .inl ⟨hlt, h⟩
  · rw [List.getElem?_concat_length] at h
    exact .inr ⟨rfl, Option.some.inj h⟩
  · rw [List.getElem?_eq_none (by simp; omega)] at h
    cases h

theorem lastArming_inRange {loop : OperatorWrapperLoop} (h : LoopRight loop) :
    ∀ armed, lastArming loop.events = some armed → armed.toNat < 18446744073709549615 := by
  intro armed harmed
  obtain ⟨event, hlast, harming⟩ := Option.bind_eq_some_iff.mp harmed
  rw [List.getLast?_eq_getElem?] at hlast
  exact (h.keys _ event hlast).inRange armed harming

theorem loopRight_takeKey (hclock : ∀ n, (hooks.nowMillis n).toNat < 18446744073709549615)
    {loop : OperatorWrapperLoop} (h : LoopRight loop) (hover : loop.over = false) (rawKey : String) :
    LoopRight (loop.takeKey hooks controlPipeName rawKey) := by
  have hkey := process_right controlPipeName hclock (lastArming_inRange h) loop.events.length rawKey
    loop.clockReads loop.sendCalls
  rw [← h.guard] at hkey
  constructor
  · intro i event hget
    rcases getElem?_concat_cases hget with ⟨hlt, hold⟩ | ⟨rfl, rfl⟩
    · show KeyRight (lastArming ((loop.events ++ [_]).take i)) event
      rw [List.take_append_of_le_length hlt.le]
      exact h.keys i event hold
    · show KeyRight (lastArming ((loop.events ++ [_]).take loop.events.length)) _
      rw [List.take_left]
      exact hkey
  · show _ = guardArmedAt (lastArming (loop.events ++ [_]))
    rw [lastArming, List.getLast?_concat]
    exact hkey.guard
  · intro i event hget hnext
    have hlength : i + 1 < loop.events.length + 1 := by
      rwa [OperatorWrapperLoop.takeKey, List.length_append] at hnext
    rcases getElem?_concat_cases hget with ⟨hlt, hold⟩ | ⟨rfl, rfl⟩
    · by_cases hlast : i + 1 < loop.events.length
      · exact h.goesOn i event hold hlast
      · -- The last key before this one did not end the loop.
        have hend : loop.events.getLast? = some event := by
          rw [List.getLast?_eq_getElem?, show loop.events.length - 1 = i by omega]
          exact hold
        rw [OperatorWrapperLoop.over, hend] at hover
        simpa using hover
    · omega
  · show (if _ then loop.commandsSent + 1 else loop.commandsSent) =
      UInt32.ofNat (sentKeys (loop.events ++ [_]))
    rw [h.commandsSent, sentKeys, sentKeys, List.countP_append, List.countP_singleton]
    split
    next hsent => simp [hsent]
    next hsent => simp [hsent]
  · show (if _ then loop.ignoredKeys + 1 else loop.ignoredKeys) =
      UInt32.ofNat (StreamSync.ignoredKeys (loop.events ++ [_]))
    rw [h.ignoredKeys, StreamSync.ignoredKeys, StreamSync.ignoredKeys, List.countP_append,
      List.countP_singleton]
    split
    next hignored => simp [hignored]
    next hignored => simp [hignored]

/-- The run: what a key does with the guard holds of every key, whatever keys there are. -/
theorem loopRight_run (hclock : ∀ n, (hooks.nowMillis n).toNat < 18446744073709549615)
    (exitReason : String) (rawKeys : List String) :
    LoopRight ((OperatorWrapperLoop.start exitReason).run hooks controlPipeName rawKeys) :=
  runUntil_invariant (I := LoopRight)
    (fun _ rawKey _ h hover => loopRight_takeKey controlPipeName hclock h hover rawKey)
    (loopRight_start exitReason)

end

section

variable (hooks : FourViewOperatorWrapperHooks) (controlPipeName : String)

theorem length_events_takeKey (loop : OperatorWrapperLoop) (rawKey : String) :
    (loop.takeKey hooks controlPipeName rawKey).events.length = loop.events.length + 1 :=
  List.length_append

theorem rawKey_process (keyIndex : Nat) (rawKey : String) (guardState : FourViewOperatorWrapperGuardState)
    (clockReads sendCalls : Nat) :
    (processFourViewOperatorWrapperKey hooks controlPipeName keyIndex rawKey guardState clockReads
      sendCalls).rawKey = rawKey := by
  unfold processFourViewOperatorWrapperKey
  dsimp only
  split
  next =>
    split
    next => split <;> rfl
    next => split <;> rfl
  next => rfl

theorem rawKeys_foldl (loop : OperatorWrapperLoop) (rawKeys : List String) :
    (rawKeys.foldl (OperatorWrapperLoop.takeKey hooks controlPipeName) loop).events.map (·.rawKey) =
      loop.events.map (·.rawKey) ++ rawKeys := by
  induction rawKeys generalizing loop with
  | nil => exact (List.append_nil _).symm
  | cons rawKey rawKeys ih =>
    rw [List.foldl_cons, ih, OperatorWrapperLoop.takeKey, List.map_append, List.map_singleton,
      rawKey_process, List.append_assoc]
    rfl

/-- The keys are processed from the first on and in their order, all of them unless the loop is over. -/
theorem rawKeys_run (exitReason : String) (rawKeys : List String) :
    ∃ rest, rawKeys = ((OperatorWrapperLoop.start exitReason).run hooks controlPipeName
        rawKeys).events.map (·.rawKey) ++ rest ∧
      (((OperatorWrapperLoop.start exitReason).run hooks controlPipeName rawKeys).over = true ∨
        rest = []) := by
  obtain ⟨taken, rest, hsplit, hfold, hend⟩ := runUntil_eq_foldl OperatorWrapperLoop.over
    (OperatorWrapperLoop.takeKey hooks controlPipeName) (.start exitReason) rawKeys
  have htaken : ((OperatorWrapperLoop.start exitReason).run hooks controlPipeName
      rawKeys).events.map (·.rawKey) = taken := by
    rw [OperatorWrapperLoop.run, hfold, rawKeys_foldl]
    rfl
  exact ⟨rest, htaken ▸ hsplit, hend⟩

end

/-- What the wrapper is for, of the keys it processed and the counters it ends with. -/
structure WrapperRight (rawKeys : List String) (loop : OperatorWrapperLoop) : Prop where
  inOrder : ∃ rest, rawKeys = loop.events.map (·.rawKey) ++ rest ∧ (loop.over = true ∨ rest = [])
  quit : ∀ i event, loop.events[i]? = some event →
    ("quit" ∈ event.sends.map Prod.fst ↔ IsQuitKey event.rawKey ∧
      ∃ previous armed, (loop.events.take i).getLast? = some previous ∧ IsQuitKey previous.rawKey ∧
        previous.armingMillis = some armed ∧ event.startMillis.toNat < armed.toNat + 2000)
  single : ∀ event ∈ loop.events, event.sends.length ≤ 1
  armedByKey : ∀ event ∈ loop.events, event.guardState = guardArmedAt event.armingMillis
  otherKey : ∀ event ∈ loop.events, ¬IsQuitKey event.rawKey → event.guardState = .disarmed
  expired : ∀ i event previous armed, loop.events[i]? = some event →
    (loop.events.take i).getLast? = some previous → previous.armingMillis = some armed →
    armed.toNat + 2000 ≤ event.startMillis.toNat → "quit" ∉ event.sends.map Prod.fst ∧
      (IsQuitKey event.rawKey → event.armingMillis.isSome = true)
  last : ∀ i event, loop.events[i]? = some event → (∃ send ∈ event.sends, EndsWrapper send.2) →
    i + 1 = loop.events.length
  commandsSent : loop.commandsSent.toNat = sentKeys loop.events
  ignoredKeys : loop.ignoredKeys.toNat = ignoredKeys loop.events
  keysProcessed : loop.keysProcessed.toNat = loop.events.length

section

variable {hooks : FourViewOperatorWrapperHooks} (controlPipeName : String)

theorem quit_iff_of_loopRight {loop : OperatorWrapperLoop} (h : LoopRight loop) {i : Nat}
    {event : FourViewOperatorWrapperKeyEvent} (hget : loop.events[i]? = some event) :
    "quit" ∈ event.sends.map Prod.fst ↔ IsQuitKey event.rawKey ∧
      ∃ previous armed, (loop.events.take i).getLast? = some previous ∧ IsQuitKey previous.rawKey ∧
        previous.armingMillis = some armed ∧ event.startMillis.toNat < armed.toNat + 2000 := by
  rw [(h.keys i event hget).quit]
  refine and_congr_right fun _ => ⟨?_, ?_⟩
  · rintro ⟨armed, harmed, hstart⟩
    obtain ⟨previous, hlast, harming⟩ := Option.bind_eq_some_iff.mp harmed
    obtain ⟨j, hj⟩ := List.mem_iff_getElem?.mp (List.mem_of_mem_take (List.mem_of_getLast? hlast))
    have hquit := ((h.keys j previous hj).arms.mp (by rw [harming]; rfl)).1
    exact ⟨previous, armed, hlast, hquit, harming, hstart⟩
  · rintro ⟨previous, armed, hlast, -, harming, hstart⟩
    exact ⟨armed, Option.bind_eq_some_iff.mpr ⟨previous, hlast, harming⟩, hstart⟩

theorem toNat_ofNat_of_le {n length : Nat} (hle : n ≤ length) (hlength : length < 4294967296) :
    (UInt32.ofNat n).toNat = n := by
  rw [UInt32.toNat_ofNat', Nat.mod_eq_of_lt]
  omega

/-- All that the wrapper is for holds of every run but for the counters, which are right as long as
they do not wrap. -/
theorem wrapperRight_iff_length (hclock : ∀ n, (hooks.nowMillis n).toNat < 18446744073709549615)
    (exitReason : String) (rawKeys : List String) :
    WrapperRight rawKeys ((OperatorWrapperLoop.start exitReason).run hooks controlPipeName rawKeys) ↔
      ((OperatorWrapperLoop.start exitReason).run hooks controlPipeName rawKeys).events.length <
        4294967296 := by
  have h := loopRight_run controlPipeName hclock exitReason rawKeys
  have horder := rawKeys_run hooks controlPipeName exitReason rawKeys
  generalize (OperatorWrapperLoop.start exitReason).run hooks controlPipeName rawKeys = loop at h horder
  have hmem : ∀ event ∈ loop.events, ∃ i, loop.events[i]? = some event := fun event hevent =>
    List.mem_iff_getElem?.mp hevent
  refine ⟨fun hright => hright.keysProcessed ▸ UInt32.toNat_lt loop.keysProcessed, fun hlength => ?_⟩
  constructor
  · exact horder
  · exact fun i event hget => quit_iff_of_loopRight h hget
  · intro event hevent
    obtain ⟨i, hget⟩ := hmem event hevent
    exact (h.keys i event hget).single
  · intro event hevent
    obtain ⟨i, hget⟩ := hmem event hevent
    exact (h.keys i event hget).guard
  · intro event hevent hother
    obtain ⟨i, hget⟩ := hmem event hevent
    have hnone : event.armingMillis = none := by
      rw [← Option.not_isSome_iff_eq_none]
      exact fun hsome => hother ((h.keys i event hget).arms.mp hsome).1
    rw [(h.keys i event hget).guard, hnone]
    rfl
  · intro i event previous armed hget hlast harming hexpired
    have hquit : "quit" ∉ event.sends.map Prod.fst := fun hsent => by
      obtain ⟨-, previous', armed', hlast', -, harming', hstart⟩ := (quit_iff_of_loopRight h hget).mp hsent
      cases hlast.symm.trans hlast'
      cases harming.symm.trans harming'
      omega
    exact ⟨hquit, fun hkey => (h.keys i event hget).arms.mpr ⟨hkey, hquit⟩⟩
  · intro i event hget hends
    have hlt : i < loop.events.length := (List.getElem?_eq_some_iff.mp hget).1
    refine Nat.le_antisymm hlt (Nat.le_of_not_lt fun hnext => ?_)
    exact (h.keys i event hget).ends.mpr hends (h.goesOn i event hget hnext)
  · rw [h.commandsSent]
    exact toNat_ofNat_of_le List.countP_le_length hlength
  · rw [h.ignoredKeys]
    exact toNat_ofNat_of_le List.countP_le_length hlength
  · exact toNat_ofNat_of_le (Nat.le_refl _) hlength

/-- What the wrapper reports is what its loop over the keys of the source ended with. -/
theorem runFourViewOperatorWrapper_ok {inputSource : FourViewOperatorWrapperInputSource}
    {summary : FourViewOperatorWrapperLoopSummary}
    (h : runFourViewOperatorWrapper hooks controlPipeName inputSource = .ok summary) :
    ∃ exitReason rawKeys loop, loop = (OperatorWrapperLoop.start exitReason).run hooks controlPipeName rawKeys ∧
      summary.keySummaries = loop.events.map (·.summary) ∧ summary.keysProcessed = loop.keysProcessed ∧
      summary.commandsSent = loop.commandsSent ∧ summary.ignoredKeys = loop.ignoredKeys := by
  unfold runFourViewOperatorWrapper at h
  split at h
  next => cases h
  next =>
    cases inputSource with
    | stdin stream =>
      dsimp only at h
      split at h
      next => cases h
      next =>
        cases h
        exact ⟨_, _, _, rfl, rfl, rfl, rfl, rfl⟩
    | scriptedKeys script =>
      cases h
      exact ⟨_, _, _, rfl, rfl, rfl, rfl, rfl⟩
    | rawKeys opened =>
      cases opened with
      | error error => cases h
      | ok opened =>
        dsimp only at h
        split at h
        next => split at h <;> cases h
        next =>
          split at h
          next => cases h
          next =>
            cases h
            exact ⟨_, _, _, rfl, rfl, rfl, rfl, rfl⟩

/-- The wrapper is right exactly when it is given fewer than 2^32 keys or is over before the one of that
number. -/
theorem operatorWrapper_right_iff (hclock : ∀ n, (hooks.nowMillis n).toNat < 18446744073709549615)
    (exitReason : String) (rawKeys : List String) :
    WrapperRight rawKeys ((OperatorWrapperLoop.start exitReason).run hooks controlPipeName rawKeys) ↔
      rawKeys.length < 4294967296 ∨ ((OperatorWrapperLoop.start exitReason).run hooks controlPipeName
        (rawKeys.take 4294967295)).over = true := by
  have htaken : ((OperatorWrapperLoop.start exitReason).run hooks controlPipeName rawKeys).events.length ≤
      0 + 4294967295 ↔ rawKeys.length ≤ 4294967295 ∨ ((OperatorWrapperLoop.start exitReason).run hooks
        controlPipeName (rawKeys.take 4294967295)).over = true :=
    taken_le_iff (fun loop : OperatorWrapperLoop => loop.events.length)
      (length_events_takeKey hooks controlPipeName) 4294967295 rawKeys
  rw [wrapperRight_iff_length controlPipeName hclock, show rawKeys.length < 4294967296 ↔
    rawKeys.length ≤ 4294967295 from Nat.lt_succ_iff, ← htaken]
  omega

/-- Two presses of `q` within the window, and the answer that ends the wrapper. -/
theorem operatorWrapper_right_two_presses :
    WrapperRight ["q", "q", "s"] ((OperatorWrapperLoop.start "ScriptedKeysCompleted").run
      ⟨fun n => if n < 2 then 1000 else 2999, fun _ _ _ _ => .ok "exit_reason=QuitRequested"⟩ "control"
      ["q", "q", "s"]) :=
  (operatorWrapper_right_iff "control" (fun n => by dsimp only; split <;> decide) _ _).mpr
    (.inl (by decide))

theorem over_takeKey_unknown {rawKey : String} (hkey : parseFourViewOperatorWrapperKey rawKey = none)
    (loop : OperatorWrapperLoop) : (loop.takeKey hooks controlPipeName rawKey).over = false := by
  unfold OperatorWrapperLoop.over OperatorWrapperLoop.takeKey
  dsimp only
  rw [List.getLast?_concat, processFourViewOperatorWrapperKey, hkey]
  simp [WrapperSendReport.ignored]

/-- Of keys that are none the wrapper takes as many as there are. -/
theorem length_run_unknown {rawKey : String} (hkey : parseFourViewOperatorWrapperKey rawKey = none)
    (exitReason : String) (n : Nat) :
    ((OperatorWrapperLoop.start exitReason).run hooks controlPipeName
      (List.replicate n rawKey)).events.length = n := by
  have hover : ((OperatorWrapperLoop.start exitReason).run hooks controlPipeName
      (List.replicate n rawKey)).over = false :=
    runUntil_invariant (I := fun loop : OperatorWrapperLoop => loop.over = false)
      (fun loop key hmem _ _ => List.eq_of_mem_replicate hmem ▸
        over_takeKey_unknown controlPipeName hkey loop) rfl
  have htaken := taken_of_not_stop (fun loop : OperatorWrapperLoop => loop.events.length)
    (length_events_takeKey hooks controlPipeName) hover
  rw [List.length_replicate] at htaken
  exact htaken.trans (Nat.zero_add n)

end

/-- After 2^32 keys the wrapper says that it processed none. -/
theorem operatorWrapper_wraps :
    ¬WrapperRight (List.replicate 4294967296 "x1") ((OperatorWrapperLoop.start "InputClosed").run
      ⟨fun _ => 0, fun _ _ _ _ => .ok ""⟩ "control" (List.replicate 4294967296 "x1")) := by
  have hclock : ∀ _ : Nat, (0 : UInt64).toNat < 18446744073709549615 := fun _ => by decide
  rw [wrapperRight_iff_length "control" hclock, length_run_unknown "control" (by decide)]
  exact Nat.lt_irrefl _

end StreamSync
