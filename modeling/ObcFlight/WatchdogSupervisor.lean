import ObcFlight.KeyedLoop
import ObcFlight.RecoveryCalls
import ObcFlight.WatchdogPolicy

/-!
# The watchdog supervisor

Beats, ticks, configuration changes and probe suppressions of the component. The recovery
executor is told about faults, suppressions and recoveries by calls into its sink; the
supervisor reads nothing back from it, so the calls are part of what an operation emits.
-/

namespace ObcFlight

structure WatchdogRuntimeSnapshot where
  aggregateState : WatchdogState := .healthy
  recoveryLevel : WatchdogRecoveryLevel := .none
  feedEligible : Bool := true
  warningMask : UInt32 := 0
  faultMask : UInt32 := 0
  suppressMask : UInt32 := 0
  evaluationCount : UInt32 := 0
  safeRequestCount : UInt32 := 0
  feedSuppressCount : UInt32 := 0
  feedStrokeAttemptCount : UInt32 := 0
  aggregateRecoveryCount : UInt32 := 0
  sources : WatchdogSource → WatchdogSourceSnapshot

structure WatchdogSupervisor where
  status : WatchdogRuntimeSnapshot
  safeRequestIssuedForCurrentFault : Bool := false

/-- Which of the component's outgoing connections exist. -/
structure WatchdogPorts where
  recoverySink : Bool
  watchdogFeedOut : Bool

inductive WatchdogOutput
  | sourceWarning (source : WatchdogSource) (ageTicks warningTicks : UInt32)
  | sourceFaultEntered (source : WatchdogSource) (ageTicks : UInt32) (mode : SatMode) (requestedSafe : Bool)
  | sourceFeedSuppressed (source : WatchdogSource) (ageTicks suppressTicks : UInt32)
  | sourceRecovered (source : WatchdogSource) (previousState : WatchdogState)
  | configUpdated (source : WatchdogSource) (config : WatchdogSourceConfig)
  | feedEligibilityChanged (feedEligible : Bool) (faultMask suppressMask : UInt32)
      (level : WatchdogRecoveryLevel)
  | probeSuppressionUpdated (source : WatchdogSource) (suppressed : Bool)
  | recovery (call : RecoveryExecutor.Call)
  | watchdogFeed (code : UInt32)
  | response (response : CmdResponse)
deriving DecidableEq

namespace WatchdogSupervisor

open WatchdogPolicy

def watchdogFeedCode : UInt32 := 0x57444731

variable (r : WatchdogAggregateRollup)

def applyAggregateRollup (status : WatchdogRuntimeSnapshot) :
    WatchdogRuntimeSnapshot :=
  { status with
    aggregateState := r.aggregateState
    recoveryLevel := r.recoveryLevel
    feedEligible := r.feedEligible
    warningMask := r.warningMask
    faultMask := r.faultMask
    suppressMask := r.suppressMask }

/-- Whether the roll-up differs from what is shown in a way that is reported. -/
def rollupChanged (status : WatchdogRuntimeSnapshot) : Bool :=
  decide (r.feedEligible ≠ status.feedEligible) || decide (r.recoveryLevel ≠ status.recoveryLevel) ||
    decide (r.faultMask ≠ status.faultMask) || decide (r.suppressMask ≠ status.suppressMask)

def emitFeedEligibilityEvent : WatchdogOutput :=
  .feedEligibilityChanged r.feedEligible r.faultMask r.suppressMask r.recoveryLevel

def initialSources (_ : WatchdogSource) : WatchdogSourceSnapshot :=
  { state := stateForAge defaultConfig.toWatchdogSourceConfig 0, config := defaultConfig }

def initial : WatchdogSupervisor where
  status := applyAggregateRollup (rollup initialSources false) { sources := initialSources }

variable (source : WatchdogSource)

def setSource (snapshot : WatchdogSourceSnapshot)
    (status : WatchdogRuntimeSnapshot) : WatchdogRuntimeSnapshot :=
  { status with sources := Function.update status.sources source snapshot }

variable (ports : WatchdogPorts)

def notify (calls : List RecoveryExecutor.Call) : List WatchdogOutput :=
  if ports.recoverySink then calls.map .recovery else []

/-- A beat is kept for the next tick unless the source is being probed. -/
def beatSource (code : UInt32) (current : WatchdogSourceSnapshot) : WatchdogSourceSnapshot :=
  { current with
    lastBeatCode := code
    beatPending := if !current.probeSuppressed then true else current.beatPending }

def beatIn (code : UInt32) (w : WatchdogSupervisor) : WatchdogSupervisor :=
  { w with status := setSource source (beatSource code (w.status.sources source)) w.status }

/-! ### Commands -/

/-- The flag of the requested fallback falls once no fault is left. -/
def settle (issued : Bool) : Bool :=
  if !faulted r.aggregateState then false else issued

def configureSource (config : CheckedConfig) (current : WatchdogSourceSnapshot) :
    WatchdogSourceSnapshot :=
  if !config.enabled then
    { current with config, state := .disabled, ageTicks := 0, beatPending := false }
  else
    { current with config, state := stateForAge config.toWatchdogSourceConfig current.ageTicks }

def setConfig (config : WatchdogSourceConfig) (w : WatchdogSupervisor) :
    WatchdogSupervisor × List WatchdogOutput :=
  if h : isValidConfig config = true then
    let status := setSource source (configureSource ⟨config, h⟩ (w.status.sources source)) w.status
    let r := rollup status.sources w.safeRequestIssuedForCurrentFault
    ({ status := applyAggregateRollup r status
       safeRequestIssuedForCurrentFault := settle r w.safeRequestIssuedForCurrentFault },
      [.configUpdated source config, .response .ok])
  else (w, [.response .validationError])

/-- The source after the command, and what the recovery executor is told. -/
def probeSource (suppressed : Bool) (current : WatchdogSourceSnapshot) :
    WatchdogSourceSnapshot × List RecoveryExecutor.Call :=
  let wasSuppressed := decide (current.state = .feedSuppressed)
  let marked := { current with probeSuppressed := suppressed, beatPending := false }
  if suppressed then
    if !wasSuppressed && current.config.enabled then
      ({ marked with
          ageTicks := current.config.suppressTicks
          state := .feedSuppressed
          suppressionCount := RecoveryExecutor.saturatingIncrement current.suppressionCount },
        [.submitWatchdogSuppression source])
    else (marked, [])
  else if wasSuppressed then
    ({ marked with
        ageTicks := 0
        state := if current.config.enabled then .healthy else .disabled },
      [.clearWatchdogFault source])
  else (marked, [])

def setProbeBeatSuppression (source : WatchdogSource) (suppressed : Bool)
    (w : WatchdogSupervisor) : WatchdogSupervisor × List WatchdogOutput :=
  let current := w.status.sources source
  let probed := probeSource source suppressed current
  let status := setSource source probed.1 w.status
  let r := rollup status.sources w.safeRequestIssuedForCurrentFault
  let entered := decide (r.aggregateState = .feedSuppressed) &&
    decide (w.status.aggregateState ≠ .feedSuppressed)
  ({ status := applyAggregateRollup r { status with
        feedSuppressCount := if entered then RecoveryExecutor.saturatingIncrement status.feedSuppressCount
          else status.feedSuppressCount }
     safeRequestIssuedForCurrentFault := settle r w.safeRequestIssuedForCurrentFault },
    [.probeSuppressionUpdated source suppressed] ++
      (if probed.2 = [.submitWatchdogSuppression source] then
        [.sourceFeedSuppressed source current.config.suppressTicks current.config.suppressTicks]
      else []) ++
      (if rollupChanged r w.status then [emitFeedEligibilityEvent r] else []) ++
      notify ports probed.2 ++ [.response .ok])

/-! ### The tick -/

/-- The tick on one source: its beat is used up, its age and counters move on. -/
def tickSnapshot (mode : SatMode) (current : WatchdogSourceSnapshot) :
    WatchdogSourceSnapshot × WatchdogSourceEvaluation :=
  let evaluation := evaluateSource current.config.toWatchdogSourceConfig current current.beatPending mode
  let count (raised : Bool) (counter : UInt32) :=
    if raised then RecoveryExecutor.saturatingIncrement counter else counter
  ({ current with
      beatPending := false
      ageTicks := evaluation.nextAgeTicks
      state := evaluation.nextState
      warningCount := count evaluation.crossedWarning current.warningCount
      faultCount := count evaluation.crossedFault current.faultCount
      suppressionCount := count evaluation.crossedSuppression current.suppressionCount
      recoveryCount := count evaluation.recovered current.recoveryCount },
    evaluation)

variable (e : WatchdogSourceEvaluation)

def faultCalls : List RecoveryExecutor.Call :=
  if e.crossedFault then [.submitWatchdogFault source] else []

def suppressionCalls : List RecoveryExecutor.Call :=
  if e.crossedSuppression then [.submitWatchdogSuppression source] else []

def recoveryCalls : List RecoveryExecutor.Call :=
  if e.recovered then [.clearWatchdogFault source] else []

/-- The loop's state: the component and what has been emitted. -/
structure Round where
  supervisor : WatchdogSupervisor
  outputs : List WatchdogOutput := []

/-- One turn of the tick's loop. The local flag of the source is raised together with the flag
of the component, so the latter alone decides whether the fallback is still to be requested. -/
def tickSource (mode : SatMode) (round : Round) (source : WatchdogSource) :
    Round :=
  let w := round.supervisor
  let current := w.status.sources source
  let ticked := tickSnapshot mode current
  let e := ticked.2
  let requested := e.crossedFault && !w.safeRequestIssuedForCurrentFault && e.shouldRequestSafe
  let status := setSource source ticked.1 w.status
  { supervisor := {
      status := { status with
        safeRequestCount := if requested then RecoveryExecutor.saturatingIncrement status.safeRequestCount
          else status.safeRequestCount }
      safeRequestIssuedForCurrentFault := w.safeRequestIssuedForCurrentFault || requested }
    outputs := round.outputs ++
      (if e.crossedWarning then
        [.sourceWarning source e.nextAgeTicks current.config.warningTicks] else []) ++
      (if e.crossedFault then
        [.sourceFaultEntered source e.nextAgeTicks mode requested] else []) ++
      notify ports (faultCalls source e) ++
      (if e.crossedSuppression then
        [.sourceFeedSuppressed source e.nextAgeTicks current.config.suppressTicks] else []) ++
      notify ports (suppressionCalls source e) ++
      (if e.recovered then [.sourceRecovered source current.state] else []) ++
      notify ports (recoveryCalls source e) }

def tickSources (mode : SatMode) (w : WatchdogSupervisor) : Round :=
  WatchdogSource.all.foldl (tickSource ports mode) { supervisor := w }

/-- The sources in fault are reported again when the mode first allows the fallback. -/
def requestSafeAgain (mode : SatMode) (round : Round) : Round :=
  let w := round.supervisor
  let r := rollup w.status.sources w.safeRequestIssuedForCurrentFault
  if faulted r.aggregateState && !w.safeRequestIssuedForCurrentFault && shouldRequestSafeForMode mode then
    { supervisor := {
        status := { w.status with safeRequestCount := RecoveryExecutor.saturatingIncrement w.status.safeRequestCount }
        safeRequestIssuedForCurrentFault := true }
      outputs := round.outputs ++ notify ports
        ((WatchdogSource.all.filter fun source => faulted (w.status.sources source).state).map
          .submitWatchdogFault) }
  else round

/-- The end of the tick: the roll-up is shown, counted and, where it allows it, the hardware
watchdog is fed. -/
def finishTick (previousAggregateState : WatchdogState) (round : Round) :
    WatchdogSupervisor × List WatchdogOutput :=
  let w := round.supervisor
  let r := rollup w.status.sources w.safeRequestIssuedForCurrentFault
  let recovered := faulted previousAggregateState &&
    (decide (r.aggregateState = .healthy) || decide (r.aggregateState = .warning))
  let entered := decide (r.aggregateState = .feedSuppressed) &&
    decide (previousAggregateState ≠ .feedSuppressed)
  let shown := applyAggregateRollup r w.status
  let strokeWatchdog := shown.feedEligible && ports.watchdogFeedOut
  ({ status := { shown with
        aggregateRecoveryCount := if recovered then RecoveryExecutor.saturatingIncrement shown.aggregateRecoveryCount
          else shown.aggregateRecoveryCount
        feedSuppressCount := if entered then RecoveryExecutor.saturatingIncrement shown.feedSuppressCount
          else shown.feedSuppressCount
        evaluationCount := RecoveryExecutor.saturatingIncrement shown.evaluationCount
        feedStrokeAttemptCount := if strokeWatchdog then RecoveryExecutor.saturatingIncrement shown.feedStrokeAttemptCount
          else shown.feedStrokeAttemptCount }
     safeRequestIssuedForCurrentFault := settle r w.safeRequestIssuedForCurrentFault },
    round.outputs ++ (if rollupChanged r w.status then [emitFeedEligibilityEvent r] else []) ++
      (if strokeWatchdog then [.watchdogFeed watchdogFeedCode] else []))

def schedIn (mode : SatMode) (w : WatchdogSupervisor) : WatchdogSupervisor × List WatchdogOutput :=
  finishTick ports w.status.aggregateState (requestSafeAgain ports mode (tickSources ports mode w))

/-! ### Runs -/

inductive Input
  | beatIn (source : WatchdogSource) (code : UInt32)
  | schedIn (mode : SatMode)
  | setConfig (source : WatchdogSource) (config : WatchdogSourceConfig)
  | setProbeBeatSuppression (source : WatchdogSource) (suppressed : Bool)

def machine : Machine WatchdogSupervisor Input WatchdogOutput where
  step w
    | .beatIn source code => (beatIn source code w, [])
    | .schedIn mode => schedIn ports mode w
    | .setConfig source config => setConfig source config w
    | .setProbeBeatSuppression source suppressed => setProbeBeatSuppression ports source suppressed w

abbrev reached (inputs : List Input) : WatchdogSupervisor := (machine ports).run initial inputs

/-! ### One source during a run -/

def touch (input : Input) (x : WatchdogSourceSnapshot) :
    WatchdogSourceSnapshot :=
  match input with
  | .beatIn own code => if own = source then beatSource code x else x
  | .schedIn mode => (tickSnapshot mode x).1
  | .setConfig own config =>
      if h : own = source ∧ isValidConfig config = true then configureSource ⟨config, h.2⟩ x else x
  | .setProbeBeatSuppression own suppressed =>
      if own = source then (probeSource own suppressed x).1 else x

def calls (outputs : List WatchdogOutput) : List RecoveryExecutor.Call :=
  outputs.filterMap fun
    | .recovery call => some call
    | _ => none

@[simp] theorem calls_append (o later : List WatchdogOutput) :
    calls (o ++ later) = calls o ++ calls later :=
  List.filterMap_append ..

variable (ports : WatchdogPorts)

@[simp] theorem calls_notify (l : List RecoveryExecutor.Call) :
    calls (notify ports l) = if ports.recoverySink then l else [] := by
  unfold notify
  split_ifs
  · simp [calls, List.filterMap_map]
  · rfl

/-- What the recovery executor is told about a source at a tick. -/
def tickCalls : List RecoveryExecutor.Call :=
  faultCalls source e ++ suppressionCalls source e ++ recoveryCalls source e

theorem calls_event {b : Bool} {e : WatchdogOutput} (h : calls [e] = []) :
    calls (if b then [e] else []) = [] := by
  cases b
  · rfl
  · exact h

variable (mode : SatMode)

theorem calls_tickSource (r : Round) (s : WatchdogSource) :
    calls (tickSource ports mode r s).outputs = calls r.outputs ++
      if ports.recoverySink then
        tickCalls s (tickSnapshot mode (r.supervisor.status.sources s)).2
      else [] := by
  simp only [tickSource, calls_append, calls_notify]
  rw [calls_event rfl, calls_event rfl, calls_event rfl, calls_event rfl]
  split_ifs <;> simp [tickCalls, List.append_assoc]

/-- The tick's loop: each turn rewrites its own source and makes the calls about it. -/
def tickLoop (mode : SatMode) :
    KeyedLoop Round WatchdogSource WatchdogSourceSnapshot RecoveryExecutor.Call where
  turn := tickSource ports mode
  entry round := round.supervisor.status.sources
  next _ x := (tickSnapshot mode x).1
  log round := calls round.outputs
  emit source x := if ports.recoverySink then tickCalls source (tickSnapshot mode x).2 else []
  entry_turn _ _ := rfl
  log_turn round source := calls_tickSource ports mode round source

theorem requestSafeAgain_sources (r : Round) :
    (requestSafeAgain ports mode r).supervisor.status.sources = r.supervisor.status.sources := by
  unfold requestSafeAgain
  dsimp only
  split_ifs <;> rfl

variable (w : WatchdogSupervisor)

theorem schedIn_sources (s : WatchdogSource) :
    (schedIn ports mode w).1.status.sources s = (tickSnapshot mode (w.status.sources s)).1 := by
  change (requestSafeAgain ports mode (tickSources ports mode w)).supervisor.status.sources s = _
  rw [requestSafeAgain_sources]
  exact (tickLoop ports mode).entry_foldl WatchdogSource.all_nodup (WatchdogSource.mem_all s)
    { supervisor := w }

theorem setSource_sources (own source : WatchdogSource)
    (f : WatchdogSourceSnapshot → WatchdogSourceSnapshot) (s : WatchdogRuntimeSnapshot) :
    (setSource own (f (s.sources own)) s).sources source =
      if own = source then f (s.sources source) else s.sources source := by
  change Function.update s.sources own (f (s.sources own)) source = _
  split_ifs with h
  · rw [← h, Function.update_self]
  · rw [Function.update_of_ne (Ne.symm h)]

theorem step_sources (i : Input) (s : WatchdogSource) :
    ((machine ports).step w i).1.status.sources s = touch s i (w.status.sources s) := by
  cases i with
  | beatIn own code => exact setSource_sources own s (beatSource code) w.status
  | schedIn mode => exact schedIn_sources ports mode w s
  | setConfig own c =>
    change (setConfig own c w).1.status.sources s = _
    unfold setConfig touch
    by_cases hvl : isValidConfig c = true
    · simp only [hvl, and_true, dite_true]
      exact setSource_sources own s (configureSource ⟨c, hvl⟩) w.status
    · have hk : ¬(own = s ∧ isValidConfig c = true) := fun h => hvl h.2
      dsimp only
      rw [dif_neg hvl, dif_neg hk]
  | setProbeBeatSuppression own b =>
    exact setSource_sources own s (fun x => (probeSource own b x).1) w.status

end WatchdogSupervisor

end ObcFlight
