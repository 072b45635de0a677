import ObcFlight.RecoveryExecutor

/-!
# The policy of the watchdog supervisor

Each supervised source ages by the tick. Its age is compared with three thresholds, and the
states of all sources are rolled up into the decision whether the hardware watchdog may be fed.
-/

namespace ObcFlight

inductive WatchdogState
  | disabled
  | healthy
  | warning
  | latchedFault
  | feedSuppressed
deriving DecidableEq, Repr

inductive WatchdogRecoveryLevel
  | none
  | warning
  | latchedFault
  | safeRequested
  | feedSuppressed
deriving DecidableEq, Repr

structure WatchdogSourceConfig where
  enabled : Bool := true
  warningTicks : UInt32 := 2
  safeTicks : UInt32 := 3
  suppressTicks : UInt32 := 5
deriving DecidableEq

namespace WatchdogPolicy

def isValidConfig (config : WatchdogSourceConfig) : Bool :=
  decide (0 < config.warningTicks) && decide (config.warningTicks ≤ config.safeTicks) &&
    decide (config.safeTicks ≤ config.suppressTicks)

end WatchdogPolicy

/-- A configuration that has passed its check; a source never holds another one. -/
structure CheckedConfig extends WatchdogSourceConfig where
  valid : WatchdogPolicy.isValidConfig toWatchdogSourceConfig = true
deriving DecidableEq

structure WatchdogSourceSnapshot where
  state : WatchdogState
  config : CheckedConfig
  ageTicks : UInt32 := 0
  beatPending : Bool := false
  probeSuppressed : Bool := false
  lastBeatCode : UInt32 := 0
  warningCount : UInt32 := 0
  faultCount : UInt32 := 0
  suppressionCount : UInt32 := 0
  recoveryCount : UInt32 := 0

structure WatchdogSourceEvaluation where
  nextAgeTicks : UInt32
  nextState : WatchdogState
  crossedWarning : Bool := false
  crossedFault : Bool := false
  crossedSuppression : Bool := false
  recovered : Bool := false
  shouldRequestSafe : Bool := false

structure WatchdogAggregateRollup where
  aggregateState : WatchdogState := .healthy
  recoveryLevel : WatchdogRecoveryLevel := .none
  feedEligible : Bool := true
  warningMask : UInt32 := 0
  faultMask : UInt32 := 0
  suppressMask : UInt32 := 0

namespace WatchdogSource

def all : List WatchdogSource := [epsBridge, epsFdir, modeSafety, commController, adcsFdir]

theorem mem_all (s : WatchdogSource) : s ∈ all := by
  cases s <;> decide

theorem all_nodup : all.Nodup := by decide

def index : WatchdogSource → UInt32
  | epsBridge => 0
  | epsFdir => 1
  | modeSafety => 2
  | commController => 3
  | adcsFdir => 4

def mask (source : WatchdogSource) : UInt32 := (1 : UInt32) <<< source.index

theorem mask_ne_zero (s : WatchdogSource) : s.mask ≠ 0 := by
  cases s <;> decide

end WatchdogSource

namespace WatchdogPolicy

def stateSeverity : WatchdogState → ℕ
  | .disabled => 0
  | .healthy => 1
  | .warning => 2
  | .latchedFault => 3
  | .feedSuppressed => 4

def defaultConfig : CheckedConfig := ⟨{}, by decide⟩

def shouldRequestSafeForMode (mode : SatMode) : Bool :=
  decide (mode = .idle) || decide (mode = .payload) || decide (mode = .ttc)

def stateForAge (config : WatchdogSourceConfig) (ageTicks : UInt32) : WatchdogState :=
  if !config.enabled then .disabled
  else if config.suppressTicks ≤ ageTicks then .feedSuppressed
  else if config.safeTicks ≤ ageTicks then .latchedFault
  else if config.warningTicks ≤ ageTicks then .warning
  else .healthy

def evaluateSource (config : WatchdogSourceConfig) (current : WatchdogSourceSnapshot)
    (beatObserved : Bool) (currentMode : SatMode) : WatchdogSourceEvaluation :=
  let severity := stateSeverity current.state
  if !config.enabled then
    { nextAgeTicks := 0
      nextState := .disabled
      recovered := decide (stateSeverity .healthy < severity) }
  else
    let nextAgeTicks := if beatObserved then 0 else RecoveryExecutor.saturatingIncrement current.ageTicks
    let nextState := stateForAge config nextAgeTicks
    let crossedFault := !beatObserved && decide (severity < stateSeverity .latchedFault) &&
      decide (stateSeverity .latchedFault ≤ stateSeverity nextState)
    { nextAgeTicks
      nextState
      recovered := beatObserved && decide (stateSeverity .healthy < severity)
      crossedWarning := !beatObserved && decide (severity < stateSeverity .warning) &&
        decide (stateSeverity .warning ≤ stateSeverity nextState)
      crossedFault
      crossedSuppression := !beatObserved && decide (current.state ≠ .feedSuppressed) &&
        decide (nextState = .feedSuppressed)
      shouldRequestSafe := crossedFault && shouldRequestSafeForMode currentMode }

/-! ### Roll-up -/

def faulted (state : WatchdogState) : Bool :=
  decide (state = .latchedFault) || decide (state = .feedSuppressed)

/-- What the loop over the sources has gathered. -/
structure Scan where
  anyEnabled : Bool := false
  warningMask : UInt32 := 0
  faultMask : UInt32 := 0
  suppressMask : UInt32 := 0

def counted (snapshot : WatchdogSourceSnapshot) : Bool :=
  !(decide (snapshot.state = .disabled) || !snapshot.config.enabled)

def scanSource (sources : WatchdogSource → WatchdogSourceSnapshot) (scan : Scan)
    (source : WatchdogSource) : Scan :=
  let snapshot := sources source
  if !counted snapshot then scan
  else
    { anyEnabled := true
      warningMask := if snapshot.state = .warning then scan.warningMask ||| source.mask
        else scan.warningMask
      faultMask := if faulted snapshot.state then scan.faultMask ||| source.mask else scan.faultMask
      suppressMask := if snapshot.state = .feedSuppressed then scan.suppressMask ||| source.mask
        else scan.suppressMask }

def scanSources (sources : WatchdogSource → WatchdogSourceSnapshot) : Scan :=
  WatchdogSource.all.foldl (scanSource sources) {}

def rollup (sources : WatchdogSource → WatchdogSourceSnapshot)
    (safeRequestIssuedForCurrentFault : Bool) : WatchdogAggregateRollup :=
  let scan := scanSources sources
  let masks : WatchdogAggregateRollup :=
    { warningMask := scan.warningMask, faultMask := scan.faultMask, suppressMask := scan.suppressMask }
  if !scan.anyEnabled then { masks with aggregateState := .disabled, feedEligible := false }
  else if scan.suppressMask ≠ 0 then
    { masks with aggregateState := .feedSuppressed, recoveryLevel := .feedSuppressed, feedEligible := false }
  else if scan.faultMask ≠ 0 then
    { masks with
      aggregateState := .latchedFault
      recoveryLevel := if safeRequestIssuedForCurrentFault then .safeRequested else .latchedFault }
  else if scan.warningMask ≠ 0 then
    { masks with aggregateState := .warning, recoveryLevel := .warning }
  else masks

variable (sources : WatchdogSource → WatchdogSourceSnapshot) (keys : List WatchdogSource)

theorem anyEnabled_foldl (scan : Scan) :
    (keys.foldl (scanSource sources) scan).anyEnabled = true ↔
      scan.anyEnabled = true ∨ ∃ s ∈ keys, counted (sources s) = true := by
  induction keys generalizing scan with
  | nil => simp
  | cons key _ ih =>
    rw [List.foldl_cons, ih]
    cases hc : counted (sources key) with
    | false | true => simp [scanSource, hc]

theorem suppressMask_foldl (scan : Scan) :
    (keys.foldl (scanSource sources) scan).suppressMask = 0 ↔
      scan.suppressMask = 0 ∧ ∀ s ∈ keys, counted (sources s) = true →
        (sources s).state ≠ .feedSuppressed := by
  induction keys generalizing scan with
  | nil => simp
  | cons key _ ih =>
    rw [List.foldl_cons, ih]
    cases hc : counted (sources key) with
    | false => simp [scanSource, hc]
    | true =>
      by_cases hs : (sources key).state = .feedSuppressed
      · simp [scanSource, hc, hs, key.mask_ne_zero]
      · simp [scanSource, hc, hs]

theorem rollup_feedEligible (i : Bool) : (rollup sources i).feedEligible = true ↔
      (∃ s, counted (sources s) = true) ∧
        ∀ s, counted (sources s) = true → (sources s).state ≠ .feedSuppressed := by
  have hany : (scanSources sources).anyEnabled = true ↔ ∃ s, counted (sources s) = true := by
    simpa [scanSources, WatchdogSource.mem_all] using anyEnabled_foldl sources WatchdogSource.all {}
  have hm : (scanSources sources).suppressMask = 0 ↔
      ∀ s, counted (sources s) = true → (sources s).state ≠ .feedSuppressed := by
    simpa [scanSources, WatchdogSource.mem_all] using suppressMask_foldl sources WatchdogSource.all {}
  rw [← hany, ← hm]
  unfold rollup
  dsimp only
  cases he : (scanSources sources).anyEnabled with
  | false => simp
  | true =>
    by_cases hs : (scanSources sources).suppressMask = 0
    · simp only [hs]
      split_ifs <;> simp_all
    · simp [hs]

end WatchdogPolicy

end ObcFlight
