import ObcFlight.RecoveryTypes

/-!
# The TTC pass manager

At its tick the component reads the mode and decides, from the pass window, the GPS time and
the links, whether to enter or to leave TTC; the mode is set afterwards. The two halves of the
tick are separate definitions here, since other components may run between them.
-/

namespace ObcFlight

structure TtcPassConfig where
  enabled : Bool := false
  lossOfLockTimeoutSec : UInt32 := 0

structure TtcPassWindow where
  startUnixSec : UInt64 := 0
  endUnixSec : UInt64 := 0
deriving DecidableEq

inductive TtcPassPolicyReason
  | none
  | windowActive
  | ttcDisabled
  | windowCleared
  | windowInactive
  | gpsInvalid
  | commLossTimeout
deriving DecidableEq, Repr

structure TtcGpsFreshnessTracker where
  haveAcceptedSentenceTimestamp : Bool := false
  lastAcceptedSentenceCount : UInt32 := 0
  lastAcceptedSentenceWallclockSec : UInt32 := 0

structure TtcCommLossTracker where
  active : Bool := false
  noLinkStartWallclockSec : UInt32 := 0

/-- The part of the GPS state that the pass policy reads. -/
structure GpsPassState where
  hasSample : Bool
  fixValid : Bool
  utcSecondsOfDay : UInt32
  utcDateYmd : UInt32
  acceptedSentenceCount : UInt32

/-- The part of the COMM state that the pass policy reads. -/
structure CommLinks where
  sbandAvailable : Bool
  uhfAvailable : Bool

namespace TtcPassPolicy

def gpsStaleThresholdSec : UInt32 := 15

def isValidPassWindow (window : TtcPassWindow) : Bool :=
  decide (window.startUnixSec ≠ 0) && decide (window.endUnixSec ≠ 0) &&
    decide (window.startUnixSec < window.endUnixSec)

def isWindowActive (nowUnixSec : UInt64) (window : TtcPassWindow) : Bool :=
  isValidPassWindow window && decide (window.startUnixSec ≤ nowUnixSec) &&
    decide (nowUnixSec < window.endUnixSec)

def isLeapYear (year : UInt32) : Bool :=
  (decide (year % 4 = 0) && decide (year % 100 ≠ 0)) || decide (year % 400 = 0)

def daysInMonth (year month : UInt32) : UInt32 :=
  if month = 1 ∨ month = 3 ∨ month = 5 ∨ month = 7 ∨ month = 8 ∨ month = 10 ∨ month = 12 then 31
  else if month = 4 ∨ month = 6 ∨ month = 9 ∨ month = 11 then 30
  else if month = 2 then if isLeapYear year then 29 else 28
  else 0

/-- The signed 64-bit values of the source stay far inside their range. -/
def daysFromCivil (year : ℤ) (month day : UInt32) : ℤ :=
  let year := year - if month ≤ 2 then 1 else 0
  let era := (if 0 ≤ year then year else year - 399).tdiv 400
  let yoe := UInt32.ofNat (year - era * 400).toNat
  let monthIndex := if 2 < month then month - 3 else month + 9
  let doy := (153 * monthIndex + 2) / 5 + day - 1
  let doe := yoe * 365 + yoe / 4 - yoe / 100 + doy
  era * 146097 + doe.toNat - 719468

def convertGpsUtcToUnixSec (utcDateYmd utcSecondsOfDay : UInt32) : Option UInt64 :=
  if utcDateYmd = 0 ∨ 86400 ≤ utcSecondsOfDay then none
  else
    let year := utcDateYmd / 10000
    let month := utcDateYmd / 100 % 100
    let day := utcDateYmd % 100
    if year < 1970 ∨ month < 1 ∨ 12 < month then none
    else if day < 1 ∨ daysInMonth year month < day then none
    else
      let daysSinceEpoch := daysFromCivil year.toNat month day
      if daysSinceEpoch < 0 then none
      else
        let daySeconds := UInt64.ofNat daysSinceEpoch.toNat * 86400
        let result := daySeconds + utcSecondsOfDay.toUInt64
        if result < daySeconds then none else some result

def updateGpsFreshnessTracker (acceptedSentenceCount wallclockSec : UInt32)
    (tracker : TtcGpsFreshnessTracker) : TtcGpsFreshnessTracker :=
  if !tracker.haveAcceptedSentenceTimestamp ||
      decide (acceptedSentenceCount ≠ tracker.lastAcceptedSentenceCount) then
    { haveAcceptedSentenceTimestamp := true
      lastAcceptedSentenceCount := acceptedSentenceCount
      lastAcceptedSentenceWallclockSec := wallclockSec }
  else tracker

def isGpsFresh (tracker : TtcGpsFreshnessTracker) (wallclockSec staleThresholdSec : UInt32) : Bool :=
  tracker.haveAcceptedSentenceTimestamp &&
    decide (tracker.lastAcceptedSentenceWallclockSec ≤ wallclockSec) &&
    decide (wallclockSec - tracker.lastAcceptedSentenceWallclockSec ≤ staleThresholdSec)

def updateLossOfLockTimer (wallclockSec : UInt32) (currentModeIsTtc anyLinkAvailable : Bool)
    (tracker : TtcCommLossTracker) : TtcCommLossTracker × UInt32 :=
  if !currentModeIsTtc || anyLinkAvailable then ({}, 0)
  else if !tracker.active || decide (wallclockSec < tracker.noLinkStartWallclockSec) then
    ({ active := true, noLinkStartWallclockSec := wallclockSec }, 0)
  else (tracker, wallclockSec - tracker.noLinkStartWallclockSec)

def ttcPassAnyLinkAvailable (state : CommLinks) : Bool := state.sbandAvailable || state.uhfAvailable

end TtcPassPolicy

structure TtcPassRuntimeStatus where
  currentMode : SatMode := .safe
  enabled : Bool := false
  lossOfLockTimeoutSec : UInt32 := 0
  windowConfigured : Bool := false
  windowStartUnixSec : UInt64 := 0
  windowEndUnixSec : UInt64 := 0
  windowActive : Bool := false
  gpsTimeValid : Bool := false
  currentGpsUnixSec : UInt64 := 0
  ttcActive : Bool := false
  lossOfLockTimerSec : UInt32 := 0
  lastEntryReason : TtcPassPolicyReason := .none
  lastExitReason : TtcPassPolicyReason := .none
  entryCount : UInt32 := 0
  exitCount : UInt32 := 0

structure TtcPassManager where
  config : TtcPassConfig := {}
  window : TtcPassWindow := {}
  suppressedWindow : TtcPassWindow := {}
  gpsFreshness : TtcGpsFreshnessTracker := {}
  commLoss : TtcCommLossTracker := {}
  status : TtcPassRuntimeStatus := {}

/-- What a tick reads besides the mode: the clock and the two providers, where they are
configured and, for the GPS, have a cached state. -/
structure TtcSurroundings where
  wallclockSec : UInt32
  gps : Option GpsPassState
  comm : Option CommLinks

/-- What a tick is about to do to the mode. -/
inductive TtcRequest
  | entry (reason : TtcPassPolicyReason)
  | exit (reason : TtcPassPolicyReason)
deriving DecidableEq

def TtcRequest.target : TtcRequest → SatMode
  | entry _ => .ttc
  | exit _ => .idle

inductive TtcEvent
  | entryRequest (reason : TtcPassPolicyReason)
  | exitRequest (reason : TtcPassPolicyReason)
  | adcsPointingRequestFailed
deriving DecidableEq

namespace TtcPassManager

open TtcPassPolicy

/-! ### Commands -/

def setPolicy (enabled : Bool) (lossOfLockTimeoutSec : UInt32) (t : TtcPassManager) :
    TtcPassManager × CmdResponse :=
  if enabled && decide (lossOfLockTimeoutSec = 0) then (t, .validationError)
  else
    ({ t with
        config := { enabled, lossOfLockTimeoutSec }
        status := { t.status with enabled, lossOfLockTimeoutSec } }, .ok)

def setPassWindow (startUnixSec endUnixSec : UInt64) (t : TtcPassManager) :
    TtcPassManager × CmdResponse :=
  let requested : TtcPassWindow := { startUnixSec, endUnixSec }
  if !isValidPassWindow requested then
    ({ t with
        window := {}
        status := { t.status with
          windowConfigured := false, windowStartUnixSec := 0, windowEndUnixSec := 0
          windowActive := false } }, .validationError)
  else
    ({ t with
        suppressedWindow := if requested ≠ t.suppressedWindow then {} else t.suppressedWindow
        window := requested
        status := { t.status with
          windowConfigured := true, windowStartUnixSec := startUnixSec, windowEndUnixSec := endUnixSec } },
      .ok)

def clearPassWindow (t : TtcPassManager) : TtcPassManager :=
  { t with
    window := {}
    suppressedWindow := {}
    status := { t.status with
      windowConfigured := false, windowStartUnixSec := 0, windowEndUnixSec := 0, windowActive := false } }

/-! ### The tick -/

def gpsTime (freshness : TtcGpsFreshnessTracker) (wallclockSec : UInt32) (gps : Option GpsPassState) :
    Option UInt64 :=
  gps.bind fun state =>
    if state.hasSample && state.fixValid && decide (state.utcDateYmd ≠ 0) &&
        isGpsFresh freshness wallclockSec gpsStaleThresholdSec then
      convertGpsUtcToUnixSec state.utcDateYmd state.utcSecondsOfDay
    else none

/-- The part of the tick before the mode is looked at: time, window and the loss timer. -/
def observe (around : TtcSurroundings) (currentMode : SatMode) (t : TtcPassManager) : TtcPassManager :=
  let freshness := match around.gps with
    | none => t.gpsFreshness
    | some state => updateGpsFreshnessTracker state.acceptedSentenceCount around.wallclockSec t.gpsFreshness
  let time := gpsTime freshness around.wallclockSec around.gps
  let windowConfigured := isValidPassWindow t.window
  let windowActive := time.isSome && windowConfigured && isWindowActive (time.getD 0) t.window
  let ttcActive := decide (currentMode = .ttc)
  let loss := updateLossOfLockTimer around.wallclockSec ttcActive
    (around.comm.any ttcPassAnyLinkAvailable) t.commLoss
  { t with
    gpsFreshness := freshness
    suppressedWindow :=
      if !windowConfigured || decide (t.window ≠ t.suppressedWindow) || !windowActive then {}
      else t.suppressedWindow
    commLoss := loss.1
    status := { t.status with
      currentMode
      enabled := t.config.enabled
      lossOfLockTimeoutSec := t.config.lossOfLockTimeoutSec
      windowConfigured
      windowStartUnixSec := if windowConfigured then t.window.startUnixSec else 0
      windowEndUnixSec := if windowConfigured then t.window.endUnixSec else 0
      gpsTimeValid := time.isSome
      currentGpsUnixSec := time.getD 0
      windowActive
      ttcActive
      lossOfLockTimerSec := loss.2 } }

def forgetLoss (t : TtcPassManager) : TtcPassManager :=
  { t with commLoss := {}, status := { t.status with lossOfLockTimerSec := 0 } }

/-- The tick in IDLE. Leaving TTC by other means suppresses the window for re-entry. -/
def tickIdle (hasModeControl previouslyTtcActive : Bool) (t : TtcPassManager) :
    TtcPassManager × Option TtcRequest :=
  let t := if previouslyTtcActive && t.status.windowActive then { t with suppressedWindow := t.window }
    else t
  let entrySuppressed := t.status.windowActive && decide (t.window = t.suppressedWindow)
  if t.config.enabled && t.status.windowActive && t.status.gpsTimeValid && !entrySuppressed then
    if hasModeControl then
      ({ t with status := { t.status with
          lastEntryReason := .windowActive, entryCount := t.status.entryCount + 1 } },
        some (.entry .windowActive))
    else (t, none)
  else (t.forgetLoss, none)

def exitReason (t : TtcPassManager) : TtcPassPolicyReason :=
  if !t.config.enabled then .ttcDisabled
  else if !t.status.windowConfigured then .windowCleared
  else if !t.status.gpsTimeValid then .gpsInvalid
  else if !t.status.windowActive then .windowInactive
  else if decide (0 < t.config.lossOfLockTimeoutSec) &&
      decide (t.config.lossOfLockTimeoutSec < t.status.lossOfLockTimerSec) then .commLossTimeout
  else .none

def tickTtc (hasModeControl : Bool) (t : TtcPassManager) : TtcPassManager × Option TtcRequest :=
  let reason := exitReason t
  if decide (reason ≠ .none) && hasModeControl then
    ({ t with
        suppressedWindow :=
          if decide (reason = .commLossTimeout) && t.status.windowActive then t.window
          else t.suppressedWindow
        status := { t.status with lastExitReason := reason, exitCount := t.status.exitCount + 1 } },
      some (.exit reason))
  else (t, none)

def schedDecide (hasModeControl : Bool) (around : TtcSurroundings) (currentMode : SatMode)
    (t : TtcPassManager) : TtcPassManager × Option TtcRequest :=
  let observed := t.observe around currentMode
  match currentMode with
  | .idle => observed.tickIdle hasModeControl t.status.ttcActive
  | .ttc => observed.tickTtc hasModeControl
  | _ => (observed.forgetLoss, none)

/-- What is recorded once the mode has been set. On entry ADCS is asked to point, if it is
configured, and a refusal is reported. -/
def schedRecord (pointingAccepted : Option Bool) (request : TtcRequest) (t : TtcPassManager) :
    TtcPassManager × List TtcEvent :=
  match request with
  | .entry reason =>
      ({ t with status := { t.status with currentMode := .ttc, ttcActive := true } },
        (if pointingAccepted = some false then [.adcsPointingRequestFailed] else []) ++
          [.entryRequest reason])
  | .exit reason =>
      ({ t with
          commLoss := {}
          status := { t.status with currentMode := .idle, ttcActive := false, lossOfLockTimerSec := 0 } },
        [.exitRequest reason])

theorem schedDecide_request {b : Bool} {a : TtcSurroundings} {c : SatMode} {t : TtcPassManager}
    {r : TtcRequest} (h : (t.schedDecide b a c).2 = some r) :
    c = .idle ∧ r.target = .ttc ∨ c = .ttc ∧ r.target = .idle := by
  cases c with
  | safe | hell | payload => cases h
  | idle =>
    have he : r = .entry .windowActive := by
      dsimp only [schedDecide, tickIdle] at h
      split_ifs at h <;> exact (Option.some.inj h).symm
    rw [he]
    exact .inl ⟨rfl, rfl⟩
  | ttc =>
    have het : ∃ reason, r = .exit reason := by
      dsimp only [schedDecide, tickTtc] at h
      split_ifs at h <;> exact ⟨_, (Option.some.inj h).symm⟩
    obtain ⟨reason, rfl⟩ := het
    exact .inr ⟨rfl, rfl⟩

end TtcPassManager

end ObcFlight
