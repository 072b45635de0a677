import ObcFlight.CommFdir
import ObcFlight.RecoveryExecutor

/-!
# The detectors of the power and the attitude subsystem

Both read the health that the bridge of their subsystem keeps about its polls, with the number
of polls that have failed in a row. A fault is latched at three such polls and stands until a
poll succeeds; the attitude detector keeps reporting the kind of failure that it latched.
-/

namespace ObcFlight

structure EpsPollHealthState where
  lastPollSucceeded : Bool
  consecutivePollFailures : UInt32

structure EpsFdirDecision where
  shouldEnterRetry : Bool := false
  shouldLatchFault : Bool := false
  shouldClearFault : Bool := false
  shouldRequestSafe : Bool := false
  faultLatched : Bool := false
  failureCount : UInt32 := 0
  currentMode : SatMode := .safe
  targetMode : SatMode := .safe

namespace EpsFdirPolicy

def escalationFailureThreshold : UInt32 := 3

def shouldRequestSafeForMode (mode : SatMode) : Bool := mode = .idle || mode = .payload || mode = .ttc

def evaluate (health : EpsPollHealthState) (currentlyLatched : Bool) (currentMode : SatMode) :
    EpsFdirDecision :=
  let decision : EpsFdirDecision :=
    { failureCount := health.consecutivePollFailures, currentMode := currentMode, targetMode := currentMode }
  if health.lastPollSucceeded then { decision with shouldClearFault := currentlyLatched }
  else if health.consecutivePollFailures ≥ escalationFailureThreshold then
    if !currentlyLatched then
      if shouldRequestSafeForMode currentMode then
        { decision with
          faultLatched := true
          shouldLatchFault := true
          shouldRequestSafe := true
          targetMode := .safe }
      else { decision with faultLatched := true, shouldLatchFault := true }
    else { decision with faultLatched := true }
  else if health.consecutivePollFailures > 0 then { decision with shouldEnterRetry := true }
  else decision

variable (health : EpsPollHealthState) (latched : Bool) (mode : SatMode)

theorem evaluate_shouldLatchFault :
    (evaluate health latched mode).shouldLatchFault =
      (!latched && !health.lastPollSucceeded &&
        escalationFailureThreshold ≤ health.consecutivePollFailures) := by
  unfold evaluate
  dsimp only
  by_cases hcount : escalationFailureThreshold ≤ health.consecutivePollFailures
  · simp only [ge_iff_le, hcount, if_true, decide_true]
    split_ifs <;> simp_all
  · simp only [ge_iff_le, hcount, if_false, decide_false]
    split_ifs <;> simp_all

theorem evaluate_shouldClearFault :
    (evaluate health latched mode).shouldClearFault = (latched && health.lastPollSucceeded) := by
  unfold evaluate
  dsimp only
  split_ifs <;> simp_all

theorem evaluate_failureCount :
    (evaluate health latched mode).failureCount = health.consecutivePollFailures := by
  unfold evaluate
  dsimp only
  split_ifs <;> rfl

end EpsFdirPolicy

structure EpsFdirController where
  faultLatched : Bool := false
  lastRequestedSafe : Bool := false
  lastFailureCount : UInt32 := 0
  escalationCount : UInt32 := 0
  recoveryCount : UInt32 := 0

/-- The health that the bridge gives, if it gives any, and the mode of the satellite. -/
structure EpsCycle where
  health : Option EpsPollHealthState
  mode : SatMode

namespace EpsFdirController

variable (s : EpsFdirController)

def runCycle (cycle : EpsCycle) : EpsFdirController × List (SinkCall IncidentSource) :=
  match cycle.health with
  | none => (s, [])
  | some health =>
    let decision := EpsFdirPolicy.evaluate health s.faultLatched cycle.mode
    if decision.shouldLatchFault then
      ({ s with
        faultLatched := true
        lastRequestedSafe := decision.shouldRequestSafe
        escalationCount := RecoveryExecutor.saturatingIncrement s.escalationCount
        lastFailureCount := decision.failureCount }, [.submit .epsTimeout decision.failureCount])
    else if decision.shouldClearFault then
      ({ s with
        faultLatched := false
        lastRequestedSafe := false
        recoveryCount := RecoveryExecutor.saturatingIncrement s.recoveryCount
        lastFailureCount := decision.failureCount }, [.clear .epsTimeout s.lastFailureCount])
    else ({ s with lastFailureCount := decision.failureCount }, [])

def reportedFault : Option IncidentSource :=
  if s.faultLatched then some .epsTimeout else none

def finding (_ : EpsFdirController) (cycle : EpsCycle) : Finding IncidentSource :=
  match cycle.health with
  | none => .quiet
  | some health =>
    if health.lastPollSucceeded then .released
    else if EpsFdirPolicy.escalationFailureThreshold ≤ health.consecutivePollFailures then
      .alarm .epsTimeout health.consecutivePollFailures
    else .quiet

theorem runCycle_reports (c : EpsCycle) :
    Reports s.reportedFault (s.finding c) (s.runCycle c).2 (s.runCycle c).1.reportedFault := by
  unfold runCycle finding
  cases c.health with
  | none => exact Reports.quiet _
  | some health =>
    dsimp only
    rw [EpsFdirPolicy.evaluate_shouldLatchFault, EpsFdirPolicy.evaluate_shouldClearFault,
      EpsFdirPolicy.evaluate_failureCount]
    cases hl : s.faultLatched with
    | true =>
      cases hok : health.lastPollSucceeded with
      | true => simpa [reportedFault, hl] using Reports.cleared IncidentSource.epsTimeout _
      | false =>
        simpa [reportedFault, hl] using Reports.standing (by split_ifs <;> simp)
    | false =>
      cases hok : health.lastPollSucceeded with
      | true => simpa [reportedFault, hl] using Reports.nothing (by simp)
      | false =>
        by_cases hcount : EpsFdirPolicy.escalationFailureThreshold ≤ health.consecutivePollFailures
        · simpa [reportedFault, hl, hcount] using Reports.submitted IncidentSource.epsTimeout _
        · simpa [reportedFault, hl, hcount] using Reports.nothing (by simp)

end EpsFdirController

def epsFdir : Machine EpsFdirController EpsCycle (SinkCall IncidentSource) := ⟨EpsFdirController.runCycle⟩

structure AdcsPollHealthState where
  lastScheduledValidRefresh : Bool
  consecutiveTransportFailures : UInt32
  consecutiveNoValidRefresh : UInt32

structure AdcsFdirDecision where
  shouldEnterRetry : Bool := false
  shouldLatchFault : Bool := false
  shouldClearFault : Bool := false
  faultLatched : Bool := false
  failureCount : UInt32 := 0
  activeSource : Option IncidentSource := none

namespace AdcsFdirPolicy

def escalationFailureThreshold : UInt32 := 3

def evaluate (health : AdcsPollHealthState) (currentlyLatched : Bool) (latchedSource : Option IncidentSource) :
    AdcsFdirDecision :=
  let decision : AdcsFdirDecision :=
    { faultLatched := currentlyLatched, activeSource := if currentlyLatched then latchedSource else none }
  if health.lastScheduledValidRefresh then { decision with shouldClearFault := currentlyLatched }
  -- the latched source stays authoritative until a healthy poll clears it
  else if currentlyLatched then decision
  else if health.consecutiveTransportFailures ≥ escalationFailureThreshold then
    { decision with
      shouldLatchFault := true
      failureCount := health.consecutiveTransportFailures
      activeSource := some .adcsPollTransport }
  else if health.consecutiveNoValidRefresh ≥ escalationFailureThreshold then
    { decision with
      shouldLatchFault := true
      failureCount := health.consecutiveNoValidRefresh
      activeSource := some .adcsPollFreshness }
  else if health.consecutiveTransportFailures > 0 then
    { decision with
      shouldEnterRetry := true
      failureCount := health.consecutiveTransportFailures
      activeSource := some .adcsPollTransport }
  else if health.consecutiveNoValidRefresh > 0 then
    { decision with
      shouldEnterRetry := true
      failureCount := health.consecutiveNoValidRefresh
      activeSource := some .adcsPollFreshness }
  else decision

end AdcsFdirPolicy

structure AdcsFdirController where
  faultLatched : Bool := false
  latchedSource : Option IncidentSource := none
  lastFailureCount : UInt32 := 0
  escalationCount : UInt32 := 0
  recoveryCount : UInt32 := 0

namespace AdcsFdirController

/-- The sink has calls for the two poll faults and for nothing else. -/
def report (call : IncidentSource → SinkCall IncidentSource) : Option IncidentSource → List (SinkCall IncidentSource)
  | some .adcsPollTransport => [call .adcsPollTransport]
  | some .adcsPollFreshness => [call .adcsPollFreshness]
  | _ => []

/-- The failure count that is remembered for the report that clears the fault. -/
def noteFailureCount (decision : AdcsFdirDecision) (lastFailureCount : UInt32) : UInt32 :=
  if decision.shouldClearFault then 0
  else if decision.shouldEnterRetry || decision.shouldLatchFault || decision.failureCount > 0 then
    decision.failureCount
  else lastFailureCount

def runCycle (s : AdcsFdirController) :
    Option AdcsPollHealthState → AdcsFdirController × List (SinkCall IncidentSource)
  | none => (s, [])
  | some health =>
    let decision := AdcsFdirPolicy.evaluate health s.faultLatched s.latchedSource
    let lastFailureCount := noteFailureCount decision s.lastFailureCount
    if decision.shouldLatchFault then
      ({ s with
        faultLatched := true
        latchedSource := decision.activeSource
        escalationCount := RecoveryExecutor.saturatingIncrement s.escalationCount
        lastFailureCount := lastFailureCount },
        report (.submit · decision.failureCount) decision.activeSource)
    else if decision.shouldClearFault then
      ({ s with
        faultLatched := false
        latchedSource := none
        recoveryCount := RecoveryExecutor.saturatingIncrement s.recoveryCount
        lastFailureCount := lastFailureCount },
        report (.clear · s.lastFailureCount) s.latchedSource)
    else ({ s with lastFailureCount := lastFailureCount }, [])

def reportedFault (s : AdcsFdirController) : Option IncidentSource :=
  if s.faultLatched then s.latchedSource else none

/-- Lost polls are counted before polls that brought no new attitude. -/
def finding (_ : AdcsFdirController) : Option AdcsPollHealthState → Finding IncidentSource
  | none => .quiet
  | some health =>
    if health.lastScheduledValidRefresh then .released
    else if AdcsFdirPolicy.escalationFailureThreshold ≤ health.consecutiveTransportFailures then
      .alarm .adcsPollTransport health.consecutiveTransportFailures
    else if AdcsFdirPolicy.escalationFailureThreshold ≤ health.consecutiveNoValidRefresh then
      .alarm .adcsPollFreshness health.consecutiveNoValidRefresh
    else .quiet

/-- A latched source is one of the two that the sink can be told about. -/
def Reportable (s : AdcsFdirController) : Prop :=
  s.faultLatched = true →
    s.latchedSource = some .adcsPollTransport ∨ s.latchedSource = some .adcsPollFreshness

theorem report_of_reportable {o : Option IncidentSource} (call : IncidentSource → SinkCall IncidentSource)
    (h : o = some .adcsPollTransport ∨ o = some .adcsPollFreshness) :
    ∃ k, o = some k ∧ report call o = [call k] := by
  rcases h with rfl | rfl
  · exact ⟨_, rfl, rfl⟩
  · exact ⟨_, rfl, rfl⟩

variable {s : AdcsFdirController} (health : AdcsPollHealthState)

theorem runCycle_of_latched (hl : s.faultLatched = true) :
    (s.runCycle (some health)).2 =
        (if health.lastScheduledValidRefresh then report (.clear · s.lastFailureCount) s.latchedSource else []) ∧
      (s.runCycle (some health)).1.faultLatched = !health.lastScheduledValidRefresh ∧
      (s.runCycle (some health)).1.latchedSource =
        if health.lastScheduledValidRefresh then none else s.latchedSource := by
  cases hok : health.lastScheduledValidRefresh <;>
    simp [runCycle, AdcsFdirPolicy.evaluate, hl, hok]

theorem runCycle_of_not_latched (hl : s.faultLatched = false) :
    match s.finding (some health) with
    | .alarm k n =>
      (k = .adcsPollTransport ∨ k = .adcsPollFreshness) ∧ (s.runCycle (some health)).2 = [.submit k n] ∧
        (s.runCycle (some health)).1.faultLatched = true ∧
        (s.runCycle (some health)).1.latchedSource = some k
    | _ => (s.runCycle (some health)).2 = [] ∧ (s.runCycle (some health)).1.faultLatched = false := by
  unfold finding runCycle AdcsFdirPolicy.evaluate
  dsimp only
  cases hok : health.lastScheduledValidRefresh with
  | true => simp [hl]
  | false =>
    by_cases ht : AdcsFdirPolicy.escalationFailureThreshold ≤ health.consecutiveTransportFailures
    · simp [hl, ht, report]
    · by_cases hr : AdcsFdirPolicy.escalationFailureThreshold ≤ health.consecutiveNoValidRefresh
      · simp [hl, ht, hr, report]
      · simp only [ge_iff_le, ht, hr, hl, if_false, Bool.false_eq_true]
        split_ifs <;> simp_all

theorem runCycle_reportable (s : AdcsFdirController) (health : Option AdcsPollHealthState)
    (hs : s.Reportable) : (s.runCycle health).1.Reportable := by
  cases health with
  | none => exact hs
  | some health =>
    cases hl : s.faultLatched with
    | true =>
      obtain ⟨-, hf, hsr⟩ := runCycle_of_latched health hl
      intro h
      have hbad : health.lastScheduledValidRefresh = false := by simpa [hf] using h
      rw [hsr, hbad]
      exact hs hl
    | false =>
      have hsp := runCycle_of_not_latched health hl
      split at hsp
      · obtain ⟨hk, -, -, hsr⟩ := hsp
        intro _
        rw [hsr]
        exact hk.imp (congrArg some) (congrArg some)
      · intro h
        rw [hsp.2] at h
        cases h

theorem runCycle_reports (s : AdcsFdirController) (health : Option AdcsPollHealthState) (hs : s.Reportable) :
    Reports s.reportedFault (s.finding health) (s.runCycle health).2 (s.runCycle health).1.reportedFault := by
  cases health with
  | none => exact Reports.quiet _
  | some health =>
    cases hl : s.faultLatched with
    | true =>
      obtain ⟨hout, hfl, hsr⟩ := runCycle_of_latched health hl
      obtain ⟨k, hk, hr⟩ := report_of_reportable (.clear · s.lastFailureCount) (hs hl)
      rw [reportedFault, reportedFault, hout, hfl, hsr, hl, hr, hk]
      cases hok : health.lastScheduledValidRefresh with
      | true => simpa [finding, hok] using Reports.cleared k s.lastFailureCount
      | false => exact .standing (by rw [finding, hok, if_neg (by simp)]; split_ifs <;> simp)
    | false =>
      have hsp := runCycle_of_not_latched health hl
      rw [reportedFault, hl, if_neg (by simp)]
      split at hsp
      · rename_i k n hf
        obtain ⟨-, hout, hfl, hsr⟩ := hsp
        rw [hf, hout, reportedFault, hfl, if_pos rfl, hsr]
        exact .submitted k n
      · rename_i hf
        rw [hsp.1, reportedFault, hsp.2, if_neg (by simp)]
        exact .nothing hf

end AdcsFdirController

def adcsFdir : Machine AdcsFdirController (Option AdcsPollHealthState) (SinkCall IncidentSource) :=
  ⟨AdcsFdirController.runCycle⟩

/-- The reports of the three detectors. For the link detector a cycle with the threshold at zero
ends a fault like a good one, and the cycles before a submission were bad ones; the other two
take the number of failed polls from the health they are given. -/
theorem fault_reports_bracketed :
    (commLinkControl.ReportsFaults CommLinkControl.finding {} ∧
      ∀ is i fault n, .submit fault n ∈ (commLinkControl.step (commLinkControl.run {} is) i).2 →
        0 < (commLinkControl.run {} is).config.fdir.unavailableFailureThreshold ∧
        (commLinkControl.run {} is).config.fdir.unavailableFailureThreshold ≤ n ∧
        List.replicate n.toNat (CommCycle.bad fault) <:+ CommLinkControl.cyclesOf {} (is ++ [i])) ∧
    epsFdir.ReportsFaults EpsFdirController.finding {} ∧
    adcsFdir.ReportsFaults AdcsFdirController.finding {} := by
  refine ⟨⟨?_, fun is i fault n => CommLinkControl.submit_after_bad_cycles is i⟩, ?_, ?_⟩
  · exact commLinkControl.reportsFaults (I := fun _ => True) (fun _ _ => id)
      (fun s i _ => CommLinkControl.step_reports s i) trivial rfl
  · exact epsFdir.reportsFaults (I := fun _ => True) (fun _ _ => id)
      (fun s i _ => EpsFdirController.runCycle_reports s i) trivial rfl
  · exact adcsFdir.reportsFaults AdcsFdirController.runCycle_reportable AdcsFdirController.runCycle_reports
      (fun h => by cases h) rfl

/-- An unavailable link: the driver is connected directly and reports that it is not usable. -/
def lostLink : LinkAnswers :=
  { sband := { health := { backendMode := .directTcp } } }

def lostLinkRun : List CommLinkInput :=
  [.configureRuntime { groundLinkHealthProvider := true, fdir := { unavailableFailureThreshold := 1 } }
    (fun _ => 0) .sband,
    .schedIn lostLink,
    .configureRuntime { groundLinkHealthProvider := true, fdir := { unavailableFailureThreshold := 0 } }
      (fun _ => 0) .sband]

/-- Switching the detector off clears a latched fault in a cycle in which the primary link is still
unavailable; and the power detector submits in its very first cycle when the health it is
given already counts three failed polls. -/
theorem fault_cleared_when_disabled :
    commLinkControl.trace {} lostLinkRun = [.submit .commPrimaryUnavailable 1] ∧
      (commLinkControl.step (commLinkControl.run {} lostLinkRun) (.schedIn lostLink)).2 =
        [.clear .commPrimaryUnavailable 0] ∧
      ((commLinkControl.run {} lostLinkRun).refreshForTick lostLink).primaryAvailable = false ∧
      (epsFdir.step {} { health := some ⟨false, 3⟩, mode := .idle }).2 = [.submit .epsTimeout 3] := by
  decide +kernel

end ObcFlight
