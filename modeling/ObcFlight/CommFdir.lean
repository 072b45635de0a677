import ObcFlight.CommLinkControl

/-!
# What the link fault detector reports

A cycle of the detector is bad when the band that is primary in that cycle is unavailable or
carries new transport errors. Only one of the two counters is running at a time, both stop when
a fault ends, and until a fault is latched neither can reach the end of its range, so the count
in a report is the number of bad cycles of the reported kind that have just gone by.
-/

namespace ObcFlight

inductive CommCycle where
  | disabled
  | good
  | bad (fault : IncidentSource)
  deriving DecidableEq

namespace CommFdirPolicy

variable {threshold : UInt32} (hthreshold : threshold ≠ 0) (count : UInt32) (kind : CommFdirFaultKind)
include hthreshold

theorem not_threshold_le_zero : ¬ threshold ≤ 0 := fun hle => hthreshold (UInt32.le_zero_iff.mp hle)

theorem evaluate_unavailable (g l : Bool) :
    evaluate false g count 0 threshold l kind =
      if l then { kind := kind }
      else if threshold ≤ count then
        { shouldLatchFault := true, kind := .primaryUnavailable, failureCount := count }
      else {} := by
  simp [evaluate, not_threshold_le_zero hthreshold]

theorem evaluate_transport (l : Bool) :
    evaluate true true 0 count threshold l kind =
      if l then { kind := kind }
      else if threshold ≤ count then
        { shouldLatchFault := true, kind := .primaryTransport, failureCount := count }
      else {} := by
  simp [evaluate, not_threshold_le_zero hthreshold]

end CommFdirPolicy

namespace CommLinkControl

/-- What the detector sees once availability has been refreshed. -/
def cycle (s : CommLinkControl) : CommCycle :=
  if s.config.fdir.unavailableFailureThreshold = 0 then .disabled
  else if !s.primaryAvailable then .bad .commPrimaryUnavailable
  else if s.primaryErrorGrowth then .bad .commPrimaryTransport
  else .good

def failureCount (s : CommLinkControl) (fault : IncidentSource) : UInt32 :=
  if fault = .commPrimaryUnavailable then s.consecutivePrimaryUnavailable
  else s.consecutivePrimaryTransportGrowth

/-- A cycle without a bad primary link ends a fault, and so does one with the detector off. -/
def cycleFinding (s : CommLinkControl) : Finding IncidentSource :=
  match s.cycle with
  | .bad fault =>
    if s.config.fdir.unavailableFailureThreshold ≤ s.failureCount fault + 1 then
      .alarm fault (s.failureCount fault + 1)
    else .quiet
  | _ => .released

def finding (s : CommLinkControl) : CommLinkInput → Finding IncidentSource
  | .schedIn env => (s.refreshForTick env).cycleFinding
  | _ => .quiet

def cycles (s : CommLinkControl) : CommLinkInput → List CommCycle
  | .schedIn env => [(s.refreshForTick env).cycle]
  | _ => []

def reportedFault (s : CommLinkControl) : Option IncidentSource :=
  if s.fdirFaultLatched then some s.fdirFaultKind.reported else none

variable {s : CommLinkControl}

def restartCounters (s : CommLinkControl) : CommLinkControl :=
  { s with consecutivePrimaryUnavailable := 0, consecutivePrimaryTransportGrowth := 0 }

theorem updateFdirState_of_released (h : ∀ fault, s.cycle ≠ .bad fault) :
    s.updateFdirState =
      if s.fdirFaultLatched then (s.restartCounters.clearCommFault, [.clear s.fdirFaultKind.reported 0])
      else (s.restartCounters, []) := by
  unfold cycle at h
  split_ifs at h with hoff hal hg
  · rw [updateFdirState, if_pos hoff]
    rfl
  · exact absurd rfl (h _)
  · exact absurd rfl (h _)
  · have hcount : s.countCycle = s.restartCounters := by simp [countCycle, hal, hg, restartCounters]
    have hav : s.restartCounters.primaryAvailable = s.primaryAvailable := rfl
    have hgr : s.restartCounters.primaryErrorGrowth = s.primaryErrorGrowth := rfl
    rw [updateFdirState, if_neg hoff, hcount, detect, hav, hgr]
    cases hl : s.fdirFaultLatched <;> simp_all [CommFdirPolicy.evaluate, restartCounters]

variable {fault : IncidentSource}

theorem countCycle_of_bad (h : s.cycle = .bad fault) :
    s.countCycle.failureCount fault = s.failureCount fault + 1 ∧
      (fault = .commPrimaryUnavailable ∧ s.countCycle.consecutivePrimaryTransportGrowth = 0 ∨
        fault = .commPrimaryTransport ∧ s.countCycle.consecutivePrimaryUnavailable = 0) := by
  unfold cycle at h
  split_ifs at h with hoff hav hg
  · obtain rfl : .commPrimaryUnavailable = fault := by simpa using h
    simp [countCycle, hav, failureCount]
  · obtain rfl : .commPrimaryTransport = fault := by simpa using h
    simp [countCycle, hav, hg, failureCount]

theorem countCycle_frame (s : CommLinkControl) :
    s.countCycle.fdirFaultLatched = s.fdirFaultLatched ∧ s.countCycle.fdirFaultKind = s.fdirFaultKind ∧
      s.countCycle.config = s.config ∧ s.countCycle.primaryAvailable = s.primaryAvailable ∧
      s.countCycle.primaryErrorGrowth = s.primaryErrorGrowth := by
  unfold countCycle
  split_ifs <;> exact ⟨rfl, rfl, rfl, rfl, rfl⟩

theorem updateFdirState_of_bad (h : s.cycle = .bad fault) : s.updateFdirState =
      if !s.fdirFaultLatched ∧ s.config.fdir.unavailableFailureThreshold ≤ s.failureCount fault + 1 then
        (s.countCycle.latchCommFault
          (if fault = .commPrimaryUnavailable then .primaryUnavailable else .primaryTransport),
          [.submit fault (s.failureCount fault + 1)])
      else (s.countCycle, []) := by
  obtain ⟨hn, ho⟩ := countCycle_of_bad h
  obtain ⟨hl, hk, hc, hav, hgr⟩ := s.countCycle_frame
  unfold cycle at h
  split_ifs at h with hoff hal hg
  · obtain rfl : .commPrimaryUnavailable = fault := by simpa using h
    have hz : s.countCycle.consecutivePrimaryTransportGrowth = 0 := by simpa using ho
    rw [updateFdirState, if_neg hoff, detect, hav, hgr, hl, hk, hc, hz, ← hn,
      show s.primaryAvailable = false by simpa using hal,
      CommFdirPolicy.evaluate_unavailable hoff]
    cases s.fdirFaultLatched with
    | true => simp
    | false =>
      by_cases hr :
          s.config.fdir.unavailableFailureThreshold ≤ s.countCycle.consecutivePrimaryUnavailable <;>
        simp [failureCount, hr, CommFdirFaultKind.reported]
  · obtain rfl : .commPrimaryTransport = fault := by simpa using h
    have hz : s.countCycle.consecutivePrimaryUnavailable = 0 := by simpa using ho
    rw [updateFdirState, if_neg hoff, detect, hav, hgr, hl, hk, hc, hz, ← hn,
      show s.primaryAvailable = true by simpa using hal, hg,
      CommFdirPolicy.evaluate_transport hoff]
    cases s.fdirFaultLatched with
    | true => simp
    | false =>
      by_cases hr :
          s.config.fdir.unavailableFailureThreshold ≤ s.countCycle.consecutivePrimaryTransportGrowth <;>
        simp [failureCount, hr, CommFdirFaultKind.reported]

theorem reportedFault_latch (fault : IncidentSource)
    (h : fault = .commPrimaryUnavailable ∨ fault = .commPrimaryTransport) (s : CommLinkControl) :
    (s.latchCommFault (if fault = .commPrimaryUnavailable then .primaryUnavailable
      else .primaryTransport)).reportedFault = some fault := by
  rcases h with rfl | rfl <;> rfl

theorem updateFdirState_reports (s : CommLinkControl) :
    Reports s.reportedFault s.cycleFinding s.updateFdirState.2 s.updateFdirState.1.reportedFault := by
  by_cases hbad : ∃ fault, s.cycle = .bad fault
  · obtain ⟨fault, hbad⟩ := hbad
    have hk := (countCycle_of_bad hbad).2.imp And.left And.left
    have hcount : s.countCycle.reportedFault = s.reportedFault := by
      rw [reportedFault, s.countCycle_frame.1, s.countCycle_frame.2.1, reportedFault]
    rw [updateFdirState_of_bad hbad, cycleFinding, hbad]
    cases hl : s.fdirFaultLatched with
    | true =>
      rw [if_neg (by simp), hcount, reportedFault, hl]
      exact .standing (by dsimp only; split_ifs <;> simp)
    | false =>
      have hnone : s.reportedFault = none := by simp [reportedFault, hl]
      by_cases hr : s.config.fdir.unavailableFailureThreshold ≤ s.failureCount fault + 1
      · simpa [hr, hnone, reportedFault_latch fault hk] using Reports.submitted fault _
      · simpa [hr, hcount, hnone] using Reports.nothing (by simp)
  · have hg : ∀ fault, s.cycle ≠ .bad fault := fun fault h => hbad ⟨fault, h⟩
    have hrl : s.cycleFinding = .released := by
      unfold cycleFinding
      split
      · exact absurd ‹_› (hg _)
      · rfl
    rw [updateFdirState_of_released hg, hrl]
    cases hl : s.fdirFaultLatched with
    | true =>
      simpa [reportedFault, hl, clearCommFault] using Reports.cleared s.fdirFaultKind.reported 0
    | false => simpa [reportedFault, hl, restartCounters] using Reports.nothing (by simp)

/-- The operations on availability change nothing but the two bands. -/
def BandsOnly (s t : CommLinkControl) : Prop := ∃ sband uhf, t = { s with sband := sband, uhf := uhf }

theorem BandsOnly.trans {s t u : CommLinkControl} (h : BandsOnly s t) (h' : BandsOnly t u) : BandsOnly s u := by
  obtain ⟨x, uhf, rfl⟩ := h
  obtain ⟨s', uhf', rfl⟩ := h'
  exact ⟨s', uhf', rfl⟩

theorem refreshBandAvailability_bandsOnly (env : LinkAnswers) (band : CommBand) (f : Bool)
    (s : CommLinkControl) : BandsOnly s (s.refreshBandAvailability env band f).1 := by
  cases band with
  | sband => exact ⟨_, s.uhf, rfl⟩
  | uhf => exact ⟨s.sband, _, rfl⟩

theorem refreshForTick_bandsOnly (env : LinkAnswers) (s : CommLinkControl) :
    BandsOnly s (s.refreshForTick env) := by
  have hvw : BandsOnly s (s.refreshStatusViews env) := ⟨_, _, rfl⟩
  have hp (t : CommLinkControl) : BandsOnly t (t.pollAsyncSubsystemProbeCompletions env) := by
    unfold pollAsyncSubsystemProbeCompletions
    split
    · exact ⟨_, _, rfl⟩
    · exact ⟨_, _, rfl⟩
  refine (hvw.trans (hp _)).trans ?_
  unfold refreshForTick refreshLinkAvailability
  dsimp only
  split
  · exact (refreshBandAvailability_bandsOnly ..).trans (refreshBandAvailability_bandsOnly ..)
  · exact refreshBandAvailability_bandsOnly ..

def SameDetector (s t : CommLinkControl) : Prop :=
  t.fdirFaultLatched = s.fdirFaultLatched ∧ t.fdirFaultKind = s.fdirFaultKind ∧
    t.consecutivePrimaryUnavailable = s.consecutivePrimaryUnavailable ∧
    t.consecutivePrimaryTransportGrowth = s.consecutivePrimaryTransportGrowth

theorem BandsOnly.sameDetector {s t : CommLinkControl} (h : BandsOnly s t) : SameDetector s t := by
  obtain ⟨x, uhf, rfl⟩ := h
  exact ⟨rfl, rfl, rfl, rfl⟩

theorem SameDetector.trans {s t u : CommLinkControl} (h : SameDetector s t) (h' : SameDetector t u) :
    SameDetector s u := by
  obtain ⟨ha, hb, hc, hd⟩ := h
  obtain ⟨ha', hb', hc', hd'⟩ := h'
  exact ⟨ha'.trans ha, hb'.trans hb, hc'.trans hc, hd'.trans hd⟩

/-- Only the scheduled tick runs the detector: switching, failing over and reconfiguring leave
its latch and its counters alone. -/
theorem step_sameDetector (i : CommLinkInput) (hi : ∀ env, i ≠ .schedIn env) (s : CommLinkControl) :
    SameDetector s (s.step i).1 ∧ (s.step i).2 = [] := by
  have hset (band : CommBand) (reason : CommPolicyTransitionReason) (t : CommLinkControl) :
      SameDetector t (t.setPrimaryLinks band reason) := ⟨rfl, rfl, rfl, rfl⟩
  have hr (env : LinkAnswers) (band : CommBand) (t : CommLinkControl) :
      SameDetector t (t.refreshBandAvailability env band true).1 :=
    (refreshBandAvailability_bandsOnly ..).sameDetector
  cases i with
  | schedIn env => exact absurd rfl (hi env)
  | setActiveBand =>
    refine ⟨?_, rfl⟩
    simp only [step, setActiveBandForRuntime]
    split
    · exact hr ..
    · exact (hr ..).trans (hset ..)
  | performRecoveryLinkFailover =>
    refine ⟨?_, rfl⟩
    simp only [step, performRecoveryLinkFailoverForRuntime]
    split_ifs
    · exact (hr ..).trans (hr ..)
    · exact ((hr ..).trans (hr ..)).trans (hset ..)
    · exact (hr ..).trans (hr ..)
  | getStatus =>
    refine ⟨?_, rfl⟩
    simp only [step, getStatusForRuntime, pollAsyncSubsystemProbeCompletions]
    split <;> exact ⟨rfl, rfl, rfl, rfl⟩
  | configureRuntime =>
    refine ⟨?_, rfl⟩
    simp only [step, configureRuntime]
    split <;> exact ⟨rfl, rfl, rfl, rfl⟩
  | configureCspRuntime => exact ⟨⟨rfl, rfl, rfl, rfl⟩, rfl⟩

theorem step_reports (s : CommLinkControl) (i : CommLinkInput) :
    Reports s.reportedFault (s.finding i) (s.step i).2 (s.step i).1.reportedFault := by
  by_cases ht : ∃ env, i = .schedIn env
  · obtain ⟨env, rfl⟩ := ht
    obtain ⟨hl, hk, -, -⟩ := (refreshForTick_bandsOnly env s).sameDetector
    have hvw : (s.refreshForTick env).reportedFault = s.reportedFault := by
      rw [reportedFault, hl, hk, reportedFault]
    rw [← hvw]
    exact updateFdirState_reports (s.refreshForTick env)
  · obtain ⟨⟨hl, hk, -, -⟩, hout⟩ := step_sameDetector i (fun env h => ht ⟨env, h⟩) s
    have hq : s.finding i = .quiet := by
      cases i with
      | schedIn env => exact absurd ⟨env, rfl⟩ ht
      | _ => rfl
    rw [hout, hq, show (s.step i).1.reportedFault = s.reportedFault by
      rw [reportedFault, hl, hk, reportedFault]]
    exact Reports.quiet _

/-- While no fault is latched, a counter is the number of cycles of its kind that end the
history, and it stays below the end of its range. -/
def Counted (history : List CommCycle) (s : CommLinkControl) : Prop :=
  s.fdirFaultLatched = false → ∀ fault ∈ [IncidentSource.commPrimaryUnavailable, .commPrimaryTransport],
    (s.failureCount fault).toNat < 4294967295 ∧
      List.replicate (s.failureCount fault).toNat (CommCycle.bad fault) <:+ history

theorem counted_of_zero (history : List CommCycle) (h : s.consecutivePrimaryUnavailable = 0)
    (h' : s.consecutivePrimaryTransportGrowth = 0) : s.Counted history := by
  intro _ fault hf
  have hz : s.failureCount fault = 0 := by
    unfold failureCount
    split <;> assumption
  rw [hz]
  exact ⟨by decide, List.nil_suffix⟩

variable {history : List CommCycle}

theorem counted_congr {t : CommLinkControl} (h : SameDetector s t) (hs : s.Counted history) :
    t.Counted history := by
  obtain ⟨hl, -, hu, ht⟩ := h
  unfold Counted failureCount at hs ⊢
  rwa [hl, hu, ht]

theorem counted_succ (hs : s.Counted history) (hl : s.fdirFaultLatched = false)
    (hf : fault ∈ [IncidentSource.commPrimaryUnavailable, .commPrimaryTransport]) :
    (s.failureCount fault + 1).toNat = (s.failureCount fault).toNat + 1 ∧
      List.replicate (s.failureCount fault + 1).toNat (CommCycle.bad fault) <:+
        history ++ [.bad fault] := by
  obtain ⟨hbn, hsf⟩ := hs hl fault hf
  have hsc : (s.failureCount fault + 1).toNat = (s.failureCount fault).toNat + 1 := by
    rw [UInt32.toNat_add]
    exact Nat.mod_eq_of_lt (by simp; omega)
  refine ⟨hsc, ?_⟩
  obtain ⟨o, ho⟩ := hsf
  exact ⟨o, by rw [hsc, List.replicate_succ', ← List.append_assoc, ho]⟩

theorem updateFdirState_counted (hs : s.Counted history) :
    s.updateFdirState.1.Counted (history ++ [s.cycle]) := by
  by_cases hbad : ∃ fault, s.cycle = .bad fault
  · obtain ⟨fault, hbad⟩ := hbad
    obtain ⟨hc, ho⟩ := countCycle_of_bad hbad
    rw [updateFdirState_of_bad hbad, hbad]
    by_cases hlc : !s.fdirFaultLatched ∧
        s.config.fdir.unavailableFailureThreshold ≤ s.failureCount fault + 1
    · rw [if_pos hlc]
      intro h
      cases h
    · rw [if_neg hlc]
      intro hl f' hf'
      dsimp only at hl ⊢
      rw [s.countCycle_frame.1] at hl
      have hmem : fault ∈ [IncidentSource.commPrimaryUnavailable, .commPrimaryTransport] := by
        rcases ho with ⟨rfl, -⟩ | ⟨rfl, -⟩ <;> decide
      obtain ⟨hsc, hsf⟩ := counted_succ hs hl hmem
      by_cases hsm : f' = fault
      · -- the threshold has not been reached, so there is room for one more cycle
        have hbl : s.failureCount fault + 1 < s.config.fdir.unavailableFailureThreshold := by
          simpa [hl] using hlc
        rw [hsm, hc]
        refine ⟨?_, hsf⟩
        have hlt := UInt32.lt_iff_toNat_lt.mp hbl
        have hmax := s.config.fdir.unavailableFailureThreshold.toNat_lt
        omega
      · have hz : s.countCycle.failureCount f' = 0 := by
          rcases ho with ⟨rfl, hz⟩ | ⟨rfl, hz⟩
          · simpa [failureCount, hsm] using hz
          · have : f' = .commPrimaryUnavailable := by simpa [hsm] using hf'
            simpa [failureCount, this] using hz
        rw [hz]
        exact ⟨by decide, List.nil_suffix⟩
  · rw [updateFdirState_of_released fun fault h => hbad ⟨fault, h⟩]
    split <;> exact counted_of_zero _ rfl rfl

theorem step_counted (history : List CommCycle) (s : CommLinkControl) (i : CommLinkInput)
    (hs : s.Counted history) : (s.step i).1.Counted (history ++ s.cycles i) := by
  by_cases ht : ∃ env, i = .schedIn env
  · obtain ⟨env, rfl⟩ := ht
    exact updateFdirState_counted (counted_congr (refreshForTick_bandsOnly env s).sameDetector hs)
  · have hnone : s.cycles i = [] := by
      cases i with
      | schedIn env => exact absurd ⟨env, rfl⟩ ht
      | _ => rfl
    rw [hnone, List.append_nil]
    exact counted_congr (step_sameDetector i (fun env h => ht ⟨env, h⟩) s).1 hs

def cyclesOf (s : CommLinkControl) (is : List CommLinkInput) : List CommCycle :=
  (commLinkControl.observe cycles).trace s is

variable (is : List CommLinkInput)

theorem counted_run : (commLinkControl.run {} is).Counted (cyclesOf {} is) := by
  have h := (commLinkControl.observe cycles).history_invariant
    (fun history s i hs => step_counted history s i hs) [] {} (counted_of_zero [] rfl rfl) is
  rwa [Machine.observe_run] at h

/-- A submission ends a row of at least as many bad cycles of its kind as the threshold asks
for, and carries their number. -/
theorem submit_after_bad_cycles (i : CommLinkInput) {n : UInt32}
    (h : .submit fault n ∈ (commLinkControl.step (commLinkControl.run {} is) i).2) :
    0 < (commLinkControl.run {} is).config.fdir.unavailableFailureThreshold ∧
      (commLinkControl.run {} is).config.fdir.unavailableFailureThreshold ≤ n ∧
      List.replicate n.toNat (CommCycle.bad fault) <:+ cyclesOf {} (is ++ [i]) := by
  set s := commLinkControl.run {} is with hs
  have hcn : s.Counted (cyclesOf {} is) := counted_run is
  obtain ⟨hn, hf⟩ := (step_reports s i).submit_mem h
  cases i with
  | schedIn env =>
    have hbn := refreshForTick_bandsOnly env s
    have hcy : cyclesOf {} (is ++ [.schedIn env]) = cyclesOf {} is ++ [(s.refreshForTick env).cycle] := by
      rw [cyclesOf, Machine.trace_append, Machine.observe_run, ← hs]
      rfl
    have hl : (s.refreshForTick env).fdirFaultLatched = false := by
      rw [hbn.sameDetector.1]
      simpa [reportedFault] using hn
    have hc : (s.refreshForTick env).config = s.config := by
      obtain ⟨x, uhf, heq⟩ := hbn
      rw [heq]
    rw [hcy, ← hc]
    simp only [finding, cycleFinding] at hf
    split at hf
    · rename_i f' hbad
      split_ifs at hf with hr
      obtain ⟨rfl, rfl⟩ : f' = fault ∧ (s.refreshForTick env).failureCount f' + 1 = n := by
        simpa using hf
      have hk := (countCycle_of_bad hbad).2.imp And.left And.left
      have hmem : f' ∈ [IncidentSource.commPrimaryUnavailable, .commPrimaryTransport] := by simpa using hk
      have hon : (s.refreshForTick env).config.fdir.unavailableFailureThreshold ≠ 0 := by
        intro hoff
        simp [cycle, hoff] at hbad
      rw [hbad]
      exact ⟨UInt32.pos_iff_ne_zero.mpr hon, hr,
        (counted_succ (counted_congr hbn.sameDetector hcn) hl hmem).2⟩
    · cases hf
  | _ => cases hf

end CommLinkControl

end ObcFlight
