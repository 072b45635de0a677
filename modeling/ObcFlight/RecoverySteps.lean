import ObcFlight.RecoveryCalls

/-!
# What the recovery executor's actions can do

The rest of the development sees the executor through its ledger: the incident table and the
flags of the exit requests. One relation says what carrying out an external action can do to
the ledger, what it reports and what it asks for.
-/

namespace ObcFlight

namespace RecoveryExecutor

structure Ledger where
  incidents : IncidentSource → RecoveryIncidentState
  processRestartRequested : Bool
  rebootRequested : Bool
  exitRequestConsumed : Bool
  hardwareWatchdogModeEnabled : Bool

def ledger (x : RecoveryExecutor) : Ledger where
  incidents := x.status.incidents
  processRestartRequested := x.processRestartRequested
  rebootRequested := x.rebootRequested
  exitRequestConsumed := x.exitRequestConsumed
  hardwareWatchdogModeEnabled := x.hardwareWatchdogModeEnabled

def Ledger.set (l : Ledger) (source : IncidentSource) (incident : RecoveryIncidentState) : Ledger :=
  { l with incidents := Function.update l.incidents source incident }

@[simp] theorem Ledger.set_incidents_self (l : Ledger) (s : IncidentSource)
    (incident : RecoveryIncidentState) : (l.set s incident).incidents s = incident :=
  Function.update_self ..

theorem Ledger.set_incidents_of_ne (l : Ledger) {s other : IncidentSource} (h : other ≠ s)
    (i : RecoveryIncidentState) :
    (l.set s i).incidents other = l.incidents other :=
  Function.update_of_ne h ..

@[simp] theorem ledger_updateStatusSummary (f : Option IncidentSource) (x : RecoveryExecutor) :
    (updateStatusSummary f x).ledger = x.ledger := by
  unfold updateStatusSummary ledger
  dsimp only
  split
  · rfl
  · split_ifs <;> rfl

variable (s : IncidentSource)

@[simp] theorem ledger_setIncident (incident : RecoveryIncidentState) (x : RecoveryExecutor) :
    (setIncident s incident x).ledger = x.ledger.set s incident := rfl

variable {ω : Type*}

variable (work : Pass → Pass)

@[simp] theorem ledger_locked (f : Frame ω) :
    (f.locked s work).1.executor.ledger =
      f.executor.ledger.set s (work { incident := f.incident s, log := f.log }).incident := by
  rw [Frame.locked, ledger_updateStatusSummary, ledger_setIncident]

@[simp] theorem log_locked (f : Frame ω) :
    (f.locked s work).1.log = (work { incident := f.incident s, log := f.log }).log := rfl

@[simp] theorem actions_locked (f : Frame ω) :
    (f.locked s work).2 = (work { incident := f.incident s, log := f.log }).actions := rfl

@[simp] theorem ledger_summarize (f : Frame ω) :
    (f.summarize s).executor.ledger = f.executor.ledger :=
  ledger_updateStatusSummary _ _

@[simp] theorem incident_summarize (s other : IncidentSource) (f : Frame ω) :
    (f.summarize s).incident other = f.incident other :=
  congrFun (congrArg Ledger.incidents (ledger_summarize s f)) other

/-- What carrying out a request does: reports, ledger afterwards, further requests. -/
inductive Work (l : Ledger) :
    ExternalActionRequest → List RecoveryEvent → Ledger → List ExternalActionRequest → Prop
  | applySafe (source modeSource) :
      Work l (.applySafe source modeSource) [.actionExecuted source .safeFallback 0] l []
  | epsReset (source response) :
      Work l (.epsReset source) [.actionExecuted source .subsystemInterfaceReset response] l []
  | adcsReset (source response) :
      Work l (.adcsReset source) [.actionExecuted source .subsystemInterfaceReset response] l []
  | failover (source response) :
      Work l (.commFailover source) [.actionExecuted source .commLinkFailover response] l []
  | failoverSafe (source response) (hactive : (l.incidents source).active = true)
      (hsafe : (l.incidents source).safeFallbackIssued = false) :
      Work l (.commFailover source)
        [.actionExecuted source .commLinkFailover response,
          .actionRequested source .r5ModeFallback .safeFallback]
        (l.set source (askedSafe (l.incidents source)))
        [.applySafe source .fdirSubsystemFault]
  | restart (source modeSource) :
      Work l (.recordProcessRestartIntent source modeSource) [.actionExecuted source .processRestart 0]
        { l.set source { l.incidents source with processRestartPending := true } with
          processRestartRequested := true } []
  | restartFailed (source modeSource) :
      Work l (.recordProcessRestartIntent source modeSource)
        [.actionExecuted source .processRestart CmdResponse.executionError.code] l []
  | restartFailedSafe (source modeSource) (hactive : (l.incidents source).active = true)
      (hsafe : (l.incidents source).safeFallbackIssued = false) :
      Work l (.recordProcessRestartIntent source modeSource)
        [.actionExecuted source .processRestart CmdResponse.executionError.code,
          .actionRequested source .r5ModeFallback .safeFallback]
        (l.set source (askedSafe (l.incidents source))) [.applySafe source modeSource]
  | reboot (source) :
      Work l (.recordRebootIntent source)
        [.rebootIssued source (l.incidents source).currentLevel, .actionExecuted source .obcReboot 0]
        { l.set source { l.incidents source with rebootPending := true } with
          rebootRequested := l.rebootRequested ||
            !(l.hardwareWatchdogModeEnabled && recoveryIncidentSourceIsWatchdog source) } []
  | rebootFailed (source) :
      Work l (.recordRebootIntent source)
        [.actionExecuted source .obcReboot CmdResponse.executionError.code] l []
  | ackStable : Work l .ackStable [] l []

variable (c : RecoveryControls ω)

theorem locked_prepareSafeFallback (s : IncidentSource) (mode : SatMode)
    (m : ModeApplySource) (a : Bool) (f : Frame ω) :
    let done := f.locked s fun p =>
      (prepareSafeFallback c s mode m a p).1
    (done.1.executor.ledger = f.executor.ledger ∧ done.1.log = f.log ∧ done.2 = []) ∨
      (done.1.executor.ledger = f.executor.ledger.set s (askedSafe (f.incident s)) ∧
        done.1.log = f.log ++ [RecoveryEvent.actionRequested s .r5ModeFallback .safeFallback] ∧
        done.2 = [.applySafe s m] ∧
        (f.incident s).safeFallbackIssued = false) := by
  intro done
  rcases prepareSafeFallback_cases c s mode m a
    { incident := f.incident s, log := f.log } with ⟨h, -⟩ | ⟨h, hs, -⟩
  · refine .inl ⟨?_, ?_, ?_⟩
    · rw [ledger_locked, h]
      exact congrArg (fun incidents => { f.executor.ledger with incidents }) (Function.update_eq_self _ _)
    · rw [log_locked, h]
    · rw [actions_locked, h]
  · refine .inr ⟨?_, ?_, ?_, hs⟩
    · rw [ledger_locked, h]
    · rw [log_locked, h]
    · rw [actions_locked, h, List.nil_append]

theorem executeExternalAction_work (f : Frame ω) (a : ExternalActionRequest) :
    ∃ e, (executeExternalAction c f a).1.log = f.log ++ e ∧
      Work f.executor.ledger a e (executeExternalAction c f a).1.executor.ledger
        (executeExternalAction c f a).2 := by
  cases a with
  | applySafe s m =>
    refine ⟨_, rfl, ?_⟩
    rw [executeExternalAction, applySafe, ledger_summarize]
    exact .applySafe s m
  | epsReset s =>
    refine ⟨_, rfl, ?_⟩
    rw [executeExternalAction, resetSubsystem.eq_def, ledger_summarize]
    exact .epsReset s _
  | adcsReset s =>
    refine ⟨_, rfl, ?_⟩
    rw [executeExternalAction, resetSubsystem.eq_def, ledger_summarize]
    exact .adcsReset s _
  | commFailover s =>
    rw [executeExternalAction, commFailover.eq_def]
    dsimp only
    split_ifs with h
    · simp only [Bool.and_eq_true] at h
      rcases locked_prepareSafeFallback c s _ .fdirSubsystemFault false _ with
        ⟨hl, hlog, hac⟩ | ⟨hl, hlog, hac, hs⟩
      · rw [hl, hlog, hac, ledger_summarize]
        exact ⟨_, rfl, .failover s _⟩
      · rw [hl, hlog, hac, ledger_summarize]
        rw [incident_summarize] at h hs ⊢
        exact ⟨_, List.append_assoc _ _ _, .failoverSafe s _ h.2.1 hs⟩
    · refine ⟨_, rfl, ?_⟩
      rw [ledger_summarize]
      exact .failover s _
  | recordProcessRestartIntent s m =>
    rw [executeExternalAction, recordProcessRestartIntent]
    dsimp only
    split_ifs with hr h
    · refine ⟨_, rfl, ?_⟩
      rw [ledger_summarize]
      exact .restart s m
    · simp only [Bool.and_eq_true] at h
      rcases locked_prepareSafeFallback c s _ m true _ with
        ⟨hl, hlog, hac⟩ | ⟨hl, hlog, hac, hs⟩
      · rw [hl, hlog, hac]
        exact ⟨_, rfl, .restartFailed s m⟩
      · rw [hl, hlog, hac]
        exact ⟨_, List.append_assoc _ _ _, .restartFailedSafe s m h.1.1 hs⟩
    · refine ⟨_, rfl, ?_⟩
      rw [ledger_summarize]
      exact .restartFailed s m
  | recordRebootIntent s =>
    rw [executeExternalAction, recordRebootIntent]
    dsimp only
    split_ifs
    · refine ⟨_, List.append_assoc _ _ _, ?_⟩
      rw [ledger_summarize]
      exact .reboot s
    · refine ⟨_, rfl, ?_⟩
      rw [ledger_summarize]
      exact .rebootFailed s
  | ackStable =>
    refine ⟨[], ?_, ?_⟩
    · rw [executeExternalAction, ackStable, List.append_nil]
      dsimp only
      split_ifs <;> rfl
    · have h : (executeExternalAction c f .ackStable).1.executor.ledger = f.executor.ledger := by
        rw [executeExternalAction, ackStable]
        dsimp only
        split_ifs <;> rfl
      rw [h]
      exact .ackStable

/-- The one control call that carrying out a request makes. -/
def ExternalActionRequest.control (c : RecoveryControls ω) : ExternalActionRequest → ω → ω
  | .applySafe _ modeSource, world => c.mode.elim world fun mode => mode.applyMode .safe modeSource world
  | .epsReset _, world => c.eps.elim world fun reset => (reset world).2
  | .adcsReset _, world => c.adcs.elim world fun reset => (reset world).2
  | .commFailover _, world => c.comm.elim world fun failover => (failover world).2
  | .recordProcessRestartIntent source _, world =>
    (recordIntent c source .r2RestartSoftwareComponent world).2
  | .recordRebootIntent source, world => (recordIntent c source .r6ObcReboot world).2
  | .ackStable, world => c.boot.elim world fun boot => (boot.acknowledgeRuntimeStable world).2

theorem resetSubsystem_world (control : Option (ω → CmdResponse × ω)) (f : Frame ω) :
    (resetSubsystem control s f).world = control.elim f.world fun reset => (reset f.world).2 := by
  cases control <;> rfl

theorem executeExternalAction_world (f : Frame ω) (request : ExternalActionRequest) :
    (executeExternalAction c f request).1.world = request.control c f.world := by
  cases request with
  | applySafe =>
    simp only [executeExternalAction, applySafe, ExternalActionRequest.control]
    cases c.mode <;> rfl
  | epsReset => exact resetSubsystem_world _ c.eps f
  | adcsReset => exact resetSubsystem_world _ c.adcs f
  | commFailover =>
    simp only [executeExternalAction, commFailover, ExternalActionRequest.control]
    cases c.comm <;> split_ifs <;> rfl
  | recordProcessRestartIntent =>
    simp only [executeExternalAction, recordProcessRestartIntent]
    split_ifs <;> rfl
  | recordRebootIntent =>
    simp only [executeExternalAction, recordRebootIntent]
    split_ifs <;> rfl
  | ackStable =>
    simp only [executeExternalAction, ackStable, ExternalActionRequest.control]
    cases c.boot <;> split_ifs <;> rfl

theorem executeExternalActions_invariant
    {I : Ledger → List RecoveryEvent → List ExternalActionRequest → Prop}
    (hw : ∀ {l log a rest e l' next}, Work l a e l' next →
      I l log (a :: rest) → I l' (log ++ e) (rest ++ next))
    {f : Frame ω} {q : List ExternalActionRequest} (h : I f.executor.ledger f.log q) :
    I (executeExternalActions c f q).executor.ledger (executeExternalActions c f q).log [] := by
  refine (externalActions c).drain_invariant
    (I := fun f q => I f.executor.ledger f.log q) (fun f a rest h => ?_) h
  obtain ⟨e, hlog, hw'⟩ := executeExternalAction_work c f a
  change I (executeExternalAction c f a).1.executor.ledger
    (executeExternalAction c f a).1.log (rest ++ (executeExternalAction c f a).2)
  rw [hlog]
  exact hw hw' h

end RecoveryExecutor

end ObcFlight
