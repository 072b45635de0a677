import ObcFlight.RecoverySteps

/-!
# What a call does to an incident under the lock

A call works on one incident, or the tick on each of them in turn. Seen from one source, the
locked section leaves the incident alone, closes it, opens it with its first request, or asks
for a reboot. The relation below lists these cases with the conditions under which the code
takes them; the reports and requests in it are those of the source.
-/

namespace ObcFlight

def RecoveryEvent.source : RecoveryEvent → IncidentSource
  | incidentOpened source _ _ | incidentCleared source _ _ | actionRequested source _ _
  | actionExecuted source _ _ | rebootPending source _ | rebootIssued source _ => source

namespace RecoveryExecutor

def ExternalActionRequest.source : ExternalActionRequest → Option IncidentSource
  | applySafe source _ | epsReset source | adcsReset source | commFailover source
  | recordProcessRestartIntent source _ | recordRebootIntent source => some source
  | ackStable => none

def eventsOf (source : IncidentSource) (log : List RecoveryEvent) : List RecoveryEvent :=
  log.filter fun event => decide (event.source = source)

def requestsOf (source : IncidentSource) (queue : List ExternalActionRequest) :
    List ExternalActionRequest :=
  queue.filter fun request => decide (request.source = some source)

variable (source : IncidentSource)

@[simp] theorem eventsOf_append (log later : List RecoveryEvent) :
    eventsOf source (log ++ later) = eventsOf source log ++ eventsOf source later :=
  List.filter_append ..

@[simp] theorem requestsOf_append (q later : List ExternalActionRequest) :
    requestsOf source (q ++ later) = requestsOf source q ++ requestsOf source later :=
  List.filter_append ..

variable {request : ExternalActionRequest}

theorem requestsOf_cons_own {source : IncidentSource} (h : request.source = some source)
    (queue : List ExternalActionRequest) :
    requestsOf source (request :: queue) = request :: requestsOf source queue := by
  simp [requestsOf, h]

theorem requestsOf_cons_other {source : IncidentSource} (h : request.source ≠ some source)
    (queue : List ExternalActionRequest) :
    requestsOf source (request :: queue) = requestsOf source queue := by
  simp [requestsOf, h]

/-! ### Sections that speak about their own incident only -/

structure Own (source : IncidentSource) (p : Pass) : Prop where
  actions : ∀ request ∈ p.actions, request.source = some source
  log : ∀ event ∈ p.log, event.source = source

namespace Own

variable {source : IncidentSource} {p : Pass}

theorem start (incident : RecoveryIncidentState) : Own source { incident } :=
  ⟨fun _ h => (nomatch h), fun _ h => (nomatch h)⟩

theorem setIncident (h : Own source p) (incident : RecoveryIncidentState) :
    Own source { p with incident } := ⟨h.actions, h.log⟩

theorem report (h : Own source p) {x : RecoveryEvent} (hev : x.source = source)
    (incident : RecoveryIncidentState) :
    Own source { p with incident, log := p.log ++ [x] } := by
  refine ⟨h.actions, fun e he => ?_⟩
  rcases List.mem_append.mp he with he | he
  · exact h.log e he
  · rw [List.mem_singleton.mp he, hev]

theorem push (h : Own source p) {request : ExternalActionRequest}
    (hrq : request.source = some source) : Own source (RecoveryExecutor.push request p) := by
  refine ⟨fun r hr => ?_, h.log⟩
  rcases List.mem_append.mp hr with hr | hr
  · exact h.actions r hr
  · rw [List.mem_singleton.mp hr, hrq]

theorem issueAction (h : Own source p) (l : RecoveryLevel) (a : RecoveryAction) :
    Own source (RecoveryExecutor.issueAction source l a p) := h.report rfl _

theorem openIncident (h : Own source p) : Own source (RecoveryExecutor.openIncident source p) :=
  h.report rfl _

theorem closeIncident (h : Own source p) : Own source (RecoveryExecutor.closeIncident source p) :=
  h.report rfl _

theorem prepareProcessRestart (h : Own source p) (m : ModeApplySource) :
    Own source (RecoveryExecutor.prepareProcessRestart source m p) := by
  unfold RecoveryExecutor.prepareProcessRestart
  split_ifs
  · exact h
  · exact ((h.setIncident _).issueAction _ _).push rfl

theorem prepareReset (h : Own source p) {request : IncidentSource → ExternalActionRequest}
    (hr : (request source).source = some source) :
    Own source (RecoveryExecutor.prepareReset request source p) := by
  unfold RecoveryExecutor.prepareReset
  split_ifs
  · exact h
  · exact ((h.setIncident _).issueAction _ _).push hr

theorem prepareCommFailover (h : Own source p) :
    Own source (RecoveryExecutor.prepareCommFailover source p) := by
  unfold RecoveryExecutor.prepareCommFailover
  split_ifs
  · exact h
  · exact ((h.setIncident _).issueAction _ _).push rfl

theorem prepareReboot (h : Own source p) : Own source (RecoveryExecutor.prepareReboot source p) := by
  unfold RecoveryExecutor.prepareReboot
  split_ifs
  · exact h
  · exact ((h.issueAction _ _).report rfl _).push rfl

end Own

def requestSafe (source : IncidentSource) (modeSource : ModeApplySource) (p : Pass) : Pass :=
  push (.applySafe source modeSource)
    (issueAction source .r5ModeFallback .safeFallback
      { p with incident := { p.incident with safeFallbackIssued := true } })

theorem Own.requestSafe {source : IncidentSource} {p : Pass} (h : Own source p)
    (m : ModeApplySource) : Own source (RecoveryExecutor.requestSafe source m p) :=
  ((h.setIncident _).issueAction _ _).push rfl

/-! ### The cases -/

def Call.Clears (source : IncidentSource) : Call → Prop
  | .clearWatchdogFault watchdog => recoveryIncidentSourceFromWatchdog watchdog = source
  | .clearSubsystemFault fault => fault.source = source
  | _ => False

/-- An incident that the timeout of uncleared incidents counts. -/
def armed (i : RecoveryIncidentState) : Bool :=
  i.active && i.awaitingClear && !i.processRestartPending && !i.rebootPending && i.firstActionIssued

variable {ω : Type*}

def Clamps (c : RecoveryControls ω) (world : ω) : Prop :=
  bootSafeFallbackRequired c world = true ∧ c.mode ≠ none ∧ currentMode c world ≠ .hell

def Call.Spares (f : Frame ω) (source : IncidentSource) : Call → Prop
  | .submitWatchdogFault watchdog =>
      recoveryIncidentSourceFromWatchdog watchdog = source → (f.incident source).active = true
  | .submitWatchdogSuppression watchdog =>
      recoveryIncidentSourceFromWatchdog watchdog = source →
        (f.incident source).active = true ∧ (f.incident source).rebootPending = true
  | .clearWatchdogFault watchdog =>
      recoveryIncidentSourceFromWatchdog watchdog = source → (f.incident source).active = false
  | .submitSubsystemFault fault =>
      fault.source = source → (f.incident source).active = true ∨ exitBusy f.executor = true
  | .clearSubsystemFault fault => fault.source = source → (f.incident source).active = false
  | .schedIn => exitBusy f.executor = false → armed (f.incident source) = false
  | .consumeRecoveryExitRequest | .consumeRebootRequest => True

/-- The incident after it has been opened in this call. -/
abbrev Frame.opened (f : Frame ω) (source : IncidentSource) : Pass :=
  openIncident source { incident := f.incident source }

inductive Locking (c : RecoveryControls ω) (f : Frame ω) (source : IncidentSource) :
    Call → Pass → Prop
  | kept (k) (hspares : Call.Spares f source k) :
      Locking c f source k { incident := f.incident source }
  | cleared (k) (hclears : k.Clears source) (hactive : (f.incident source).active = true) :
      Locking c f source k (closeIncident source { incident := f.incident source })
  | clamped (watchdog) (hsource : recoveryIncidentSourceFromWatchdog watchdog = source)
      (hactive : (f.incident source).active = false) (hclamps : Clamps c f.world) :
      Locking c f source (.submitWatchdogFault watchdog)
        (requestSafe source .watchdogFault (f.opened source))
  | restarted (watchdog) (hsource : recoveryIncidentSourceFromWatchdog watchdog = source)
      (hactive : (f.incident source).active = false) (hclamps : ¬Clamps c f.world) :
      Locking c f source (.submitWatchdogFault watchdog)
        (prepareProcessRestart source .watchdogFault (f.opened source))
  | suppressed (watchdog) (hsource : recoveryIncidentSourceFromWatchdog watchdog = source)
      (hactive : (f.incident source).active = true)
      (hpending : (f.incident source).rebootPending = false) :
      Locking c f source (.submitWatchdogSuppression watchdog)
        (prepareReboot source { incident := f.incident source })
  | suppressedOpened (watchdog) (hsource : recoveryIncidentSourceFromWatchdog watchdog = source)
      (hactive : (f.incident source).active = false) :
      Locking c f source (.submitWatchdogSuppression watchdog)
        (prepareReboot source (f.opened source))
  | relatched (fault : SubsystemFault) (hsource : fault.source = source)
      (hactive : (f.incident source).active = false) (hfree : exitBusy f.executor = false)
      (hrelatch : 0 < (f.opened source).incident.relatchCount) :
      Locking c f source (.submitSubsystemFault fault) (prepareReboot source (f.opened source))
  | reset (fault : SubsystemFault) (hsource : fault.source = source)
      (hactive : (f.incident source).active = false) (hfree : exitBusy f.executor = false)
      (request) (hrequest : request = .epsReset ∨ request = .adcsReset)
      (hfresh : ¬0 < (f.opened source).incident.relatchCount) :
      Locking c f source (.submitSubsystemFault fault)
        (prepareReset request source (f.opened source))
  | resetSafe (fault : SubsystemFault) (hsource : fault.source = source)
      (hactive : (f.incident source).active = false) (hfree : exitBusy f.executor = false)
      (request) (hrequest : request = .epsReset ∨ request = .adcsReset)
      (hfresh : ¬0 < (f.opened source).incident.relatchCount) :
      Locking c f source (.submitSubsystemFault fault)
        (requestSafe source .fdirSubsystemFault (prepareReset request source (f.opened source)))
  | failover (fault : SubsystemFault) (hsource : fault.source = source)
      (hactive : (f.incident source).active = false) (hfree : exitBusy f.executor = false)
      (hfresh : ¬0 < (f.opened source).incident.relatchCount) :
      Locking c f source (.submitSubsystemFault fault)
        (prepareCommFailover source (f.opened source))
  | counted (hfree : exitBusy f.executor = false) (harmed : armed (f.incident source) = true)
      (hticks : saturatingIncrement (f.incident source).openTicks < unclearedRebootTimeoutTicks) :
      Locking c f source .schedIn
        { incident := { f.incident source with
            openTicks := saturatingIncrement (f.incident source).openTicks } }
  | timedOut (hfree : exitBusy f.executor = false) (harmed : armed (f.incident source) = true)
      (hticks : unclearedRebootTimeoutTicks ≤ saturatingIncrement (f.incident source).openTicks) :
      Locking c f source .schedIn
        (prepareReboot source { incident := { f.incident source with
            openTicks := saturatingIncrement (f.incident source).openTicks } })
  | retried (hfree : exitBusy f.executor = false) (harmed : armed (f.incident source) = false)
      (hactive : (f.incident source).active = true)
      (hrestart : (f.incident source).processRestartPending = false)
      (hpending : (f.incident source).rebootPending = false)
      (hlevel : (f.incident source).currentLevel = .r6ObcReboot) :
      Locking c f source .schedIn (prepareReboot source { incident := f.incident source })

theorem Locking.own {c : RecoveryControls ω} {f : Frame ω} {source : IncidentSource} {k : Call}
    {p : Pass} (h : Locking c f source k p) : Own source p := by
  have hs : Own source { incident := f.incident source } := .start _
  cases h with
  | kept => exact hs
  | cleared => exact hs.closeIncident
  | clamped => exact hs.openIncident.requestSafe _
  | restarted => exact hs.openIncident.prepareProcessRestart _
  | suppressed | retried => exact hs.prepareReboot
  | suppressedOpened | relatched => exact hs.openIncident.prepareReboot
  | reset _ _ _ _ _ hr =>
    refine hs.openIncident.prepareReset ?_
    rcases hr with rfl | rfl <;> rfl
  | resetSafe _ _ _ _ _ hr =>
    refine (hs.openIncident.prepareReset ?_).requestSafe _
    rcases hr with rfl | rfl <;> rfl
  | failover => exact hs.openIncident.prepareCommFailover
  | counted => exact Own.start _
  | timedOut => exact (Own.start _).prepareReboot

end RecoveryExecutor

end ObcFlight
