import ObcFlight.RecoveryClamp

/-!
# The status of pending exits

The exit requests are flags of the executor, the pending marks are kept with the incidents, and
the published status is read off the marks. Every outstanding request is marked somewhere as
long as no incident is opened again while it carries the last mark of one: opening wipes it.
-/

namespace ObcFlight

namespace RecoveryExecutor

variable {ω : Type*}

/-- The status shows a pending exit exactly when an incident is marked with it. -/
structure InSync (x : RecoveryExecutor) : Prop where
  restart : x.status.pendingProcessRestart =
    IncidentSource.all.any fun source => (x.status.incidents source).processRestartPending
  reboot : x.status.pendingReboot =
    IncidentSource.all.any fun source => (x.status.incidents source).rebootPending

theorem inSync_updateStatusSummary (f : Option IncidentSource) (x : RecoveryExecutor) :
    InSync (updateStatusSummary f x) := by
  unfold updateStatusSummary
  dsimp only
  split
  · exact ⟨rfl, rfl⟩
  · split_ifs <;> exact ⟨rfl, rfl⟩

theorem inSync_locked (s : IncidentSource) (work : Pass → Pass) (f : Frame ω) :
    InSync (f.locked s work).1.executor := inSync_updateStatusSummary _ _

variable (c : RecoveryControls ω) {f : Frame ω}

theorem inSync_executeExternalAction (h : InSync f.executor) (action : ExternalActionRequest) :
    InSync (executeExternalAction c f action).1.executor := by
  cases action with
  | applySafe | epsReset | adcsReset => exact inSync_updateStatusSummary _ _
  | commFailover =>
    rw [executeExternalAction, commFailover.eq_def]
    dsimp only
    split_ifs <;> exact inSync_updateStatusSummary _ _
  | recordProcessRestartIntent =>
    rw [executeExternalAction, recordProcessRestartIntent]
    dsimp only
    split_ifs <;> exact inSync_updateStatusSummary _ _
  | recordRebootIntent =>
    rw [executeExternalAction, recordRebootIntent]
    dsimp only
    split_ifs <;> exact inSync_updateStatusSummary _ _
  | ackStable =>
    rw [executeExternalAction, ackStable]
    dsimp only
    split_ifs <;> exact ⟨h.restart, h.reboot⟩

theorem inSync_executeExternalActions (h : InSync f.executor) (q : List ExternalActionRequest) :
    InSync (executeExternalActions c f q).executor :=
  (externalActions c).drain_invariant (I := fun f _ => InSync f.executor)
    (fun _ action _ h => inSync_executeExternalAction c h action) h

theorem inSync_countStableTicks (n : UInt32) {x : RecoveryExecutor} (h : InSync x) :
    InSync (countStableTicks n x).1 := by
  unfold countStableTicks
  dsimp only
  split_ifs <;> exact ⟨h.restart, h.reboot⟩

theorem inSync_call (h : InSync f.executor) (k : Call) : InSync (call c f k).executor := by
  have hc (source) : InSync (clearIncidentBySource source f).executor := by
    unfold clearIncidentBySource
    split_ifs
    · exact h
    · exact inSync_locked _ _ _
  cases k with
  | submitWatchdogFault =>
    rw [call, submitWatchdogFault]
    refine inSync_executeExternalActions c ?_ _
    rw [lockWatchdogFault]
    exact inSync_locked _ _ _
  | submitWatchdogSuppression =>
    rw [call, submitWatchdogSuppression]
    refine inSync_executeExternalActions c ?_ _
    rw [lockWatchdogSuppression]
    exact inSync_locked _ _ _
  | clearWatchdogFault w => exact hc (recoveryIncidentSourceFromWatchdog w)
  | clearSubsystemFault fault => exact hc fault.source
  | submitSubsystemFault =>
    rw [call, submitSubsystemFault_eq, handleSubsystemFault]
    split_ifs
    · exact h
    · refine inSync_executeExternalActions c ?_ _
      rw [lockSubsystemFault]
      exact inSync_locked _ _ _
  | schedIn =>
    rw [call, schedIn]
    refine inSync_executeExternalActions c ?_ _
    rw [lockTick]
    exact inSync_countStableTicks _ (inSync_updateStatusSummary _ _)
  | consumeRecoveryExitRequest =>
    rw [call, consumeRecoveryExitRequest]
    split_ifs
    · exact inSync_updateStatusSummary _ _
    · exact inSync_updateStatusSummary _ _
    · exact h
  | consumeRebootRequest =>
    rw [call, consumeRebootRequest]
    split_ifs
    · exact inSync_updateStatusSummary _ _
    · exact h

/-- Every outstanding exit request is marked on some incident. -/
structure Marked (l : Ledger) : Prop where
  restart : l.processRestartRequested = true → ∃ source, (l.incidents source).processRestartPending = true
  reboot : l.rebootRequested = true → ∃ source, (l.incidents source).rebootPending = true

variable {next : List ExternalActionRequest} {action : ExternalActionRequest}
  {events : List RecoveryEvent}

theorem Work.pending {l l' : Ledger} (h : Work l action events l' next) (s : IncidentSource) :
    ((l.incidents s).processRestartPending = true → (l'.incidents s).processRestartPending = true) ∧
      ((l.incidents s).rebootPending = true → (l'.incidents s).rebootPending = true) := by
  have hset (own : IncidentSource) {i : RecoveryIncidentState}
      (hrs : (l.incidents own).processRestartPending = true → i.processRestartPending = true)
      (hr : (l.incidents own).rebootPending = true → i.rebootPending = true) :
      ((l.incidents s).processRestartPending = true →
          ((l.set own i).incidents s).processRestartPending = true) ∧
        ((l.incidents s).rebootPending = true →
          ((l.set own i).incidents s).rebootPending = true) := by
    by_cases heq : s = own
    · rw [heq, Ledger.set_incidents_self]
      exact ⟨hrs, hr⟩
    · rw [Ledger.set_incidents_of_ne _ heq]
      exact ⟨id, id⟩
  cases h with
  | failoverSafe own | restartFailedSafe own => exact hset own id id
  | restart own => exact hset own (fun _ => rfl) id
  | reboot own => exact hset own id fun _ => rfl
  | _ => exact ⟨id, id⟩

theorem Work.marked {l l' : Ledger} (h : Work l action events l' next) (hm : Marked l) :
    Marked l' := by
  have hp := h.pending
  have hrs (heq : l'.processRestartRequested = l.processRestartRequested)
      (hr : l'.processRestartRequested = true) :
      ∃ s, (l'.incidents s).processRestartPending = true :=
    (hm.restart (heq ▸ hr)).imp fun s => (hp s).1
  have hrb (heq : l'.rebootRequested = l.rebootRequested) (hr : l'.rebootRequested = true) :
      ∃ s, (l'.incidents s).rebootPending = true :=
    (hm.reboot (heq ▸ hr)).imp fun s => (hp s).2
  cases h with
  | restart own => exact ⟨fun _ => ⟨own, by simp only [Ledger.set_incidents_self]⟩, hrb rfl⟩
  | reboot own => exact ⟨hrs rfl, fun _ => ⟨own, by simp only [Ledger.set_incidents_self]⟩⟩
  | _ => exact ⟨hrs rfl, hrb rfl⟩

/-- The call is a watchdog report that opens the incident of this source. -/
def Call.Opens (s : RecoveryExecutor × ω) (source : IncidentSource) : Call → Prop
  | .submitWatchdogFault watchdog | .submitWatchdogSuppression watchdog =>
      recoveryIncidentSourceFromWatchdog watchdog = source ∧ (s.1.status.incidents source).active = false
  | _ => False

/-- An incident that is opened does not carry the only mark of an outstanding request. -/
def Sheltered (s : RecoveryExecutor × ω) (input : Input ω) : Prop :=
  ∀ k source, input = .call k → k.Opens s source →
    (s.1.processRestartRequested = true →
      ∃ other, other ≠ source ∧ (s.1.status.incidents other).processRestartPending = true) ∧
    (s.1.rebootRequested = true →
      ∃ other, other ≠ source ∧ (s.1.status.incidents other).rebootPending = true)

theorem prepareReboot_pending (s : IncidentSource) (p : Pass) :
    (prepareReboot s p).incident.processRestartPending = p.incident.processRestartPending ∧
      (prepareReboot s p).incident.rebootPending = p.incident.rebootPending := by
  unfold prepareReboot
  split_ifs <;> exact ⟨rfl, rfl⟩

theorem Locking.pending {c : RecoveryControls ω} {s : RecoveryExecutor × ω} {o : IncidentSource}
    {k : Call} {p : Pass} (h : Locking c (enter s) o k p) (ho : ¬k.Opens s o)
    (hbs : exitBusy s.1 = true) :
    p.incident.processRestartPending = (s.1.status.incidents o).processRestartPending ∧
      p.incident.rebootPending = (s.1.status.incidents o).rebootPending := by
  cases h with
  | kept | counted => exact ⟨rfl, rfl⟩
  | cleared =>
    unfold closeIncident
    dsimp only
    split_ifs <;> exact ⟨rfl, rfl⟩
  | clamped _ hs hac | restarted _ hs hac | suppressedOpened _ hs hac =>
    exact absurd ⟨hs, hac⟩ ho
  | suppressed | retried => exact prepareReboot_pending o { incident := s.1.status.incidents o }
  | relatched _ _ _ hf | reset _ _ _ hf | resetSafe _ _ _ hf | failover _ _ _ hf =>
    exact absurd (hbs.symm.trans hf) (by decide)
  | timedOut => exact prepareReboot_pending o { incident := { s.1.status.incidents o with openTicks := _ } }

theorem step_marked {s : RecoveryExecutor × ω} {i : Input ω} (hsh : Sheltered s i)
    (h : Marked s.1.ledger) : Marked ((machine c).step s i).1.1.ledger := by
  cases i with
  | environment => exact h
  | call k =>
    change Marked (call c (enter s) k).executor.ledger
    by_cases hk : k.Consumes
    · obtain ⟨hc, -⟩ := call_consumption c (enter s) hk
      generalize (call c (enter s) k).executor.ledger = l at hc ⊢
      cases hc with
      | none => exact h
      | reboot => exact ⟨h.restart, (fun h => nomatch h)⟩
      | restart => exact ⟨(fun h => nomatch h), h.reboot⟩
    · obtain ⟨f', q, he, hcl⟩ := call_entry c (show (enter s).log = [] from rfl) hk
      rw [hcl]
      refine executeExternalActions_invariant c (I := fun l _ _ => Marked l)
        (fun hw hm => hw.marked hm) ?_
      have hop (source o) (hs : k.Opens s source) (hot : k.Opens s o) : o = source := by
        cases k with
        | submitWatchdogFault | submitWatchdogSuppression => exact hot.1.symm.trans hs.1
        | _ => exact hs.elim
      -- at most one incident is opened, and then another one carries the mark
      have hmr (mark : RecoveryIncidentState → Bool)
          (hkp : ∀ source, ¬k.Opens s source →
            mark (f'.executor.ledger.incidents source) = mark (s.1.status.incidents source))
          (hot : ∀ source, k.Opens s source →
            ∃ o, o ≠ source ∧ mark (s.1.status.incidents o) = true)
          (hsm : ∃ source, mark (s.1.status.incidents source) = true) :
          ∃ source, mark (f'.executor.ledger.incidents source) = true := by
        by_cases ho : ∃ source, k.Opens s source
        · obtain ⟨source, hs⟩ := ho
          obtain ⟨o, hne, hm⟩ := hot source hs
          exact ⟨o, (hkp o fun h => hne (hop source o hs h)).trans hm⟩
        · obtain ⟨source, hm⟩ := hsm
          exact ⟨source, (hkp source fun h => ho ⟨source, h⟩).trans hm⟩
      rw [he.ledger]
      refine ⟨fun hr => ?_, fun hr => ?_⟩
      · have hbs : exitBusy s.1 = true := by
          simp [exitBusy, show s.1.processRestartRequested = true from hr]
        exact hmr RecoveryIncidentState.processRestartPending
          (fun source hnot => ((he.locking source).pending hnot hbs).1)
          (fun source ho => (hsh k source rfl ho).1 hr) (h.restart hr)
      · have hbs : exitBusy s.1 = true := by
          simp [exitBusy, show s.1.rebootRequested = true from hr]
        exact hmr RecoveryIncidentState.rebootPending
          (fun source hnot => ((he.locking source).pending hnot hbs).2)
          (fun source ho => (hsh k source rfl ho).2 hr) (h.reboot hr)

/-- In every run that opens no incident over the last mark of an outstanding request, what the
next hand-out returns is shown as pending in the status. -/
theorem pending_status_truthful (c : RecoveryControls ω) (hardware : Bool) (world : ω)
    (inputs : List (Input ω))
    (hsheltered : (machine c).Admits Sheltered (configured hardware, world) inputs) :
    ((consumeRecoveryExitRequest (reached c hardware world inputs).1).1 = .obcReboot →
      (reached c hardware world inputs).1.status.pendingReboot = true) ∧
    ((consumeRecoveryExitRequest (reached c hardware world inputs).1).1 = .processRestart →
      (reached c hardware world inputs).1.status.pendingProcessRestart = true) := by
  have hsync : InSync (reached c hardware world inputs).1 := by
    refine (machine c).run_invariant (I := fun s => InSync s.1) (fun s input h => ?_) _ ⟨rfl, rfl⟩ inputs
    cases input with
    | call k => exact inSync_call c h k
    | environment => exact h
  have hmarked : Marked (reached c hardware world inputs).1.ledger :=
    (machine c).run_invariant_of_admits (I := fun s => Marked s.1.ledger)
      (fun s input hinput h => step_marked c hinput h) (configured hardware, world)
      ⟨fun h => absurd h Bool.false_ne_true, fun h => absurd h Bool.false_ne_true⟩ inputs hsheltered
  refine ⟨fun hconsume => ?_, fun hconsume => ?_⟩
  · have hrequested : (reached c hardware world inputs).1.rebootRequested = true := by
      unfold consumeRecoveryExitRequest at hconsume
      split_ifs at hconsume with hreboot
      exact hreboot
    obtain ⟨source, hsource⟩ := hmarked.reboot hrequested
    rw [hsync.reboot]
    exact List.any_eq_true.mpr ⟨source, IncidentSource.mem_all source, hsource⟩
  · have hrequested : (reached c hardware world inputs).1.processRestartRequested = true := by
      unfold consumeRecoveryExitRequest at hconsume
      split_ifs at hconsume with _ hrestart
      exact hrestart
    obtain ⟨source, hsource⟩ := hmarked.restart hrequested
    rw [hsync.restart]
    exact List.any_eq_true.mpr ⟨source, IncidentSource.mem_all source, hsource⟩

/-- A watchdog fault whose restart is recorded. -/
theorem pending_restart_shown :
    (reached bench false {} [.call (.submitWatchdogFault .epsBridge)]).1.status.pendingProcessRestart =
      true := by
  refine (pending_status_truthful bench false {} [.call (.submitWatchdogFault .epsBridge)]
    ⟨fun k source _ _ => ⟨fun h => absurd h Bool.false_ne_true, fun h => absurd h Bool.false_ne_true⟩,
      trivial⟩).2 rfl

/-- A suppression asks for a reboot, the source recovers and fails again before it is consumed:
the reboot is still handed out, and the status does not show it. -/
theorem reboot_hidden_by_reopening :
    let inputs : List (Input Bench) := [.call (.submitWatchdogSuppression .epsBridge),
      .call (.clearWatchdogFault .epsBridge), .call (.submitWatchdogFault .epsBridge)]
    (consumeRecoveryExitRequest (reached bench false {} inputs).1).1 = .obcReboot ∧
      (reached bench false {} inputs).1.status.pendingReboot = false := by
  exact ⟨rfl, rfl⟩

end RecoveryExecutor

end ObcFlight
