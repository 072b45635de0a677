import ObcFlight.RecoveryEntry

/-!
# The clamp on repeated recovery

While the boot record asks for a boot-safe fallback, a watchdog fault is to lead to SAFE and not
to one more restart. Only a watchdog fault that the clamp does not take queues a restart, so
the restart stays away exactly as long as the clamp can ask for SAFE, which it cannot in HELL.
-/

namespace ObcFlight

namespace RecoveryExecutor

variable {ω : Type*}

def ExternalActionRequest.isRestart : ExternalActionRequest → Bool
  | .recordProcessRestartIntent _ _ => true
  | _ => false

theorem prepareReboot_actions (s : IncidentSource) (p : Pass) :
    (prepareReboot s p).actions = p.actions ∨
      (prepareReboot s p).actions = p.actions ++ [ExternalActionRequest.recordRebootIntent s] := by
  unfold prepareReboot
  split_ifs
  · exact .inl rfl
  · exact .inr rfl

variable {c : RecoveryControls ω}

theorem Locking.restart_queued {f : Frame ω} {source : IncidentSource} {k : Call} {p : Pass}
    (h : Locking c f source k p) (hq : p.actions.any ExternalActionRequest.isRestart = true) :
    ∃ watchdog, k = .submitWatchdogFault watchdog ∧
      recoveryIncidentSourceFromWatchdog watchdog = source ∧
      (f.incident source).active = false ∧ ¬Clamps c f.world := by
  have hrb (start : Pass) (hst : start.actions = []) :
      (prepareReboot source start).actions.any ExternalActionRequest.isRestart = false := by
    rcases prepareReboot_actions source start with h | h <;> rw [h, hst] <;> rfl
  cases h with
  | restarted watchdog hs hac hc => exact ⟨watchdog, rfl, hs, hac, hc⟩
  | suppressed | suppressedOpened | relatched | timedOut | retried =>
    rw [hrb _ rfl] at hq
    cases hq
  | reset _ _ _ _ _ hr | resetSafe _ _ _ _ _ hr =>
    rcases hr with rfl | rfl <;> cases hq
  | kept | cleared | clamped | failover | counted => cases hq

variable {queue : List ExternalActionRequest}

theorem Entry.restart_queued {f f' : Frame ω} {k : Call} (h : Entry c f k f' queue)
    (hq : queue.any ExternalActionRequest.isRestart = true) :
    ∃ w, k = .submitWatchdogFault w ∧
      (f.incident (recoveryIncidentSourceFromWatchdog w)).active = false ∧
      ¬Clamps c f.world := by
  obtain ⟨r, hmem, hr⟩ := List.any_eq_true.mp hq
  cases r with
  | recordProcessRestartIntent s =>
    have hown : (requestsOf s queue).any ExternalActionRequest.isRestart = true :=
      List.any_eq_true.mpr ⟨_, List.mem_filter.mpr ⟨hmem, decide_eq_true rfl⟩, rfl⟩
    obtain ⟨w, hk, rfl, hac, hc⟩ := (h.locking s).restart_queued hown
    exact ⟨w, hk, hac, hc⟩
  | _ => cases hr

theorem executeExternalActions_restart (c : RecoveryControls ω) {f : Frame ω}
    (h : queue.any ExternalActionRequest.isRestart = false) :
    (executeExternalActions c f queue).executor.processRestartRequested =
      f.executor.processRestartRequested := by
  refine (executeExternalActions_invariant c (I := fun l _ queue =>
    l.processRestartRequested = f.executor.processRestartRequested ∧
      queue.any ExternalActionRequest.isRestart = false) (fun hw hI => ?_) ⟨rfl, h⟩).1
  obtain ⟨hf, hq⟩ := hI
  rw [List.any_cons, Bool.or_eq_false_iff] at hq
  rw [List.any_append, hq.2, Bool.false_or]
  cases hw with
  | restart | restartFailed | restartFailedSafe => cases hq.1
  | _ => exact ⟨hf, rfl⟩

/-- The fallback is still required, and a watchdog fault that opens an incident finds a mode
other than HELL. -/
def Clamped (c : RecoveryControls ω) (s : RecoveryExecutor × ω) (input : Input ω) : Prop :=
  bootSafeFallbackRequired c s.2 = true ∧
    ∀ watchdog, input = .call (.submitWatchdogFault watchdog) →
      (s.1.status.incidents (recoveryIncidentSourceFromWatchdog watchdog)).active = false →
      currentMode c s.2 ≠ .hell

theorem step_restart_of_clamped (hm : c.mode ≠ none) {s : RecoveryExecutor × ω} {i : Input ω}
    (h : Clamped c s i) (hr : ((machine c).step s i).1.1.processRestartRequested = true) :
    s.1.processRestartRequested = true := by
  cases i with
  | environment => exact hr
  | call k =>
    have hc : (call c (enter s) k).executor.ledger.processRestartRequested = true := hr
    by_cases hk : k.Consumes
    · obtain ⟨hcn, -⟩ := call_consumption c (enter s) hk
      generalize (call c (enter s) k).executor.ledger = l at hcn hc
      cases hcn with
      | none | reboot => exact hc
      | restart => cases hc
    · obtain ⟨f', queue, he, heq⟩ := call_entry c (show (enter s).log = [] from rfl) hk
      have hnone : queue.any ExternalActionRequest.isRestart = false := by
        by_contra hq
        obtain ⟨w, rfl, hac, hcl⟩ :=
          he.restart_queued (Bool.not_eq_false _ ▸ hq)
        exact hcl ⟨h.1, hm, h.2 w rfl hac⟩
      have hl := congrArg Ledger.processRestartRequested he.ledger
      rw [heq] at hc
      exact hl.symm.trans ((executeExternalActions_restart c hnone).symm.trans hc)

/-- While the fallback is required, a watchdog fault that opens an incident queues no restart and
makes no restart available exactly when the mode is not HELL; and in every run that only meets
such faults no restart becomes available as long as the fallback is required. -/
theorem clamp_keeps_restart_away_iff (c : RecoveryControls ω) (hmode : c.mode ≠ none) (hardware : Bool)
    (world : ω) (inputs : List (Input ω))
    (hrequired : bootSafeFallbackRequired c (reached c hardware world inputs).2 = true) :
    (∀ watchdog, ((reached c hardware world inputs).1.status.incidents
          (recoveryIncidentSourceFromWatchdog watchdog)).active = false →
      ((lockWatchdogFault c watchdog (enter (reached c hardware world inputs))).2.any
            ExternalActionRequest.isRestart = false ∧
          (submitWatchdogFault c watchdog (enter (reached c hardware world inputs))).executor.processRestartRequested =
            (reached c hardware world inputs).1.processRestartRequested ↔
        currentMode c (reached c hardware world inputs).2 ≠ .hell)) ∧
    ∀ more, (machine c).Admits (Clamped c) (reached c hardware world inputs) more →
      (reached c hardware world (inputs ++ more)).1.processRestartRequested = true →
      (reached c hardware world inputs).1.processRestartRequested = true := by
  refine ⟨fun watchdog hactive => ?_, fun more hadmits => ?_⟩
  · let source := recoveryIncidentSourceFromWatchdog watchdog
    let f : Frame ω := enter (reached c hardware world inputs)
    have hactions : (lockWatchdogFault c watchdog f).2 =
        (openForWatchdogFault c source f.world { incident := f.incident source }).actions := by
      have hactive' : (f.incident source).active = false := hactive
      rw [lockWatchdogFault, actions_locked]
      dsimp only
      rw [hactive']
      rfl
    rcases openForWatchdogFault_cases c source f.world { incident := f.incident source } with
      ⟨hclamps, h⟩ | ⟨hclamps, h⟩
    · have hnone : (lockWatchdogFault c watchdog f).2.any ExternalActionRequest.isRestart = false := by
        rw [hactions, h]
        rfl
      refine ⟨fun _ => hclamps.2.2, fun _ => ⟨hnone, ?_⟩⟩
      have hledger := (entry_lockWatchdogFault c watchdog (show f.log = [] from rfl)).ledger
      exact (executeExternalActions_restart c hnone).trans
        (congrArg Ledger.processRestartRequested hledger)
    · refine ⟨fun hnone => ?_, fun hhell => absurd ⟨hrequired, hmode, hhell⟩ hclamps⟩
      rw [hactions, h] at hnone
      cases hnone.1
  · rw [reached, Machine.run_append]
    refine (machine c).run_invariant_of_admits (I := fun s =>
      s.1.processRestartRequested = true → (reached c hardware world inputs).1.processRestartRequested = true)
      (fun s input hclamped ih hrestart => ih (step_restart_of_clamped hmode hclamped hrestart)) _ id more
      hadmits

/-- A world with nothing but the mode, the boot record's answers and the links' health. -/
structure Bench where
  mode : SatMode := .safe
  fallbackRequired : Bool := false
  resetCount : UInt32 := 0
  recording : Bool := true
  backupHealthy : Bool := true

def bench : RecoveryControls Bench where
  mode := some { getMode := Bench.mode, applyMode := fun mode _ world => { world with mode } }
  eps := some fun world => (.ok, world)
  adcs := some fun world => (.ok, world)
  boot := some {
    isBootSafeFallbackRequired := Bench.fallbackRequired
    getConsecutiveResetCount := Bench.resetCount
    recordRecoveryRestartIntent := fun _ _ _ world => (world.recording, world)
    acknowledgeRuntimeStable := fun world =>
      (true, { world with fallbackRequired := false, resetCount := 0 }) }
  comm := some fun world => ({ noHealthyBackup := !world.backupHealthy }, world)

/-- In IDLE the clamp takes the place of the restart. -/
theorem clamp_keeps_restart_away_in_idle :
    (lockWatchdogFault bench .epsBridge
      (enter (reached bench false { mode := .idle, fallbackRequired := true } []))).2.any
        ExternalActionRequest.isRestart = false :=
  (((clamp_keeps_restart_away_iff bench (by simp [bench]) false
    { mode := .idle, fallbackRequired := true } [] rfl).1 .epsBridge rfl).mpr (by decide)).1

/-- In HELL the clamp declines, and the fault restarts the process once more. -/
theorem watchdog_fault_restarts_in_hell :
    let s := reached bench false { fallbackRequired := true, resetCount := 3 }
      [.environment fun world => { world with mode := .hell }]
    bootSafeFallbackRequired bench s.2 = true ∧
      (lockWatchdogFault bench .epsBridge (enter s)).2 =
        [.recordProcessRestartIntent .watchdogEpsBridge .watchdogFault] ∧
      (consumeRecoveryExitRequest (submitWatchdogFault bench .epsBridge (enter s)).executor).1 =
        .processRestart := by
  refine ⟨rfl, rfl, rfl⟩

end RecoveryExecutor

end ObcFlight
