import ObcFlight.RecoveryEscalation

/-!
# Incidents opened by the clamp, incidents that open again

The clamp opens a watchdog incident without arming its timeout, so no number of ticks moves it.
A subsystem's incident that opens again after a clear goes to R6 in the same call.
-/

namespace ObcFlight

namespace RecoveryExecutor

variable {ω : Type*}

/-! ### Incidents opened by the clamp -/

/-- The incident stands at the fallback, its timeout is not armed, and nothing but the fallback
is queued for it. -/
structure Stuck (source : IncidentSource) (l : Ledger) (queue : List ExternalActionRequest)
    (log : List RecoveryEvent) : Prop where
  unarmed : (l.incidents source).firstActionIssued = false
  level : (l.incidents source).currentLevel = .r5ModeFallback
  unrecorded : rebootRecorded (eventsOf source log) = false
  queue : ∀ request ∈ requestsOf source queue, ∃ modeSource, request = .applySafe source modeSource

variable {source : IncidentSource} {action : ExternalActionRequest}

theorem Work.stuck {l l' : Ledger} {e log : List RecoveryEvent}
    {next rest : List ExternalActionRequest} (h : Work l action e l' next)
    (hst : Stuck source l (action :: rest) log) :
    Stuck source l' (rest ++ next) (log ++ e) := by
  obtain ⟨hu, hl, hun, hq⟩ := hst
  by_cases hs : action.source = some source
  · rw [requestsOf_cons_own hs] at hq
    obtain ⟨m, rfl⟩ := hq action List.mem_cons_self
    cases h
    refine ⟨hu, hl, ?_, fun r hmem => hq r (List.mem_cons_of_mem _ ?_)⟩
    · rw [eventsOf_append, show eventsOf source [.actionExecuted source .safeFallback 0] =
        [.actionExecuted source .safeFallback 0] by simp [eventsOf, RecoveryEvent.source],
        rebootRecorded_append]
      exact hun
    · rwa [List.append_nil] at hmem
  · obtain ⟨hin, hnn, hn⟩ := h.other hs
    rw [requestsOf_cons_other hs] at hq
    refine ⟨hin ▸ hu, hin ▸ hl, ?_, ?_⟩
    · rwa [eventsOf_append, hnn, List.append_nil]
    · rwa [requestsOf_append, hn, List.append_nil]

variable {history : List RecoveryEvent} {c : RecoveryControls ω}

theorem stuck_of_entry {f' : Frame ω} {q : List ExternalActionRequest}
    (h : Stuck source f'.executor.ledger q (history ++ f'.log)) :
    Stuck source (executeExternalActions c f' q).executor.ledger []
      (history ++ (executeExternalActions c f' q).log) := by
  refine executeExternalActions_invariant c
    (I := fun l log q => Stuck source l q (history ++ log)) (fun hw hI => ?_) h
  rw [← List.append_assoc]
  exact hw.stuck hI

variable {f : Frame ω} {p : Pass}

theorem Locking.eq_of_clamps {w : WatchdogSource}
    (h : Locking c f (recoveryIncidentSourceFromWatchdog w) (.submitWatchdogFault w) p)
    (hin : (f.incident (recoveryIncidentSourceFromWatchdog w)).active = false)
    (hc : Clamps c f.world) :
    p = requestSafe (recoveryIncidentSourceFromWatchdog w) .watchdogFault
      (openIncident (recoveryIncidentSourceFromWatchdog w)
        { incident := f.incident (recoveryIncidentSourceFromWatchdog w) }) := by
  cases h with
  | kept _ hs => exact absurd (hin.symm.trans (hs rfl)) Bool.false_ne_true
  | cleared _ hcl => exact hcl.elim
  | clamped => rfl
  | restarted _ _ _ hnot => exact absurd hc hnot

theorem Locking.eq_of_unarmed (h : Locking c f source .schedIn p)
    (hu : armed (f.incident source) = false)
    (hl : (f.incident source).currentLevel ≠ .r6ObcReboot) :
    p = { incident := f.incident source } := by
  cases h with
  | kept => rfl
  | cleared _ hc => exact hc.elim
  | counted _ har | timedOut _ har => exact absurd (hu.symm.trans har) Bool.false_ne_true
  | retried _ _ _ _ _ h => exact absurd h hl

theorem call_stuck_of_clamps (c : RecoveryControls ω) (hlog : f.log = [])
    (w : WatchdogSource) (hc : Clamps c f.world)
    (hic : (f.incident (recoveryIncidentSourceFromWatchdog w)).active = false)
    (history : List RecoveryEvent) : Stuck (recoveryIncidentSourceFromWatchdog w)
      (call c f (.submitWatchdogFault w)).executor.ledger []
      (history ++ (call c f (.submitWatchdogFault w)).log) := by
  have hen := entry_lockWatchdogFault c w hlog
  have heq := (hen.locking (recoveryIncidentSourceFromWatchdog w)).eq_of_clamps hic hc
  have hin := congrArg Pass.incident heq
  refine stuck_of_entry ⟨?_, ?_, ?_, fun r hmem => ?_⟩
  · exact congrArg RecoveryIncidentState.firstActionIssued hin
  · exact congrArg RecoveryIncidentState.currentLevel hin
  · have he := congrArg Pass.log heq
    dsimp only [requestSafe, push, issueAction, openIncident] at he
    rw [eventsOf_append, he, ← List.append_assoc, List.nil_append, rebootRecorded_append,
      rebootRecorded_append]
  · have hac := congrArg Pass.actions heq
    dsimp only [requestSafe, push, issueAction, openIncident] at hac
    rw [hac, List.nil_append, List.mem_singleton] at hmem
    exact ⟨_, hmem⟩

theorem call_stuck_schedIn (c : RecoveryControls ω) (hlog : f.log = [])
    (h : Stuck source f.executor.ledger [] history) :
    Stuck source (call c f .schedIn).executor.ledger [] (history ++ (call c f .schedIn).log) := by
  have hu : armed (f.incident source) = false := by
    have : (f.incident source).firstActionIssued = false := h.unarmed
    simp [armed, this]
  have hl : (f.incident source).currentLevel ≠ .r6ObcReboot := by
    have : (f.incident source).currentLevel = .r5ModeFallback := h.level
    rw [this]
    decide
  have he := entry_lockTick c hlog
  have heq := (he.locking source).eq_of_unarmed hu hl
  have hin := congrArg Pass.incident heq
  refine stuck_of_entry ⟨?_, ?_, ?_, fun r hmem => ?_⟩
  · exact (congrArg RecoveryIncidentState.firstActionIssued hin).trans h.unarmed
  · exact (congrArg RecoveryIncidentState.currentLevel hin).trans h.level
  · rw [eventsOf_append, show eventsOf source _ = [] from congrArg Pass.log heq, List.append_nil]
    exact h.unrecorded
  · rw [show requestsOf source _ = [] from congrArg Pass.actions heq] at hmem
    cases hmem

theorem run_stuck (c : RecoveryControls ω) (s : RecoveryExecutor × ω) (history : List RecoveryEvent)
    (n : ℕ) (h : Stuck source s.1.ledger [] history) :
    Stuck source ((machine c).run s (List.replicate n (Input.call .schedIn))).1.ledger []
      (history ++ (machine c).trace s (List.replicate n (Input.call .schedIn))) := by
  induction n generalizing s history with
  | zero =>
    rw [List.replicate_zero, Machine.trace_nil, List.append_nil]
    exact h
  | succ _ ih =>
    rw [List.replicate_succ, Machine.run_cons, Machine.trace_cons, ← List.append_assoc]
    exact ih _ _ (call_stuck_schedIn c rfl h)

/-! ### Incidents that open again -/

theorem prepareReboot_opened (source : IncidentSource) (p : Pass) :
    (prepareReboot source p).incident.hasOpenedBefore = p.incident.hasOpenedBefore ∧
      (prepareReboot source p).log.any (isOpening source) = p.log.any (isOpening source) := by
  unfold prepareReboot
  split_ifs
  · exact ⟨rfl, rfl⟩
  · refine ⟨rfl, ?_⟩
    simp [push, issueAction, isOpening]

theorem Locking.hasOpenedBefore {k : Call} (h : Locking c f source k p)
    (ho : p.log.any (isOpening source) = true ∨ (f.incident source).hasOpenedBefore = true) :
    p.incident.hasOpenedBefore = true := by
  have hk (i : RecoveryIncidentState)
      (h : (prepareReboot source { incident := i }).log.any (isOpening source) = true ∨
        i.hasOpenedBefore = true) :
      (prepareReboot source { incident := i }).incident.hasOpenedBefore = true := by
    obtain ⟨hs, hlog⟩ := prepareReboot_opened source { incident := i }
    rw [hs]
    exact h.resolve_left (by rw [hlog]; exact Bool.false_ne_true)
  cases h with
  | kept | counted => exact ho.resolve_left Bool.false_ne_true
  | cleared =>
    have hbf : (f.incident source).hasOpenedBefore = true :=
      ho.resolve_left (by simp [closeIncident, isOpening])
    unfold closeIncident
    dsimp only
    split_ifs <;> exact hbf
  | suppressed | retried => exact hk _ ho
  | timedOut => exact hk { f.incident source with openTicks := _ } ho
  | _ => rfl

theorem Work.hasOpenedBefore {l l' : Ledger} {e : List RecoveryEvent}
    {next : List ExternalActionRequest} (h : Work l action e l' next) (source : IncidentSource) :
    (l'.incidents source).hasOpenedBefore = (l.incidents source).hasOpenedBefore ∧
      e.any (isOpening source) = false := by
  have hset (own : IncidentSource) {i : RecoveryIncidentState}
      (hi : i.hasOpenedBefore = (l.incidents own).hasOpenedBefore) :
      ((l.set own i).incidents source).hasOpenedBefore = (l.incidents source).hasOpenedBefore := by
    by_cases heq : source = own
    · rw [heq, Ledger.set_incidents_self, hi]
    · rw [Ledger.set_incidents_of_ne _ heq]
  cases h with
  | failoverSafe own | restart own | restartFailedSafe own | reboot own => exact ⟨hset own rfl, rfl⟩
  | _ => exact ⟨rfl, rfl⟩

theorem any_isOpening_eventsOf (source : IncidentSource) (log : List RecoveryEvent) :
    (eventsOf source log).any (isOpening source) = log.any (isOpening source) := by
  rw [eventsOf, List.any_filter]
  congr 1
  funext event
  cases event with
  | incidentOpened own => exact Bool.and_self (decide (own = source))
  | _ => exact Bool.and_false _

theorem run_hasOpenedBefore (c : RecoveryControls ω) (b : Bool) (w : ω) (i : List (Input ω))
    (source : IncidentSource) (h : (reports c b w i).any (isOpening source) = true) :
    ((reached c b w i).1.status.incidents source).hasOpenedBefore = true := by
  let I (l : Ledger) (log : List RecoveryEvent) : Prop :=
    log.any (isOpening source) = true → (l.incidents source).hasOpenedBefore = true
  refine (machine c).history_invariant (I := fun history s => I s.1.ledger history)
    (fun history s x hI => ?_) [] (configured b, w) (fun h => nomatch h) i h
  cases x with
  | environment change =>
    change I s.1.ledger (history ++ [])
    rwa [List.append_nil]
  | call k =>
    change I (call c (enter s) k).executor.ledger (history ++ (call c (enter s) k).log)
    by_cases hk : k.Consumes
    · obtain ⟨hc, hlog, -⟩ := call_consumption c (enter s) hk
      rw [hlog, show (enter s).log = [] from rfl, List.append_nil]
      generalize (call c (enter s) k).executor.ledger = l at hc ⊢
      cases hc with
      | none | reboot | restart => exact hI
    · obtain ⟨f', q, he, hcl⟩ := call_entry c (show (enter s).log = [] from rfl) hk
      rw [hcl]
      refine executeExternalActions_invariant c (I := fun l log _ => I l (history ++ log))
        (fun hw hJ hany => ?_) fun hany => ?_
      · obtain ⟨hs, hn⟩ := hw.hasOpenedBefore source
        rw [hs]
        refine hJ ?_
        rwa [← List.append_assoc, List.any_append, hn, Bool.or_false] at hany
      · refine (he.locking source).hasOpenedBefore ?_
        rw [List.any_append, Bool.or_eq_true, ← any_isOpening_eventsOf source f'.log] at hany
        exact hany.symm.imp id hI

theorem saturatingIncrement_pos (value : UInt32) : 0 < saturatingIncrement value := by
  unfold saturatingIncrement
  split_ifs with h
  · rw [UInt32.lt_iff_toNat_lt] at h ⊢
    have hlt : value.toNat < 4294967295 := h
    rw [UInt32.toNat_add, show (1 : UInt32).toNat = 1 from rfl, Nat.mod_eq_of_lt (by omega)]
    exact Nat.succ_pos _
  · rw [UInt32.not_lt] at h
    exact UInt32.lt_of_lt_of_le (show (0 : UInt32) < 4294967295 by decide) h

theorem Locking.reboots_of_hasOpenedBefore {fault : SubsystemFault}
    (h : Locking c f fault.source (.submitSubsystemFault fault) p)
    (hin : (f.incident fault.source).active = false) (hfr : exitBusy f.executor = false)
    (hbf : (f.incident fault.source).hasOpenedBefore = true) :
    p.incident.active = true ∧ p.incident.currentLevel = .r6ObcReboot ∧
      .recordRebootIntent fault.source ∈ p.actions := by
  have hr :
      0 < (openIncident fault.source { incident := f.incident fault.source }).incident.relatchCount := by
    unfold openIncident
    dsimp only
    rw [hbf, if_pos rfl]
    exact saturatingIncrement_pos _
  cases h with
  | kept _ hs =>
    rcases hs rfl with h | h
    · exact absurd (hin.symm.trans h) Bool.false_ne_true
    · exact absurd (hfr.symm.trans h) Bool.false_ne_true
  | cleared _ hc => exact hc.elim
  | relatched => exact ⟨rfl, rfl, List.mem_append_right _ List.mem_cons_self⟩
  | reset _ _ _ _ _ _ hf | resetSafe _ _ _ _ _ _ hf | failover _ _ _ _ hf =>
    exact absurd hr hf

/-- For every run: an incident that was opened otherwise than by the clamp and is not cleared has
escalated when three free ticks have passed; one that the clamp opened has not, however many
ticks pass; and a subsystem's incident that opens again escalates in that call. -/
theorem incidents_escalate_unless_clamped (c : RecoveryControls ω) (hardware : Bool) (world : ω)
    (before : List (Input ω)) :
    (∀ k source later,
      ((reached c hardware world before).1.status.incidents source).active = false →
      ((reached c hardware world (before ++ [Input.call k])).1.status.incidents source).active = true →
      (∀ watchdog, k = .submitWatchdogFault watchdog →
        recoveryIncidentSourceFromWatchdog watchdog = source →
        ¬Clamps c (reached c hardware world before).2) →
      (∀ k', Input.call k' ∈ later → ¬k'.Clears source) →
      (∀ event ∈ reports c hardware world (before ++ [Input.call k] ++ later), recordFailed event = false) →
      3 ≤ freeTicks c (reached c hardware world (before ++ [Input.call k])) later →
      Escalated ((reached c hardware world (before ++ [Input.call k] ++ later)).1.status.incidents source)
        (eventsOf source (reports c hardware world (before ++ [Input.call k] ++ later)))) ∧
    (∀ watchdog n, Clamps c (reached c hardware world before).2 →
      ((reached c hardware world before).1.status.incidents
        (recoveryIncidentSourceFromWatchdog watchdog)).active = false →
      ¬Escalated
        ((reached c hardware world (before ++ [Input.call (.submitWatchdogFault watchdog)] ++
          List.replicate n (Input.call .schedIn))).1.status.incidents
            (recoveryIncidentSourceFromWatchdog watchdog))
        (eventsOf (recoveryIncidentSourceFromWatchdog watchdog) (reports c hardware world
          (before ++ [Input.call (.submitWatchdogFault watchdog)] ++ List.replicate n (Input.call .schedIn))))) ∧
    (∀ fault : SubsystemFault,
      (reports c hardware world before).any (isOpening fault.source) = true →
      ((reached c hardware world before).1.status.incidents fault.source).active = false →
      exitBusy (reached c hardware world before).1 = false →
      (∀ event ∈ reports c hardware world (before ++ [Input.call (.submitSubsystemFault fault)]),
        recordFailed event = false) →
      Escalated ((reached c hardware world (before ++ [Input.call (.submitSubsystemFault fault)])).1.status.incidents
          fault.source)
        (eventsOf fault.source (reports c hardware world (before ++ [Input.call (.submitSubsystemFault fault)])))) := by
  refine ⟨fun k source later => escalated_of_freeTicks c hardware world before later k source,
    fun watchdog n hclamps hinactive hescalated => ?_, fun fault hopened hinactive hfree hrecords => ?_⟩
  · have hstuck : Stuck (recoveryIncidentSourceFromWatchdog watchdog)
        (reached c hardware world (before ++ [Input.call (.submitWatchdogFault watchdog)])).1.ledger []
        (reports c hardware world (before ++ [Input.call (.submitWatchdogFault watchdog)])) := by
      rw [reached_call, reports_call]
      exact call_stuck_of_clamps c (show (enter (reached c hardware world before)).log = [] from rfl)
        watchdog hclamps hinactive _
    have hrun := run_stuck c _ _ n hstuck
    rw [← Machine.run_append, ← Machine.trace_append] at hrun
    exact absurd (hrun.unrecorded.symm.trans hescalated.2) Bool.false_ne_true
  · have hbefore := run_hasOpenedBefore c hardware world before fault.source hopened
    have hfits := run_fits c hardware world before
    rw [reports_call] at hrecords
    rw [reached_call, reports_call]
    obtain ⟨f', queue, hentry, hcall⟩ := call_entry c
      (show (enter (reached c hardware world before)).log = [] from rfl)
      (show ¬(Call.submitSubsystemFault fault).Consumes from id)
    obtain ⟨hactive, hlevel, hmem⟩ :=
      (hentry.locking fault.source).reboots_of_hasOpenedBefore hinactive hfree hbefore
    have hwatched : Watched fault.source 3 _ _ _ :=
      watched_of_entry hentry hfits fun _ => ⟨hactive, .inl ⟨hlevel, .inr hmem⟩⟩
    rw [← hcall] at hwatched
    obtain ⟨-, hwaits⟩ := hwatched hrecords
    rcases hwaits with ⟨hlevel, hrecorded | hmem⟩ | ⟨-, hlt, -⟩
    · exact ⟨hlevel, hrecorded⟩
    · cases hmem
    · exact absurd hlt (Nat.lt_irrefl 3)

def threeTicks : List (Input Bench) := [Input.call .schedIn, .call .schedIn, .call .schedIn]

/-- An EPS timeout that is not cleared for three ticks. -/
theorem eps_timeout_escalates :
    Escalated ((reached bench false {} ([] ++ [Input.call (.submitSubsystemFault .epsTimeout)] ++
        threeTicks)).1.status.incidents .epsTimeout)
      (eventsOf .epsTimeout
        (reports bench false {} ([] ++ [Input.call (.submitSubsystemFault .epsTimeout)] ++ threeTicks))) := by
  refine (incidents_escalate_unless_clamped bench false {} []).1 (.submitSubsystemFault .epsTimeout)
    .epsTimeout threeTicks rfl rfl (fun _ h => nomatch h) ?_ (by decide) (by decide)
  intro k hk
  simp only [threeTicks, List.mem_cons, Input.call.injEq, List.not_mem_nil, or_false, or_self] at hk
  subst hk
  exact id

/-- A watchdog fault under the clamp: SAFE is applied, three free ticks pass with the incident
open, and there is no reboot. -/
theorem clamped_fault_not_escalated :
    let inputs : List (Input Bench) := [Input.call (.submitWatchdogFault .epsBridge)] ++ threeTicks
    let world : Bench := { mode := .idle, fallbackRequired := true, resetCount := 3 }
    let incident := (reached bench false world inputs).1.status.incidents .watchdogEpsBridge
    incident.active = true ∧
      RecoveryEvent.actionExecuted .watchdogEpsBridge .safeFallback 0 ∈ reports bench false world inputs ∧
      freeTicks bench (reached bench false world [Input.call (.submitWatchdogFault .epsBridge)]) threeTicks = 3 ∧
      (∀ event ∈ reports bench false world inputs, recordFailed event = false) ∧
      incident.currentLevel = .r5ModeFallback ∧
      rebootRecorded (eventsOf .watchdogEpsBridge (reports bench false world inputs)) = false := by
  refine ⟨rfl, by decide, rfl, by decide, rfl, rfl⟩

end RecoveryExecutor

end ObcFlight
