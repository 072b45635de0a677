import ObcFlight.RecoveryBounds
import ObcFlight.RecoveryClamp

/-!
# Escalation of uncleared and relatched incidents

An incident whose first action armed the timeout counts the ticks at which no exit is under way,
and at the third it asks for a reboot. The clamp's fallback does not arm the timeout, so an
incident that was opened by it stays where it is.
-/

namespace ObcFlight

namespace RecoveryExecutor

variable {ω : Type*}

/-- From the reports about one source: a reboot intent was recorded since the last opening. -/
def rebootRecorded (log : List RecoveryEvent) : Bool :=
  log.foldl
    (fun recorded event =>
      match event with
      | .incidentOpened _ _ _ => false
      | .rebootIssued _ _ => true
      | _ => recorded)
    false

theorem rebootRecorded_append (log : List RecoveryEvent) (e : RecoveryEvent) :
    rebootRecorded (log ++ [e]) =
      match e with
      | .incidentOpened _ _ _ => false
      | .rebootIssued _ _ => true
      | _ => rebootRecorded log := by
  rw [rebootRecorded, List.foldl_append]
  rfl

/-- The incident stands at R6 and its reboot intent is on record. -/
def Escalated (i : RecoveryIncidentState) (log : List RecoveryEvent) : Prop :=
  i.currentLevel = .r6ObcReboot ∧ rebootRecorded log = true

def recordFailed : RecoveryEvent → Bool
  | .actionExecuted _ action response =>
      (decide (action = .processRestart) || decide (action = .obcReboot)) && decide (response ≠ 0)
  | _ => false

def Input.isTick : Input ω → Bool
  | .call k => decide (k = .schedIn)
  | .environment _ => false

/-- The ticks of a run at which no exit request is outstanding or consumed. -/
def freeTicks (c : RecoveryControls ω) : RecoveryExecutor × ω → List (Input ω) → ℕ
  | _, [] => 0
  | s, input :: inputs =>
      (input.isTick && !exitBusy s.1).toNat + freeTicks c ((machine c).step s input).1 inputs

def Ledger.busy (l : Ledger) : Bool :=
  l.processRestartRequested || l.rebootRequested || l.exitRequestConsumed

/-- An incident after so many free ticks: it has escalated, or is about to within this call, or
its timeout still counts, or an exit is under way. -/
def Waits (source : IncidentSource) (ticks : ℕ) (busy recorded : Bool) (i : RecoveryIncidentState)
    (requests : List ExternalActionRequest) : Prop :=
  i.currentLevel = .r6ObcReboot ∧ (recorded = true ∨ .recordRebootIntent source ∈ requests) ∨
    .recordRebootIntent source ∉ requests ∧ ticks < 3 ∧
      (busy = true ∨ armed i = true ∧ i.openTicks.toNat = ticks)

def Watched (source : IncidentSource) (ticks : ℕ) (l : Ledger) (queue : List ExternalActionRequest)
    (log : List RecoveryEvent) : Prop :=
  (∀ event ∈ log, recordFailed event = false) →
    (l.incidents source).active = true ∧
      Waits source ticks l.busy (rebootRecorded (eventsOf source log)) (l.incidents source)
        (requestsOf source queue)

theorem Work.busy {l l' : Ledger} {a : ExternalActionRequest} {e : List RecoveryEvent}
    {next : List ExternalActionRequest} (h : Work l a e l' next) (hbs : l.busy = true) :
    l'.busy = true := by
  cases h with
  | restart => rfl
  | reboot =>
    simp only [Ledger.busy, Bool.or_eq_true, Ledger.set] at hbs ⊢
    rcases hbs with (h | h) | h <;> simp [h]
  | _ => exact hbs

variable {s : IncidentSource}

theorem Waits.mono {t : ℕ} {busy b' r : Bool}
    {i : RecoveryIncidentState} {requests : List ExternalActionRequest}
    (h : Waits s t busy r i requests) (hbs : busy = true → b' = true) :
    Waits s t b' r i requests :=
  h.imp id fun h => ⟨h.1, h.2.1, h.2.2.imp hbs id⟩

theorem Waits.next {t : ℕ} {busy b' r : Bool} {i i' : RecoveryIncidentState}
    {a : ExternalActionRequest} {rest next : List ExternalActionRequest}
    (h : Waits s t busy r i (a :: rest)) (hac : a ≠ .recordRebootIntent s)
    (hn : .recordRebootIntent s ∉ next)
    (hl : i.currentLevel = .r6ObcReboot → i'.currentLevel = .r6ObcReboot)
    (hw : busy = true ∨ armed i = true ∧ i.openTicks.toNat = t →
      b' = true ∨ armed i' = true ∧ i'.openTicks.toNat = t) :
    Waits s t b' r i' (rest ++ next) := by
  have hmem : .recordRebootIntent s ∈ rest ++ next ↔ .recordRebootIntent s ∈ a :: rest := by
    rw [List.mem_append, List.mem_cons]
    constructor
    · rintro (h | h)
      · exact .inr h
      · exact absurd h hn
    · rintro (rfl | h)
      · exact absurd rfl hac
      · exact .inl h
  unfold Waits
  rw [hmem]
  exact h.imp (fun h => ⟨hl h.1, h.2⟩) fun h => ⟨h.1, h.2.1, hw h.2.2⟩

theorem Work.watched {l l' : Ledger} {action : ExternalActionRequest} {es log : List RecoveryEvent}
    {next rest : List ExternalActionRequest} {s : IncidentSource} {t : ℕ} (h : Work l action es l' next)
    (hf : Fits l (action :: rest) log) (hwt : Watched s t l (action :: rest) log) :
    Watched s t l' (rest ++ next) (log ++ es) := by
  intro hok
  obtain ⟨hac, hw⟩ := hwt fun e he => hok e (List.mem_append_left _ he)
  have hev : ∀ e ∈ es, recordFailed e = false := fun e he => hok e (List.mem_append_right _ he)
  have hs := hf s
  rw [requestsOf_append, eventsOf_append]
  by_cases hsr : action.source = some s
  · obtain ⟨hown, hn⟩ := h.own hsr
    rw [hown, hn]
    rw [requestsOf_cons_own hsr] at hw hs
    -- an incident at R6 has no request left that could ask for the fallback
    have hl (hspawns : action.spawns = true) : (l.incidents s).currentLevel ≠ .r6ObcReboot := by
      intro heq
      have hlow := hs.low_head hspawns hac
      rw [heq] at hlow
      exact absurd hlow (by decide)
    cases h with
    | applySafe | epsReset | adcsReset | failover =>
      cases hsr
      rw [rebootRecorded_append]
      exact ⟨hac, hw.next (by simp) (by simp) id id⟩
    | failoverSafe =>
      cases hsr
      rw [show ∀ a b : RecoveryEvent, eventsOf s log ++ [a, b] = eventsOf s log ++ [a] ++ [b]
        from fun a b => by rw [List.append_assoc]; rfl, rebootRecorded_append, rebootRecorded_append,
        Ledger.set_incidents_self]
      exact ⟨hac, hw.next (by simp) (by simp) (fun heq => absurd heq (hl rfl)) id⟩
    | restart =>
      cases hsr
      rw [rebootRecorded_append]
      refine ⟨?_, hw.next (by simp) (by simp) (fun heq => absurd heq (hl rfl)) fun _ => .inl rfl⟩
      simpa only [Ledger.set_incidents_self] using hac
    | restartFailed | restartFailedSafe =>
      exact absurd (hev _ List.mem_cons_self) (show ¬true = false by decide)
    | reboot =>
      cases hsr
      rw [show ∀ a b : RecoveryEvent, eventsOf s log ++ [a, b] = eventsOf s log ++ [a] ++ [b]
        from fun a b => by rw [List.append_assoc]; rfl, rebootRecorded_append, rebootRecorded_append]
      simp only [Ledger.set_incidents_self, List.append_nil]
      refine ⟨hac, .inl ⟨?_, .inl rfl⟩⟩
      rcases hw with h | h
      · exact h.1
      · exact absurd List.mem_cons_self h.1
    | rebootFailed => exact absurd (hev _ List.mem_cons_self) (show ¬true = false by decide)
    | ackStable => cases hsr
  · obtain ⟨hin, hnn, hn⟩ := h.other hsr
    rw [hin, hnn, hn, List.append_nil, List.append_nil]
    rw [requestsOf_cons_other hsr] at hw
    exact ⟨hac, hw.mono h.busy⟩

/-! ### Under the lock -/

theorem prepareReboot_of_not_pending (s : IncidentSource) {p : Pass}
    (h : p.incident.rebootPending = false) :
    (prepareReboot s p).incident.currentLevel = .r6ObcReboot ∧
      .recordRebootIntent s ∈ (prepareReboot s p).actions ∧
      (prepareReboot s p).incident.active = p.incident.active := by
  unfold prepareReboot
  rw [h, if_neg Bool.false_ne_true]
  exact ⟨rfl, List.mem_append_right _ List.mem_cons_self, rfl⟩

variable {c : RecoveryControls ω} {f : Frame ω}

theorem Locking.waits_opened {source : IncidentSource} {k : Call} {p : Pass}
    (h : Locking c f source k p) (hin : (f.incident source).active = false)
    (hac : p.incident.active = true) (hc : ∀ watchdog, k = .submitWatchdogFault watchdog →
      recoveryIncidentSourceFromWatchdog watchdog = source → ¬Clamps c f.world) (busy recorded : Bool) :
    Waits source 0 busy recorded p.incident p.actions := by
  cases h with
  | kept => exact absurd (hin.symm.trans hac) Bool.false_ne_true
  | cleared _ _ h | suppressed _ _ h | retried _ _ h =>
    exact absurd (hin.symm.trans h) Bool.false_ne_true
  | clamped watchdog hs _ hcl => exact absurd hcl (hc watchdog rfl hs)
  | restarted => exact .inr ⟨by simp [prepareProcessRestart, openIncident, push, issueAction], by decide,
      .inr ⟨rfl, rfl⟩⟩
  | suppressedOpened | relatched =>
    have hp : (f.opened source).incident.rebootPending = false := rfl
    obtain ⟨hl, hmem, -⟩ := prepareReboot_of_not_pending source hp
    exact .inl ⟨hl, .inr hmem⟩
  | reset _ _ _ _ _ hr =>
    refine .inr ⟨?_, by decide, .inr ⟨rfl, rfl⟩⟩
    rcases hr with rfl | rfl <;> simp [prepareReset, openIncident, push, issueAction]
  | resetSafe _ _ _ _ _ hr =>
    refine .inr ⟨?_, by decide, .inr ⟨rfl, rfl⟩⟩
    rcases hr with rfl | rfl <;> simp [prepareReset, requestSafe, openIncident, push, issueAction]
  | failover => exact .inr ⟨by simp [prepareCommFailover, openIncident, push, issueAction], by decide,
      .inr ⟨rfl, rfl⟩⟩
  | counted _ har | timedOut _ har =>
    simp [armed, hin] at har

theorem saturatingIncrement_toNat {v : UInt32} (h : v.toNat < 3) :
    (saturatingIncrement v).toNat = v.toNat + 1 := by
  have hlt : v < 4294967295 := by
    rw [UInt32.lt_iff_toNat_lt]
    exact h.trans (by decide)
  rw [saturatingIncrement, if_pos hlt, UInt32.toNat_add]
  exact Nat.mod_eq_of_lt (by simp; omega)

theorem Locking.waits_step
    {k : Call} {p : Pass} (h : Locking c f s k p) (hac : (f.incident s).active = true)
    (hc : ¬k.Clears s) {t : ℕ} {r : Bool}
    (hw : Waits s t (exitBusy f.executor) r (f.incident s) []) :
    p.incident.active = true ∧
      Waits s (t + (decide (k = .schedIn) && !exitBusy f.executor).toNat)
        (exitBusy f.executor) r p.incident p.actions := by
  have hr {start : Pass} (hst : start.incident.active = true)
      (hp : start.incident.rebootPending = false) (n : ℕ) :
      (prepareReboot s start).incident.active = true ∧
        Waits s n (exitBusy f.executor) r (prepareReboot s start).incident
          (prepareReboot s start).actions := by
    obtain ⟨hl, hmem, hsm⟩ := prepareReboot_of_not_pending s hp
    exact ⟨hsm.trans hst, .inl ⟨hl, .inr hmem⟩⟩
  cases h with
  | kept k hsp =>
    refine ⟨hac, ?_⟩
    rcases hw with hw | ⟨hmem, hlt, hw⟩
    · exact .inl hw
    · cases hbs : exitBusy f.executor with
      | true =>
        rw [Bool.not_true, Bool.and_false]
        exact .inr ⟨hmem, hlt, .inl rfl⟩
      | false =>
        rw [hbs] at hw
        by_cases hk : k = .schedIn
        · subst hk
          rw [hsp hbs] at hw
          simp at hw
        · rw [decide_eq_false hk, Bool.false_and]
          exact .inr ⟨hmem, hlt, hw⟩
  | cleared _ hk => exact absurd hk hc
  | clamped _ _ h | restarted _ _ h | suppressedOpened _ _ h | relatched _ _ h | reset _ _ h
  | resetSafe _ _ h | failover _ _ h => exact absurd (h.symm.trans hac) Bool.false_ne_true
  | suppressed _ _ _ hp => exact hr hac hp _
  | counted hf har ht =>
    refine ⟨hac, ?_⟩
    rw [hf, decide_eq_true rfl, Bool.not_false, Bool.and_true, Bool.toNat_true]
    rcases hw with hw | ⟨hmem, hlt, hw⟩
    · exact .inl hw
    · rw [hf] at hw
      obtain ⟨-, hn⟩ := hw.resolve_left Bool.false_ne_true
      have hs := saturatingIncrement_toNat (hn ▸ hlt)
      rw [UInt32.lt_iff_toNat_lt, hs, hn] at ht
      exact .inr ⟨hmem, ht, .inr ⟨har, hs.trans (congrArg (· + 1) hn)⟩⟩
  | timedOut _ har =>
    simp only [armed, Bool.and_eq_true, Bool.not_eq_true'] at har
    exact hr hac har.1.2 _
  | retried _ _ _ _ hp => exact hr hac hp _

theorem Locking.recorded
    {k : Call} {p : Pass} (h : Locking c f s k p) (hac : (f.incident s).active = true)
    (log : List RecoveryEvent) : rebootRecorded (log ++ p.log) = rebootRecorded log := by
  have hr {start : Pass} (hs : start.log = []) :
      rebootRecorded (log ++ (prepareReboot s start).log) = rebootRecorded log := by
    unfold prepareReboot
    split_ifs
    · rw [hs, List.append_nil]
    · dsimp only [push, issueAction]
      rw [hs, List.nil_append, ← List.append_assoc, rebootRecorded_append, rebootRecorded_append]
  cases h with
  | kept | counted => rw [List.append_nil]
  | cleared => exact rebootRecorded_append log _
  | clamped _ _ h | restarted _ _ h | suppressedOpened _ _ h | relatched _ _ h | reset _ _ h
  | resetSafe _ _ h | failover _ _ h => exact absurd (h.symm.trans hac) Bool.false_ne_true
  | suppressed | timedOut | retried => exact hr rfl

/-! ### Calls and runs -/

theorem Work.active {l l' : Ledger} {a : ExternalActionRequest} {e : List RecoveryEvent}
    {next : List ExternalActionRequest} (h : Work l a e l' next) (s : IncidentSource) :
    (l'.incidents s).active = (l.incidents s).active := by
  have hset (own : IncidentSource) {i : RecoveryIncidentState}
      (hi : i.active = (l.incidents own).active) :
      ((l.set own i).incidents s).active = (l.incidents s).active := by
    by_cases heq : s = own
    · rw [heq, Ledger.set_incidents_self, hi]
    · rw [Ledger.set_incidents_of_ne _ heq]
  cases h with
  | failoverSafe own | restart own | restartFailedSafe own | reboot own => exact hset own rfl
  | _ => rfl

theorem executeExternalActions_active (c : RecoveryControls ω) (f : Frame ω)
    (q : List ExternalActionRequest) (s : IncidentSource) :
    ((executeExternalActions c f q).executor.ledger.incidents s).active =
      (f.executor.ledger.incidents s).active :=
  executeExternalActions_invariant c
    (I := fun l _ _ => (l.incidents s).active = (f.executor.ledger.incidents s).active)
    (fun hw h => (hw.active s).trans h) rfl

theorem Entry.busy {f f' : Frame ω} {k : Call}
    {q : List ExternalActionRequest} (h : Entry c f k f' q) :
    f'.executor.ledger.busy = exitBusy f.executor := by
  rw [h.ledger]
  rfl

theorem watched_of_entry {f f' : Frame ω} {k : Call} {q : List ExternalActionRequest}
    {past : List RecoveryEvent} {s : IncidentSource} {t : ℕ} (he : Entry c f k f' q)
    (hf : Fits f.executor.ledger [] past) (h : Watched s t f'.executor.ledger q (past ++ f'.log)) :
    Watched s t (executeExternalActions c f' q).executor.ledger []
      (past ++ (executeExternalActions c f' q).log) := by
  refine (executeExternalActions_invariant c (I := fun l log q =>
    Fits l q (past ++ log) ∧ Watched s t l q (past ++ log))
    (fun hw hI => ?_) ⟨fun o => ?_, h⟩).2
  · rw [← List.append_assoc]
    exact ⟨hw.fits hI.1, hw.watched hI.1 hI.2⟩
  · rw [eventsOf_append]
    exact (he.locking o).sound (hf o)

theorem call_watched (c : RecoveryControls ω) {f : Frame ω} (hlog : f.log = []) {k : Call}
    {s : IncidentSource} (hcr : ¬k.Clears s) {l : List RecoveryEvent}
    (hf : Fits f.executor.ledger [] l) {t : ℕ} (h : Watched s t f.executor.ledger [] l) :
    Watched s (t + (decide (k = .schedIn) && !exitBusy f.executor).toNat)
      (call c f k).executor.ledger [] (l ++ (call c f k).log) := by
  by_cases hk : k.Consumes
  · obtain ⟨hc, hl', -⟩ := call_consumption c f hk
    have hne : k ≠ .schedIn := by
      rintro rfl
      exact hk
    rw [hl', hlog, List.append_nil, decide_eq_false hne, Bool.false_and]
    generalize (call c f k).executor.ledger = l' at hc ⊢
    intro hok
    obtain ⟨hac, hw⟩ := h hok
    cases hc with
    | none => exact ⟨hac, hw⟩
    | reboot | restart =>
      refine ⟨hac, hw.imp id fun hw => ⟨hw.1, hw.2.1, .inl ?_⟩⟩
      simp [Ledger.busy]
  · obtain ⟨f', q, hen, hcl⟩ := call_entry c hlog hk
    rw [hcl]
    refine watched_of_entry hen hf fun hok => ?_
    obtain ⟨hac, hw⟩ := h fun e he => hok e (List.mem_append_left _ he)
    have hl := hen.locking s
    rw [hen.busy, eventsOf_append, hl.recorded hac]
    exact hl.waits_step hac hcr hw

theorem call_watched_opened (c : RecoveryControls ω) {f : Frame ω} (hlog : f.log = []) {k : Call}
    {s : IncidentSource} {l : List RecoveryEvent} (hf : Fits f.executor.ledger [] l)
    (hin : (f.incident s).active = false)
    (ho : ((call c f k).executor.ledger.incidents s).active = true)
    (hcm : ∀ w, k = .submitWatchdogFault w →
      recoveryIncidentSourceFromWatchdog w = s → ¬Clamps c f.world) :
    Watched s 0 (call c f k).executor.ledger [] (l ++ (call c f k).log) := by
  by_cases hk : k.Consumes
  · obtain ⟨hc, -⟩ := call_consumption c f hk
    generalize (call c f k).executor.ledger = l' at hc ho
    exfalso
    cases hc with
    | none | reboot | restart => exact absurd (hin.symm.trans ho) Bool.false_ne_true
  · obtain ⟨f', q, he, hcl⟩ := call_entry c hlog hk
    rw [hcl] at ho ⊢
    refine watched_of_entry he hf fun _ => ?_
    rw [executeExternalActions_active] at ho
    exact ⟨ho, (he.locking s).waits_opened hin ho hcm _ _⟩

theorem run_watched (c : RecoveryControls ω) {source : IncidentSource} (s : RecoveryExecutor × ω)
    (history : List RecoveryEvent) (t : ℕ) (i : List (Input ω))
    (hc : ∀ k, Input.call k ∈ i → ¬k.Clears source) (hf : Fits s.1.ledger [] history)
    (h : Watched source t s.1.ledger [] history) :
    Watched source (t + freeTicks c s i) ((machine c).run s i).1.ledger []
      (history ++ (machine c).trace s i) := by
  induction i generalizing s history t with
  | nil =>
    rw [Machine.trace_nil, List.append_nil]
    exact h
  | cons x i ih =>
    have hr : ∀ k, Input.call k ∈ i → ¬k.Clears source :=
      fun k hk => hc k (List.mem_cons_of_mem _ hk)
    rw [Machine.run_cons, Machine.trace_cons, freeTicks, ← Nat.add_assoc, ← List.append_assoc]
    cases x with
    | call k =>
      exact ih _ _ _ hr (call_fits c rfl k hf) (call_watched c rfl (hc k List.mem_cons_self) hf h)
    | environment change =>
      have hh : history ++ ((machine c).step s (.environment change)).2 = history :=
        List.append_nil history
      rw [hh]
      exact ih _ _ _ hr hf h

/-- An incident that was opened, not by the clamp, and is not cleared has escalated once three
free ticks have passed, if every boot intent is recorded. -/
theorem escalated_of_freeTicks (c : RecoveryControls ω) (d : Bool) (w : ω) (b l : List (Input ω))
    (k : Call) (s : IncidentSource) (hin : ((reached c d w b).1.status.incidents s).active = false)
    (ho : ((reached c d w (b ++ [Input.call k])).1.status.incidents s).active = true)
    (hc : ∀ wt, k = .submitWatchdogFault wt →
      recoveryIncidentSourceFromWatchdog wt = s → ¬Clamps c (reached c d w b).2)
    (hcl : ∀ k', Input.call k' ∈ l → ¬k'.Clears s)
    (hrc : ∀ e ∈ reports c d w (b ++ [Input.call k] ++ l), recordFailed e = false)
    (ht : 3 ≤ freeTicks c (reached c d w (b ++ [Input.call k])) l) :
    Escalated ((reached c d w (b ++ [Input.call k] ++ l)).1.status.incidents s)
      (eventsOf s (reports c d w (b ++ [Input.call k] ++ l))) := by
  have hf := run_fits c d w
  have hop : Watched s 0 (reached c d w (b ++ [Input.call k])).1.ledger []
      (reports c d w (b ++ [Input.call k])) := by
    rw [reached_call] at ho
    rw [reached_call, reports_call]
    exact call_watched_opened c rfl (hf b) hin ho hc
  have hrun := run_watched c _ _ 0 l hcl (hf (b ++ [Input.call k])) hop
  rw [← Machine.run_append, ← Machine.trace_append] at hrun
  obtain ⟨-, hw⟩ := hrun hrc
  rcases hw with ⟨hl, hr | hmem⟩ | ⟨-, hlt, -⟩
  · exact ⟨hl, hr⟩
  · cases hmem
  · omega

end RecoveryExecutor

end ObcFlight
