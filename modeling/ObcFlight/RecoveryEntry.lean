import ObcFlight.RecoveryLocks

/-!
# The calls of the recovery executor by cases

Each call is a locked section of the kind listed for its incidents, followed by the action
loop. The hand-out of an exit request has no actions and changes the flags only.
-/

namespace ObcFlight

namespace RecoveryExecutor

variable {ω : Type*}

/-- A locked section in terms of its cases: the flags stay, each incident is treated by one case. -/
structure Entry (c : RecoveryControls ω) (f : Frame ω) (k : Call) (f' : Frame ω)
    (queue : List ExternalActionRequest) : Prop where
  ledger : f'.executor.ledger =
    { f.executor.ledger with incidents := f'.executor.ledger.incidents }
  locking : ∀ source, Locking c f source k
    ⟨f'.executor.ledger.incidents source, requestsOf source queue, eventsOf source f'.log⟩

variable {source : IncidentSource}

theorem filter_tagged {α β : Type*} [DecidableEq β] {l : List α} {tag : α → β} {b : β}
    (h : ∀ a ∈ l, tag a = b) (b' : β) :
    (l.filter fun a => decide (tag a = b')) = if b' = b then l else [] := by
  split_ifs with hb
  · exact List.filter_eq_self.mpr fun a ha => decide_eq_true ((h a ha).trans hb.symm)
  · refine List.filter_eq_nil_iff.mpr fun a ha => ?_
    rw [h a ha, decide_eq_true_iff]
    exact Ne.symm hb

theorem requestsOf_own {p : Pass} (h : Own source p) (o : IncidentSource) :
    requestsOf o p.actions = if o = source then p.actions else [] := by
  rw [requestsOf, filter_tagged h.actions]
  simp only [Option.some.injEq]

theorem eventsOf_own {p : Pass} (h : Own source p) (o : IncidentSource) :
    eventsOf o p.log = if o = source then p.log else [] := filter_tagged h.log o

variable {f : Frame ω} {k : Call}

theorem entry_locked {c : RecoveryControls ω} (hk : ∀ o, o ≠ source → k.Spares f o)
    (hlog : f.log = []) {work : Pass → Pass}
    (hw : Locking c f source k (work { incident := f.incident source })) :
    Entry c f k (f.locked source work).1 (f.locked source work).2 := by
  refine ⟨by rw [ledger_locked]; rfl, fun o => ?_⟩
  rw [ledger_locked, actions_locked, log_locked, hlog, requestsOf_own hw.own, eventsOf_own hw.own]
  by_cases ho : o = source
  · subst ho
    rw [if_pos rfl, if_pos rfl, Ledger.set_incidents_self]
    exact hw
  · rw [if_neg ho, if_neg ho, Ledger.set_incidents_of_ne _ ho]
    exact .kept k (hk o ho)

theorem canRequestSafe_true (mode : SatMode) : canRequestSafe mode true = decide (mode ≠ .hell) := by
  cases mode <;> rfl

variable (c : RecoveryControls ω)

theorem openForWatchdogFault_cases (source : IncidentSource) (w : ω) (p : Pass) :
    (Clamps c w ∧ openForWatchdogFault c source w p =
        requestSafe source .watchdogFault (openIncident source p)) ∨
      (¬Clamps c w ∧ openForWatchdogFault c source w p =
        prepareProcessRestart source .watchdogFault (openIncident source p)) := by
  unfold openForWatchdogFault applyBootSafeFallbackClamp
  split
  next hr =>
    rcases prepareSafeFallback_cases c source (currentMode c w) .watchdogFault true
      (openIncident source p) with ⟨h, hdc⟩ | ⟨h, -, hm, hcan⟩
    · refine .inr ⟨?_, by rw [h]; rfl⟩
      rintro ⟨-, hm, hh⟩
      rcases hdc with his | hn | hcan
      · cases his
      · exact hm hn
      · rw [canRequestSafe_true, decide_eq_false_iff_not, not_not] at hcan
        exact hh hcan
    · rw [canRequestSafe_true, decide_eq_true_iff] at hcan
      exact .inl ⟨⟨hr, hm, hcan⟩, by rw [h]; rfl⟩
  next hr =>
    exact .inr ⟨fun h => hr h.1, rfl⟩

theorem entry_lockWatchdogFault (w : WatchdogSource) (hlog : f.log = []) :
    Entry c f (.submitWatchdogFault w) (lockWatchdogFault c w f).1 (lockWatchdogFault c w f).2 := by
  rw [lockWatchdogFault]
  refine entry_locked ?_ hlog ?_
  · exact fun o ho h => absurd h.symm ho
  dsimp only
  split_ifs with hac
  · rw [Bool.not_eq_true'] at hac
    rcases openForWatchdogFault_cases c (recoveryIncidentSourceFromWatchdog w) f.world
      { incident := f.incident (recoveryIncidentSourceFromWatchdog w) } with
      ⟨hc, h⟩ | ⟨hc, h⟩
    · rw [h]
      exact .clamped w rfl hac hc
    · rw [h]
      exact .restarted w rfl hac hc
  · exact .kept _ fun _ => by simpa using hac

theorem entry_lockWatchdogSuppression (w : WatchdogSource) (hlog : f.log = []) :
    Entry c f (.submitWatchdogSuppression w) (lockWatchdogSuppression w f).1
      (lockWatchdogSuppression w f).2 := by
  rw [lockWatchdogSuppression]
  refine entry_locked ?_ hlog ?_
  · exact fun o ho h => absurd h.symm ho
  dsimp only
  by_cases hac : (f.incident (recoveryIncidentSourceFromWatchdog w)).active = true
  · rw [hac, Bool.not_true, if_neg Bool.false_ne_true]
    split_ifs with hp
    · rw [Bool.not_eq_true'] at hp
      exact .suppressed w rfl hac hp
    · exact .kept _ fun _ => ⟨hac, by simpa using hp⟩
  · rw [Bool.not_eq_true] at hac
    rw [hac, Bool.not_false, if_pos rfl]
    exact .suppressedOpened w rfl hac

theorem entry_clearIncidentBySource {c : RecoveryControls ω} (hk : k.Clears source)
    (hlog : f.log = []) (hac : (f.incident source).active = true) :
    Entry c f k (f.locked source (closeIncident source)).1 [] := by
  refine entry_locked (fun o ho => ?_) hlog (.cleared k hk hac)
  cases k with
  | clearWatchdogFault | clearSubsystemFault => exact fun h => absurd (h.symm.trans hk) ho
  | _ => exact hk.elim

theorem entry_lockSubsystemFault (fault : SubsystemFault) (mode : SatMode) (hlog : f.log = [])
    (hac : (f.incident fault.source).active = false) (hf : exitBusy f.executor = false) :
    Entry c f (.submitSubsystemFault fault) (lockSubsystemFault c fault.source mode f).1
      (lockSubsystemFault c fault.source mode f).2 := by
  rw [lockSubsystemFault]
  refine entry_locked ?_ hlog ?_
  · exact fun o ho h => absurd h.symm ho
  dsimp only
  split_ifs with hr
  · exact .relatched fault rfl hac hf hr
  · -- only the resets may be joined by the fallback
    have hs (request) (hrq : request = .epsReset ∨ request = .adcsReset) (allowed : Bool) :
        Locking c f fault.source (.submitSubsystemFault fault)
          (prepareSafeFallback c fault.source mode .fdirSubsystemFault allowed
            (prepareReset request fault.source
              (openIncident fault.source { incident := f.incident fault.source }))).1 := by
      rcases prepareSafeFallback_cases c fault.source mode .fdirSubsystemFault allowed
        (prepareReset request fault.source
          (openIncident fault.source { incident := f.incident fault.source })) with
        ⟨h, -⟩ | ⟨h, -⟩
      · rw [h]
        exact .reset fault rfl hac hf request hrq hr
      · rw [h]
        exact .resetSafe fault rfl hac hf request hrq hr
    cases fault with
    | epsTimeout => exact hs .epsReset (.inl rfl) false
    | adcsPollTransport | adcsPollFreshness =>
      dsimp only [SubsystemFault.source, firstSubsystemActions]
      split_ifs
      · exact hs .adcsReset (.inr rfl) true
      · exact .reset _ rfl hac hf .adcsReset (.inr rfl) hr
    | commPrimaryUnavailable | commPrimaryTransport => exact .failover _ rfl hac hf hr

theorem isUnclearedTimeoutRecoverySource_eq_true (source : IncidentSource) :
    isUnclearedTimeoutRecoverySource source = true := by
  cases source <;> rfl

theorem locking_tickIncident (source : IncidentSource) (hf : exitBusy f.executor = false) :
    Locking c f source .schedIn (tickIncident source { incident := f.incident source }) := by
  unfold tickIncident
  dsimp only
  rw [isUnclearedTimeoutRecoverySource_eq_true, Bool.true_and]
  split_ifs with har ht hr
  · exact .timedOut hf har ht
  · exact .counted hf har (UInt32.not_le.mp ht)
  · simp only [Bool.and_eq_true, Bool.not_eq_true', decide_eq_true_eq] at hr
    exact .retried hf (Bool.not_eq_true _ ▸ har) hr.1.1.1 hr.1.1.2 hr.1.2 hr.2
  · exact .kept _ fun _ => Bool.not_eq_true _ ▸ har

theorem flatMap_ite_eq {κ α : Type*} [DecidableEq κ] {keys : List κ} (hnd : keys.Nodup) {key : κ}
    (hkey : key ∈ keys) (f : κ → List α) :
    (keys.flatMap fun k => if key = k then f k else []) = f key := by
  induction keys with
  | nil => cases hkey
  | cons k keys ih =>
    obtain ⟨hnt, hnd⟩ := List.nodup_cons.mp hnd
    rw [List.flatMap_cons]
    by_cases heq : key = k
    · subst heq
      have hr : (keys.flatMap fun k => if key = k then f k else []) = [] := by
        refine List.flatMap_eq_nil_iff.mpr fun k hk => if_neg ?_
        rintro rfl
        exact hnt hk
      rw [if_pos rfl, hr, List.append_nil]
    · rw [if_neg heq, List.nil_append]
      exact ih hnd ((List.mem_cons.mp hkey).resolve_left heq)

variable {passes : IncidentSource → Pass}

theorem filter_flatMap_own {α : Type*} {items : IncidentSource → List α} {p : α → Bool} {source : IncidentSource}
    (h : ∀ s, (items s).filter p = if source = s then items s else []) :
    (IncidentSource.all.flatMap items).filter p = items source := by
  rw [List.filter_flatMap, funext h]
  exact flatMap_ite_eq IncidentSource.all_nodup (IncidentSource.mem_all source) items

theorem requestsOf_flatMap (h : ∀ source, Own source (passes source)) (source : IncidentSource) :
    requestsOf source (IncidentSource.all.flatMap fun s => (passes s).actions) =
      (passes source).actions :=
  filter_flatMap_own fun s => requestsOf_own (h s) source

theorem eventsOf_flatMap (h : ∀ source, Own source (passes source)) (source : IncidentSource) :
    eventsOf source (IncidentSource.all.flatMap fun s => (passes s).log) = (passes source).log :=
  filter_flatMap_own fun s => eventsOf_own (h s) source

@[simp] theorem ledger_applyBootClamp (f : Frame ω) :
    (applyBootClamp c f).executor.ledger = f.executor.ledger := by
  unfold applyBootClamp
  split
  · rfl
  · split_ifs <;> rfl

@[simp] theorem log_applyBootClamp (f : Frame ω) : (applyBootClamp c f).log = f.log := by
  unfold applyBootClamp
  split
  · rfl
  · split_ifs <;> rfl

@[simp] theorem ledger_countStableTicks (n : UInt32) (x : RecoveryExecutor) :
    (countStableTicks n x).1.ledger = x.ledger := by
  unfold countStableTicks
  dsimp only
  split_ifs <;> rfl

@[simp] theorem requestsOf_countStableTicks (n : UInt32) (x : RecoveryExecutor)
    (source : IncidentSource) : requestsOf source (countStableTicks n x).2 = [] := by
  unfold countStableTicks
  dsimp only
  split_ifs <;> rfl

theorem exitBusy_eq (x : RecoveryExecutor) : exitBusy x =
    (x.ledger.processRestartRequested || x.ledger.rebootRequested || x.ledger.exitRequestConsumed) := rfl

theorem entry_lockTick (hlog : f.log = []) :
    Entry c f .schedIn (lockTick c (applyBootClamp c f)).1 (lockTick c (applyBootClamp c f)).2 := by
  have hl := ledger_applyBootClamp c f
  have hbs : exitBusy (applyBootClamp c f).executor = exitBusy f.executor := by
    rw [exitBusy_eq, exitBusy_eq, hl]
  have hin (source) : (applyBootClamp c f).incident source = f.incident source :=
    congrFun (congrArg Ledger.incidents hl) source
  have hl' : (applyBootClamp c f).log = [] := (log_applyBootClamp c f).trans hlog
  unfold lockTick
  dsimp only
  rw [hbs]
  cases hf : exitBusy f.executor with
  | true =>
    rw [Bool.not_true, if_neg Bool.false_ne_true]
    refine ⟨?_, fun source => ?_⟩
    · rw [ledger_countStableTicks, ledger_updateStatusSummary, hl]
    · rw [ledger_countStableTicks, ledger_updateStatusSummary, hl, requestsOf_append,
        requestsOf_countStableTicks, hl']
      exact .kept _ fun h => absurd (hf.symm.trans h) (by simp)
  | false =>
    rw [Bool.not_false, if_pos rfl]
    let passes source := tickIncident source { incident := f.incident source }
    have hp (source) : Locking c f source .schedIn (passes source) :=
      locking_tickIncident c source hf
    have ht : tickIncidents (applyBootClamp c f) =
        ({ applyBootClamp c f with
            executor := { (applyBootClamp c f).executor with
              status := { (applyBootClamp c f).executor.status with
                incidents := fun source => (passes source).incident } }
            log := IncidentSource.all.flatMap fun source => (passes source).log },
          IncidentSource.all.flatMap fun source => (passes source).actions) := by
      unfold tickIncidents
      simp only [hin, hl', List.nil_append, passes]
    rw [ht]
    refine ⟨?_, fun source => ?_⟩
    · rw [ledger_countStableTicks, ledger_updateStatusSummary, ← hl]
      rfl
    · rw [ledger_countStableTicks, ledger_updateStatusSummary, requestsOf_append,
        requestsOf_countStableTicks, requestsOf_flatMap fun s => (hp s).own,
        eventsOf_flatMap fun s => (hp s).own, List.append_nil]
      exact hp source

theorem entry_kept (hk : ∀ source, k.Spares f source) (hlog : f.log = []) : Entry c f k f [] := by
  refine ⟨rfl, fun source => ?_⟩
  rw [hlog]
  exact .kept k (hk source)

/-! ### The calls -/

def Call.Consumes : Call → Prop
  | .consumeRecoveryExitRequest | .consumeRebootRequest => True
  | _ => False

/-- Every call that does not hand out an exit request enters one of these sections and then
carries out what it queued. -/
theorem call_entry (hlog : f.log = []) (hk : ¬k.Consumes) :
    ∃ f' queue, Entry c f k f' queue ∧ call c f k = executeExternalActions c f' queue := by
  have hc {source} (hcl : k.Clears source)
      (hs : (f.incident source).active = false → ∀ o, k.Spares f o) :
      ∃ f' queue, Entry c f k f' queue ∧
        clearIncidentBySource source f = executeExternalActions c f' queue := by
    unfold clearIncidentBySource
    split_ifs with hac
    · rw [Bool.not_eq_true'] at hac
      exact ⟨f, [], entry_kept c (hs hac) hlog, rfl⟩
    · simp only [Bool.not_eq_true', Bool.not_eq_false] at hac
      exact ⟨_, [], entry_clearIncidentBySource hcl hlog hac, rfl⟩
  cases k with
  | submitWatchdogFault w => exact ⟨_, _, entry_lockWatchdogFault c w hlog, rfl⟩
  | submitWatchdogSuppression w =>
    exact ⟨_, _, entry_lockWatchdogSuppression c w hlog, rfl⟩
  | clearWatchdogFault | clearSubsystemFault => exact hc rfl fun hac o h => h ▸ hac
  | submitSubsystemFault fault =>
    rw [call, submitSubsystemFault_eq, handleSubsystemFault]
    split_ifs with h
    · exact ⟨f, [], entry_kept c (fun o ho => by simpa [ho] using h) hlog, rfl⟩
    · simp only [Bool.or_eq_true, not_or, Bool.not_eq_true] at h
      exact ⟨_, _, entry_lockSubsystemFault c fault _ hlog h.1 h.2, rfl⟩
  | schedIn => exact ⟨_, _, entry_lockTick c hlog, rfl⟩
  | consumeRecoveryExitRequest | consumeRebootRequest => exact absurd trivial hk

/-- The ledger after an exit request was handed out, or none was there to hand out. -/
inductive Consumption (l : Ledger) : Ledger → Prop
  | none : Consumption l l
  | reboot (h : l.rebootRequested = true) :
      Consumption l { l with
        rebootRequested := false
        exitRequestConsumed := true
        incidents := fun source => { l.incidents source with rebootPending := false } }
  | restart (h : l.processRestartRequested = true) :
      Consumption l { l with
        processRestartRequested := false
        exitRequestConsumed := true
        incidents := fun source => { l.incidents source with processRestartPending := false } }

theorem call_consumption (f : Frame ω) (hk : k.Consumes) :
    Consumption f.executor.ledger (call c f k).executor.ledger ∧ (call c f k).log = f.log ∧
      (call c f k).world = f.world := by
  cases k with
  | consumeRecoveryExitRequest =>
    refine ⟨?_, rfl, rfl⟩
    rw [call, consumeRecoveryExitRequest]
    split_ifs with hr hrs
    · rw [ledger_updateStatusSummary]
      exact .reboot hr
    · rw [ledger_updateStatusSummary]
      exact .restart hrs
    · exact .none
  | consumeRebootRequest =>
    refine ⟨?_, rfl, rfl⟩
    rw [call, consumeRebootRequest]
    split_ifs with hr
    · rw [ledger_updateStatusSummary]
      exact .reboot hr
    · exact .none
  | _ => exact absurd hk (by simp [Call.Consumes])

end RecoveryExecutor

end ObcFlight
