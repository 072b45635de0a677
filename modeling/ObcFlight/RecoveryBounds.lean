import ObcFlight.RecoveryLife

/-!
# Bounded recovery actions

Along every run the incidents fit their reports. Hence between two openings of an incident each
of its first actions is carried out at most once, and while it is open its level only goes up.
-/

namespace ObcFlight

namespace RecoveryExecutor

variable {ω : Type*} {source : IncidentSource} {next : List ExternalActionRequest}
  {action : ExternalActionRequest} {events log : List RecoveryEvent}

theorem Work.other {l l' : Ledger} (h : Work l action events l' next)
    (hs : action.source ≠ some source) :
    l'.incidents source = l.incidents source ∧ eventsOf source events = [] ∧
      requestsOf source next = [] := by
  have hset (own : IncidentSource) (i : RecoveryIncidentState) (hown : some own ≠ some source) :
      (l.set own i).incidents source = l.incidents source :=
    l.set_incidents_of_ne (fun heq => hown (congrArg some heq).symm) i
  cases h <;> simp_all [eventsOf, requestsOf, RecoveryEvent.source, ExternalActionRequest.source]

theorem Work.own {l l' : Ledger} (h : Work l action events l' next)
    (hs : action.source = some source) :
    eventsOf source events = events ∧ requestsOf source next = next := by
  cases h <;> simp_all [eventsOf, requestsOf, RecoveryEvent.source, ExternalActionRequest.source]

theorem Work.sound {l l' : Ledger} {rest : List ExternalActionRequest}
    (h : Work l action events l' next) (hsr : action.source = some source)
    (hs : Sound (l.incidents source) (action :: rest) log) :
    Sound (l'.incidents source) (rest ++ next) (log ++ events) := by
  -- the fallback follows on the execution of the request that asks for it
  have hf (r : UInt32) (hspawns : action.spawns = true)
      (hac : (l.incidents source).active = true)
      (hsf : (l.incidents source).safeFallbackIssued = false) (m : ModeApplySource) :
      Sound (askedSafe (l.incidents source)) (rest ++ [ExternalActionRequest.applySafe source m])
        (log ++ [RecoveryEvent.actionExecuted source action.performs r,
          .actionRequested source .r5ModeFallback .safeFallback]) := by
    have hlow : (l.incidents source).currentLevel ≤ .r5ModeFallback :=
      UInt8.le_trans (hs.low_head hspawns hac) (by decide)
    have hak : Sound (askedSafe (l.incidents source)) (rest ++ [ExternalActionRequest.applySafe source m])
        (log ++ [RecoveryEvent.actionExecuted source action.performs r] ++
          [.actionRequested source .r5ModeFallback .safeFallback]) := by
      refine (hs.executed source r).requested hac (hs.spawning_tail hspawns) hlow (by decide)
        (fun _ => hsf) (fun h => absurd h Bool.false_ne_true) rfl rfl ?_
      simp [onceActions, issued, askedSafe, ExternalActionRequest.performs]
    rwa [List.append_assoc] at hak
  cases h with
  | applySafe =>
    cases hsr
    rw [List.append_nil]
    exact hs.executed source 0
  | epsReset _ r | adcsReset _ r | failover _ r =>
    cases hsr
    rw [List.append_nil]
    exact hs.executed source r
  | failoverSafe _ r hac hsf =>
    cases hsr
    rw [Ledger.set_incidents_self]
    exact hf r rfl hac hsf _
  | restart =>
    cases hsr
    rw [List.append_nil]
    refine (hs.executed source 0).congr ?_ ?_ ?_ fun a _ => ?_ <;>
      simp only [Ledger.set_incidents_self]
    cases a <;> rfl
  | restartFailed | rebootFailed =>
    cases hsr
    rw [List.append_nil]
    exact hs.executed source _
  | restartFailedSafe _ m hac hsf =>
    cases hsr
    rw [Ledger.set_incidents_self]
    exact hf _ rfl hac hsf m
  | reboot =>
    cases hsr
    have hdn := (hs.remark (fun _ _ => rfl) (levels_append log
      (.rebootIssued source (l.incidents source).currentLevel))).executed source 0
    rw [List.append_assoc] at hdn
    rw [List.append_nil]
    refine hdn.congr ?_ ?_ ?_ fun a _ => ?_ <;> simp only [Ledger.set_incidents_self]
    cases a <;> rfl
  | ackStable => cases hsr

def Fits (l : Ledger) (queue : List ExternalActionRequest) (log : List RecoveryEvent) : Prop :=
  ∀ source, Sound (l.incidents source) (requestsOf source queue) (eventsOf source log)

theorem Work.fits {l l' : Ledger} {rest : List ExternalActionRequest}
    (h : Work l action events l' next) (hf : Fits l (action :: rest) log) :
    Fits l' (rest ++ next) (log ++ events) := by
  intro source
  have hs := hf source
  rw [requestsOf_append, eventsOf_append]
  by_cases hsr : action.source = some source
  · obtain ⟨he, hn⟩ := h.own hsr
    rw [he, hn]
    rw [requestsOf_cons_own hsr] at hs
    exact h.sound hsr hs
  · obtain ⟨hin, he, hn⟩ := h.other hsr
    rw [hin, he, hn, List.append_nil, List.append_nil]
    rwa [requestsOf_cons_other hsr] at hs

variable (c : RecoveryControls ω)

theorem call_fits {f : Frame ω} (hlog : f.log = []) (k : Call) {past : List RecoveryEvent}
    (h : Fits f.executor.ledger [] past) :
    Fits (call c f k).executor.ledger [] (past ++ (call c f k).log) := by
  by_cases hk : k.Consumes
  · obtain ⟨hc, hl', -⟩ := call_consumption c f hk
    rw [hl', hlog, List.append_nil]
    generalize (call c f k).executor.ledger = l' at hc ⊢
    intro source
    cases hc with
    | none => exact h source
    | reboot | restart => exact (h source).congr rfl rfl rfl fun a _ => by cases a <;> rfl
  · obtain ⟨f', q, he, hcl⟩ := call_entry c hlog hk
    rw [hcl]
    refine executeExternalActions_invariant c
      (I := fun l log q => Fits l q (past ++ log)) (fun hw hf => ?_) fun source => ?_
    · rw [← List.append_assoc]
      exact hw.fits hf
    · rw [eventsOf_append]
      exact (he.locking source).sound (h source)

theorem run_fits (b : Bool) (w : ω) (i : List (Input ω)) :
    Fits (reached c b w i).1.ledger [] (reports c b w i) := by
  refine (machine c).history_invariant (I := fun l s => Fits s.1.ledger [] l)
    (fun l s x h => ?_) [] (configured b, w) (fun source => Sound.start) i
  cases x with
  | call k => exact call_fits c rfl k h
  | environment change =>
    change Fits s.1.ledger [] (l ++ [])
    rwa [List.append_nil]

/-! ### Windows of the log -/

def isExecution (source : IncidentSource) (action : RecoveryAction) : RecoveryEvent → Bool
  | .actionExecuted s a _ => decide (s = source) && decide (a = action)
  | _ => false

theorem Work.executions {l l' : Ledger} {action : ExternalActionRequest}
    (h : Work l action events l' next) (source : IncidentSource) (performed : RecoveryAction) :
    events.countP (isExecution source performed) =
      if action.source = some source ∧ action.performs = performed then 1 else 0 := by
  cases h <;> simp [isExecution, ExternalActionRequest.source, ExternalActionRequest.performs, List.countP_cons]

def isOpening (source : IncidentSource) : RecoveryEvent → Bool
  | .incidentOpened s _ _ => decide (s = source)
  | _ => false

variable (action : RecoveryAction)

theorem Tally.worst_le_foldl (log : List RecoveryEvent) (t : Tally) :
    t.worst ≤ (log.foldl (Tally.count action) t).worst := by
  induction log generalizing t with
  | nil => exact Nat.le_refl _
  | cons e _ ih =>
    refine Nat.le_trans ?_ (ih (t.count action e))
    unfold Tally.count
    split
    · exact Nat.le_refl _
    · split_ifs
      · exact Nat.le_max_left _ _
      · exact Nat.le_refl _
    · exact Nat.le_refl _

theorem Tally.since_le_foldl (log : List RecoveryEvent) {t : Tally} (h : t.since ≤ t.worst) :
    (log.foldl (Tally.count action) t).since ≤ (log.foldl (Tally.count action) t).worst := by
  induction log generalizing t with
  | nil => exact h
  | cons _ _ ih =>
    refine ih ?_
    unfold Tally.count
    split
    · exact Nat.zero_le _
    · split_ifs
      · exact Nat.le_max_right _ _
      · exact h
    · exact h

theorem since_foldl_of_no_opening {action : RecoveryAction}
    (h : ∀ x ∈ log, isOpening source x = false) (t : Tally) :
    ((eventsOf source log).foldl (Tally.count action) t).since =
      t.since + log.countP (isExecution source action) := by
  induction log generalizing t with
  | nil => rfl
  | cons x log ih =>
    have hlog : ∀ e ∈ log, isOpening source e = false := fun e he => h e (List.mem_cons_of_mem x he)
    have hev := h x List.mem_cons_self
    rw [List.countP_cons]
    by_cases hs : x.source = source
    · have hof : eventsOf source (x :: log) = x :: eventsOf source log := by
        simp [eventsOf, hs]
      rw [hof, List.foldl_cons, ih hlog]
      cases x with
      | incidentOpened => simp_all [isOpening, RecoveryEvent.source]
      | actionExecuted _ a =>
        by_cases ha : a = action
        · simp_all [isExecution, Tally.count, RecoveryEvent.source]
          omega
        · simp_all [isExecution, Tally.count, RecoveryEvent.source]
      | _ => simp [isExecution, Tally.count]
    · have hof : eventsOf source (x :: log) = eventsOf source log := by
        simp [eventsOf, hs]
      have hnot : isExecution source action x = false := by
        cases x <;> simp_all [isExecution, RecoveryEvent.source]
      rw [hof, ih hlog, hnot]
      simp

theorem levels_of_no_opening {l : List RecoveryEvent} (h : ∀ x ∈ l, isOpening source x = false) :
    levels (eventsOf source log) ⊆ levels (eventsOf source (log ++ l)) := by
  induction l using List.reverseRecOn with
  | nil => rw [List.append_nil]; exact fun _ h => h
  | append_singleton l x ih =>
    refine List.Subset.trans (ih fun e he => h e (List.mem_append_left _ he)) ?_
    rw [← List.append_assoc, eventsOf_append source (log ++ l)]
    by_cases hs : x.source = source
    · have hev := h x (List.mem_append_right _ List.mem_cons_self)
      rw [show eventsOf source [x] = [x] by simp [eventsOf, hs], levels_append]
      cases x with
      | incidentOpened => simp_all [isOpening, RecoveryEvent.source]
      | actionRequested => exact List.subset_append_left _ _
      | _ => exact fun _ h => h
    · rw [show eventsOf source [x] = [] by simp [eventsOf, hs], List.append_nil]
      exact fun _ h => h

theorem executions_le_one {action : RecoveryAction} (hac : action ∈ onceActions)
    {i : RecoveryIncidentState} {b d l : List RecoveryEvent} (hs : Sound i [] (eventsOf source log))
    (hlog : log = b ++ d ++ l) (hn : ∀ e ∈ d, isOpening source e = false) :
    d.countP (isExecution source action) ≤ 1 := by
  have hw := hs.worst action hac
  rw [hlog, eventsOf_append, eventsOf_append, tally, List.foldl_append, List.foldl_append] at hw
  have hbf : (tally action (eventsOf source b)).since ≤
      (tally action (eventsOf source b)).worst := Tally.since_le_foldl action _ (Nat.le_refl 0)
  have hsn : ((eventsOf source d).foldl (Tally.count action)
      (tally action (eventsOf source b))).since = _ := since_foldl_of_no_opening hn _
  have hle := Tally.since_le_foldl action (eventsOf source d) hbf
  have hl := Tally.worst_le_foldl action (eventsOf source l)
    ((eventsOf source d).foldl (Tally.count action) (tally action (eventsOf source b)))
  rw [tally] at hsn hle hl
  omega

theorem call_clears_other (f : Frame ω) {k : Call} {other : IncidentSource} (hk : k.Clears source)
    (ho : other ≠ source) : (call c f k).incident other = f.incident other := by
  have hc : (clearIncidentBySource source f).incident other = f.incident other := by
    unfold clearIncidentBySource
    split_ifs
    · rfl
    · have h := ledger_locked source (closeIncident source) f
      exact (congrFun (congrArg Ledger.incidents h) other).trans (Ledger.set_incidents_of_ne _ ho _)
  cases k with
  | clearWatchdogFault | clearSubsystemFault =>
    cases hk
    exact hc
  | _ => exact hk.elim

/-- In every run each first action is carried out at most once between two openings of its
incident, an open incident climbs and its highest level is the highest it has stood at, a clear
touches its own incident only, and the action loop ends after two turns for each queued action.
Carrying out a request makes its one control call and reports it once, under its source. -/
theorem recovery_actions_bounded (c : RecoveryControls ω) (hardware : Bool) (world : ω)
    (inputs : List (Input ω)) :
    (∀ source, ∀ action ∈ onceActions, ∀ before during later,
      reports c hardware world inputs = before ++ during ++ later →
      (∀ event ∈ during, isOpening source event = false) →
      during.countP (isExecution source action) ≤ 1) ∧
    (∀ source, ((reached c hardware world inputs).1.status.incidents source).active = true →
      IsGreatest {level | level ∈ levels (eventsOf source (reports c hardware world inputs))}
        ((reached c hardware world inputs).1.status.incidents source).highestLevel ∧
      ∀ more, (∀ event ∈ (machine c).trace (reached c hardware world inputs) more,
          isOpening source event = false) →
        ((reached c hardware world (inputs ++ more)).1.status.incidents source).active = true →
        ((reached c hardware world inputs).1.status.incidents source).currentLevel ≤
          ((reached c hardware world (inputs ++ more)).1.status.incidents source).currentLevel) ∧
    (∀ f : Frame ω, ∀ k : Call, ∀ source other, k.Clears source → other ≠ source →
      (call c f k).incident other = f.incident other) ∧
    (∀ (f : Frame ω) (queue : List ExternalActionRequest),
      ((externalActions c).turn^[2 * queue.length] (f, queue)).2 = []) ∧
    (∀ (f : Frame ω) (request : ExternalActionRequest),
      (executeExternalAction c f request).1.world = request.control c f.world ∧
        ∃ events, (executeExternalAction c f request).1.log = f.log ++ events ∧
          ∀ source action, events.countP (isExecution source action) =
            if request.source = some source ∧ request.performs = action then 1 else 0) := by
  have hfits := run_fits c hardware world
  refine ⟨fun source action haction before during later hlog hnone => ?_, fun source hactive => ⟨?_, ?_⟩,
    fun f k source other hk hother => call_clears_other c f hk hother,
    fun f queue => (externalActions c).queue_empty f queue,
    fun f request => ⟨executeExternalAction_world c f request, ?_⟩⟩
  · exact executions_le_one haction (hfits inputs source) hlog hnone
  · obtain ⟨hmem, hbelow, heq⟩ := (hfits inputs source).top hactive
    exact ⟨heq ▸ hmem, fun level hlevel => heq ▸ hbelow level hlevel⟩
  · intro more hnone hstill
    obtain ⟨hmem, -, -⟩ := (hfits inputs source).top hactive
    obtain ⟨-, hbelow, -⟩ := (hfits (inputs ++ more) source).top hstill
    refine hbelow _ ?_
    rw [reports, Machine.trace_append]
    exact levels_of_no_opening hnone hmem
  · obtain ⟨events, hlog, hwork⟩ := executeExternalAction_work c f request
    exact ⟨events, hlog, hwork.executions⟩

end RecoveryExecutor

end ObcFlight
