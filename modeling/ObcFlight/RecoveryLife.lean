import ObcFlight.RecoveryEntry
import Mathlib.Order.Bounds.Basic

/-!
# The life of an incident as its reports tell it

From the reports about one source one reads off how often an action was carried out since the
incident was opened, and which levels it has stood at. An incident, its queued requests and its
reports fit together: an action is carried out or queued only once its flag is set, and the
levels have only gone up.
-/

namespace ObcFlight

namespace RecoveryExecutor

/-- The actions that an incident may take once between two openings. -/
def onceActions : List RecoveryAction :=
  [.processRestart, .subsystemInterfaceReset, .commLinkFailover, .safeFallback]

def ExternalActionRequest.performs : ExternalActionRequest → RecoveryAction
  | applySafe _ _ => .safeFallback
  | epsReset _ | adcsReset _ => .subsystemInterfaceReset
  | commFailover _ => .commLinkFailover
  | recordProcessRestartIntent _ _ => .processRestart
  | recordRebootIntent _ => .obcReboot
  | ackStable => .none

def issued (i : RecoveryIncidentState) : RecoveryAction → Bool
  | .processRestart => i.restartIntentIssued
  | .subsystemInterfaceReset => i.resetIssued
  | .commLinkFailover => i.commFailoverIssued
  | .safeFallback => i.safeFallbackIssued
  | _ => false

/-- Executions of an action since the last opening, and the most there ever were. -/
structure Tally where
  since : ℕ := 0
  worst : ℕ := 0

variable (action : RecoveryAction)

def Tally.count (t : Tally) : RecoveryEvent → Tally
  | .incidentOpened _ _ _ => { t with since := 0 }
  | .actionExecuted _ a _ =>
      if a = action then ⟨t.since + 1, max t.worst (t.since + 1)⟩ else t
  | _ => t

def tally (log : List RecoveryEvent) : Tally := log.foldl (Tally.count action) {}

/-- The levels the incident has stood at since it was last opened. -/
def levels (log : List RecoveryEvent) : List RecoveryLevel :=
  log.foldl
    (fun reached event =>
      match event with
      | .incidentOpened _ level _ => [level]
      | .actionRequested _ level _ => reached ++ [level]
      | _ => reached)
    []

theorem tally_append (log : List RecoveryEvent) (event : RecoveryEvent) :
    tally action (log ++ [event]) = (tally action log).count action event := by
  rw [tally, tally, List.foldl_append]
  rfl

theorem levels_append (log : List RecoveryEvent) (e : RecoveryEvent) :
    levels (log ++ [e]) =
      match e with
      | .incidentOpened _ level _ => [level]
      | .actionRequested _ level _ => levels log ++ [level]
      | _ => levels log := by
  rw [levels, List.foldl_append]
  rfl

def queued (queue : List ExternalActionRequest) : ℕ :=
  queue.countP fun request => decide (request.performs = action)

def spawning (queue : List ExternalActionRequest) : ℕ := queue.countP ExternalActionRequest.spawns

structure Sound (i : RecoveryIncidentState) (queue : List ExternalActionRequest)
    (log : List RecoveryEvent) : Prop where
  worst : ∀ action ∈ onceActions, (tally action log).worst ≤ 1
  once : ∀ action ∈ onceActions,
    (tally action log).since + queued action queue ≤ (issued i action).toNat
  rising : (levels log).Pairwise (· ≤ ·)
  top : i.active = true → i.currentLevel ∈ levels log ∧ (∀ level ∈ levels log, level ≤ i.currentLevel) ∧
    i.highestLevel = i.currentLevel
  ceiling : i.active = true → i.currentLevel ≤ .r6ObcReboot
  -- what may still ask for the fallback is alone and stands below it
  spawning_le : spawning queue ≤ 1
  low : 0 < spawning queue → i.active = true → i.currentLevel ≤ .r3ResetSubsystemInterface

namespace Sound

variable {i i' : RecoveryIncidentState} {queue : List ExternalActionRequest} {log : List RecoveryEvent}

theorem start : Sound {} [] [] where
  worst _ _ := Nat.zero_le 1
  once _ _ := Nat.zero_le _
  rising := List.Pairwise.nil
  top h := nomatch h
  ceiling h := nomatch h
  spawning_le := Nat.zero_le 1
  low h := absurd h (Nat.lt_irrefl 0)

theorem congr (h : Sound i queue log) (hac : i'.active = i.active)
    (hc : i'.currentLevel = i.currentLevel) (hh : i'.highestLevel = i.highestLevel)
    (his : ∀ action ∈ onceActions, issued i' action = issued i action) : Sound i' queue log where
  worst := h.worst
  once action hmem := by
    rw [his action hmem]
    exact h.once action hmem
  rising := h.rising
  top := by
    rw [hac, hc, hh]
    exact h.top
  ceiling := by
    rw [hac, hc]
    exact h.ceiling
  spawning_le := h.spawning_le
  low := by
    rw [hac, hc]
    exact h.low

theorem remark (h : Sound i queue log) {e : RecoveryEvent}
    (ht : ∀ action t, Tally.count action t e = t)
    (hl : levels (log ++ [e]) = levels log) : Sound i queue (log ++ [e]) where
  worst action hmem := by
    rw [tally_append, ht]
    exact h.worst action hmem
  once action hmem := by
    rw [tally_append, ht]
    exact h.once action hmem
  rising := by
    rw [hl]
    exact h.rising
  top := by
    rw [hl]
    exact h.top
  ceiling := h.ceiling
  spawning_le := h.spawning_le
  low := h.low

variable {level : RecoveryLevel}

theorem opened (h : Sound i [] log) {source : IncidentSource} {c : UInt32}
    (hc : i'.currentLevel = level) (hh : i'.highestLevel = level) (hcl : level ≤ .r6ObcReboot) :
    Sound i' [] (log ++ [RecoveryEvent.incidentOpened source level c]) where
  worst action hmem := by
    rw [tally_append]
    exact h.worst action hmem
  once action hmem := by
    rw [tally_append]
    exact Nat.zero_le _
  rising := by
    rw [levels_append]
    exact List.pairwise_singleton _ _
  top _ := by
    rw [levels_append, hc, hh]
    refine ⟨List.mem_singleton_self _, fun o ho => ?_, rfl⟩
    rw [List.mem_singleton.mp ho]
    exact UInt8.le_refl level
  ceiling _ := hc ▸ hcl
  spawning_le := Nat.zero_le 1
  low hs := absurd hs (Nat.lt_irrefl 0)

variable {action : RecoveryAction} {request : ExternalActionRequest}

theorem requested (h : Sound i queue log) (hac : i.active = true) (hq : spawning queue = 0)
    {source : IncidentSource} (hle : i.currentLevel ≤ level) (hcl : level ≤ .r6ObcReboot)
    (hnew : request.performs ∈ onceActions → issued i request.performs = false)
    (hw : request.spawns = true → level ≤ .r3ResetSubsystemInterface) (hc : i'.currentLevel = level)
    (hh : i'.highestLevel = if i.highestLevel < level then level else i.highestLevel)
    (his : ∀ a ∈ onceActions, issued i' a = (issued i a || decide (request.performs = a))) :
    Sound i' (queue ++ [request]) (log ++ [RecoveryEvent.actionRequested source level action]) := by
  have hcount : spawning (queue ++ [request]) = request.spawns.toNat := by
    rw [spawning, List.countP_append, ← spawning, hq, Nat.zero_add, List.countP_singleton]
    cases request.spawns <;> rfl
  obtain ⟨hmem, hbl, heq⟩ := h.top hac
  refine ⟨fun a ha => ?_, fun a ha => ?_, ?_, fun _ => ?_, fun _ => hc ▸ hcl, ?_, fun hs _ => ?_⟩
  · rw [tally_append]
    exact h.worst a ha
  · have ho := h.once a ha
    rw [tally_append, his a ha, queued, List.countP_append, List.countP_singleton, ← queued]
    by_cases hp : request.performs = a
    · rw [hp] at hnew
      rw [hnew ha] at ho ⊢
      simp only [hp, decide_true, if_true, Bool.or_true, Bool.toNat_true, Bool.toNat_false,
        Tally.count] at ho ⊢
      omega
    · simp only [hp, decide_false, Bool.or_false, Bool.false_eq_true, if_false, Tally.count] at ho ⊢
      omega
  · rw [levels_append]
    refine List.pairwise_append.mpr ⟨h.rising, List.pairwise_singleton _ _, fun l hl m hm => ?_⟩
    rw [List.mem_singleton.mp hm]
    exact UInt8.le_trans (hbl l hl) hle
  · rw [levels_append, hc, hh, heq]
    refine ⟨List.mem_append_right _ (List.mem_singleton_self _), fun l hl => ?_, ?_⟩
    · rcases List.mem_append.mp hl with hl | hl
      · exact UInt8.le_trans (hbl l hl) hle
      · rw [List.mem_singleton.mp hl]
        exact UInt8.le_refl level
    · split_ifs with hlt
      · rfl
      · exact UInt8.le_antisymm hle (UInt8.not_lt.mp hlt)
  · rw [hcount]
    exact request.spawns.toNat_le
  · rw [hcount] at hs
    rw [hc]
    refine hw ?_
    cases hr : request.spawns with
    | true => rfl
    | false => simp [hr] at hs

theorem executed (h : Sound i (request :: queue) log) (source : IncidentSource) (r : UInt32) :
    Sound i queue (log ++ [RecoveryEvent.actionExecuted source request.performs r]) := by
  have hs : spawning queue ≤ spawning (request :: queue) :=
    List.Sublist.countP_le (List.sublist_cons_self _ _)
  refine ⟨fun a ha => ?_, fun a ha => ?_, ?_, ?_, h.ceiling, hs.trans h.spawning_le,
    fun hpos => h.low (hpos.trans_le hs)⟩
  · have hw := h.worst a ha
    have ho := h.once a ha
    have his := (issued i a).toNat_le
    rw [tally_append, Tally.count]
    rw [queued, List.countP_cons] at ho
    split_ifs with hp
    · simp only [hp, decide_true, if_true] at ho
      dsimp only
      omega
    · exact hw
  · have ho := h.once a ha
    rw [tally_append, Tally.count]
    rw [queued, List.countP_cons, ← queued] at ho
    split_ifs with hp
    · simp only [hp, decide_true, if_true] at ho
      dsimp only
      omega
    · simp only [hp, decide_false, Bool.false_eq_true, if_false, Nat.add_zero] at ho
      exact ho
  · rw [levels_append]
    exact h.rising
  · rw [levels_append]
    exact h.top

theorem spawning_tail (h : Sound i (request :: queue) log) (hs : request.spawns = true) :
    spawning queue = 0 := by
  have := h.spawning_le
  rw [spawning, List.countP_cons, hs, if_pos rfl, ← spawning] at this
  omega

theorem low_head (h : Sound i (request :: queue) log) (hs : request.spawns = true)
    (hac : i.active = true) : i.currentLevel ≤ .r3ResetSubsystemInterface := by
  refine h.low ?_ hac
  rw [spawning, List.countP_cons, hs, if_pos rfl]
  exact Nat.succ_pos _

theorem closed (h : Sound i queue log) (hac : i'.active = false)
    (his : ∀ action ∈ onceActions, issued i' action = issued i action) : Sound i' queue log where
  worst := h.worst
  once action hmem := by
    rw [his action hmem]
    exact h.once action hmem
  rising := h.rising
  top ho := absurd (hac.symm.trans ho) Bool.false_ne_true
  ceiling ho := absurd (hac.symm.trans ho) Bool.false_ne_true
  spawning_le := h.spawning_le
  low _ ho := absurd (hac.symm.trans ho) Bool.false_ne_true

/-! ### The prepare functions -/

variable {source : IncidentSource} {p : Pass}

theorem issue (h : Sound p.incident p.actions (log ++ p.log)) (hac : p.incident.active = true)
    (hq : spawning p.actions = 0) (hle : p.incident.currentLevel ≤ level)
    (hc : level ≤ .r6ObcReboot)
    (hnew : request.performs ∈ onceActions → issued p.incident request.performs = false)
    (hs : request.spawns = true → level ≤ .r3ResetSubsystemInterface)
    (hh : i'.highestLevel = p.incident.highestLevel)
    (his : ∀ a ∈ onceActions, issued i' a = (issued p.incident a || decide (request.performs = a))) :
    let ak := push request (issueAction source level action { p with incident := i' })
    Sound ak.incident ak.actions (log ++ ak.log) := by
  dsimp only [push, issueAction]
  rw [← List.append_assoc, hh]
  exact h.requested hac hq hle hc hnew hs rfl rfl his

theorem prepareReboot (h : Sound p.incident p.actions (log ++ p.log))
    (hac : p.incident.active = true) (hq : spawning p.actions = 0) :
    Sound (prepareReboot source p).incident (RecoveryExecutor.prepareReboot source p).actions
      (log ++ (RecoveryExecutor.prepareReboot source p).log) := by
  unfold RecoveryExecutor.prepareReboot
  split_ifs
  · exact h
  · have hak : Sound (issueAction source .r6ObcReboot .obcReboot p).incident
        (p.actions ++ [ExternalActionRequest.recordRebootIntent source])
        (log ++ p.log ++ [RecoveryEvent.actionRequested source .r6ObcReboot .obcReboot]) := by
      refine h.requested hac hq (h.ceiling hac) (UInt8.le_refl _) (fun hmem => ?_)
        (fun hs => absurd hs Bool.false_ne_true) rfl rfl ?_
      · exact absurd hmem (show RecoveryAction.obcReboot ∉ onceActions by decide)
      · simp [onceActions, issued, issueAction, ExternalActionRequest.performs]
    dsimp only [push, issueAction]
    rw [← List.append_assoc, ← List.append_assoc]
    exact hak.remark (fun _ _ => rfl) (levels_append _ _)

end Sound

theorem recoveryInitialLevelForSource_le (source : IncidentSource) :
    recoveryInitialLevelForSource source ≤ .r3ResetSubsystemInterface := by
  cases source <;> decide

theorem Sound.first {i : RecoveryIncidentState} {log : List RecoveryEvent} {source : IncidentSource}
    {request : ExternalActionRequest} {level : RecoveryLevel} {action : RecoveryAction}
    {i' : RecoveryIncidentState} (h : Sound i [] log) (hs : recoveryInitialLevelForSource source ≤ level)
    (hl : level ≤ .r3ResetSubsystemInterface)
    (hh : i'.highestLevel = recoveryInitialLevelForSource source)
    (his : ∀ a ∈ onceActions, issued i' a = decide (request.performs = a)) :
    let o := openIncident source { incident := i }
    let ak := push request (issueAction source level action { o with incident := i' })
    Sound ak.incident ak.actions (log ++ ak.log) := by
  have ho : Sound (openIncident source { incident := i }).incident []
      (log ++ (openIncident source { incident := i }).log) :=
    h.opened rfl rfl (UInt8.le_trans (recoveryInitialLevelForSource_le source) (by decide))
  have hnone : ∀ a ∈ onceActions, issued (openIncident source { incident := i }).incident a = false := by
    simp [onceActions, issued, openIncident]
  refine ho.issue rfl rfl hs (UInt8.le_trans hl (by decide)) (hnone _) (fun _ => hl)
    hh fun a ha => ?_
  rw [hnone a ha, Bool.false_or]
  exact his a ha

theorem Sound.requestSafe {log : List RecoveryEvent} {source : IncidentSource} {p : Pass}
    {m : ModeApplySource} (h : Sound p.incident p.actions (log ++ p.log))
    (hac : p.incident.active = true) (hq : spawning p.actions = 0)
    (hle : p.incident.currentLevel ≤ .r5ModeFallback) (hs : p.incident.safeFallbackIssued = false) :
    Sound (requestSafe source m p).incident
      (RecoveryExecutor.requestSafe source m p).actions
      (log ++ (RecoveryExecutor.requestSafe source m p).log) := by
  refine h.issue hac hq hle (by decide) (fun _ => hs)
    (fun hp => absurd hp Bool.false_ne_true) rfl ?_
  simp [onceActions, issued, ExternalActionRequest.performs]

theorem Locking.sound {ω : Type*} {c : RecoveryControls ω} {f : Frame ω} {source : IncidentSource}
    {k : Call} {p : Pass} {log : List RecoveryEvent} (h : Locking c f source k p)
    (hs : Sound (f.incident source) [] log) : Sound p.incident p.actions (log ++ p.log) := by
  have hin := recoveryInitialLevelForSource_le source
  have ho : Sound (f.opened source).incident [] (log ++ (f.opened source).log) :=
    hs.opened rfl rfl (UInt8.le_trans hin (by decide))
  have hrs {request} (hr : request = ExternalActionRequest.epsReset ∨ request = .adcsReset) :
      let reset := prepareReset request source (f.opened source)
      Sound reset.incident reset.actions (log ++ reset.log) := by
    refine hs.first hin (UInt8.le_refl _) rfl ?_
    rcases hr with rfl | rfl <;> simp [onceActions, issued, ExternalActionRequest.performs, openIncident]
  cases h with
  | kept =>
    rw [List.append_nil]
    exact hs
  | cleared =>
    have hrm : Sound (f.incident source) [] (log ++
        [.incidentCleared source (f.incident source).highestLevel (f.incident source).relatchCount]) :=
      hs.remark (fun _ _ => rfl) (levels_append _ _)
    refine hrm.closed ?_ fun a ha => ?_
    · unfold closeIncident
      dsimp only
      split_ifs <;> rfl
    · unfold closeIncident
      dsimp only
      split_ifs <;> rfl
  | clamped => exact ho.requestSafe rfl rfl (UInt8.le_trans hin (by decide)) rfl
  | restarted watchdog hsr =>
    refine hs.first ?_ (by decide) rfl ?_
    · cases watchdog <;> cases hsr <;> decide
    · simp [onceActions, issued, ExternalActionRequest.performs, openIncident]
  | suppressed _ _ hac | retried _ _ hac =>
    rw [← List.append_nil log] at hs
    exact hs.prepareReboot hac rfl
  | suppressedOpened | relatched => exact ho.prepareReboot rfl rfl
  | reset _ _ _ _ _ hr => exact hrs hr
  | resetSafe _ _ _ _ _ hr =>
    refine (hrs hr).requestSafe rfl ?_ (show RecoveryLevel.r3ResetSubsystemInterface ≤ _ by decide) rfl
    rcases hr with rfl | rfl <;> rfl
  | failover =>
    refine hs.first hin (UInt8.le_refl _) rfl ?_
    simp [onceActions, issued, ExternalActionRequest.performs, openIncident]
  | counted =>
    rw [List.append_nil]
    exact hs.congr rfl rfl rfl fun _ _ => rfl
  | timedOut _ har =>
    have hac : (f.incident source).active = true := by
      simp only [armed, Bool.and_eq_true] at har
      exact har.1.1.1.1
    have hc : Sound { f.incident source with
        openTicks := saturatingIncrement (f.incident source).openTicks } [] (log ++ []) := by
      rw [List.append_nil]
      exact hs.congr rfl rfl rfl fun _ _ => rfl
    exact hc.prepareReboot hac rfl

end RecoveryExecutor

end ObcFlight
