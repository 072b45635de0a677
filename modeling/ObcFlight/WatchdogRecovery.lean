import ObcFlight.RecoveryEscalation
import ObcFlight.WatchdogAges

/-!
# The watchdog supervisor in front of the recovery executor

The supervisor's calls go straight into the executor's sink. Seen from the supervised sources,
the executor holds one alarm for each of them: whether the incident of the source is active.
The two components agree if the alarm is raised exactly for the sources in a fault state. The
supervisor speaks up only where its own state crosses a threshold, and a configuration command
moves that state without a word.
-/

namespace ObcFlight

namespace RecoveryExecutor

variable {ω : Type*}

def alarms (x : RecoveryExecutor) (watchdog : WatchdogSource) : Bool :=
  (x.status.incidents (recoveryIncidentSourceFromWatchdog watchdog)).active

def Call.sound (raised : WatchdogSource → Bool) : Call → WatchdogSource → Bool
  | .submitWatchdogFault own | .submitWatchdogSuppression own => Function.update raised own true
  | .clearWatchdogFault own => Function.update raised own false
  | _ => raised

theorem source_ne_watchdog (f : SubsystemFault) (watchdog : WatchdogSource) :
    f.source ≠ recoveryIncidentSourceFromWatchdog watchdog := by
  cases f <;> cases watchdog <;> decide

theorem prepareReboot_active (o : IncidentSource) (p : Pass) :
    (prepareReboot o p).incident.active = p.incident.active := by
  unfold prepareReboot
  split_ifs <;> rfl

theorem eq_update_of_own (raised : WatchdogSource → Bool) {own watchdog : WatchdogSource} {v : Bool}
    (h : own = watchdog → raised watchdog = v) :
    raised watchdog = Function.update raised own v watchdog := by
  rw [Function.update_apply]
  split_ifs with heq
  · exact h heq.symm
  · rfl

theorem Locking.alarm {c : RecoveryControls ω} {f : Frame ω} {watchdog : WatchdogSource} {k : Call}
    {p : Pass} (h : Locking c f (recoveryIncidentSourceFromWatchdog watchdog) k p) :
    p.incident.active = k.sound f.executor.alarms watchdog := by
  have hr {own : WatchdogSource} {active : Bool} (hac : active = true)
      (hs : recoveryIncidentSourceFromWatchdog own = recoveryIncidentSourceFromWatchdog watchdog) :
      active = Function.update f.executor.alarms own true watchdog := by
    rw [recoveryIncidentSourceFromWatchdog_injective hs, Function.update_self, hac]
  cases h with
  | kept _ hsp =>
    cases k with
    | submitWatchdogFault | clearWatchdogFault =>
      exact eq_update_of_own f.executor.alarms fun heq => hsp (congrArg _ heq)
    | submitWatchdogSuppression =>
      exact eq_update_of_own f.executor.alarms fun heq => (hsp (congrArg _ heq)).1
    | _ => rfl
  | cleared _ hc =>
    have hcl : (closeIncident (recoveryIncidentSourceFromWatchdog watchdog)
        { incident := f.incident (recoveryIncidentSourceFromWatchdog watchdog) }).incident.active = false := by
      unfold closeIncident
      dsimp only
      split_ifs <;> rfl
    cases k with
    | clearWatchdogFault =>
      rw [hcl, Call.sound, recoveryIncidentSourceFromWatchdog_injective hc, Function.update_self]
    | clearSubsystemFault fault => exact absurd hc (source_ne_watchdog fault watchdog)
    | _ => cases hc
  | clamped _ hs => exact hr rfl hs
  | restarted _ hs => exact hr rfl hs
  | suppressed _ hs hac => exact hr ((prepareReboot_active _ _).trans hac) hs
  | suppressedOpened _ hs => exact hr (prepareReboot_active _ _) hs
  | relatched fault hs | reset fault hs | resetSafe fault hs | failover fault hs =>
    exact absurd hs (source_ne_watchdog fault watchdog)
  | counted => rfl
  | timedOut | retried => exact prepareReboot_active _ _

variable (c : RecoveryControls ω)

theorem alarms_call {f : Frame ω} (hlog : f.log = []) (k : Call) :
    (call c f k).executor.alarms = k.sound f.executor.alarms := by
  funext watchdog
  by_cases hk : k.Consumes
  · obtain ⟨hc, -⟩ := call_consumption c f hk
    have hkp : k.sound f.executor.alarms = f.executor.alarms := by
      cases k with
      | consumeRecoveryExitRequest | consumeRebootRequest => rfl
      | _ => cases hk
    rw [hkp]
    change ((call c f k).executor.ledger.incidents _).active = (f.executor.ledger.incidents _).active
    generalize (call c f k).executor.ledger = l at hc ⊢
    cases hc <;> rfl
  · obtain ⟨f', q, he, hcl⟩ := call_entry c hlog hk
    change ((call c f k).executor.ledger.incidents _).active = _
    rw [hcl, executeExternalActions_active]
    exact (he.locking _).alarm

theorem alarms_run_calls (s : RecoveryExecutor × ω) (l : List Call) :
    ((machine c).run s (l.map .call)).1.alarms = l.foldl Call.sound s.1.alarms := by
  induction l generalizing s with
  | nil => rfl
  | cons k l ih =>
    rw [List.map_cons, Machine.run_cons, ih, List.foldl_cons]
    exact congrArg (l.foldl Call.sound) (alarms_call c (show (enter s).log = [] from rfl) k)

end RecoveryExecutor

namespace SupervisedRecovery

open WatchdogPolicy
open RecoveryExecutor (Call)
open WatchdogSupervisor hiding machine Input reached

variable {ω : Type*}

/-- The supervisor, the executor and the world of the other components. -/
structure State (ω : Type*) where
  supervisor : WatchdogSupervisor
  recovery : RecoveryExecutor × ω

/-- The calls of the executor that other components make. -/
inductive PeerCall
  | submitSubsystemFault (fault : RecoveryExecutor.SubsystemFault)
  | clearSubsystemFault (fault : RecoveryExecutor.SubsystemFault)
  | schedIn
  | consumeRecoveryExitRequest
  | consumeRebootRequest

def PeerCall.call : PeerCall → Call
  | submitSubsystemFault fault => .submitSubsystemFault fault
  | clearSubsystemFault fault => .clearSubsystemFault fault
  | schedIn => .schedIn
  | consumeRecoveryExitRequest => .consumeRecoveryExitRequest
  | consumeRebootRequest => .consumeRebootRequest

inductive Input (ω : Type*)
  | beatIn (source : WatchdogSource) (code : UInt32)
  | schedIn
  | setConfig (source : WatchdogSource) (config : WatchdogSourceConfig)
  | setProbeBeatSuppression (source : WatchdogSource) (suppressed : Bool)
  | peer (call : PeerCall)
  | environment (change : ω → ω)

/-- How the two components are wired: the executor's interfaces, the mode control of the
supervisor, and whether the hardware watchdog is connected. The sink is. -/
structure Wiring (ω : Type*) where
  controls : RecoveryControls ω
  mode : Option (ModeControl ω)
  watchdogFeedOut : Bool

variable (c : Wiring ω)

def Wiring.ports : WatchdogPorts := ⟨true, c.watchdogFeedOut⟩

def Wiring.currentMode (world : ω) : SatMode :=
  match c.mode with
  | none => .safe
  | some mode => mode.getMode world

def supervise (s : State ω) (input : WatchdogSupervisor.Input) : State ω × List WatchdogOutput :=
  let done := (WatchdogSupervisor.machine c.ports).step s.supervisor input
  ({ supervisor := done.1
     recovery := (RecoveryExecutor.machine c.controls).run s.recovery ((calls done.2).map .call) },
    done.2)

def recover (s : State ω) (input : RecoveryExecutor.Input ω) : State ω × List WatchdogOutput :=
  ({ s with recovery := ((RecoveryExecutor.machine c.controls).step s.recovery input).1 }, [])

def machine : Machine (State ω) (Input ω) WatchdogOutput where
  step s
    | .beatIn source code => supervise c s (.beatIn source code)
    | .schedIn => supervise c s (.schedIn (c.currentMode s.recovery.2))
    | .setConfig source config => supervise c s (.setConfig source config)
    | .setProbeBeatSuppression source suppressed =>
        supervise c s (.setProbeBeatSuppression source suppressed)
    | .peer peer => recover c s (.call peer.call)
    | .environment change => recover c s (.environment change)

def start (hardware : Bool) (world : ω) : State ω where
  supervisor := WatchdogSupervisor.initial
  recovery := (RecoveryExecutor.configured hardware, world)

abbrev reached (hardware : Bool) (world : ω) (inputs : List (Input ω)) : State ω :=
  (machine c).run (start hardware world) inputs

variable (w : WatchdogSupervisor)

def faults (source : WatchdogSource) : Bool := faulted (w.status.sources source).state

/-- The incident of each source is active exactly if the source is in a fault state. -/
def Agree (s : State ω) : Prop := s.recovery.1.alarms = faults s.supervisor

/-- A configuration that leaves its source on the side of the fault threshold where it is. -/
def KeepsVerdict (source : WatchdogSource) (config : WatchdogSourceConfig) : Prop :=
  isValidConfig config = true →
    (config.enabled = true ∧ config.safeTicks ≤ (w.status.sources source).ageTicks ↔ faults w source = true)

def Quiet (s : State ω) : Input ω → Prop
  | .setConfig source config => KeepsVerdict s.supervisor source config
  | _ => True

/-! ### The tick -/

def tickVerdict (e : WatchdogSourceEvaluation) (raised : Bool) : Bool :=
  !e.recovered && (e.crossedFault || e.crossedSuppression || raised)

theorem foldl_tickCalls (o : WatchdogSource) (e : WatchdogSourceEvaluation)
    (raised : WatchdogSource → Bool) :
    (tickCalls o e).foldl Call.sound raised =
      Function.update raised o (tickVerdict e (raised o)) := by
  unfold tickCalls tickVerdict faultCalls suppressionCalls recoveryCalls
  cases e.crossedFault <;> cases e.crossedSuppression <;> cases e.recovered <;>
    simp [Call.sound]

theorem verdict_of_silent {state next : WatchdogState} (h : faulted state = true → faulted next = true) :
    (decide (stateSeverity state < stateSeverity .latchedFault) &&
        decide (stateSeverity .latchedFault ≤ stateSeverity next) ||
      decide (state ≠ .feedSuppressed) && decide (next = .feedSuppressed) || faulted state) =
    faulted next := by
  revert h
  cases state <;> cases next <;> decide

theorem verdict_of_beat (v : WatchdogState) :
    (!decide (stateSeverity .healthy < stateSeverity v) && faulted v) = false := by
  cases v <;> decide

theorem tickVerdict_faulted {x : WatchdogSourceSnapshot} (h : Tabled x) (mode : SatMode) :
    tickVerdict (tickSnapshot mode x).2 (faulted x.state) = faulted (tickSnapshot mode x).1.state := by
  let e := (tickSnapshot mode x).2
  change tickVerdict e (faulted x.state) = faulted e.nextState
  cases hen : x.config.enabled with
  | false =>
    have hs : x.state = .disabled :=
      h.state.trans (stateForAge_disabled hen _)
    have he : e = { nextAgeTicks := 0, nextState := .disabled } := by
      simp [e, tickSnapshot, evaluateSource, hen, hs, stateSeverity]
    rw [he, hs]
    rfl
  | true =>
    cases hbt : x.beatPending with
    | true =>
      have hfr : stateForAge x.config.toWatchdogSourceConfig 0 = .healthy :=
        (stateForAge_zero x.config).trans (if_pos hen)
      have he : e = { nextAgeTicks := 0, nextState := .healthy,
                      recovered := decide (stateSeverity .healthy < stateSeverity x.state) } := by
        simp [e, tickSnapshot, evaluateSource, hen, hbt, hfr]
      rw [he]
      exact verdict_of_beat x.state
    | false =>
      have hr : e.recovered = false := by
        simp [e, tickSnapshot, evaluateSource, hen, hbt]
      have hf : e.crossedFault = (decide (stateSeverity x.state < stateSeverity .latchedFault) &&
          decide (stateSeverity .latchedFault ≤ stateSeverity e.nextState)) := by
        simp [e, tickSnapshot, evaluateSource, hen, hbt]
      have hsp : e.crossedSuppression = (decide (x.state ≠ .feedSuppressed) &&
          decide (e.nextState = .feedSuppressed)) := by
        simp [e, tickSnapshot, evaluateSource, hen, hbt]
      have hnext : e.nextState = stateForAge x.config.toWatchdogSourceConfig
          (RecoveryExecutor.saturatingIncrement x.ageTicks) := by
        simp [e, tickSnapshot, evaluateSource, hen, hbt]
      rw [tickVerdict, hr, hf, hsp]
      refine verdict_of_silent fun hold => ?_
      rw [h.state, faulted_stateForAge] at hold
      rw [hnext, faulted_stateForAge]
      exact ⟨hen, UInt32.le_trans hold.2 (le_saturatingIncrement _)⟩

variable {raised : WatchdogSource → Bool}

theorem foldl_submit {a : List WatchdogSource} (h : ∀ v ∈ a, raised v = true) :
    (a.map Call.submitWatchdogFault).foldl Call.sound raised = raised := by
  induction a with
  | nil => rfl
  | cons v _ ih =>
    have hs : Function.update raised v true = raised := by
      rw [← h v List.mem_cons_self, Function.update_eq_self]
    rw [List.map_cons, List.foldl_cons, Call.sound, hs]
    exact ih fun o ho => h o (List.mem_cons_of_mem v ho)

def alarmLoop (mode : SatMode) (w : WatchdogSupervisor) :
    KeyedLoop (WatchdogSource → Bool) WatchdogSource Bool Empty where
  turn raised source :=
    (tickCalls source (tickSnapshot mode (w.status.sources source)).2).foldl Call.sound raised
  entry raised := raised
  next source := tickVerdict (tickSnapshot mode (w.status.sources source)).2
  log _ := []
  emit _ _ := []
  entry_turn raised source := foldl_tickCalls source _ raised
  log_turn _ _ := rfl

variable {ports : WatchdogPorts}

/-- A tick calls the executor about each source in turn, and then perhaps once more about the
sources in a fault state. -/
theorem calls_schedIn (hs : ports.recoverySink = true) (mode : SatMode) (w : WatchdogSupervisor) :
    ∃ a : List WatchdogSource,
      (∀ o ∈ a, faults (schedIn ports mode w).1 o = true) ∧
      calls (schedIn ports mode w).2 =
        (WatchdogSource.all.flatMap fun o =>
          tickCalls o (tickSnapshot mode (w.status.sources o)).2) ++
        a.map Call.submitWatchdogFault := by
  have hl : calls (tickSources ports mode w).outputs =
      WatchdogSource.all.flatMap fun o =>
        tickCalls o (tickSnapshot mode (w.status.sources o)).2 := by
    have hlog := (tickLoop ports mode).log_foldl WatchdogSource.all_nodup
      { supervisor := w }
    simp only [tickLoop, hs, if_true] at hlog
    exact hlog
  have hend : calls (schedIn ports mode w).2 =
      calls (requestSafeAgain ports mode (tickSources ports mode w)).outputs := by
    unfold WatchdogSupervisor.schedIn finishTick
    dsimp only
    rw [calls_append, calls_append,
      calls_event rfl, calls_event rfl, List.append_nil,
      List.append_nil]
  have hsc : (schedIn ports mode w).1.status.sources =
      (tickSources ports mode w).supervisor.status.sources :=
    requestSafeAgain_sources ports mode _
  rw [hend, ← hl]
  unfold requestSafeAgain
  dsimp only
  split_ifs
  · refine ⟨WatchdogSource.all.filter fun o =>
      faulted ((tickSources ports mode w).supervisor.status.sources o).state, fun o hsr => ?_, ?_⟩
    · rw [faults, hsc]
      exact (List.mem_filter.mp hsr).2
    · rw [calls_append, calls_notify, if_pos hs]
  · exact ⟨[], fun _ h => (nomatch h), (List.append_nil _).symm⟩

theorem alarms_schedIn (hs : ports.recoverySink = true) (mode : SatMode) {w : WatchdogSupervisor}
    (ht : ∀ o, Tabled (w.status.sources o)) :
    (calls (schedIn ports mode w).2).foldl Call.sound (faults w) =
      faults (schedIn ports mode w).1 := by
  obtain ⟨a, hag, hc⟩ := calls_schedIn hs mode w
  have hl : (WatchdogSource.all.flatMap fun o =>
      tickCalls o (tickSnapshot mode (w.status.sources o)).2).foldl Call.sound (faults w) =
        faults (schedIn ports mode w).1 := by
    rw [List.foldl_flatMap]
    funext o
    refine ((alarmLoop mode w).entry_foldl WatchdogSource.all_nodup (WatchdogSource.mem_all o)
      (faults w)).trans ?_
    rw [faults, schedIn_sources]
    exact tickVerdict_faulted (ht o) mode
  rw [hc, List.foldl_append, hl]
  exact foldl_submit hag

/-! ### The commands -/

theorem foldl_probeSource (own : WatchdogSource) (b : Bool) {x : WatchdogSourceSnapshot}
    (h : raised own = faulted x.state) : (probeSource own b x).2.foldl Call.sound raised =
      Function.update raised own (faulted (probeSource own b x).1.state) := by
  have hk : raised = Function.update raised own (faulted x.state) := by
    rw [← h, Function.update_eq_self]
  unfold probeSource
  dsimp only
  split_ifs
  · rfl
  · exact hk
  · rfl
  · rfl
  · exact hk

theorem faults_setSource (own : WatchdogSource) (f : WatchdogSourceSnapshot → WatchdogSourceSnapshot)
    {w w' : WatchdogSupervisor}
    (h : w'.status.sources = (setSource own (f (w.status.sources own)) w.status).sources) :
    faults w' = Function.update (faults w) own (faulted (f (w.status.sources own)).state) := by
  funext source
  rw [faults, h, setSource_sources, Function.update_apply]
  split_ifs with hown ho' ho'
  · rw [hown]
  · exact absurd hown.symm ho'
  · exact absurd ho'.symm hown
  · rfl

theorem alarms_probe (hs : ports.recoverySink = true) (w : WatchdogSupervisor)
    (own : WatchdogSource) (b : Bool) :
    (calls (setProbeBeatSuppression ports own b w).2).foldl Call.sound (faults w) =
      faults (setProbeBeatSuppression ports own b w).1 := by
  have hc : calls (setProbeBeatSuppression ports own b w).2 =
      (probeSource own b (w.status.sources own)).2 := by
    unfold setProbeBeatSuppression
    simp only [calls_append, calls_notify, hs, if_true]
    rw [calls_event rfl]
    split_ifs <;> simp [calls]
  rw [hc, foldl_probeSource own b (show faults w own = _ from rfl)]
  exact (faults_setSource own (fun x => (probeSource own b x).1) rfl).symm

theorem faulted_configureSource (k : CheckedConfig) (x : WatchdogSourceSnapshot) :
    faulted (configureSource k x).state = true ↔ k.enabled = true ∧ k.safeTicks ≤ x.ageTicks := by
  cases he : k.enabled with
  | false => simp [configureSource, he, faulted]
  | true =>
    have hs : (configureSource k x).state = stateForAge k.toWatchdogSourceConfig x.ageTicks := by
      simp [configureSource, he]
    rw [hs, faulted_stateForAge, he]

variable (c : Wiring ω) {s : State ω}

/-- A configuration command keeps the agreement exactly if it does not move its source across
the fault threshold. -/
theorem agree_setConfig_iff (h : Agree s) (own : WatchdogSource) (config : WatchdogSourceConfig) :
    Agree ((machine c).step s (.setConfig own config)).1 ↔ KeepsVerdict s.supervisor own config := by
  let w := s.supervisor
  have hs : calls (setConfig own config w).2 = [] := by
    unfold setConfig
    split_ifs <;> rfl
  have hag : Agree ((machine c).step s (.setConfig own config)).1 ↔
      faults w = faults (setConfig own config w).1 := by
    change ((RecoveryExecutor.machine c.controls).run s.recovery
      ((calls (setConfig own config w).2).map .call)).1.alarms = _ ↔ _
    rw [hs]
    exact ⟨fun haf => h.symm.trans haf, fun haf => h.trans haf⟩
  rw [hag]
  by_cases hvl : isValidConfig config = true
  · have hf : faults (setConfig own config w).1 = Function.update (faults w) own
        (faulted (configureSource ⟨config, hvl⟩ (w.status.sources own)).state) := by
      refine faults_setSource own (configureSource ⟨config, hvl⟩) ?_
      rw [setConfig, dif_pos hvl]
      rfl
    rw [hf, eq_comm, Function.update_eq_self_iff, Bool.eq_iff_iff, faulted_configureSource]
    exact ⟨fun hiff _ => hiff, fun hk => hk hvl⟩
  · rw [setConfig, dif_neg hvl]
    exact ⟨fun _ hv' => absurd hv' hvl, fun _ => rfl⟩

/-! ### Runs -/

structure Joined (s : State ω) : Prop where
  tabled : ∀ source, Tabled (s.supervisor.status.sources source)
  agree : Agree s

theorem tabled_supervise (h : Joined s) (i : WatchdogSupervisor.Input) (o : WatchdogSource) :
    Tabled ((supervise c s i).1.supervisor.status.sources o) := by
  change Tabled (((WatchdogSupervisor.machine c.ports).step s.supervisor i).1.status.sources o)
  rw [step_sources]
  exact (h.tabled o).touch o i

theorem agree_supervise (h : Joined s) {i : WatchdogSupervisor.Input}
    (hf : (calls ((WatchdogSupervisor.machine c.ports).step s.supervisor i).2).foldl Call.sound
        (faults s.supervisor) =
      faults ((WatchdogSupervisor.machine c.ports).step s.supervisor i).1) :
    Agree (supervise c s i).1 := by
  refine (RecoveryExecutor.alarms_run_calls c.controls s.recovery _).trans ?_
  rw [h.agree]
  exact hf

theorem alarms_beat (own : WatchdogSource) (code : UInt32) :
    faults w = faults (beatIn own code w) := by
  have hset : faults (beatIn own code w) =
      Function.update (faults w) own (faulted (beatSource code (w.status.sources own)).state) :=
    faults_setSource own (beatSource code) rfl
  rw [hset]
  exact (Function.update_eq_self own (faults w)).symm

theorem joined_step {i : Input ω} (hq : Quiet s i) (h : Joined s) :
    Joined ((machine c).step s i).1 := by
  cases i with
  | beatIn own code =>
    exact ⟨tabled_supervise c h _, agree_supervise c h (alarms_beat s.supervisor own code)⟩
  | schedIn => exact ⟨tabled_supervise c h _, agree_supervise c h (alarms_schedIn rfl _ h.tabled)⟩
  | setConfig own n =>
    exact ⟨tabled_supervise c h _, (agree_setConfig_iff c h.agree own n).mpr hq⟩
  | setProbeBeatSuppression own b =>
    exact ⟨tabled_supervise c h _, agree_supervise c h (alarms_probe rfl s.supervisor own b)⟩
  | peer peer =>
    have hp : peer.call.sound s.recovery.1.alarms = s.recovery.1.alarms := by
      cases peer <;> rfl
    refine ⟨h.tabled, ?_⟩
    exact ((RecoveryExecutor.alarms_call c.controls
      (show (RecoveryExecutor.enter s.recovery).log = [] from rfl) peer.call).trans hp).trans h.agree
  | environment => exact ⟨h.tabled, h.agree⟩

theorem run_joined (b : Bool) (w : ω) (i : List (Input ω))
    (hq : (machine c).Admits Quiet (start b w) i) :
    Joined (reached c b w i) :=
  (machine c).run_invariant_of_admits (I := Joined) (fun _ _ hin h => joined_step c hin h)
    (start b w) ⟨Tabled.initial, rfl⟩ i hq

/-- As long as no configuration command moves its source across the fault threshold, the
incident of every source is active exactly while the source is in a fault state; and the first
command that does so ends the agreement. -/
theorem supervisor_and_executor_agree (hardware : Bool) (world : ω)
    (inputs : List (Input ω)) (hquiet : (machine c).Admits Quiet (start hardware world) inputs) :
    (∀ source, ((reached c hardware world inputs).recovery.1.status.incidents
        (recoveryIncidentSourceFromWatchdog source)).active = true ↔
      ((reached c hardware world inputs).supervisor.status.sources source).state = .latchedFault ∨
        ((reached c hardware world inputs).supervisor.status.sources source).state = .feedSuppressed) ∧
    ∀ own config, Agree (reached c hardware world (inputs ++ [.setConfig own config])) ↔
      KeepsVerdict (reached c hardware world inputs).supervisor own config := by
  have hjoined := run_joined c hardware world inputs hquiet
  refine ⟨fun source => ?_, fun own config => ?_⟩
  · have halarm := congrFun hjoined.agree source
    rw [show ((reached c hardware world inputs).recovery.1.status.incidents
      (recoveryIncidentSourceFromWatchdog source)).active = _ from halarm]
    simp [faults, faulted]
  · rw [reached, Machine.run_append]
    exact agree_setConfig_iff c hjoined.agree own config

def benchWiring : Wiring RecoveryExecutor.Bench where
  controls := RecoveryExecutor.bench
  mode := RecoveryExecutor.bench.mode
  watchdogFeedOut := true

/-- Three silent ticks latch the fault of a source and open its incident. -/
theorem silent_source_opens_incident :
    let s := reached benchWiring false {} [.schedIn, .schedIn, .schedIn]
    (s.supervisor.status.sources .epsBridge).state = .latchedFault ∧
      (s.recovery.1.status.incidents .watchdogEpsBridge).active = true := by
  refine ⟨rfl, ?_⟩
  exact ((supervisor_and_executor_agree benchWiring false {} [.schedIn, .schedIn, .schedIn]
    ⟨trivial, trivial, trivial, trivial⟩).1 .epsBridge).mpr (.inl rfl)

/-- Disabling a source in fault leaves its incident open, and a lower threshold puts a source
into fault without opening one. -/
theorem configuration_breaks_agreement :
    let disabled := reached benchWiring false {}
      [.schedIn, .schedIn, .schedIn, .setConfig .epsBridge { enabled := false }]
    let lowered := reached benchWiring false {}
      [.schedIn, .setConfig .epsBridge { warningTicks := 1, safeTicks := 1 }]
    (disabled.supervisor.status.sources .epsBridge).state = .disabled ∧
      (disabled.recovery.1.status.incidents .watchdogEpsBridge).active = true ∧
      (lowered.supervisor.status.sources .epsBridge).state = .latchedFault ∧
      (lowered.recovery.1.status.incidents .watchdogEpsBridge).active = false := by
  refine ⟨rfl, rfl, rfl, rfl⟩

end SupervisedRecovery

end ObcFlight
