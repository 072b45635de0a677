import ObcFlight.WatchdogSupervisor

/-!
# Ages of the supervised sources and the feed of the hardware watchdog

The state of a source is always the one its thresholds give for its age. The age itself is the
number of ticks since the source was last heard, with one exception: a source whose beats are
suppressed by a probe stands at its suppression threshold, and a configuration change can take
it off that threshold. The watchdog is fed at a tick exactly if a source is supervised and every
supervised source is below its suppression threshold.
-/

namespace ObcFlight

namespace WatchdogSupervisor

open WatchdogPolicy

theorem isValidConfig_iff (config : WatchdogSourceConfig) : isValidConfig config = true ↔
    0 < config.warningTicks ∧ config.warningTicks ≤ config.safeTicks ∧
      config.safeTicks ≤ config.suppressTicks := by
  simp [isValidConfig, and_assoc]

variable {config : WatchdogSourceConfig}

theorem stateForAge_disabled (h : config.enabled = false) (age : UInt32) :
    stateForAge config age = .disabled := by
  simp [stateForAge, h]

theorem stateForAge_zero (config : CheckedConfig) :
    stateForAge config.toWatchdogSourceConfig 0 =
      if config.enabled then .healthy else .disabled := by
  obtain ⟨hw, hs, hsp⟩ := (isValidConfig_iff _).mp config.valid
  cases he : config.enabled with
  | false => exact stateForAge_disabled he 0
  | true =>
    have hs' := UInt32.lt_of_lt_of_le hw hs
    have hsp' := UInt32.lt_of_lt_of_le hs' hsp
    simp [stateForAge, he, UInt32.not_le.mpr hw, UInt32.not_le.mpr hs', UInt32.not_le.mpr hsp']

theorem stateForAge_eq_disabled {age : UInt32} :
    stateForAge config age = .disabled ↔ config.enabled = false := by
  unfold stateForAge
  split_ifs <;> simp_all

theorem stateForAge_eq_feedSuppressed {age : UInt32} : stateForAge config age = .feedSuppressed ↔
      config.enabled = true ∧ config.suppressTicks ≤ age := by
  unfold stateForAge
  split_ifs <;> simp_all

theorem faulted_stateForAge (config : CheckedConfig) (age : UInt32) :
    faulted (stateForAge config.toWatchdogSourceConfig age) = true ↔
      config.enabled = true ∧ config.safeTicks ≤ age := by
  obtain ⟨-, -, hs⟩ := (isValidConfig_iff _).mp config.valid
  unfold stateForAge faulted
  split_ifs with he hage
  · simp_all
  · simp_all [UInt32.le_trans hs hage]
  · simp_all
  · simp_all
  · simp_all

/-! ### The invariant of an entry -/

/-- An entry whose state is read off its thresholds. -/
structure Tabled (x : WatchdogSourceSnapshot) : Prop where
  state : x.state = stateForAge x.config.toWatchdogSourceConfig x.ageTicks
  rests : x.config.enabled = false → x.ageTicks = 0
  deaf : x.probeSuppressed = true → x.beatPending = false

namespace Tabled

variable {x : WatchdogSourceSnapshot}

theorem initial (s : WatchdogSource) : Tabled (WatchdogSupervisor.initial.status.sources s) :=
  ⟨rfl, fun _ => rfl, fun _ => rfl⟩

theorem eq_feedSuppressed (h : Tabled x) : x.state = .feedSuppressed ↔
    x.config.enabled = true ∧ x.config.suppressTicks ≤ x.ageTicks := by
  rw [h.state, stateForAge_eq_feedSuppressed]

theorem counted (h : Tabled x) : WatchdogPolicy.counted x = x.config.enabled := by
  have hds : x.state = .disabled ↔ x.config.enabled = false := by
    rw [h.state]
    exact stateForAge_eq_disabled
  cases he : x.config.enabled <;> simp_all [WatchdogPolicy.counted]

theorem beatSource (h : Tabled x) (code : UInt32) : Tabled (WatchdogSupervisor.beatSource code x) := by
  refine ⟨h.state, h.rests, fun hp => ?_⟩
  have hp' : x.probeSuppressed = true := hp
  simp [WatchdogSupervisor.beatSource, hp', h.deaf hp']

theorem tickSnapshot (x : WatchdogSourceSnapshot) (mode : SatMode) :
    Tabled (WatchdogSupervisor.tickSnapshot mode x).1 := by
  cases he : x.config.enabled with
  | false =>
    refine ⟨?_, fun _ => ?_, fun _ => rfl⟩
    · simp [WatchdogSupervisor.tickSnapshot, evaluateSource, he, stateForAge_disabled]
    · simp [WatchdogSupervisor.tickSnapshot, evaluateSource, he]
  | true =>
    refine ⟨?_, fun hds => (by cases he.symm.trans hds), fun _ => rfl⟩
    simp [WatchdogSupervisor.tickSnapshot, evaluateSource, he]

theorem configureSource (h : Tabled x) (config : CheckedConfig) :
    Tabled (WatchdogSupervisor.configureSource config x) := by
  unfold WatchdogSupervisor.configureSource
  cases he : config.enabled with
  | false => exact ⟨(stateForAge_disabled he 0).symm, fun _ => rfl, fun _ => rfl⟩
  | true => exact ⟨rfl, fun hds => (by cases he.symm.trans hds), h.deaf⟩

theorem probeSource (h : Tabled x) (o : WatchdogSource) (s : Bool) :
    Tabled (WatchdogSupervisor.probeSource o s x).1 := by
  unfold WatchdogSupervisor.probeSource
  dsimp only
  split_ifs with hs hf hwas he
  · simp only [Bool.and_eq_true] at hf
    refine ⟨?_, fun hds => (by cases hf.2.symm.trans hds), fun _ => rfl⟩
    exact (stateForAge_eq_feedSuppressed.mpr ⟨hf.2, UInt32.le_refl _⟩).symm
  · exact ⟨h.state, h.rests, fun _ => rfl⟩
  · exact ⟨((stateForAge_zero x.config).trans (if_pos he)).symm, fun _ => rfl, fun _ => rfl⟩
  · exact ⟨((stateForAge_zero x.config).trans (if_neg he)).symm, fun _ => rfl, fun _ => rfl⟩
  · exact ⟨h.state, h.rests, fun _ => rfl⟩

theorem touch (h : Tabled x) (o : WatchdogSource) (i : Input) :
    Tabled (WatchdogSupervisor.touch o i x) := by
  cases i with
  | beatIn _ code =>
    dsimp only [WatchdogSupervisor.touch]
    split_ifs
    · exact h.beatSource code
    · exact h
  | schedIn mode => exact .tickSnapshot x mode
  | setConfig =>
    dsimp only [WatchdogSupervisor.touch]
    split_ifs
    · exact h.configureSource _
    · exact h
  | setProbeBeatSuppression own s =>
    dsimp only [WatchdogSupervisor.touch]
    split_ifs
    · exact h.probeSource own s
    · exact h

end Tabled

variable (ports : WatchdogPorts)

theorem run_tabled (i : List Input) (s : WatchdogSource) :
    Tabled ((reached ports i).status.sources s) := by
  refine (machine ports).run_invariant (I := fun w => Tabled (w.status.sources s))
    (fun w x h => ?_) initial (.initial s) i
  rw [step_sources]
  exact h.touch s x

/-! ### Ages -/

/-- What counts for the age of a source: a tick, or a moment at which it starts again. -/
inductive Mark
  | tick
  | fresh
deriving DecidableEq

/-- A source starts again at the tick that uses its beat up, when it is enabled, and when its
suppression is lifted. -/
def marks (source : WatchdogSource) (x : WatchdogSourceSnapshot) : Input → List Mark
  | .beatIn _ _ => []
  | .schedIn _ => [if x.beatPending then .fresh else .tick]
  | .setConfig own config =>
      if own = source ∧ isValidConfig config = true ∧ config.enabled = true ∧ x.config.enabled = false then
        [.fresh]
      else []
  | .setProbeBeatSuppression own suppressed =>
      if own = source ∧ suppressed = false ∧ (x.probeSuppressed = true ∨ x.state = .feedSuppressed) then
        [.fresh]
      else []

/-- The marks of a source along a run from the construction of the component. -/
def history (ports : WatchdogPorts) (source : WatchdogSource) (inputs : List Input) : List Mark :=
  ((machine ports).observe fun w input => marks source (w.status.sources source) input).trace initial inputs

def ticksSince (history : List Mark) : ℕ :=
  history.foldl (fun ticks mark => match mark with | .tick => ticks + 1 | .fresh => 0) 0

@[simp] theorem ticksSince_tick (l : List Mark) :
    ticksSince (l ++ [Mark.tick]) = ticksSince l + 1 := by
  simp [ticksSince]

@[simp] theorem ticksSince_fresh (l : List Mark) : ticksSince (l ++ [Mark.fresh]) = 0 := by
  simp [ticksSince]

/-- No configuration takes a probed source off its suppression threshold. -/
def KeepsProbe (w : WatchdogSupervisor) : Input → Prop
  | .setConfig own config => isValidConfig config = true → config.enabled = true →
      (w.status.sources own).probeSuppressed = true →
      config.suppressTicks ≤ (w.status.sources own).ageTicks
  | _ => True

/-- The age of an enabled entry: at the suppression threshold while it is probed, and otherwise
the ticks since it started again, as far as the counter goes. -/
structure Aged (past : List Mark) (x : WatchdogSourceSnapshot) : Prop where
  held : x.config.enabled = true → x.probeSuppressed = true → x.config.suppressTicks ≤ x.ageTicks
  counts : x.config.enabled = true → x.probeSuppressed = false →
    x.ageTicks.toNat = min (ticksSince past) 4294967295

theorem saturatingIncrement_toNat_eq_min (v : UInt32) :
    (RecoveryExecutor.saturatingIncrement v).toNat = min (v.toNat + 1) 4294967295 := by
  have hbn := v.toNat_lt
  unfold RecoveryExecutor.saturatingIncrement
  split_ifs with h
  · rw [UInt32.lt_iff_toNat_lt] at h
    rw [UInt32.toNat_add]
    simp only [UInt32.reduceToNat] at h ⊢
    omega
  · rw [UInt32.lt_iff_toNat_lt] at h
    simp only [UInt32.reduceToNat] at h
    omega

theorem le_saturatingIncrement (value : UInt32) : value ≤ RecoveryExecutor.saturatingIncrement value := by
  have hbn := value.toNat_lt
  rw [UInt32.le_iff_toNat_le, saturatingIncrement_toNat_eq_min]
  omega

theorem tickSnapshot_ageTicks {x : WatchdogSourceSnapshot} (he : x.config.enabled = true)
    (mode : SatMode) :
    (tickSnapshot mode x).1.ageTicks =
      if x.beatPending then 0 else RecoveryExecutor.saturatingIncrement x.ageTicks := by
  simp [tickSnapshot, evaluateSource, he]

namespace Aged

variable {past : List Mark} {x : WatchdogSourceSnapshot}

theorem tick (h : Aged past x) (ht : Tabled x) (s : WatchdogSource) (mode : SatMode) :
    Aged (past ++ marks s x (.schedIn mode)) (tickSnapshot mode x).1 := by
  refine ⟨fun (he : x.config.enabled = true) hp => ?_, fun (he : x.config.enabled = true) hp => ?_⟩
  · rw [tickSnapshot_ageTicks he, ht.deaf hp]
    exact UInt32.le_trans (h.held he hp) (le_saturatingIncrement _)
  · rw [tickSnapshot_ageTicks he, marks]
    cases hbt : x.beatPending with
    | true => simp
    | false =>
      have hage := h.counts he hp
      simp only [Bool.false_eq_true, if_false, ticksSince_tick, saturatingIncrement_toNat_eq_min, hage]
      omega

theorem configure (h : Aged past x) (ht : Tabled x) (s : WatchdogSource) (config : CheckedConfig)
    (hk : config.enabled = true → x.probeSuppressed = true → config.suppressTicks ≤ x.ageTicks) :
    Aged (past ++ marks s x (.setConfig s config.toWatchdogSourceConfig))
      (configureSource config x) := by
  cases he : config.enabled with
  | false =>
    have hds : (configureSource config x).config.enabled = false := by
      simp [configureSource, he]
    exact ⟨fun hnew => (by cases hds.symm.trans hnew), fun hnew => (by cases hds.symm.trans hnew)⟩
  | true =>
    have hc : configureSource config x =
        { x with config, state := stateForAge config.toWatchdogSourceConfig x.ageTicks } := by
      simp [configureSource, he]
    rw [hc]
    refine ⟨fun _ hp => hk he hp, fun _ hp => ?_⟩
    rw [marks]
    cases hold : x.config.enabled with
    | true => simpa using h.counts hold hp
    | false => simp [config.valid, he, ht.rests hold]

theorem probe (h : Aged past x) (ht : Tabled x) (s : WatchdogSource) (b : Bool) :
    Aged (past ++ marks s x (.setProbeBeatSuppression s b)) (probeSource s b x).1 := by
  have hsp := ht.eq_feedSuppressed
  cases b with
  | true =>
    by_cases hs : x.state = .feedSuppressed
    · have heq : (probeSource s true x).1 = { x with probeSuppressed := true, beatPending := false } := by
        simp [probeSource, hs]
      rw [heq]
      exact ⟨fun _ _ => (hsp.mp hs).2, fun _ hp => nomatch hp⟩
    · cases he : x.config.enabled with
      | false =>
        have heq : (probeSource s true x).1 =
            { x with probeSuppressed := true, beatPending := false } := by
          simp [probeSource, he]
        rw [heq]
        exact ⟨fun hnew => (by cases he.symm.trans hnew), fun _ hp => nomatch hp⟩
      | true =>
        have heq : (probeSource s true x).1.config = x.config ∧
            (probeSource s true x).1.ageTicks = x.config.suppressTicks ∧
            (probeSource s true x).1.probeSuppressed = true := by
          simp [probeSource, hs, he]
        refine ⟨fun _ _ => ?_, fun _ hp => (by cases heq.2.2.symm.trans hp)⟩
        exact UInt32.le_of_eq (by rw [heq.1, heq.2.1])
  | false =>
    by_cases hs : x.state = .feedSuppressed
    · have heq : (probeSource s false x).1.ageTicks = 0 ∧
          (probeSource s false x).1.probeSuppressed = false := by
        simp [probeSource, hs]
      refine ⟨fun _ hp => (by cases heq.2.symm.trans hp), fun _ _ => ?_⟩
      rw [heq.1]
      simp [marks, hs]
    · have heq : (probeSource s false x).1 =
          { x with probeSuppressed := false, beatPending := false } := by
        simp [probeSource, hs]
      rw [heq]
      refine ⟨fun _ hp => (nomatch hp), fun (he : x.config.enabled = true) _ => ?_⟩
      cases hp : x.probeSuppressed with
      | true => exact absurd (hsp.mpr ⟨he, h.held he hp⟩) hs
      | false => simpa [marks, hs, hp] using h.counts he hp

theorem touch {w : WatchdogSupervisor} {s : WatchdogSource} (h : Aged past (w.status.sources s))
    (ht : Tabled (w.status.sources s)) {i : Input} (hk : KeepsProbe w i) :
    Aged (past ++ marks s (w.status.sources s) i)
      (WatchdogSupervisor.touch s i (w.status.sources s)) := by
  cases i with
  | beatIn =>
    rw [marks, List.append_nil]
    dsimp only [WatchdogSupervisor.touch]
    split_ifs
    · exact ⟨h.held, h.counts⟩
    · exact h
  | schedIn mode => exact h.tick ht s mode
  | setConfig own config =>
    dsimp only [WatchdogSupervisor.touch]
    split_ifs with hown
    · obtain ⟨rfl, hvl⟩ := hown
      exact h.configure ht own ⟨config, hvl⟩ (hk hvl)
    · have hmr : marks s (w.status.sources s) (.setConfig own config) = [] :=
        if_neg fun hm => hown ⟨hm.1, hm.2.1⟩
      rw [hmr, List.append_nil]
      exact h
  | setProbeBeatSuppression own b =>
    dsimp only [WatchdogSupervisor.touch]
    split_ifs with hown
    · rw [hown]
      exact h.probe ht s b
    · have hmr : marks s (w.status.sources s) (.setProbeBeatSuppression own b) = [] :=
        if_neg fun hm => hown hm.1
      rw [hmr, List.append_nil]
      exact h

end Aged

theorem run_aged (i : List Input) (hk : (machine ports).Admits KeepsProbe initial i)
    (s : WatchdogSource) :
    Aged (history ports s i) ((reached ports i).status.sources s) := by
  have hs : Tabled (initial.status.sources s) ∧ Aged [] (initial.status.sources s) :=
    ⟨.initial s, fun _ hp => (nomatch hp), fun _ _ => rfl⟩
  refine ((machine ports).observed_invariant_of_admits
    (I := fun past w => Tabled (w.status.sources s) ∧ Aged past (w.status.sources s))
    (fun past w x hin h => ?_) [] initial hs i hk).2
  rw [step_sources]
  exact ⟨h.1.touch s x, h.2.touch h.1 hin⟩

/-! ### The feed -/

def strokes (outputs : List WatchdogOutput) : List UInt32 :=
  outputs.filterMap fun
    | .watchdogFeed code => some code
    | _ => none

@[simp] theorem strokes_append (o later : List WatchdogOutput) :
    strokes (o ++ later) = strokes o ++ strokes later :=
  List.filterMap_append ..

@[simp] theorem strokes_notify (l : List RecoveryExecutor.Call) :
    strokes (notify ports l) = [] := by
  unfold notify
  split_ifs
  · simp [strokes, List.filterMap_map]
  · rfl

theorem strokes_event {b : Bool} {e : WatchdogOutput} (h : strokes [e] = []) :
    strokes (if b then [e] else []) = [] := by
  cases b
  · rfl
  · exact h

variable (mode : SatMode)

theorem strokes_tickSource (r : Round) (s : WatchdogSource) :
    strokes (tickSource ports mode r s).outputs = strokes r.outputs := by
  simp only [tickSource, strokes_append, strokes_notify, List.append_nil]
  rw [strokes_event rfl, strokes_event rfl, strokes_event rfl, strokes_event rfl]
  simp only [List.append_nil]

variable (w : WatchdogSupervisor)

theorem strokes_tickSources : strokes (tickSources ports mode w).outputs = [] := by
  have hl : ∀ (keys : List WatchdogSource) (r : Round),
      strokes (keys.foldl (tickSource ports mode) r).outputs = strokes r.outputs := by
    intro keys
    induction keys with
    | nil => exact fun _ => rfl
    | cons key _ ih => exact fun r => (ih _).trans (strokes_tickSource ports mode r key)
  exact hl WatchdogSource.all { supervisor := w }

theorem strokes_requestSafeAgain (r : Round) :
    strokes (requestSafeAgain ports mode r).outputs = strokes r.outputs := by
  unfold requestSafeAgain
  dsimp only
  split_ifs
  · rw [strokes_append, strokes_notify, List.append_nil]
  · rfl

theorem strokes_schedIn :
    strokes (schedIn ports mode w).2 =
      if (schedIn ports mode w).1.status.feedEligible && ports.watchdogFeedOut then [watchdogFeedCode]
      else [] := by
  have hq := (strokes_requestSafeAgain ports mode (tickSources ports mode w)).trans
    (strokes_tickSources ports mode w)
  unfold schedIn finishTick
  dsimp only
  rw [strokes_append, strokes_append, hq, strokes_event rfl]
  split_ifs <;> rfl

theorem finishTick_feedEligible (p : WatchdogState) (r : Round) :
    (finishTick ports p r).1.status.feedEligible =
      (rollup (finishTick ports p r).1.status.sources
        r.supervisor.safeRequestIssuedForCurrentFault).feedEligible :=
  rfl

theorem schedIn_feedEligible :
    ∃ i, (schedIn ports mode w).1.status.feedEligible =
      (rollup (schedIn ports mode w).1.status.sources i).feedEligible := by
  unfold schedIn
  exact ⟨_, finishTick_feedEligible ports _ _⟩

/-- The state of every supervised source follows from its age. As long as no configuration takes
a probed source off its threshold, its age is the number of ticks since it was last heard,
enabled or released from suppression. The hardware watchdog is fed at a tick exactly if some
source is supervised and none has reached its suppression threshold. -/
theorem silent_source_starves_watchdog (ports : WatchdogPorts) (inputs : List Input) :
    (∀ source, ((reached ports inputs).status.sources source).config.enabled = true →
      ((reached ports inputs).status.sources source).state =
        stateForAge ((reached ports inputs).status.sources source).config.toWatchdogSourceConfig
          ((reached ports inputs).status.sources source).ageTicks) ∧
    ((machine ports).Admits KeepsProbe initial inputs →
      ∀ source, Aged (history ports source inputs) ((reached ports inputs).status.sources source)) ∧
    ∀ mode, strokes ((machine ports).step (reached ports inputs) (.schedIn mode)).2 ≠ [] ↔
      ports.watchdogFeedOut = true ∧
        (∃ source, ((reached ports (inputs ++ [Input.schedIn mode])).status.sources source).config.enabled =
          true) ∧
        ∀ source,
          ((reached ports (inputs ++ [Input.schedIn mode])).status.sources source).config.enabled = true →
          ((reached ports (inputs ++ [Input.schedIn mode])).status.sources source).ageTicks <
            ((reached ports (inputs ++ [Input.schedIn mode])).status.sources source).config.suppressTicks := by
  refine ⟨fun source _ => (run_tabled ports inputs source).state, run_aged ports inputs, fun mode => ?_⟩
  have hafter : reached ports (inputs ++ [Input.schedIn mode]) =
      (schedIn ports mode (reached ports inputs)).1 := by
    rw [reached, Machine.run_append]
    rfl
  have htabled := run_tabled ports (inputs ++ [Input.schedIn mode])
  obtain ⟨issued, hfeed⟩ := schedIn_feedEligible ports mode (reached ports inputs)
  rw [← hafter] at hfeed
  change strokes (schedIn ports mode (reached ports inputs)).2 ≠ [] ↔ _
  have hstroke : strokes (schedIn ports mode (reached ports inputs)).2 ≠ [] ↔
      ports.watchdogFeedOut = true ∧
        (rollup (reached ports (inputs ++ [Input.schedIn mode])).status.sources issued).feedEligible = true := by
    rw [strokes_schedIn, ← hafter, hfeed, and_comm, ← Bool.and_eq_true]
    split_ifs with h <;> simp [h]
  rw [hstroke, rollup_feedEligible]
  refine and_congr_right fun _ => and_congr (exists_congr fun source => ?_) (forall_congr' fun source => ?_)
  · rw [(htabled source).counted]
  · rw [(htabled source).counted]
    refine imp_congr_right fun henabled => ?_
    rw [ne_eq, (htabled source).eq_feedSuppressed, and_iff_right henabled, UInt32.not_le]

def bothPorts : WatchdogPorts := ⟨true, true⟩

/-- Three silent ticks after a beat that was counted at the first one, while another source is probed
and configured anew. -/
theorem silent_source_ages :
    let inputs : List Input := [.setProbeBeatSuppression .adcsFdir true, .setConfig .adcsFdir {},
      .beatIn .epsBridge 7, .schedIn .idle, .schedIn .idle, .schedIn .idle]
    ticksSince (history bothPorts .epsBridge inputs) = 2 ∧
      ((reached bothPorts inputs).status.sources .epsBridge).ageTicks.toNat =
        min (ticksSince (history bothPorts .epsBridge inputs)) 4294967295 ∧
      ((reached bothPorts inputs).status.sources .adcsFdir).config.suppressTicks ≤
        ((reached bothPorts inputs).status.sources .adcsFdir).ageTicks := by
  intro inputs
  have haged := (silent_source_starves_watchdog bothPorts inputs).2.1
    ⟨trivial, fun _ _ _ => by decide, trivial, trivial, trivial, trivial, trivial⟩
  exact ⟨rfl, (haged .epsBridge).counts rfl rfl, (haged .adcsFdir).held rfl rfl⟩

/-- A source that is probed while it is disabled and then enabled: it is supervised, its beats
are suppressed, and yet it starts at age zero and the watchdog is fed. -/
theorem probed_source_enabled_young :
    let inputs : List Input := [.setConfig .adcsFdir { enabled := false },
      .setProbeBeatSuppression .adcsFdir true, .setConfig .adcsFdir {}]
    let x := (reached bothPorts inputs).status.sources .adcsFdir
    x.config.enabled = true ∧ x.probeSuppressed = true ∧ x.ageTicks = 0 ∧ x.config.suppressTicks = 5 ∧
      strokes ((machine bothPorts).step (reached bothPorts inputs) (.schedIn .idle)).2 =
        [watchdogFeedCode] := by
  decide +kernel

end WatchdogSupervisor

end ObcFlight
