import ObcFlight.Machine
import ObcFlight.TtcPassManager

/-!
# Suppressed re-entry into TTC

When the pass manager leaves TTC because the link is lost, or finds that somebody else has left it,
it remembers the pass window and does not enter TTC again for it. The remembered window is
forgotten at every tick in which the window is not active, and a window is not active when there
is no valid GPS time. So the suppression lasts as long as the GPS time is known and not before the
start of the window.
-/

namespace ObcFlight

inductive TtcInput where
  | schedIn (hasModeControl : Bool) (around : TtcSurroundings) (currentMode : SatMode)
      (pointingAccepted : Option Bool)
  | setPolicy (enabled : Bool) (lossOfLockTimeoutSec : UInt32)
  | setPassWindow (startUnixSec endUnixSec : UInt64)
  | clearPassWindow

namespace TtcPassManager

open TtcPassPolicy

/-- A whole tick: what it decides and, if that is a request, what it records. -/
def schedIn (hasModeControl : Bool) (around : TtcSurroundings) (currentMode : SatMode)
    (pointingAccepted : Option Bool) (t : TtcPassManager) : TtcPassManager × List TtcRequest :=
  match t.schedDecide hasModeControl around currentMode with
  | (t, none) => (t, [])
  | (t, some request) => ((t.schedRecord pointingAccepted request).1, [request])

def step (t : TtcPassManager) : TtcInput → TtcPassManager × List TtcRequest
  | .schedIn hasModeControl around currentMode pointingAccepted =>
    t.schedIn hasModeControl around currentMode pointingAccepted
  | .setPolicy enabled lossOfLockTimeoutSec => ((t.setPolicy enabled lossOfLockTimeoutSec).1, [])
  | .setPassWindow startUnixSec endUnixSec => ((t.setPassWindow startUnixSec endUnixSec).1, [])
  | .clearPassWindow => (t.clearPassWindow, [])

end TtcPassManager

def ttcPassManager : Machine TtcPassManager TtcInput TtcRequest := ⟨TtcPassManager.step⟩

namespace TtcPassManager

open TtcPassPolicy

/-- The GPS time at a tick, if the sample of that tick gives one. -/
def timeAt (t : TtcPassManager) (around : TtcSurroundings) : Option UInt64 :=
  let freshness := match around.gps with
    | none => t.gpsFreshness
    | some state => updateGpsFreshnessTracker state.acceptedSentenceCount around.wallclockSec t.gpsFreshness
  gpsTime freshness around.wallclockSec around.gps

def ActiveAt (t : TtcPassManager) (around : TtcSurroundings) : Prop :=
  ∃ now, t.timeAt around = some now ∧ isWindowActive now t.window = true

theorem isValidPassWindow_of_isWindowActive {now : UInt64} {w : TtcPassWindow} (h : isWindowActive now w = true) :
    isValidPassWindow w = true := by
  simp only [isWindowActive, Bool.and_eq_true] at h
  exact h.1.1

variable {around : TtcSurroundings}

theorem ActiveAt.valid {t : TtcPassManager} (h : t.ActiveAt around) :
    isValidPassWindow t.window = true := by
  obtain ⟨now, -, hin⟩ := h
  exact isValidPassWindow_of_isWindowActive hin

theorem observe_windowActive (t : TtcPassManager) (around : TtcSurroundings) (mode : SatMode) :
    (t.observe around mode).status.windowActive = true ↔ t.ActiveAt around := by
  have hs : (t.observe around mode).status.windowActive =
      ((t.timeAt around).isSome && isValidPassWindow t.window && isWindowActive ((t.timeAt around).getD 0) t.window) :=
    rfl
  rw [hs, ActiveAt]
  cases ht : t.timeAt around with
  | none => simp
  | some now =>
    have hvl : isWindowActive now t.window = true → isValidPassWindow t.window = true :=
      isValidPassWindow_of_isWindowActive
    simpa using hvl

/-- The two ways in which re-entry for a window becomes suppressed: leaving TTC for loss of the
link, and finding IDLE where TTC was left by somebody else while the window is active. -/
inductive StartsSuppression (w : TtcPassWindow) (t : TtcPassManager) : TtcInput → Prop
  | commLoss {hasModeControl : Bool} {around : TtcSurroundings} {mode : SatMode} {pointing : Option Bool}
      (hwindow : t.window = w) (hactive : t.ActiveAt around)
      (hexit : .exit .commLossTimeout ∈ (t.schedIn hasModeControl around mode pointing).2) :
      StartsSuppression w t (.schedIn hasModeControl around mode pointing)
  | leftByOthers {hasModeControl : Bool} {around : TtcSurroundings} {pointing : Option Bool}
      (hwindow : t.window = w) (hactive : t.ActiveAt around) (hbefore : t.status.ttcActive = true) :
      StartsSuppression w t (.schedIn hasModeControl around .idle pointing)

/-- The window is cleared, replaced by another one, or seen to have ended. -/
def Lifts (w : TtcPassWindow) (t : TtcPassManager) : TtcInput → Prop
  | .schedIn _ around _ _ => ∃ now, t.timeAt around = some now ∧ w.endUnixSec ≤ now
  | .setPolicy _ _ => False
  | .setPassWindow startUnixSec endUnixSec => (⟨startUnixSec, endUnixSec⟩ : TtcPassWindow) ≠ w
  | .clearPassWindow => True

/-- The tick has a valid GPS time that does not lie before the window. -/
def TimeKnown (w : TtcPassWindow) (t : TtcPassManager) : TtcInput → Prop
  | .schedIn _ around _ _ => ∃ now, t.timeAt around = some now ∧ w.startUnixSec ≤ now
  | _ => True

/-- The manager remembers the configured window. -/
structure Suppressed (w : TtcPassWindow) (t : TtcPassManager) : Prop where
  window : t.window = w
  suppressed : t.suppressedWindow = w
  valid : isValidPassWindow w = true

variable {w : TtcPassWindow} {t : TtcPassManager}

theorem schedIn_windows (hasModeControl : Bool) (around : TtcSurroundings) (mode : SatMode)
    (pointing : Option Bool) (t : TtcPassManager) :
    (t.schedIn hasModeControl around mode pointing).1.window =
        (t.schedDecide hasModeControl around mode).1.window ∧
      (t.schedIn hasModeControl around mode pointing).1.suppressedWindow =
        (t.schedDecide hasModeControl around mode).1.suppressedWindow ∧
      (t.schedIn hasModeControl around mode pointing).2 =
        (t.schedDecide hasModeControl around mode).2.toList := by
  unfold schedIn
  split
  · rename_i u hdc
    simp [hdc]
  · rename_i u r hdc
    rw [hdc]
    cases r <;> exact ⟨rfl, rfl, rfl⟩

theorem observe_suppressedWindow (t : TtcPassManager) (around : TtcSurroundings) (mode : SatMode) :
    (t.observe around mode).suppressedWindow =
      if isValidPassWindow t.window ∧ t.window = t.suppressedWindow ∧
        (t.observe around mode).status.windowActive then t.suppressedWindow else {} := by
  have hdef : (t.observe around mode).suppressedWindow =
      if !isValidPassWindow t.window || decide (t.window ≠ t.suppressedWindow) ||
        !(t.observe around mode).status.windowActive then {} else t.suppressedWindow := rfl
  rw [hdef]
  cases isValidPassWindow t.window <;> cases (t.observe around mode).status.windowActive <;>
    by_cases hs : t.window = t.suppressedWindow <;> simp [hs]

theorem tickIdle_windows (hasModeControl p : Bool) (t : TtcPassManager) :
    (t.tickIdle hasModeControl p).1.window = t.window ∧
      (t.tickIdle hasModeControl p).1.suppressedWindow =
        if p && t.status.windowActive then t.window else t.suppressedWindow := by
  unfold tickIdle
  dsimp only
  cases p && t.status.windowActive with
  | false =>
    simp only [Bool.false_eq_true, if_false]
    split_ifs <;> exact ⟨rfl, rfl⟩
  | true =>
    simp only [if_true]
    split_ifs <;> exact ⟨rfl, rfl⟩

theorem tickTtc_windows (hasModeControl : Bool) (t : TtcPassManager) :
    (t.tickTtc hasModeControl).1.window = t.window ∧
      (t.tickTtc hasModeControl).1.suppressedWindow =
        if hasModeControl ∧ t.exitReason = .commLossTimeout ∧ t.status.windowActive then t.window
        else t.suppressedWindow := by
  unfold tickTtc
  dsimp only
  cases hasModeControl with
  | false => simp
  | true =>
    by_cases hr : t.exitReason = .commLossTimeout
    · cases hac : t.status.windowActive <;> simp [hr]
    · by_cases hnone : t.exitReason = .none <;> simp [hr, hnone]

theorem schedDecide_window (hasModeControl : Bool) (around : TtcSurroundings) (mode : SatMode)
    (t : TtcPassManager) : (t.schedDecide hasModeControl around mode).1.window = t.window := by
  cases mode with
  | idle => exact (tickIdle_windows ..).1
  | ttc => exact (tickTtc_windows ..).1
  | safe | hell | payload => rfl

/-- A tick remembers the configured window only if it is active, and otherwise keeps what the
observation has left of the remembered one. -/
theorem schedDecide_suppressedWindow (hasModeControl : Bool) (around : TtcSurroundings) (mode : SatMode)
    (t : TtcPassManager) :
    (t.schedDecide hasModeControl around mode).1.suppressedWindow = t.window ∧ t.ActiveAt around ∨
      (t.schedDecide hasModeControl around mode).1.suppressedWindow = (t.observe around mode).suppressedWindow := by
  cases mode with
  | idle =>
    have hw := (tickIdle_windows hasModeControl t.status.ttcActive (t.observe around .idle)).2
    split_ifs at hw with hl
    · exact .inl ⟨hw, (observe_windowActive t around .idle).mp (Bool.and_eq_true_iff.mp hl).2⟩
    · exact .inr hw
  | ttc =>
    have hw := (tickTtc_windows hasModeControl (t.observe around .ttc)).2
    split_ifs at hw with hls
    · exact .inl ⟨hw, (observe_windowActive t around .ttc).mp hls.2.2⟩
    · exact .inr hw
  | safe | hell | payload => exact .inr rfl

theorem activeAt_iff (hs : Suppressed w t) (around : TtcSurroundings) :
    t.ActiveAt around ↔
      ∃ now, t.timeAt around = some now ∧ w.startUnixSec ≤ now ∧ ¬ w.endUnixSec ≤ now := by
  simp only [ActiveAt, hs.window, isWindowActive, hs.valid, Bool.true_and, Bool.and_eq_true, decide_eq_true_eq,
    UInt64.not_le]

/-- While the window is not cleared, replaced or over, a tick keeps it suppressed exactly if it has a
valid GPS time that does not lie before the window. -/
theorem schedIn_suppressed_iff (hs : Suppressed w t) (hasModeControl : Bool) (around : TtcSurroundings)
    (mode : SatMode) (pointing : Option Bool)
    (hl : ¬ Lifts w t (.schedIn hasModeControl around mode pointing)) :
    Suppressed w (t.schedIn hasModeControl around mode pointing).1 ↔
      TimeKnown w t (.schedIn hasModeControl around mode pointing) := by
  obtain ⟨hw, hsp, -⟩ := schedIn_windows hasModeControl around mode pointing t
  rw [schedDecide_window, hs.window] at hw
  have hac : t.ActiveAt around ↔ TimeKnown w t (.schedIn hasModeControl around mode pointing) := by
    rw [activeAt_iff hs]
    constructor
    · rintro ⟨now, ht, hst, -⟩
      exact ⟨now, ht, hst⟩
    · rintro ⟨now, ht, hst⟩
      exact ⟨now, ht, hst, fun hend => hl ⟨now, ht, hend⟩⟩
  rw [← hac]
  have ho := observe_suppressedWindow t around mode
  constructor
  · intro haf
    by_contra hin
    rw [if_neg (fun h => hin ((observe_windowActive t around mode).mp h.2.2))] at ho
    rcases schedDecide_suppressedWindow hasModeControl around mode t with ⟨-, h⟩ | h
    · exact hin h
    · have hf : w = {} := by rw [← haf.suppressed, hsp, h, ho]
      have := hs.valid
      rw [hf] at this
      exact absurd this (by decide)
  · intro hact
    refine ⟨hw, ?_, hs.valid⟩
    rw [if_pos ⟨by rw [hs.window]; exact hs.valid, hs.window.trans hs.suppressed.symm,
      (observe_windowActive t around mode).mpr hact⟩] at ho
    rcases schedDecide_suppressedWindow hasModeControl around mode t with ⟨h, -⟩ | h
    · rw [hsp, h, hs.window]
    · rw [hsp, h, ho, hs.suppressed]

theorem step_suppressed_iff (hs : Suppressed w t) (i : TtcInput) (hl : ¬ Lifts w t i) :
    Suppressed w (t.step i).1 ↔ TimeKnown w t i := by
  cases i with
  | schedIn => exact schedIn_suppressed_iff hs _ _ _ _ hl
  | setPolicy =>
    refine iff_of_true ?_ trivial
    simp only [step, setPolicy]
    split_ifs
    · exact hs
    · exact ⟨hs.window, hs.suppressed, hs.valid⟩
  | setPassWindow s e =>
    refine iff_of_true ?_ trivial
    have hsm : (⟨s, e⟩ : TtcPassWindow) = w := not_not.mp hl
    simp only [step, setPassWindow]
    rw [hsm, hs.valid, if_neg (by simp)]
    exact ⟨rfl, by rw [hs.suppressed]; simp, hs.valid⟩
  | clearPassWindow => exact absurd trivial hl

/-! ### Entry requests -/

theorem tickIdle_request_none (hasModeControl p : Bool)
    (h : t.status.windowActive = true → p = true ∨ t.window = t.suppressedWindow) :
    (t.tickIdle hasModeControl p).2 = none := by
  unfold tickIdle
  dsimp only
  cases hac : t.status.windowActive with
  | false => simp [hac]
  | true =>
    rcases h hac with rfl | hs
    · simp [hac]
    · cases p <;> simp [hac, hs]

variable {hasModeControl : Bool} {reason : TtcPassPolicyReason}

theorem tickTtc_request_exit (h : (t.tickTtc hasModeControl).2 = some (.exit reason)) :
    hasModeControl = true ∧ t.exitReason = reason := by
  unfold tickTtc at h
  dsimp only at h
  by_cases he : (decide (t.exitReason ≠ .none) && hasModeControl) = true
  · rw [if_pos he] at h
    exact ⟨(Bool.and_eq_true_iff.mp he).2, by simpa using h⟩
  · rw [if_neg he] at h
    cases h

theorem tickTtc_not_entry (hasModeControl : Bool) (reason : TtcPassPolicyReason) :
    (t.tickTtc hasModeControl).2 ≠ some (.entry reason) := by
  simp only [tickTtc]
  split_ifs <;> simp

variable {mode : SatMode} {pointing : Option Bool}

theorem schedIn_entry (h : .entry reason ∈ (t.schedIn hasModeControl around mode pointing).2) :
    mode = .idle ∧ t.ActiveAt around ∧ t.status.ttcActive = false ∧ t.window ≠ t.suppressedWindow := by
  rw [(schedIn_windows ..).2.2, Option.mem_toList] at h
  cases mode with
  | safe | hell | payload => cases h
  | ttc => exact absurd h (tickTtc_not_entry _ _)
  | idle =>
    have hcn : ¬ ((t.observe around .idle).status.windowActive = true →
        t.status.ttcActive = true ∨ t.window = (t.observe around .idle).suppressedWindow) := by
      intro hc
      have hnone := tickIdle_request_none hasModeControl t.status.ttcActive (t := t.observe around .idle) hc
      rw [schedDecide, hnone] at h
      cases h
    push Not at hcn
    obtain ⟨hac, hbf, ho⟩ := hcn
    refine ⟨rfl, (observe_windowActive t around .idle).mp hac, by simpa using hbf, fun hs => ?_⟩
    have hvl := ((observe_windowActive t around .idle).mp hac).valid
    apply ho
    rw [observe_suppressedWindow, if_pos ⟨hvl, hs, hac⟩]
    exact hs

theorem step_not_entry (hs : Suppressed w t) (i : TtcInput) (reason : TtcPassPolicyReason) :
    .entry reason ∉ (t.step i).2 := by
  intro hmem
  cases i with
  | schedIn =>
    exact (schedIn_entry hmem).2.2.2 (hs.window.trans hs.suppressed.symm)
  | setPolicy | setPassWindow | clearPassWindow => cases hmem

theorem StartsSuppression.suppressed {i : TtcInput} (h : StartsSuppression w t i) :
    Suppressed w (t.step i).1 ∧ ∀ reason, .entry reason ∉ (t.step i).2 := by
  cases h with
  | @commLoss hasModeControl around mode pointing hw hac he =>
    obtain ⟨hk, hs, hout⟩ := schedIn_windows hasModeControl around mode pointing t
    rw [hout, Option.mem_toList] at he
    have hm : mode = .ttc := by
      rcases schedDecide_request he with ⟨-, ht⟩ | ⟨hm, -⟩
      · cases ht
      · exact hm
    subst hm
    obtain ⟨hc, hrs⟩ := tickTtc_request_exit he
    refine ⟨⟨?_, ?_, hw ▸ hac.valid⟩, fun reason hmem => ?_⟩
    · exact hk.trans ((schedDecide_window ..).trans hw)
    · have hr := (tickTtc_windows hasModeControl (t.observe around .ttc)).2
      rw [if_pos ⟨hc, hrs, (observe_windowActive t around .ttc).mpr hac⟩] at hr
      exact hs.trans (hr.trans hw)
    · exact absurd (schedIn_entry hmem).1 (by decide)
  | @leftByOthers hasModeControl around pointing hw hac hbf =>
    obtain ⟨hk, hs, -⟩ := schedIn_windows hasModeControl around .idle pointing t
    refine ⟨⟨?_, ?_, hw ▸ hac.valid⟩, fun reason hmem => ?_⟩
    · exact hk.trans ((schedDecide_window ..).trans hw)
    · have hr := (tickIdle_windows hasModeControl t.status.ttcActive (t.observe around .idle)).2
      rw [if_pos (by rw [hbf, (observe_windowActive t around .idle).mpr hac]; rfl)] at hr
      exact hs.trans (hr.trans hw)
    · have hnot := (schedIn_entry hmem).2.2.1
      rw [hbf] at hnot
      cases hnot

theorem run_not_entry (hs : Suppressed w t) (inputs : List TtcInput)
    (hrun : ttcPassManager.Admits (fun t i => ¬ Lifts w t i ∧ TimeKnown w t i) t inputs)
    (reason : TtcPassPolicyReason) : .entry reason ∉ ttcPassManager.trace t inputs := by
  induction inputs generalizing t with
  | nil => simp
  | cons i _ ih =>
    obtain ⟨⟨hlf, ht⟩, hr⟩ := hrun
    rw [Machine.trace_cons, List.mem_append]
    rintro (hnow | hl)
    · exact step_not_entry hs i reason hnow
    · exact ih ((step_suppressed_iff hs i hlf).mpr ht) hr hl

/-- A remembered window stays remembered over a step that does not clear, replace or end it exactly
if the step has a valid GPS time from the start of the window on. In every run that goes on so
after TTC was left for loss of the link or by others, no entry is asked for. -/
theorem reentry_suppressed (w : TtcPassWindow) :
    (∀ (t : TtcPassManager) (i : TtcInput), Suppressed w t → ¬ Lifts w t i →
      (Suppressed w (t.step i).1 ↔ TimeKnown w t i)) ∧
    ∀ (before after : List TtcInput) (i : TtcInput),
      StartsSuppression w (ttcPassManager.run {} before) i →
      ttcPassManager.Admits (fun t i => ¬ Lifts w t i ∧ TimeKnown w t i)
        (ttcPassManager.run {} (before ++ [i])) after →
      ∀ reason, .entry reason ∉ ttcPassManager.trace (ttcPassManager.run {} before) (i :: after) := by
  refine ⟨fun t i hs hlifts => step_suppressed_iff hs i hlifts, fun before after i hstart hafter reason => ?_⟩
  obtain ⟨hsuppressed, hquiet⟩ := hstart.suppressed
  rw [Machine.run_append] at hafter
  rw [Machine.trace_cons, List.mem_append]
  rintro (hnow | hlater)
  · exact hquiet reason hnow
  · exact run_not_entry hsuppressed after hafter reason hlater

theorem not_lifts_of_time (now : UInt64) (ht : t.timeAt around = some now)
    (hin : now < w.endUnixSec) : ¬ Lifts w t (.schedIn hasModeControl around mode pointing) := by
  rintro ⟨l, hl, hend⟩
  rw [ht, Option.some.injEq] at hl
  subst hl
  exact absurd hend (UInt64.not_le.mpr hin)

theorem not_lifts_of_no_time (ht : t.timeAt around = none) :
    ¬ Lifts w t (.schedIn hasModeControl around mode pointing) := by
  rintro ⟨l, hl, -⟩
  rw [ht] at hl
  cases hl

def newYearWindow : TtcPassWindow := { startUnixSec := 1704067200, endUnixSec := 1704070800 }

def newYearTick (wallclockSec second sentences : UInt32) (mode : SatMode) : TtcInput :=
  .schedIn true
    { wallclockSec
      gps := some
        { hasSample := true, fixValid := true, utcSecondsOfDay := second, utcDateYmd := 20240101
          acceptedSentenceCount := sentences }
      comm := none } mode none

def blindTick (wallclockSec : UInt32) (mode : SatMode) : TtcInput :=
  .schedIn true { wallclockSec, gps := none, comm := none } mode none

/-- The window is entered, and the link is missing from then on. -/
def newYearPass : List TtcInput :=
  [.setPolicy true 5, .setPassWindow newYearWindow.startUnixSec newYearWindow.endUnixSec,
    newYearTick 90 0 0 .idle, newYearTick 100 10 1 .ttc]

theorem newYearPass_comm_loss :
    StartsSuppression newYearWindow (ttcPassManager.run {} newYearPass) (newYearTick 110 20 2 .ttc) :=
  .commLoss (by decide +kernel) ⟨1704067220, by decide +kernel, by decide +kernel⟩ (by decide +kernel)

theorem reentry_suppressed_new_year :
    .entry .windowActive ∉ ttcPassManager.trace (ttcPassManager.run {} newYearPass)
      [newYearTick 110 20 2 .ttc, newYearTick 111 21 3 .idle, newYearTick 112 22 4 .idle] :=
  (reentry_suppressed newYearWindow).2 newYearPass [newYearTick 111 21 3 .idle, newYearTick 112 22 4 .idle]
    (newYearTick 110 20 2 .ttc) newYearPass_comm_loss
    ⟨⟨not_lifts_of_time 1704067221 (by decide +kernel) (by decide), ⟨1704067221, by decide +kernel, by decide⟩⟩,
      ⟨not_lifts_of_time 1704067222 (by decide +kernel) (by decide), ⟨1704067222, by decide +kernel, by decide⟩⟩,
      trivial⟩
    .windowActive

/-- One tick without GPS time, and the manager enters TTC again for the window it has left. -/
theorem reentry_after_lost_time :
    StartsSuppression newYearWindow (ttcPassManager.run {} newYearPass) (newYearTick 110 20 2 .ttc) ∧
      ttcPassManager.Admits (fun t i => ¬ Lifts newYearWindow t i)
        (ttcPassManager.run {} (newYearPass ++ [newYearTick 110 20 2 .ttc]))
        [blindTick 111 .idle, newYearTick 112 22 3 .idle] ∧
      .entry .windowActive ∈ ttcPassManager.trace (ttcPassManager.run {} newYearPass)
        [newYearTick 110 20 2 .ttc, blindTick 111 .idle, newYearTick 112 22 3 .idle] := by
  refine ⟨newYearPass_comm_loss, ⟨?_, ?_, trivial⟩, by decide +kernel⟩
  · exact not_lifts_of_no_time (by decide +kernel)
  · exact not_lifts_of_time 1704067222 (by decide +kernel) (by decide)

end TtcPassManager

end ObcFlight
