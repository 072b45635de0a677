import ObcFlight.PayloadSafing

/-!
# The power the manager reports

The EPS switches the payload channel when it answers OK, and only then. The worker follows these
answers while it runs, but the report with which an operation ends replaces what it has tracked:
after a failure or a shutdown the report says that the power is off, whether or not the EPS has
accepted to switch it off.
-/

namespace ObcFlight

def acknowledge (acknowledged : Option Bool) : CameraAct → Option Bool
  | .does (.epsSwitch enabled .ok) => some enabled
  | _ => acknowledged

def acknowledgedAfter (acknowledged : Option Bool) (outputs : List PayloadOutput) : Option Bool :=
  (actsOf outputs).foldl acknowledge acknowledged

theorem acknowledgedAfter_append (acknowledged : Option Bool) (xs ys : List PayloadOutput) :
    acknowledgedAfter acknowledged (xs ++ ys) = acknowledgedAfter (acknowledgedAfter acknowledged xs) ys := by
  rw [acknowledgedAfter, actsOf_append, List.foldl_append]
  rfl

namespace PiCameraManager

/-- The worker leaves the channel switched on at the end of an operation that has not succeeded:
the EPS refuses to switch it off when a prepare or a capture fails, or at a shutdown of a camera that
is prepared. -/
def OffRefused (m : PiCameraManager) (answers : WorkerAnswers) : Prop :=
  answers.powerOff ≠ .ok ∧
    match m.worker with
    | none => False
    | some (.prepare _ _) => answers.available = true ∧ answers.powerOn = .ok ∧
        (m.settleDelay answers = false ∨ answers.prepare ≠ .ok)
    | some (.capture _ _) => ∃ failure, answers.capture = .failed failure
    | some (.shutdown _) => m.prepared = true

variable (acknowledged : Option Bool)

theorem foldl_epsSwitch (e : Bool) (r : CmdResponse) (m : PiCameraManager) :
    ((m.setProxyPower e r).2.map CameraAct.does).foldl acknowledge acknowledged =
      if r = .ok then some e else acknowledged := by
  cases r <;> rfl

theorem foldl_written (r : PayloadCaptureMetadata) (o : CaptureOutcome) :
    ((o.written r).map CameraAct.does).foldl acknowledge acknowledged = acknowledged := by
  cases o with
  | done => rfl
  | failed f => cases hraw : f.raw <;> cases hp : f.preview <;>
      simp [CaptureOutcome.written, hraw, hp, acknowledge]

theorem settleDelay_setProxyPower (answers : WorkerAnswers) (e : Bool) (r : CmdResponse)
    (m : PiCameraManager) : (m.setProxyPower e r).1.settleDelay answers = m.settleDelay answers := by
  unfold setProxyPower
  split_ifs <;> rfl

/-- The channel is on exactly if the manager holds the camera for prepared. -/
def Powered (acknowledged : Option Bool) (m : PiCameraManager) : Prop := acknowledged = some true ↔ m.prepared = true

variable {m : PiCameraManager} {acknowledged : Option Bool}

theorem runPrepare_powered_iff (h : Powered acknowledged m) (hpr : m.prepared = false) (a : WorkerAnswers)
    (r : PayloadReadyKind) (s : PayloadCameraSettings) :
    (((m.runPrepare a r s).2.2.map CameraAct.does).foldl acknowledge acknowledged = some true ↔
        (m.runPrepare a r s).2.1.prepared = true) ↔
      ¬ (a.powerOff ≠ .ok ∧ a.available = true ∧ a.powerOn = .ok ∧
        (m.settleDelay a = false ∨ a.prepare ≠ .ok)) := by
  have hoff : acknowledged ≠ some true := fun hon => by
    rw [h.mp hon] at hpr
    cases hpr
  unfold runPrepare
  dsimp only
  rw [settleDelay_setProxyPower]
  by_cases hav : a.available = true
  · rw [if_neg (by simp [hav])]
    by_cases hon : a.powerOn = .ok
    · rw [if_neg (not_not.mpr hon)]
      cases hs : m.settleDelay a with
      | false =>
        rw [if_pos (by rfl)]
        simp only [List.map_append, List.foldl_append, foldl_epsSwitch, hon, if_true]
        by_cases hpw : a.powerOff = .ok <;> simp [hpw, hav]
      | true =>
        rw [if_neg (by decide)]
        by_cases hp : a.prepare = .ok
        · rw [if_neg (not_not.mpr hp)]
          simp [foldl_epsSwitch, hon, hp]
        · rw [if_pos hp]
          simp only [List.map_append, List.foldl_append, foldl_epsSwitch, hon, if_true]
          by_cases hpw : a.powerOff = .ok <;> simp [hpw, hav, hp]
    · rw [if_pos hon]
      simp [foldl_epsSwitch, hon, hoff]
  · rw [if_pos (by simpa using hav)]
    simp [hoff, hav]

theorem runCapture_powered_iff (h : Powered acknowledged m) (hpr : m.prepared = true) (a : WorkerAnswers)
    (r : PayloadCaptureMetadata) (s : PayloadCameraSettings) :
    (((m.runCapture a r s).2.2.map CameraAct.does).foldl acknowledge acknowledged = some true ↔
        (m.runCapture a r s).2.1.prepared = true) ↔
      ¬ (a.powerOff ≠ .ok ∧ ∃ f, a.capture = .failed f) := by
  have hon : acknowledged = some true := h.mpr hpr
  unfold runCapture
  dsimp only
  cases hc : a.capture with
  | done => simp [foldl_written, hon]
  | failed =>
    simp only [List.map_append, List.foldl_append, foldl_written, foldl_epsSwitch]
    by_cases hp : a.powerOff = .ok <;> simp [hp, hon]

theorem runShutdown_prepared (w : WorkerAnswers) (a : Bool) (m : PiCameraManager) :
    (m.runShutdown w a).2.1.prepared = false := by
  unfold runShutdown
  dsimp only
  by_cases hs : w.shutdown = .ok <;> by_cases hp : w.powerOff = .ok <;>
    simp [hs, hp]

theorem runShutdown_powered_iff (h : Powered acknowledged m) (w : WorkerAnswers) (a : Bool) :
    (((m.runShutdown w a).2.2.map CameraAct.does).foldl acknowledge acknowledged = some true ↔
        (m.runShutdown w a).2.1.prepared = true) ↔
      ¬ (w.powerOff ≠ .ok ∧ m.prepared = true) := by
  rw [runShutdown_prepared]
  change (((m.setProxyPower false w.powerOff).2.map CameraAct.does).foldl acknowledge acknowledged = some true ↔ _) ↔ _
  rw [foldl_epsSwitch]
  by_cases hp : w.powerOff = .ok
  · simp [hp]
  · have hiff : acknowledged = some true ↔ m.prepared = true := h
    simp [hp, hiff]

theorem workerFinishes_powered_iff (hinv : m.Inv) (h : Powered acknowledged m) (answers : WorkerAnswers) :
    Powered (((m.workerFinishes answers).2.map CameraAct.does).foldl acknowledge acknowledged)
        (m.workerFinishes answers).1 ↔
      ¬ m.OffRefused answers := by
  unfold OffRefused
  cases hw : m.worker with
  | none =>
    rw [workerFinishes_none answers hw]
    simpa using h
  | some job =>
    obtain ⟨hf, hs⟩ := workerFinishes_some answers hw
    rw [hf, hs]
    cases job with
    | prepare r s =>
      exact runPrepare_powered_iff h (hinv.prepares r s hw) answers r s
    | capture rq s =>
      exact runCapture_powered_iff h (hinv.captures rq s hw) answers rq s
    | shutdown a => exact runShutdown_powered_iff h answers a

theorem OffRefused.reported {a : WorkerAnswers} (h : m.OffRefused a) :
    (m.workerFinishes a).1.worker = none ∧ (m.workerFinishes a).1.proxyAsserted = false := by
  unfold OffRefused at h
  cases hw : m.worker with
  | none =>
    rw [hw] at h
    exact absurd h.2 id
  | some job =>
    rw [hw] at h
    rw [(workerFinishes_some a hw).1]
    refine ⟨rfl, ?_⟩
    change (m.runJob a job).2.1.proxyAsserted = false
    rw [(runJob_sound a job m).powered]
    cases job with
    | prepare =>
      obtain ⟨-, hav, hon, hf⟩ := h
      simp only [runJob, runPrepare, settleDelay_setProxyPower]
      rw [if_neg (by simp [hav]), if_neg (not_not.mpr hon)]
      rcases hf with hs | hp
      · rw [if_pos (by simp [hs])]
      · by_cases hs : m.settleDelay a = false
        · rw [if_pos (by simp [hs])]
        · rw [if_neg (by simpa using hs), if_pos hp]
    | capture =>
      obtain ⟨-, f, hf⟩ := h
      simp only [runJob, runCapture, hf]
    | shutdown ab => exact runShutdown_prepared a ab m

end PiCameraManager

namespace PayloadWork

open PiCameraManager

variable {w : PayloadWork} {acknowledged : Option Bool}

theorem CommandEffect.powered {mode : SatMode} {cmd : PayloadCommand} {n : UInt32} {w' : PayloadWork}
    {a : List PayloadAnswer} {acts : List CameraAct} (h : CommandEffect mode cmd n w w' a acts)
    (hp : Powered acknowledged w.manager) : Powered (acts.foldl acknowledge acknowledged) w'.manager := by
  cases h with
  | answered | prepares | captures | abortShutsDown | shutsDown | publishes => exact hp
  | aborts =>
    obtain ⟨r, heq⟩ := requestAbort_eq w.manager
    change Powered acknowledged w.manager.requestAbort
    rw [heq]
    exact hp

theorem Inv.powered_tick (h : w.Inv) (hp : Powered acknowledged w.manager) (mode : SatMode) (p : Bool)
    (e : Option CmdResponse) :
    Powered ((w.tick mode p e).2.2.foldl acknowledge acknowledged) (w.tick mode p e).1.manager := by
  have hc : Powered ((w.cleanup mode).2.foldl acknowledge acknowledged) (w.cleanup mode).1.manager := by
    rcases h.cleanup_cases mode with ⟨heq, -⟩ | ⟨-, -, -, heq⟩ | ⟨-, -, -, -, heq⟩
    · rw [heq]
      exact hp
    · obtain ⟨q, hab⟩ := requestAbort_eq w.manager
      rw [heq]
      change Powered acknowledged w.manager.requestAbort
      rw [hab]
      exact hp
    · rw [heq]
      exact hp
  have hpl : ((w.cleanup mode).1.poll p).1.manager.prepared = (w.cleanup mode).1.manager.prepared := by
    rcases poll_cases p (w.cleanup mode).1 with ⟨-, heq⟩ | ⟨r, -, -, heq⟩ | ⟨r, -, -, heq⟩
    · rw [heq]
    · rw [heq]
    · obtain ⟨a, ab, -, -, hr⟩ := answerCompletion_fst r (restResponse r)
        { (w.cleanup mode).1 with
          manager := { (w.cleanup mode).1.manager with busy := false, completion := none }
          state := restState r (w.cleanup mode).1.state }
      rw [heq, hr]
  unfold PayloadWork.tick Powered
  dsimp only
  rw [(afterPublication_frame e _).1, hpl]
  exact hc

end PayloadWork

namespace PayloadOpsController

open PiCameraManager

variable {c : PayloadOpsController} {acknowledged : Option Bool}

/-- The worker ends its operation and the channel stays on against its report. -/
def OffRefused (c : PayloadOpsController) : PayloadInput → Prop
  | .workerFinishes answers => c.manager.OffRefused answers
  | _ => False

theorem manager_workerFinishes (c : PayloadOpsController) (a : WorkerAnswers) :
    (payloadOps.step c (.workerFinishes a)).1.manager = (c.manager.workerFinishes a).1 ∧
      actsOf (payloadOps.step c (.workerFinishes a)).2 = (c.manager.workerFinishes a).2.map .does := by
  have hs := seen_workerFinishes a c
  simp only [seen, Prod.mk.injEq] at hs
  exact ⟨congrArg PayloadWork.manager hs.1, hs.2.2⟩

theorem powered_step_iff (hinv : c.work.Inv) (h : Powered acknowledged c.manager) (i : PayloadInput) :
    Powered (acknowledgedAfter acknowledged (payloadOps.step c i).2) (payloadOps.step c i).1.manager ↔
      ¬ c.OffRefused i := by
  cases i with
  | command n cmd b =>
    have he : Obeys b n cmd c (c.command b n cmd) := obeys_command hinv
    exact iff_of_true (he.powered h) id
  | schedIn b =>
    obtain ⟨p, e, -, hs⟩ := schedIn_work b hinv
    have ht := hinv.powered_tick h b.mode p e
    rw [← hs] at ht
    exact iff_of_true ht id
  | dpWritten f =>
    refine iff_of_true ?_ id
    have hw := congrArg PayloadWork.manager (work_dpWrittenIn f c)
    change Powered acknowledged (c.dpWrittenIn f).work.manager
    rw [hw]
    exact h
  | workerFinishes a =>
    obtain ⟨hm, hacts⟩ := manager_workerFinishes c a
    rw [acknowledgedAfter, hm, hacts]
    exact workerFinishes_powered_iff hinv.manager h a

/-- With no operation running, power that is reported off is off, and so is the channel in OFF. -/
def PowerTruthful (acknowledged : Option Bool) (c : PayloadOpsController) : Prop :=
  c.manager.worker = none → (c.manager.proxyAsserted = false → acknowledged ≠ some true) ∧
    (c.state = .off → acknowledged ≠ some true)

theorem powerTruthful_of_powered (hinv : c.work.Inv) (h : Powered acknowledged c.manager) :
    c.PowerTruthful acknowledged := by
  intro hw
  refine ⟨fun hpr hon => ?_, fun hoff hon => ?_⟩
  · rw [show c.manager.proxyAsserted = c.manager.prepared from hinv.manager.power, h.mp hon] at hpr
    cases hpr
  · have hf : c.work.manager.busy = false := by
      by_contra hbs
      rcases (hinv.working (by simpa using hbs)).2 with hs | hs | hs <;>
        rw [show c.work.state = .off from hoff] at hs <;> cases hs
    have hnone : c.work.publishing = none := by
      cases hs : c.work.publishing with
      | none => rfl
      | some s =>
        have hst := (hinv.publishing s hs).1
        rw [show c.work.state = .off from hoff] at hst
        cases hst
    have hp := (hinv.resting hf hnone).not_prepared (by rw [show c.work.state = .off from hoff]; decide)
    rw [show c.work.manager.prepared = true from h.mp hon] at hp
    cases hp

theorem powerTruthful_step_iff (hinv : c.work.Inv) (h : Powered acknowledged c.manager) (i : PayloadInput) :
    (payloadOps.step c i).1.PowerTruthful (acknowledgedAfter acknowledged (payloadOps.step c i).2) ↔
      ¬ c.OffRefused i := by
  constructor
  · intro ht hr
    have hpw := mt (powered_step_iff hinv h i).mp (not_not.mpr hr)
    cases i with
    | workerFinishes a =>
      obtain ⟨hw, hp⟩ := PiCameraManager.OffRefused.reported hr
      rw [← (manager_workerFinishes c a).1] at hw hp
      have hoff := (ht hw).1 hp
      have hnext := (work_inv_step hinv (.workerFinishes a)).manager.power
      refine hpw (iff_of_false hoff ?_)
      rw [← show (payloadOps.step c (.workerFinishes a)).1.manager.proxyAsserted =
        (payloadOps.step c (.workerFinishes a)).1.manager.prepared from hnext, hp]
      exact Bool.false_ne_true
    | command | schedIn | dpWritten => exact hr
  · intro hk
    exact powerTruthful_of_powered (work_inv_step hinv i) ((powered_step_iff hinv h i).mpr hk)

/-- From a state with the channel on exactly if the camera is prepared, a step leaves the reported
power truthful exactly if it is not the end of an operation after which the EPS has refused to switch
off, and in every run without such a step the reported power is truthful. -/
theorem payload_power_truthful (configured : Bool) (runtimeRoot : Bytes) (productId : UInt32)
    (sizes : DataProductSizes) (capabilities : PayloadCapabilities) (runtimeConfig : PayloadRuntimeConfig)
    (files : PayloadFiles) (inputs : List PayloadInput) :
    let start := configureRuntime configured runtimeRoot productId sizes capabilities runtimeConfig files
    let c := payloadOps.run start inputs
    let acknowledged := acknowledgedAfter none (payloadOps.trace start inputs)
    (Powered acknowledged c.manager → ∀ i,
      (payloadOps.step c i).1.PowerTruthful (acknowledgedAfter acknowledged (payloadOps.step c i).2) ↔ ¬ c.OffRefused i) ∧
    (payloadOps.Admits (fun c i => ¬ c.OffRefused i) start inputs → c.PowerTruthful acknowledged) := by
  intro start c acknowledged
  have hstart : start.work.Inv := work_inv_configureRuntime ..
  have hinv : c.work.Inv := work_inv_run hstart inputs
  refine ⟨fun h i => powerTruthful_step_iff hinv h i, fun hadmits => powerTruthful_of_powered hinv ?_⟩
  have hrun := payloadOps.observed_invariant_of_admits (f := fun c i => (payloadOps.step c i).2)
    (I := fun outputs c => c.work.Inv ∧ Powered (acknowledgedAfter none outputs) c.manager)
    (fun outputs c i hkept h => ⟨work_inv_step h.1 i, by
      rw [acknowledgedAfter_append]
      exact (powered_step_iff h.1 h.2 i).mpr hkept⟩)
    [] start ⟨hstart, iff_of_false (by decide : ¬ (none : Option Bool) = some true) Bool.false_ne_true⟩ inputs hadmits
  exact hrun.2

def benchPrepareAndShutdown : List PayloadInput :=
  benchPrepare ++ [.command 2 .shutdown benchAround, .workerFinishes benchWorker, .schedIn benchAround]

/-- The channel is switched on by the prepare and off by the shutdown. -/
theorem payload_power_truthful_prepare :
    acknowledgedAfter none (payloadOps.trace benchController benchPrepare) = some true ∧
      let c := payloadOps.run benchController benchPrepareAndShutdown
      let acknowledged := acknowledgedAfter none (payloadOps.trace benchController benchPrepareAndShutdown)
      c.manager.worker = none ∧ c.state = .off ∧ acknowledged = some false ∧ c.PowerTruthful acknowledged := by
  refine ⟨by decide +kernel, by decide +kernel, by decide +kernel, by decide +kernel, ?_⟩
  exact (payload_power_truthful true (ascii "/obc") 7 {} {} {} {} benchPrepareAndShutdown).2
    ⟨id, fun hrefused => hrefused.1 rfl, id, id, fun hrefused => hrefused.1 rfl, id, trivial⟩

/-- The driver fails to prepare, and the EPS refuses to switch off again. -/
def benchRefusedOff : List PayloadInput :=
  [.command 1 .prepare benchAround,
    .workerFinishes { benchWorker with prepare := .executionError, powerOff := .executionError }, .schedIn benchAround]

/-- The state is OFF and the power is reported off, with the channel on. -/
theorem power_left_on :
    (payloadOps.run benchController benchRefusedOff).manager.worker = none ∧
      (payloadOps.run benchController benchRefusedOff).manager.proxyAsserted = false ∧
      (payloadOps.run benchController benchRefusedOff).state = .off ∧
      acknowledgedAfter none (payloadOps.trace benchController benchRefusedOff) = some true := by
  refine ⟨by decide +kernel, by decide +kernel, by decide +kernel, by decide +kernel⟩

end PayloadOpsController

end ObcFlight
