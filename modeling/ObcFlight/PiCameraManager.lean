import ObcFlight.PayloadTypes

/-!
# The camera manager and its worker

The manager runs one operation at a time on a worker thread. The worker talks to the driver
and to the EPS and leaves a completion, which the controller polls. Here the worker's whole run
takes place at the moment it finishes, and what it was told meanwhile is an input of that moment.
The cancel flag is only ever raised during an operation, so what the worker has seen of it is at
most what it is when the worker finishes.
-/

namespace ObcFlight

/-- What a failed still capture leaves behind. -/
structure CaptureFailure where
  response : CmdResponse
  notOk : response ≠ .ok
  detailCode : UInt32
  raw : Option Bytes
  preview : Option Bytes

/-- The driver's answer to a still capture, with the files it has written. A capture that
succeeds has written both. -/
inductive CaptureOutcome where
  | done (frame : CaptureFrame) (actual : ActualSettings) (backendName cameraModel : Bytes) (raw preview : Bytes)
  | failed (failure : CaptureFailure)

/-- What driver and EPS answer during one operation of the worker, and when the worker has
seen the cancel flag raised: while the supply settles, or after the driver has failed. -/
structure WorkerAnswers where
  available : Bool
  powerOn : CmdResponse
  settleCancelled : Bool
  prepare : CmdResponse
  prepareDetail : UInt32
  capture : CaptureOutcome
  failureCancelled : Bool
  shutdown : CmdResponse
  shutdownDetail : UInt32
  powerOff : CmdResponse

inductive CameraJob where
  | prepare (readyKind : PayloadReadyKind) (settings : PayloadCameraSettings)
  | capture (request : PayloadCaptureMetadata) (settings : PayloadCameraSettings)
  | shutdown (abortSemantics : Bool)

def CameraJob.kind : CameraJob → PayloadOperationKind
  | prepare _ _ => .prepare
  | capture _ _ => .capture
  | shutdown abortSemantics => if abortSemantics then .abort else .shutdown

/-- What the worker does to the world: switch commands with the EPS's answer, and files. -/
inductive CameraEffect where
  | epsSwitch (enabled : Bool) (response : CmdResponse)
  | artifactWritten (request : PayloadCaptureMetadata) (kind : PayloadArtifactKind) (bytes : Bytes)

/-- The files a still capture has written, in the order of the writes. -/
def CaptureOutcome.written (request : PayloadCaptureMetadata) : CaptureOutcome → List CameraEffect
  | .done _ _ _ _ raw preview => [.artifactWritten request .rawFrame raw, .artifactWritten request .previewJpeg preview]
  | .failed failure =>
    (failure.raw.toList.map fun bytes => .artifactWritten request .rawFrame bytes) ++
      failure.preview.toList.map fun bytes => .artifactWritten request .previewJpeg bytes

structure PiCameraManager where
  configured : Bool := false
  powerSettleMs : UInt32 := 0
  busy : Bool := false
  cancelRequested : Bool := false
  prepared : Bool := false
  preparedSettings : PayloadCameraSettings := {}
  logicalPowerEnabled : Bool := false
  proxyAsserted : Bool := false
  worker : Option CameraJob := none
  completion : Option PayloadOperationResult := none

namespace PiCameraManager

def detailNone : UInt32 := 0
def detailDriverUnavailable : UInt32 := 1
def detailProxySetFailed : UInt32 := 3
def detailSettleAborted : UInt32 := 4
def detailDriverPrepareFailed : UInt32 := 5
def detailDriverCaptureFailed : UInt32 := 6
def detailDriverShutdownFailed : UInt32 := 7

def detailOr (fallback detail : UInt32) : UInt32 := if detail = detailNone then fallback else detail

variable (m : PiCameraManager)

def getPreparedSettings : Option PayloadCameraSettings :=
  if m.prepared then some m.preparedSettings else none

def begin (job : CameraJob) (cancelRequested : Bool) (m : PiCameraManager) : PiCameraManager :=
  { m with completion := none, busy := true, cancelRequested, worker := some job }

def beginPrepare (readyKind : PayloadReadyKind) (settings : PayloadCameraSettings) (m : PiCameraManager) :
    Option PiCameraManager :=
  if !m.configured || m.busy then none else some (m.begin (.prepare readyKind settings) false)

def beginCapture (request : PayloadCaptureMetadata) (settings : PayloadCameraSettings) (m : PiCameraManager) :
    Option PiCameraManager :=
  if !m.configured || m.busy || !m.prepared then none
  else some (m.begin (.capture request settings) false)

def beginShutdown (abortSemantics : Bool) (m : PiCameraManager) : Option PiCameraManager :=
  if !m.configured || m.busy then none else some (m.begin (.shutdown abortSemantics) abortSemantics)

def requestAbort : PiCameraManager :=
  if m.configured then { m with cancelRequested := true } else m

def pollCompletion : Option (PayloadOperationResult × PiCameraManager) :=
  m.completion.map fun result => (result, { m with busy := false, completion := none })

/-! ### The worker -/

/-- The flags follow the command only if the EPS has answered OK. -/
def setProxyPower (enabled : Bool) (response : CmdResponse) (m : PiCameraManager) : PiCameraManager × List CameraEffect :=
  (if response = .ok then { m with proxyAsserted := enabled, logicalPowerEnabled := enabled } else m,
    [.epsSwitch enabled response])

variable (answers : WorkerAnswers)

def settleDelay : Bool :=
  !(decide (0 < m.powerSettleMs) && answers.settleCancelled && m.cancelRequested)

/-- The result code of a driver failure depends on the cancel flag as the worker has read it. -/
def failureCode (code : PayloadResultCode) (m : PiCameraManager) : PayloadResultCode :=
  if answers.failureCancelled && m.cancelRequested then .aborted else code

def runPrepare (readyKind : PayloadReadyKind) (settings : PayloadCameraSettings)
    (m : PiCameraManager) : PiCameraManager × PayloadOperationResult × List CameraEffect :=
  let result : PayloadOperationResult :=
    { kind := .prepare, response := .executionError, resultCode := .prepareFailed, detailCode := detailNone
      readyKind, metadata := { appliedSettings := settings } }
  if !answers.available then (m, { result with detailCode := detailDriverUnavailable }, [])
  else
    let (m, switched) := m.setProxyPower true answers.powerOn
    if answers.powerOn ≠ .ok then
      (m, { result with resultCode := .proxyPowerFailed, detailCode := detailProxySetFailed }, switched)
    else if !m.settleDelay answers then
      let (m, cleaned) := m.setProxyPower false answers.powerOff
      (m, { result with resultCode := .aborted, detailCode := detailSettleAborted }, switched ++ cleaned)
    else if answers.prepare ≠ .ok then
      let code := m.failureCode answers .prepareFailed
      let (m, cleaned) := m.setProxyPower false answers.powerOff
      (m, { result with
          response := answers.prepare
          resultCode := code
          detailCode := detailOr detailDriverPrepareFailed answers.prepareDetail },
        switched ++ cleaned)
    else
      (m, { result with
          response := .ok, resultCode := .ok, detailCode := answers.prepareDetail
          logicalPowerEnabled := true, proxyAsserted := true, prepared := true },
        switched)

def runCapture (request : PayloadCaptureMetadata) (settings : PayloadCameraSettings)
    (m : PiCameraManager) : PiCameraManager × PayloadOperationResult × List CameraEffect :=
  let written := CaptureOutcome.written request answers.capture
  let metadata := { request with appliedSettings := settings }
  match answers.capture with
  | .failed failure =>
    let code := m.failureCode answers .captureFailed
    let (m, cleaned) := m.setProxyPower false answers.powerOff
    let shutdownFailed := answers.shutdown ≠ .ok
    (m,
      { kind := .capture
        response := if shutdownFailed then answers.shutdown else failure.response
        resultCode := if shutdownFailed then .shutdownFailed else code
        detailCode :=
          if shutdownFailed then detailOr detailDriverShutdownFailed answers.shutdownDetail
          else detailOr detailDriverCaptureFailed failure.detailCode
        readyKind := settings.readyKind, metadata },
      written ++ cleaned)
  | .done frame actual backendName cameraModel raw preview =>
    (m,
      { kind := .capture, response := .ok, resultCode := .ok, detailCode := detailNone
        logicalPowerEnabled := true, proxyAsserted := true, prepared := true
        readyKind := settings.readyKind
        metadata :=
          { metadata with
            capturePolicy := settings.capturePolicy
            frame, actual, backendName, cameraModel
            rawBytes := UInt32.ofNat raw.length
            previewJpegBytes := UInt32.ofNat preview.length } },
      written)

def runShutdown (abortSemantics : Bool) (m : PiCameraManager) :
    PiCameraManager × PayloadOperationResult × List CameraEffect :=
  let result : PayloadOperationResult :=
    { kind := if abortSemantics then .abort else .shutdown
      response := .ok
      resultCode := if abortSemantics then .aborted else .ok
      detailCode := detailNone }
  let result := if answers.shutdown ≠ .ok then
      { result with
        response := answers.shutdown
        resultCode := .shutdownFailed
        detailCode := detailOr detailDriverShutdownFailed answers.shutdownDetail }
    else result
  let (m, switched) := m.setProxyPower false answers.powerOff
  let result := if answers.powerOff ≠ .ok ∧ result.response = .ok then
      { result with response := .executionError, resultCode := .proxyPowerFailed, detailCode := detailProxySetFailed }
    else result
  (m, result, switched)

/-- The report of the finished operation replaces the tracked flags. -/
def finish (result : PayloadOperationResult) (m : PiCameraManager) : PiCameraManager :=
  { m with
    prepared := result.prepared
    preparedSettings :=
      if result.prepared then
        if result.kind = .prepare ∨ result.kind = .capture then result.metadata.appliedSettings
        else m.preparedSettings
      else {}
    logicalPowerEnabled := result.logicalPowerEnabled
    proxyAsserted := result.proxyAsserted
    completion := some result
    worker := none }

def runJob : CameraJob → PiCameraManager × PayloadOperationResult × List CameraEffect
  | .prepare readyKind settings => m.runPrepare answers readyKind settings
  | .capture request settings => m.runCapture answers request settings
  | .shutdown abortSemantics => m.runShutdown answers abortSemantics

def workerFinishes : PiCameraManager × List CameraEffect :=
  match m.worker with
  | none => (m, [])
  | some job =>
    let (m, result, effects) := m.runJob answers job
    (m.finish result, effects)

end PiCameraManager

/-! ### What the worker reports -/

/-- A report says that the camera is prepared and powered exactly after a prepare or a capture
that has succeeded. -/
structure PayloadOperationResult.Sound (result : PayloadOperationResult) : Prop where
  kind : result.kind = .prepare ∨ result.kind = .capture ∨ result.kind = .shutdown ∨ result.kind = .abort
  prepared : result.prepared = true ↔ result.response = .ok ∧ (result.kind = .prepare ∨ result.kind = .capture)
  powered : result.proxyAsserted = result.prepared
  aborted : result.resultCode = .aborted → result.prepared = false
  notModeExit : result.resultCode ≠ .modeExitAborted

namespace PiCameraManager

variable (answers : WorkerAnswers)

theorem failureCode_cases (code : PayloadResultCode) (m : PiCameraManager) :
    m.failureCode answers code = .aborted ∨ m.failureCode answers code = code := by
  unfold failureCode
  split_ifs
  · exact .inl rfl
  · exact .inr rfl

theorem failureCode_ne_modeExitAborted {code : PayloadResultCode} (hc : code ≠ .modeExitAborted)
    (m : PiCameraManager) : m.failureCode answers code ≠ .modeExitAborted := by
  rcases failureCode_cases answers code m with h | h <;> rw [h]
  · exact nofun
  · exact hc

theorem runPrepare_sound (r : PayloadReadyKind) (s : PayloadCameraSettings)
    (m : PiCameraManager) : (m.runPrepare answers r s).2.1.Sound := by
  unfold runPrepare
  dsimp only
  split_ifs with _ _ _ hp
  · exact ⟨.inl rfl, by simp, rfl, nofun, nofun⟩
  · exact ⟨.inl rfl, by simp, rfl, nofun, nofun⟩
  · exact ⟨.inl rfl, by simp, rfl, fun _ => rfl, nofun⟩
  · exact ⟨.inl rfl, by simp [hp], rfl, fun _ => rfl, failureCode_ne_modeExitAborted answers (by decide) _⟩
  · exact ⟨.inl rfl, by simp, rfl, nofun, nofun⟩

theorem runCapture_sound (r : PayloadCaptureMetadata) (s : PayloadCameraSettings)
    (m : PiCameraManager) : (m.runCapture answers r s).2.1.Sound := by
  unfold runCapture
  cases answers.capture with
  | done => exact ⟨.inr (.inl rfl), by simp, rfl, nofun, nofun⟩
  | failed f =>
    dsimp only
    by_cases hs : answers.shutdown = .ok
    · refine ⟨.inr (.inl rfl), by simp [hs, f.notOk], rfl, fun _ => rfl, ?_⟩
      simpa [hs] using failureCode_ne_modeExitAborted answers (by decide) m
    · exact ⟨.inr (.inl rfl), by simp [hs], rfl, fun _ => rfl, by simp [hs]⟩

theorem runShutdown_sound (a : Bool) (m : PiCameraManager) :
    (m.runShutdown answers a).2.1.Sound := by
  unfold runShutdown
  dsimp only
  by_cases hs : answers.shutdown = .ok <;> by_cases hp : answers.powerOff = .ok <;>
    cases a <;> constructor <;> simp [hs, hp]

theorem runJob_sound (job : CameraJob) (m : PiCameraManager) :
    (m.runJob answers job).2.1.Sound := by
  cases job with
  | prepare r s => exact runPrepare_sound answers r s m
  | capture rq s => exact runCapture_sound answers rq s m
  | shutdown a => exact runShutdown_sound answers a m

theorem runJob_frame (job : CameraJob) (m : PiCameraManager) : ∃ logicalPowerEnabled proxyAsserted,
      (m.runJob answers job).1 = { m with logicalPowerEnabled, proxyAsserted } := by
  have hp (enabled : Bool) (response : CmdResponse) (m : PiCameraManager) :
      ∃ logicalPowerEnabled proxyAsserted,
        (m.setProxyPower enabled response).1 = { m with logicalPowerEnabled, proxyAsserted } := by
    unfold setProxyPower
    split_ifs
    · exact ⟨enabled, enabled, rfl⟩
    · exact ⟨m.logicalPowerEnabled, m.proxyAsserted, rfl⟩
  have ht (m : PiCameraManager) :
      ∃ logicalPowerEnabled proxyAsserted,
        ((m.setProxyPower true answers.powerOn).1.setProxyPower false answers.powerOff).1 =
          { m with logicalPowerEnabled, proxyAsserted } := by
    obtain ⟨l, p, hf⟩ := hp true answers.powerOn m
    obtain ⟨l', p', hs⟩ := hp false answers.powerOff (m.setProxyPower true answers.powerOn).1
    exact ⟨l', p', by rw [hs, hf]⟩
  cases job with
  | prepare =>
    simp only [runJob, runPrepare]
    split_ifs
    · exact ⟨m.logicalPowerEnabled, m.proxyAsserted, rfl⟩
    · exact hp true answers.powerOn m
    · exact ht m
    · exact ht m
    · exact hp true answers.powerOn m
  | capture =>
    simp only [runJob, runCapture]
    cases answers.capture with
    | done => exact ⟨m.logicalPowerEnabled, m.proxyAsserted, rfl⟩
    | failed => exact hp false answers.powerOff m
  | shutdown => exact hp false answers.powerOff m

theorem workerFinishes_none {m : PiCameraManager} (h : m.worker = none) :
    m.workerFinishes answers = (m, []) := by
  rw [workerFinishes, h]

/-- A running worker leaves its report, and nothing else of the manager changes but what the
report says. -/
theorem workerFinishes_some {m : PiCameraManager} {job : CameraJob} (h : m.worker = some job) :
    (m.workerFinishes answers).1 = m.finish (m.runJob answers job).2.1 ∧
      (m.workerFinishes answers).2 = (m.runJob answers job).2.2 := by
  obtain ⟨l, p, hf⟩ := runJob_frame answers job m
  rw [workerFinishes, h]
  dsimp only
  rw [hf]
  exact ⟨rfl, rfl⟩

theorem workerFinishes_busy (m : PiCameraManager) : (m.workerFinishes answers).1.busy = m.busy := by
  cases hw : m.worker with
  | none => rw [workerFinishes_none answers hw]
  | some =>
    rw [(workerFinishes_some answers hw).1]
    rfl

/-- The manager is busy from the start of an operation until its report is polled. -/
structure Inv (m : PiCameraManager) : Prop where
  busy : m.busy = (m.worker.isSome || m.completion.isSome)
  alone : m.completion.isSome = true → m.worker = none
  completed : ∀ r, m.completion = some r → r.Sound ∧ r.prepared = m.prepared
  power : m.proxyAsserted = m.prepared
  prepares : ∀ k s, m.worker = some (.prepare k s) → m.prepared = false
  captures : ∀ r s, m.worker = some (.capture r s) → m.prepared = true

variable {m : PiCameraManager}

theorem Inv.begin (h : m.Inv) (job : CameraJob) (c : Bool)
    (hp : ∀ k s, job = .prepare k s → m.prepared = false)
    (hcp : ∀ r s, job = .capture r s → m.prepared = true) : (m.begin job c).Inv where
  busy := rfl
  alone hc := by simp [PiCameraManager.begin] at hc
  completed r hc := by simp [PiCameraManager.begin] at hc
  power := h.power
  prepares k s hjob := hp k s (Option.some.inj hjob)
  captures r s hjob := hcp r s (Option.some.inj hjob)

theorem requestAbort_eq (m : PiCameraManager) : ∃ cancelRequested, m.requestAbort = { m with cancelRequested } := by
  unfold requestAbort
  split_ifs
  · exact ⟨true, rfl⟩
  · exact ⟨m.cancelRequested, rfl⟩

theorem Inv.requestAbort (h : m.Inv) : m.requestAbort.Inv := by
  obtain ⟨c, heq⟩ := requestAbort_eq m
  rw [heq]
  exact ⟨h.busy, h.alone, h.completed, h.power, h.prepares, h.captures⟩

theorem Inv.polled (h : m.Inv) (hc : m.completion.isSome = true) :
    { m with busy := false, completion := none }.Inv := by
  have hw := h.alone hc
  refine ⟨?_, fun hn => ?_, fun r hn => ?_, h.power, h.prepares, h.captures⟩
  · simp [hw]
  · exact hw
  · simp at hn

theorem Inv.workerFinishes (h : m.Inv) (answers : WorkerAnswers) : (m.workerFinishes answers).1.Inv := by
  cases hw : m.worker with
  | none =>
    rw [workerFinishes_none answers hw]
    exact h
  | some job =>
    rw [(workerFinishes_some answers hw).1]
    have hs := runJob_sound answers job m
    refine ⟨?_, fun _ => rfl, fun r hr => ?_, hs.powered, fun k s hrn => ?_, fun r s hrn => ?_⟩
    · change m.busy = true
      rw [h.busy, hw]
      rfl
    · obtain rfl : (m.runJob answers job).2.1 = r := Option.some.inj hr
      exact ⟨hs, rfl⟩
    · simp [finish] at hrn
    · simp [finish] at hrn

end PiCameraManager

end ObcFlight
