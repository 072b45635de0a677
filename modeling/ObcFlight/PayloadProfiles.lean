import ObcFlight.PayloadTypes

/-!
# Camera defaults and capture settings

The defaults that commands set, the checks they pass first, and the settings a prepare or a
capture is run with.
-/

namespace ObcFlight

namespace PayloadDetail

def none : UInt32 := 0
def runtimeUnconfigured : UInt32 := 1
def invalidExposure : UInt32 := 2
def invalidGain : UInt32 := 3
def runtimeRootFailed : UInt32 := 4
def invalidJpegQuality : UInt32 := 5
def invalidMask : UInt32 := 6
def unsupportedField : UInt32 := 7
def rawSessionRequired : UInt32 := 10
def invalidRegisterAddress : UInt32 := 11
def invalidRegisterValue : UInt32 := 12
def dataProductReadFailed : UInt32 := 13
def dataProductTooLarge : UInt32 := 14
def dataProductPortsUnavailable : UInt32 := 15
def dataProductBufferUnavailable : UInt32 := 16
def dataProductSerializeFailed : UInt32 := 17
def dataProductWriteTimeout : UInt32 := 18
def captureManifestWriteFailed : UInt32 := 19
def captureManifestReadFailed : UInt32 := 20
def captureIndexNotFound : UInt32 := 21
def artifactNotAvailable : UInt32 := 22
def fullRawDeferred : UInt32 := 24
def sessionReprepareRequired : UInt32 := 25

def rejectCode (detail : UInt32) : PayloadResultCode :=
  if detail = unsupportedField then .rejectedUnsupported else .rejectedInvalidConfig

end PayloadDetail

def payloadMaskSubset (mask allowedMask : UInt32) : Bool := decide (mask &&& ~~~allowedMask = 0)

def payloadMaskIntersects (mask disallowedMask : UInt32) : Bool := decide (mask &&& disallowedMask ≠ 0)

structure PayloadProfiles where
  runtimeConfig : PayloadRuntimeConfig
  capabilities : PayloadCapabilities
  cameraDefaults : PayloadCameraSettings
  autoDefaults : PayloadCameraSettings
  deterministicDefaults : PayloadCameraSettings

namespace PayloadProfiles

/-- The defaults that `configureRuntime` derives from the configuration. -/
def configure (runtimeConfig : PayloadRuntimeConfig) (capabilities : PayloadCapabilities) : PayloadProfiles :=
  let cameraDefaults : PayloadCameraSettings :=
    { resolution := runtimeConfig.defaultResolution
      jpegQuality := runtimeConfig.defaultJpegQuality
      awbMode := .off }
  { runtimeConfig, capabilities, cameraDefaults
    autoDefaults := { cameraDefaults with capturePolicy := .auto, awbMode := .auto }
    deterministicDefaults :=
      { cameraDefaults with
        exposureUsec := runtimeConfig.defaultExposureUsec
        gainX100 := runtimeConfig.defaultGainX100 } }

variable (p : PayloadProfiles)

def supports (field : UInt32) : Bool := payloadMaskIntersects p.capabilities.supportedMask field

/-! ### Checks -/

def validateProfileCommon (settings : PayloadCameraSettings) : Except UInt32 Unit := do
  if settings.jpegQuality = 0 ∨ 100 < settings.jpegQuality then
    throw PayloadDetail.invalidJpegQuality
  let supportedAwb : PayloadAwbMode := if settings.capturePolicy = .auto then .auto else .off
  let unsupported :=
    !p.supports PayloadFieldMask.jpegQuality && decide (settings.jpegQuality ≠ p.runtimeConfig.defaultJpegQuality) ||
    !p.supports PayloadFieldMask.hflip && settings.hflip ||
    !p.supports PayloadFieldMask.vflip && settings.vflip ||
    !p.supports PayloadFieldMask.awbMode && decide (settings.awbMode ≠ supportedAwb) ||
    !p.supports PayloadFieldMask.meteringMode && decide (settings.meteringMode ≠ .centre) ||
    !p.supports PayloadFieldMask.evCompX100 && decide (settings.evCompX100 ≠ 0) ||
    !p.supports PayloadFieldMask.brightnessX100 && decide (settings.brightnessX100 ≠ 0) ||
    !p.supports PayloadFieldMask.contrastX100 && decide (settings.contrastX100 ≠ 0) ||
    !p.supports PayloadFieldMask.saturationX100 && decide (settings.saturationX100 ≠ 0) ||
    !p.supports PayloadFieldMask.sharpnessX100 && decide (settings.sharpnessX100 ≠ 0)
  if unsupported then
    throw PayloadDetail.unsupportedField

def validateDeterministicDefaults (settings : PayloadCameraSettings) : Except UInt32 Unit := do
  p.validateProfileCommon settings
  if settings.exposureUsec = 0 then
    throw PayloadDetail.invalidExposure
  if settings.gainX100 < 100 then
    throw PayloadDetail.invalidGain

def validateAutoDefaults (settings : PayloadCameraSettings) : Except UInt32 Unit :=
  p.validateProfileCommon settings

def validateRawRegisterAddress (address : UInt32) : Except UInt32 Unit :=
  if 0xFFFF < address then throw PayloadDetail.invalidRegisterAddress else pure ()

def validateRawRegisterValue (value : UInt32) : Except UInt32 Unit :=
  if 0xFF < value then throw PayloadDetail.invalidRegisterValue else pure ()

def allowedMask : PayloadCapturePolicy → UInt32
  | .auto => p.capabilities.autoMutableMask
  | .deterministic => p.capabilities.deterministicMutableMask
  | .rawSensor => 0

def validateCaptureRequest (capturePolicy : PayloadCapturePolicy)
    (requested : PayloadCameraSettings) (applyMask : UInt32) : Except UInt32 Unit := do
  if !payloadMaskSubset applyMask (p.allowedMask capturePolicy) then
    throw (if payloadMaskIntersects applyMask (~~~p.capabilities.supportedMask) then PayloadDetail.unsupportedField
      else PayloadDetail.invalidMask)
  if payloadMaskIntersects applyMask PayloadFieldMask.exposureUsec && decide (requested.exposureUsec = 0) then
    throw PayloadDetail.invalidExposure
  if payloadMaskIntersects applyMask PayloadFieldMask.gainX100 && decide (requested.gainX100 < 100) then
    throw PayloadDetail.invalidGain

/-! ### Commands -/

def untuned (settings : PayloadCameraSettings) : PayloadCameraSettings :=
  { settings with brightnessX100 := 0, contrastX100 := 0, saturationX100 := 0, sharpnessX100 := 0 }

/-- The deterministic form of a request: no white balance, no metering choice, no tuning. -/
def deterministicForm (settings : PayloadCameraSettings) : PayloadCameraSettings :=
  untuned { settings with
    readyKind := .nonRaw
    capturePolicy := .deterministic
    awbMode := .off
    meteringMode := .centre
    evCompX100 := 0 }

def setCameraDefaults (resolutionPreset : PayloadResolutionPreset) (jpegQuality : UInt32)
    (hflip vflip : Bool) : Except UInt32 PayloadProfiles := do
  let cameraDefaults :=
    { deterministicForm p.cameraDefaults with resolution := resolutionPreset, jpegQuality, hflip, vflip }
  p.validateProfileCommon cameraDefaults
  return { p with
    cameraDefaults
    autoDefaults := { p.autoDefaults with resolution := resolutionPreset, jpegQuality, hflip, vflip }
    deterministicDefaults := { p.deterministicDefaults with resolution := resolutionPreset, jpegQuality, hflip, vflip } }

/-- The automatic form of a request, from the automatic defaults. -/
def autoRequest (awbMode : PayloadAwbMode) (meteringMode : PayloadMeteringMode)
    (evCompX100 : Int32) : PayloadCameraSettings :=
  untuned { p.autoDefaults with readyKind := .nonRaw, capturePolicy := .auto, awbMode, meteringMode, evCompX100 }

def setAutoDefaults (awbMode : PayloadAwbMode) (meteringMode : PayloadMeteringMode)
    (evCompX100 : Int32) : Except UInt32 PayloadProfiles := do
  let settings := p.autoRequest awbMode meteringMode evCompX100
  p.validateAutoDefaults settings
  return { p with autoDefaults := settings }

def deterministicRequest (exposureUsec gainX100 : UInt32) : PayloadCameraSettings :=
  { deterministicForm p.deterministicDefaults with exposureUsec, gainX100 }

def setDeterministicDefaults (exposureUsec gainX100 : UInt32) : Except UInt32 PayloadProfiles := do
  let settings := p.deterministicRequest exposureUsec gainX100
  p.validateDeterministicDefaults settings
  return { p with deterministicDefaults := settings }

def rawRequest : PayloadCameraSettings :=
  { p.deterministicDefaults with readyKind := .rawSensor, capturePolicy := .rawSensor }

/-! ### Settings of an operation -/

def prepareSettingsForReady : PayloadReadyKind → PayloadCameraSettings
  | .rawSensor => p.rawRequest
  | .nonRaw =>
    { p.cameraDefaults with
      readyKind := .nonRaw
      capturePolicy := .auto
      awbMode := p.autoDefaults.awbMode
      meteringMode := p.autoDefaults.meteringMode
      evCompX100 := p.autoDefaults.evCompX100 }

def captureSessionMatchesPreparedSettings (capturePolicy : PayloadCapturePolicy)
    (preparedSettings requested : PayloadCameraSettings) : Bool :=
  let rawCapture := decide (capturePolicy = .rawSensor)
  let rawPrepared := decide (preparedSettings.readyKind = .rawSensor)
  rawCapture == rawPrepared && (rawCapture || decide (preparedSettings.resolution = requested.resolution))

/-- The settings a capture starts from, before the fields of the command. -/
def captureBase (capturePolicy : PayloadCapturePolicy) : PayloadCameraSettings :=
  let source := if capturePolicy = .auto then p.autoDefaults else p.deterministicDefaults
  { p.cameraDefaults with
    readyKind := .nonRaw
    capturePolicy
    exposureUsec := if capturePolicy = .auto then p.cameraDefaults.exposureUsec else source.exposureUsec
    gainX100 := if capturePolicy = .auto then p.cameraDefaults.gainX100 else source.gainX100
    awbMode := source.awbMode
    meteringMode := source.meteringMode
    evCompX100 := source.evCompX100
    brightnessX100 := source.brightnessX100
    contrastX100 := source.contrastX100
    saturationX100 := source.saturationX100
    sharpnessX100 := source.sharpnessX100 }

/-- The settings of a capture and the mask of the command's fields that were taken over. -/
def resolveCaptureSettings (capturePolicy : PayloadCapturePolicy)
    (requested : PayloadCameraSettings) (applyMask : UInt32) : PayloadCameraSettings × UInt32 :=
  if capturePolicy = .rawSensor then
    ({ requested with readyKind := .rawSensor, capturePolicy := .rawSensor }, 0)
  else
    let base := p.captureBase capturePolicy
    let applies (field : UInt32) : Bool :=
      payloadMaskIntersects applyMask field && payloadMaskIntersects (p.allowedMask capturePolicy) field
    ({ base with
        exposureUsec := if applies PayloadFieldMask.exposureUsec then requested.exposureUsec else base.exposureUsec
        gainX100 := if applies PayloadFieldMask.gainX100 then requested.gainX100 else base.gainX100
        awbMode := if applies PayloadFieldMask.awbMode then requested.awbMode else base.awbMode
        meteringMode := if applies PayloadFieldMask.meteringMode then requested.meteringMode else base.meteringMode
        evCompX100 := if applies PayloadFieldMask.evCompX100 then requested.evCompX100 else base.evCompX100
        brightnessX100 :=
          if applies PayloadFieldMask.brightnessX100 then requested.brightnessX100 else base.brightnessX100
        contrastX100 := if applies PayloadFieldMask.contrastX100 then requested.contrastX100 else base.contrastX100
        saturationX100 :=
          if applies PayloadFieldMask.saturationX100 then requested.saturationX100 else base.saturationX100
        sharpnessX100 := if applies PayloadFieldMask.sharpnessX100 then requested.sharpnessX100 else base.sharpnessX100 },
      ([PayloadFieldMask.exposureUsec, PayloadFieldMask.gainX100, PayloadFieldMask.awbMode,
        PayloadFieldMask.meteringMode, PayloadFieldMask.evCompX100, PayloadFieldMask.brightnessX100,
        PayloadFieldMask.contrastX100, PayloadFieldMask.saturationX100,
        PayloadFieldMask.sharpnessX100].filter applies).foldl (· ||| ·) 0)

end PayloadProfiles

end ObcFlight
