import ObcFlight.AuthorityTypes
import ObcFlight.Numerals

/-!
# The payload camera: its data

Settings, capture records and the header that goes with every data product and, as the
manifest of a capture, to the disk. What the driver measures about a frame is kept together,
since it is copied as a whole wherever it goes.
-/

namespace ObcFlight

inductive PayloadState
  | off
  | preparing
  | ready
  | capturing
  | publishing
  | aborting
  | fault
deriving DecidableEq

inductive PayloadReadyKind
  | nonRaw
  | rawSensor
deriving DecidableEq

inductive PayloadCapturePolicy
  | deterministic
  | auto
  | rawSensor
deriving DecidableEq

inductive PayloadArtifactKind
  | previewJpeg
  | rawFrame
deriving DecidableEq

inductive PayloadPixelFormat
  | unknown
  | yuyv
  | uyvy
  | nv12
  | rgb888
  | bgr888
deriving DecidableEq

inductive PayloadResolutionPreset
  | vga640x480
  | hd1280x720
  | full3280x2464
deriving DecidableEq

inductive PayloadAwbMode
  | auto
  | off
  | daylight
  | cloudy
  | tungsten
  | fluorescent
deriving DecidableEq

inductive PayloadMeteringMode
  | centre
  | spot
  | matrix
deriving DecidableEq

inductive PayloadResultCode
  | none
  | ok
  | rejectedMode
  | rejectedBusy
  | rejectedNotReady
  | rejectedInvalidConfig
  | rejectedUnconfigured
  | proxyPowerFailed
  | prepareFailed
  | captureFailed
  | shutdownFailed
  | aborted
  | modeExitAborted
  | storageFailed
  | rejectedUnsupported
deriving DecidableEq

inductive PayloadOperationKind
  | none
  | prepare
  | capture
  | shutdown
  | abort
  | internalModeExit
  | publishCapture
deriving DecidableEq

namespace PayloadFieldMask

def jpegQuality : UInt32 := (1 : UInt32) <<< 1
def hflip : UInt32 := (1 : UInt32) <<< 2
def vflip : UInt32 := (1 : UInt32) <<< 3
def exposureUsec : UInt32 := (1 : UInt32) <<< 4
def gainX100 : UInt32 := (1 : UInt32) <<< 5
def awbMode : UInt32 := (1 : UInt32) <<< 6
def meteringMode : UInt32 := (1 : UInt32) <<< 7
def evCompX100 : UInt32 := (1 : UInt32) <<< 8
def brightnessX100 : UInt32 := (1 : UInt32) <<< 9
def contrastX100 : UInt32 := (1 : UInt32) <<< 10
def saturationX100 : UInt32 := (1 : UInt32) <<< 11
def sharpnessX100 : UInt32 := (1 : UInt32) <<< 12

end PayloadFieldMask

structure PayloadRuntimeConfig where
  powerSettleMs : UInt32 := 2000
  defaultResolution : PayloadResolutionPreset := .hd1280x720
  defaultExposureUsec : UInt32 := 10000
  defaultGainX100 : UInt32 := 100
  defaultJpegQuality : UInt32 := 90
  dataProductMaxBytes : UInt32 := 2097152
  dataProductPublishTimeoutTicks : UInt32 := 50

/-- Sizes of the framework's data products: the serialised header record, what a record of
bytes adds to its bytes, and the largest container. -/
structure DataProductSizes where
  headerRecord : ℕ := 1251
  recordOverhead : ℕ := 6
  container : ℕ := 65535

structure PayloadCameraSettings where
  readyKind : PayloadReadyKind := .nonRaw
  capturePolicy : PayloadCapturePolicy := .deterministic
  resolution : PayloadResolutionPreset := .hd1280x720
  jpegQuality : UInt32 := 90
  hflip : Bool := false
  vflip : Bool := false
  exposureUsec : UInt32 := 10000
  gainX100 : UInt32 := 100
  awbMode : PayloadAwbMode := .auto
  meteringMode : PayloadMeteringMode := .centre
  evCompX100 : Int32 := 0
  brightnessX100 : Int32 := 0
  contrastX100 : Int32 := 0
  saturationX100 : Int32 := 0
  sharpnessX100 : Int32 := 0
deriving DecidableEq

/-- The part of the driver's capabilities that decides something. -/
structure PayloadCapabilities where
  backendName : Bytes := []
  cameraModel : Bytes := []
  supportedMask : UInt32 := 0
  autoMutableMask : UInt32 := 0
  deterministicMutableMask : UInt32 := 0
  rawRegisterSupported : Bool := false

/-- Time and format of a frame. -/
structure CaptureFrame where
  captureTimeSec : UInt32 := 0
  captureTimeUsec : UInt32 := 0
  pixelFormat : PayloadPixelFormat := .unknown
  imageWidth : UInt32 := 0
  imageHeight : UInt32 := 0
deriving DecidableEq

/-- The settings the camera has really used. -/
structure ActualSettings where
  exposureUsec : UInt32 := 0
  gainX100 : UInt32 := 0
  awbValid : Bool := false
  awbColorTemperatureK : UInt32 := 0
  awbRedGainX1000 : UInt32 := 0
  awbBlueGainX1000 : UInt32 := 0
deriving DecidableEq

structure PayloadCaptureMetadata where
  capturePolicy : PayloadCapturePolicy := .deterministic
  backendName : Bytes := []
  cameraModel : Bytes := []
  captureId : UInt32 := 0
  captureIndex : UInt8 := 0
  bootCount : UInt32 := 0
  frame : CaptureFrame := {}
  requestedMask : UInt32 := 0
  appliedMask : UInt32 := 0
  rawRelativePath : Bytes := []
  previewRelativePath : Bytes := []
  previewDataProductRelativePath : Bytes := []
  rawDataProductRelativePath : Bytes := []
  appliedSettings : PayloadCameraSettings := {}
  actual : ActualSettings := {}
  rawBytes : UInt32 := 0
  previewJpegBytes : UInt32 := 0
  previewDataProductPublished : Bool := false
  rawDataProductPublished : Bool := false
  lastPublishedArtifactKind : PayloadArtifactKind := .previewJpeg
  resultCode : PayloadResultCode := .none
deriving DecidableEq

structure PayloadCaptureArtifactHeaderV2 where
  version : UInt16
  captureId : UInt32
  captureIndex : UInt8
  artifactKind : PayloadArtifactKind
  bootCount : UInt32
  frame : CaptureFrame
  capturePolicy : PayloadCapturePolicy
  resultCode : PayloadResultCode
  requestedMask : UInt32
  appliedMask : UInt32
  resolution : PayloadResolutionPreset
  jpegQualityApplied : UInt32
  exposureUsec : UInt32
  gainX100 : UInt32
  actual : ActualSettings
  rawBytes : UInt32
  previewJpegBytes : UInt32
  backendName : Bytes
  cameraModel : Bytes
  rawRelativePath : Bytes
  previewRelativePath : Bytes
  previewDataProductRelativePath : Bytes
  rawDataProductRelativePath : Bytes
  previewDataProductPublished : Bool
  rawDataProductPublished : Bool
deriving DecidableEq

namespace PayloadCaptureMetadata

variable (m : PayloadCaptureMetadata)

def relativePath : PayloadArtifactKind → Bytes
  | .rawFrame => m.rawRelativePath
  | .previewJpeg => m.previewRelativePath

def makeCaptureArtifactHeader (artifactKind : PayloadArtifactKind)
    (currentDataProductPath : Bytes) (currentDataProductPublished : Bool) :
    PayloadCaptureArtifactHeaderV2 where
  version := 2
  captureId := m.captureId
  captureIndex := m.captureIndex
  artifactKind
  bootCount := m.bootCount
  frame := m.frame
  capturePolicy := m.capturePolicy
  resultCode := m.resultCode
  requestedMask := m.requestedMask
  appliedMask := m.appliedMask
  resolution := m.appliedSettings.resolution
  jpegQualityApplied := m.appliedSettings.jpegQuality
  exposureUsec := m.appliedSettings.exposureUsec
  gainX100 := m.appliedSettings.gainX100
  actual := m.actual
  rawBytes := m.rawBytes
  previewJpegBytes := m.previewJpegBytes
  backendName := m.backendName
  cameraModel := m.cameraModel
  rawRelativePath := m.rawRelativePath
  previewRelativePath := m.previewRelativePath
  previewDataProductRelativePath :=
    if artifactKind = .previewJpeg then currentDataProductPath else m.previewDataProductRelativePath
  rawDataProductRelativePath :=
    if artifactKind = .rawFrame then currentDataProductPath else m.rawDataProductRelativePath
  previewDataProductPublished :=
    if artifactKind = .previewJpeg then currentDataProductPublished else m.previewDataProductPublished
  rawDataProductPublished :=
    if artifactKind = .rawFrame then currentDataProductPublished else m.rawDataProductPublished

def manifestHeader : PayloadCaptureArtifactHeaderV2 :=
  let raw := m.lastPublishedArtifactKind = .rawFrame
  m.makeCaptureArtifactHeader m.lastPublishedArtifactKind
    (if raw then m.rawDataProductRelativePath else m.previewDataProductRelativePath)
    (if raw then m.rawDataProductPublished else m.previewDataProductPublished)

end PayloadCaptureMetadata

def metadataFromArtifactHeader (header : PayloadCaptureArtifactHeaderV2) : PayloadCaptureMetadata where
  captureId := header.captureId
  captureIndex := header.captureIndex
  bootCount := header.bootCount
  frame := header.frame
  capturePolicy := header.capturePolicy
  resultCode := header.resultCode
  requestedMask := header.requestedMask
  appliedMask := header.appliedMask
  rawBytes := header.rawBytes
  previewJpegBytes := header.previewJpegBytes
  backendName := header.backendName
  cameraModel := header.cameraModel
  rawRelativePath := header.rawRelativePath
  previewRelativePath := header.previewRelativePath
  previewDataProductRelativePath := header.previewDataProductRelativePath
  rawDataProductRelativePath := header.rawDataProductRelativePath
  previewDataProductPublished := header.previewDataProductPublished
  rawDataProductPublished := header.rawDataProductPublished
  appliedSettings :=
    { readyKind := if header.capturePolicy = .rawSensor then .rawSensor else .nonRaw
      capturePolicy := header.capturePolicy
      resolution := header.resolution
      jpegQuality := header.jpegQualityApplied
      exposureUsec := header.exposureUsec
      gainX100 := header.gainX100 }
  actual := header.actual
  lastPublishedArtifactKind := header.artifactKind

/-- The older layout has no fields for the settings really used. -/
def deserializeLegacyArtifactHeader (header : PayloadCaptureArtifactHeaderV2) : PayloadCaptureMetadata :=
  { metadataFromArtifactHeader header with actual := {} }

structure PayloadOperationResult where
  kind : PayloadOperationKind
  response : CmdResponse
  resultCode : PayloadResultCode
  detailCode : UInt32
  logicalPowerEnabled : Bool := false
  prepared : Bool := false
  proxyAsserted : Bool := false
  readyKind : PayloadReadyKind := .nonRaw
  metadata : PayloadCaptureMetadata := {}

/-! ### File names -/

namespace PayloadPaths

def hexUpper (b : UInt8) : Bytes :=
  let digit (nibble : UInt8) : UInt8 := if nibble < 10 then 48 + nibble else 55 + nibble
  [digit (b / 16), digit (b % 16)]

variable (captureIndex : UInt8)

def captureLeafName (extension : Bytes) : Bytes :=
  ascii "PIC" ++ hexUpper captureIndex ++ ascii "." ++ extension

def captureRawRelativePathForIndex : Bytes :=
  ascii "persistent-data/payload/camera/" ++ captureLeafName captureIndex (ascii "bin")

def capturePreviewRelativePathForIndex : Bytes :=
  ascii "persistent-data/payload/camera/" ++ captureLeafName captureIndex (ascii "jpg")

def joinPath (base child : Bytes) : Bytes :=
  if base = [] then child
  else if child = [] then base
  else if base.getLast? = some 47 then base ++ child
  else base ++ [47] ++ child

def padded8 (n : ℕ) : Bytes := List.replicate (8 - (decimal n).length) 48 ++ decimal n

end PayloadPaths

/-- Seconds and microseconds of the time tag of a data product. -/
structure DpTime where
  seconds : UInt32
  useconds : UInt32
deriving DecidableEq

namespace DpTime

/-- The framework's addition of microseconds, with the carry into the seconds. -/
def addUseconds (t : DpTime) (n : UInt32) : DpTime :=
  let useconds := t.useconds + n
  if 1000000 ≤ useconds then ⟨t.seconds + 1, useconds - 1000000⟩ else ⟨t.seconds, useconds⟩

end DpTime

namespace PayloadPaths

/-- The product id is that of the artifact container, the same for all of the component's products. -/
def dataProductRelativePathForTime (productId : UInt32) (timeTag : DpTime) : Bytes :=
  ascii "data-products/Dp_" ++ padded8 productId.toNat ++ ascii "_" ++ padded8 timeTag.seconds.toNat ++ ascii "_" ++
    padded8 timeTag.useconds.toNat ++ ascii ".fdp"

end PayloadPaths

end ObcFlight
