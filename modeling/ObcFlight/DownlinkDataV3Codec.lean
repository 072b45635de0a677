import ObcFlight.CommNodeV3
import ObcFlight.WireBlocks

/-!
# The data frames of version 3 on the wire

A data frame is sent as its image in memory, cut behind the bytes it uses. The link may append
padding, so the receiver trusts the length in the frame and not that of the packet.
-/

namespace ObcFlight

open WireCodec CommNodeDownlinkV3State

structure DownlinkDataV3Metadata where
  version : UInt8 := 0
  kind : UInt8 := 0
  streamId : UInt16 := 0
  frameIndex : UInt16 := 0
  frameCount : UInt16 := 0
  byteOffset : UInt32 := 0
  byteCount : UInt16 := 0
  reserved : UInt16 := 0
  deriving DecidableEq

namespace DownlinkDataV3Metadata

def fields : UInt8 × UInt8 × UInt16 × UInt16 × UInt16 × UInt32 × UInt16 × UInt16 ≃ DownlinkDataV3Metadata where
  toFun p := ⟨p.1, p.2.1, p.2.2.1, p.2.2.2.1, p.2.2.2.2.1, p.2.2.2.2.2.1, p.2.2.2.2.2.2.1, p.2.2.2.2.2.2.2⟩
  invFun m := (m.version, m.kind, m.streamId, m.frameIndex, m.frameCount, m.byteOffset, m.byteCount, m.reserved)
  left_inv _ := rfl
  right_inv _ := rfl

def codec : WireCodec DownlinkDataV3Metadata :=
  (u8.pair (u8.pair (u16le.pair (u16le.pair (u16le.pair (u32le.pair (u16le.pair u16le))))))).iso fields

end DownlinkDataV3Metadata

def downlinkV3FrameMetadataBytes : ℕ := 16

/-- The data array of a frame. -/
abbrev FrameData := { bs : Bytes // bs.length = frameBytes }

/-- The bytes at the start of the array, with zeros behind. -/
def FrameData.filled (bs : Bytes) : FrameData :=
  ⟨(bs ++ List.replicate frameBytes 0).take frameBytes, by simp⟩

/-- A frame as it lies in memory. -/
structure DownlinkDataV3Image where
  metadata : DownlinkDataV3Metadata := {}
  data : FrameData := .filled []
  deriving DecidableEq

namespace DownlinkDataV3Image

/-- The frame that an image holds. -/
def frame (image : DownlinkDataV3Image) : DownlinkDataV3Frame where
  version := image.metadata.version
  kind := image.metadata.kind
  streamId := image.metadata.streamId
  frameIndex := image.metadata.frameIndex
  frameCount := image.metadata.frameCount
  byteOffset := image.metadata.byteOffset
  byteCount := image.metadata.byteCount
  data := image.data.1.take image.metadata.byteCount.toNat

/-- The image with zeros behind the bytes in use. -/
def cleared (image : DownlinkDataV3Image) : DownlinkDataV3Image :=
  { image with data := .filled (image.data.1.take image.metadata.byteCount.toNat) }

theorem frame_cleared (i : DownlinkDataV3Image) (h : i.metadata.byteCount.toNat ≤ frameBytes) :
    i.cleared.frame = i.frame := by
  have hl : (i.data.1.take i.metadata.byteCount.toNat).length = i.metadata.byteCount.toNat := by
    rw [List.length_take_of_le (by rw [i.data.2]; exact h)]
  have ht : i.cleared.data.1.take i.metadata.byteCount.toNat =
      i.data.1.take i.metadata.byteCount.toNat := by
    unfold cleared FrameData.filled
    rw [List.take_take, min_eq_left h, List.take_left' hl]
  exact congrArg (fun data => { i.frame with data }) ht

end DownlinkDataV3Image

def downlinkDataV3SerializedSize (byteCount : UInt16) : ℕ := downlinkV3FrameMetadataBytes + byteCount.toNat

def serializeDownlinkDataV3Frame (image : DownlinkDataV3Image) : Option Bytes :=
  if frameBytes < image.metadata.byteCount.toNat then none
  else some ((DownlinkDataV3Metadata.codec.encode image.metadata ++ image.data.1).take
    (downlinkDataV3SerializedSize image.metadata.byteCount))

/-- The answer, and what is left in the caller's frame. -/
def deserializeDownlinkDataV3Frame (bytes : Bytes) : Bool × DownlinkDataV3Image :=
  match DownlinkDataV3Metadata.codec.decode bytes with
  | none => (false, {})
  | some (metadata, payload) =>
    if frameBytes < metadata.byteCount.toNat ∨
        bytes.length < downlinkDataV3SerializedSize metadata.byteCount then (false, { metadata })
    else (true, { metadata, data := .filled (payload.take metadata.byteCount.toNat) })

theorem DownlinkDataV3Metadata.codec_encode_length (m : DownlinkDataV3Metadata) :
    (codec.encode m).length = downlinkV3FrameMetadataBytes := by
  simp [codec, iso, pair, u16le, u32le, swapped, downlinkV3FrameMetadataBytes]

theorem serializeDownlinkDataV3Frame_eq {i : DownlinkDataV3Image}
    (h : i.metadata.byteCount.toNat ≤ frameBytes) :
    serializeDownlinkDataV3Frame i = some (DownlinkDataV3Metadata.codec.encode i.metadata ++
      i.data.1.take i.metadata.byteCount.toNat) := by
  rw [serializeDownlinkDataV3Frame, if_neg (Nat.not_lt.mpr h), downlinkDataV3SerializedSize,
    ← DownlinkDataV3Metadata.codec_encode_length i.metadata, List.take_length_add_append]

theorem deserializeDownlinkDataV3Frame_eq (metadata : DownlinkDataV3Metadata) (p : Bytes) :
    deserializeDownlinkDataV3Frame (DownlinkDataV3Metadata.codec.encode metadata ++ p) =
      if frameBytes < metadata.byteCount.toNat ∨ p.length < metadata.byteCount.toNat then
        (false, { metadata })
      else (true, { metadata, data := .filled (p.take metadata.byteCount.toNat) }) := by
  rw [deserializeDownlinkDataV3Frame, WireCodec.decode_encode]
  dsimp only
  rw [List.length_append, DownlinkDataV3Metadata.codec_encode_length, downlinkDataV3SerializedSize]
  simp only [Nat.add_lt_add_iff_left]

/-- Whatever the link appends, a frame is received as it was sent, and none is read from fewer
bytes than it declares. -/
theorem downlinkDataV3_codec_exact :
    (∀ (image : DownlinkDataV3Image) (padding : Bytes), image.metadata.byteCount.toNat ≤ frameBytes →
      ∃ bytes, serializeDownlinkDataV3Frame image = some bytes ∧
        deserializeDownlinkDataV3Frame (bytes ++ padding) = (true, image.cleared) ∧
        image.cleared.frame = image.frame) ∧
    (∀ bytes : Bytes, bytes.length < downlinkV3FrameMetadataBytes →
      (deserializeDownlinkDataV3Frame bytes).1 = false) ∧
    ∀ (payload : Bytes) (metadata : DownlinkDataV3Metadata), payload.length < metadata.byteCount.toNat →
      (deserializeDownlinkDataV3Frame (DownlinkDataV3Metadata.codec.encode metadata ++ payload)).1 = false := by
  refine ⟨fun image padding h => ⟨_, serializeDownlinkDataV3Frame_eq h, ?_, image.frame_cleared h⟩, ?_, ?_⟩
  · have hl : (image.data.1.take image.metadata.byteCount.toNat).length = image.metadata.byteCount.toNat := by
      rw [List.length_take_of_le (by rw [image.data.2]; exact h)]
    rw [List.append_assoc, deserializeDownlinkDataV3Frame_eq, if_neg, List.take_left' hl]
    · rfl
    · rw [List.length_append]
      omega
  · intro bytes h
    cases hd : DownlinkDataV3Metadata.codec.decode bytes with
    | none => rw [deserializeDownlinkDataV3Frame, hd]
    | some =>
      have hb := congrArg List.length (WireCodec.eq_encode_append _ hd)
      rw [List.length_append, DownlinkDataV3Metadata.codec_encode_length] at hb
      omega
  · intro payload metadata h
    rw [deserializeDownlinkDataV3Frame_eq, if_pos (.inr h)]

end ObcFlight
