import ObcFlight.CmdPacket

/-!
# Sequence files and their inspection

A sequence file is a header, a list of time-tagged command records and a checksum over both.
The inspector reads a whole file and returns its checksum and the commands in it. The update
of the checksum, the set of time bases and the serialized size of a command buffer (the bytes it
holds and a word for their number) belong to the framework.
-/

namespace ObcFlight

open WireCodec

structure SequenceFileFormat where
  updateCrc32 : UInt32 → UInt8 → UInt32
  isTimeBase : UInt16 → Bool
  comBufferSerializedSize : ℕ := fwComBufferMaxSize + 2

/-- The table-driven update of the framework, bit by bit: CRC-32 with the reflected polynomial. -/
def crc32Bit (crc : UInt32) : UInt32 := if crc &&& 1 = 1 then (crc >>> 1) ^^^ 0xEDB88320 else crc >>> 1

def crc32Byte (crc : UInt32) (byte : UInt8) : UInt32 := crc32Bit^[8] (crc ^^^ byte.toUInt32)

/-- The framework as it comes: no time, processor time, workstation time, or any time. -/
def defaultFormat : SequenceFileFormat where
  updateCrc32 := crc32Byte
  isTimeBase b := decide (b ≤ 2) || decide (b = 0xFFFF)

/-- What the inspector reads of the time it is given. -/
structure TimeFrame where
  timeBase : UInt16
  timeContext : UInt8

inductive SequenceInspectionError where
  | fileNotFound
  | fileReadError
  | fileTooSmall
  | fileTooLarge
  | crcMismatch
  | invalidHeader
  | timeBaseMismatch
  | timeContextMismatch
  | noRecords
  | invalidRecord
  | recordMismatch
  | invalidCommand
  deriving DecidableEq

structure SequenceInspectionFailure where
  error : SequenceInspectionError
  detail : UInt32 := 0
  deriving DecidableEq

structure SequenceRecordInfo where
  recordIndex : UInt32
  opcode : UInt32
  command : Bytes
  deriving DecidableEq

structure SequenceInspection where
  crc : UInt32
  records : List SequenceRecordInfo
  deriving DecidableEq

/-- What opening and reading a file gives. -/
inductive FileRead where
  | notFound
  | bad
  | content (bytes : Bytes)
  deriving DecidableEq

namespace SequenceFileInspector

def initialComputedValue : UInt32 := 0xFFFFFFFF

def headerSize : ℕ := 4 + 4 + 2 + 1

def tbDontCare : UInt16 := 0xFFFF

def fwContextDontCare : UInt8 := 0xFF

def endOfSequence : UInt8 := 2

abbrev Inspected := Except SequenceInspectionFailure

def fail {α : Type} (error : SequenceInspectionError) (detail : UInt32 := 0) : Inspected α :=
  .error { error, detail }

variable (format : SequenceFileFormat)

def computedCrc (covered : Bytes) : UInt32 := ~~~(covered.foldl format.updateCrc32 initialComputedValue)

/-- One record: the end marker has nothing behind its descriptor, a command has its time and
its packet. -/
def inspectRecord (recordIndex : UInt32) (left : Bytes) : Inspected (Option SequenceRecordInfo × Bytes) :=
  match u8.decode left with
  | none => fail .invalidRecord recordIndex
  | some (descriptor, left) =>
    if endOfSequence < descriptor then fail .invalidRecord recordIndex
    else if descriptor = endOfSequence then .ok (none, left)
    else
      match (u32.pair (u32.pair u32)).decode left with
      | none => fail .invalidRecord recordIndex
      | some ((_, _, recordSize), left) =>
        let size := recordSize.toNat
        if left.length < size ∨ format.comBufferSerializedSize < size + 2 ∨ fwComBufferMaxSize < size then
          fail .invalidRecord recordIndex
        else
          match CmdPacket.deserializeFrom (left.take size) with
          | none => fail .invalidCommand recordIndex
          | some packet =>
            .ok (some { recordIndex, opcode := packet.opcode, command := left.take size }, left.drop size)

def inspectRecords : ℕ → UInt32 → Bytes → Inspected (List SequenceRecordInfo × Bytes)
  | 0, _, left => .ok ([], left)
  | count + 1, recordIndex, left =>
    match inspectRecord format recordIndex left with
    | .error failure => .error failure
    | .ok (record, left) =>
      match inspectRecords count (recordIndex + 1) left with
      | .error failure => .error failure
      | .ok (records, left) => .ok (record.toList ++ records, left)

def inspectBody (bytes : Bytes) (numRecords : UInt32) : Inspected SequenceInspection :=
  let covered := bytes.take (bytes.length - 4)
  match u32.decode (bytes.drop (bytes.length - 4)) with
  | none => fail .invalidHeader
  | some (storedCrc, _) =>
    if storedCrc ≠ computedCrc format covered then fail .crcMismatch (computedCrc format covered)
    else
      match inspectRecords format numRecords.toNat 0 (covered.drop headerSize) with
      | .error failure => .error failure
      | .ok (records, left) =>
        if left ≠ [] then fail .recordMismatch (UInt32.ofNat left.length)
        else .ok { crc := storedCrc, records }

def inspectBytes (validTime : TimeFrame) (bytes : Bytes) : Inspected SequenceInspection :=
  if bytes.length < headerSize + 4 then fail .fileTooSmall
  else
    match (u32.pair (u32.pair (u16.pair u8))).decode bytes with
    | none => fail .invalidHeader
    | some ((fileSize, numRecords, timeBase, timeContext), _) =>
      if !format.isTimeBase timeBase then fail .invalidHeader
      else if headerSize + fileSize.toNat ≠ bytes.length then
        fail .fileTooLarge (UInt32.ofNat bytes.length)
      else if numRecords = 0 then fail .noRecords
      else if timeBase ≠ tbDontCare ∧ timeBase ≠ validTime.timeBase then
        fail .timeBaseMismatch timeBase.toUInt32
      else if timeContext ≠ fwContextDontCare ∧ timeContext ≠ validTime.timeContext then
        fail .timeContextMismatch timeContext.toUInt32
      else inspectBody format bytes numRecords

def inspect (validTime : TimeFrame) : FileRead → Inspected SequenceInspection
  | .notFound => fail .fileNotFound
  | .bad => fail .fileReadError
  | .content bytes => inspectBytes format validTime bytes

end SequenceFileInspector

end ObcFlight
