import ObcFlight.DrainQueue
import ObcFlight.Machine
import ObcFlight.WireCodec

/-!
# Downlink staging of the communication node, version 3

A stream is announced with BEGIN, its data frames are staged in any order, and COMMIT appends them
to the drain queue, from which they are written to the external link. A commit that is repeated is
answered from a record of the last one. The functions are those of `CommNodeDownlinkV3State`; the
clock is read at most twice in each, and its readings are arguments.
-/

namespace ObcFlight

/-- Readings of the monotonic clock in one call, in nanoseconds. -/
structure ClockReads where
  now : ℕ
  later : ℕ

inductive ResultCode where
  | ok
  | noChunk
  | invalidRequest
  | ioError
  | noCredit
  | busy
  | noProgress
  deriving DecidableEq

structure RequestHeader where
  version : UInt8
  service : UInt8
  seq : UInt16
  deriving DecidableEq

inductive DownlinkControlV3Op where
  | begin
  | ackPoll
  | commit
  | abort
  | status
  | other (code : UInt8)
  deriving DecidableEq

structure DownlinkControlV3Request where
  header : RequestHeader
  op : DownlinkControlV3Op
  streamId : UInt16
  totalFrames : UInt16 := 0
  totalBytes : UInt32 := 0
  committedFrames : UInt16 := 0
  committedBytes : UInt32 := 0
  deriving DecidableEq

structure DownlinkControlV3Reply where
  seq : UInt16
  result : ResultCode
  flags : UInt8 := 0
  op : DownlinkControlV3Op
  stagingActive : Bool := false
  streamId : UInt16 := 0
  contiguousFrames : UInt16 := 0
  totalFrames : UInt16 := 0
  contiguousBytes : UInt32 := 0
  windowCredit : UInt16 := 0
  drainQueuedFrames : UInt16 := 0
  drainFreeFrames : UInt16 := 0
  duplicateFrames : UInt16 := 0
  stagingStreamId : UInt16 := 0
  acceptedBytes : UInt32 := 0
  flushedBytes : UInt32 := 0
  droppedCommittedBytes : UInt32 := 0
  deriving DecidableEq

/-- The data of a frame are its first `byteCount` bytes. -/
structure DownlinkDataV3Frame where
  version : UInt8
  kind : UInt8
  streamId : UInt16
  frameIndex : UInt16
  frameCount : UInt16
  byteOffset : UInt32
  byteCount : UInt16
  data : Bytes
  deriving DecidableEq

namespace CommNodeDownlinkV3State

def frameBytes : ℕ := 2032
def stagingFrameLimit : ℕ := 24
def drainFrameLimit : ℕ := 32
def stagingTimeoutMs : ℕ := 2000

structure DrainFrame where
  streamId : UInt16
  frameIndex : UInt16
  frameCount : UInt16
  byteOffset : UInt32
  byteCount : UInt16
  data : Bytes
  deriving DecidableEq

/-- A slot of the staging area is empty until its frame has been received. -/
structure ActiveStream where
  streamId : UInt16
  totalFrames : UInt16
  totalBytes : UInt32
  stagedFrames : List (Option DrainFrame)
  duplicateFrames : UInt16 := 0
  commitComplete : Bool := false
  beginReply : DownlinkControlV3Reply
  lastActivity : ℕ
  deriving DecidableEq

structure CommittedStreamCache where
  streamId : UInt16
  totalFrames : UInt16
  totalBytes : UInt32
  commitReply : DownlinkControlV3Reply
  deriving DecidableEq

end CommNodeDownlinkV3State

open CommNodeDownlinkV3State

structure CommNodeDownlinkV3State where
  activeStream : Option ActiveStream := none
  committedStream : Option CommittedStreamCache := none
  drain : DrainQueue DrainFrame := {}

namespace CommNodeDownlinkV3State

variable (s : CommNodeDownlinkV3State)

def clearActiveStream : CommNodeDownlinkV3State := { s with activeStream := none }

def reapTimedOut (now : ℕ) : CommNodeDownlinkV3State :=
  match s.activeStream with
  | none => s
  | some stream =>
    if stream.lastActivity = 0 then s
    else if now - stream.lastActivity < stagingTimeoutMs * 1000000 then s
    else s.clearActiveStream

def validV3ControlHeader (header : RequestHeader) : Bool := header.version = 3 && header.service = 39

variable (frame : DownlinkDataV3Frame)

def validV3FrameShape : Bool :=
  frame.version = 3 && frame.kind = 1 && 0 < frame.frameCount && frame.frameCount.toNat ≤ stagingFrameLimit &&
    0 < frame.byteCount && frame.byteCount.toNat ≤ frameBytes

def drainFreeFrames (queue : List DrainFrame) : ℕ := drainFrameLimit - queue.length

def receivedPrefix : List (Option DrainFrame) → List DrainFrame
  | some frame :: rest => frame :: receivedPrefix rest
  | _ => []

variable (stream : ActiveStream)

def ActiveStream.contiguous : List DrainFrame :=
  receivedPrefix (stream.stagedFrames.take stream.totalFrames.toNat)

def contiguousFrames : UInt16 :=
  match s.activeStream with
  | none => 0
  | some stream => UInt16.ofNat stream.contiguous.length

def contiguousBytes : UInt32 :=
  match s.activeStream with
  | none => 0
  | some stream => DrainQueue.totalBytes DrainFrame.byteCount stream.contiguous

def windowCredit : UInt16 :=
  match s.activeStream with
  | none => UInt16.ofNat stagingFrameLimit
  | some stream =>
    UInt16.ofNat (min stagingFrameLimit stream.totalFrames.toNat - stream.stagedFrames.countP Option.isSome)

def makeDownlinkControlV3Reply (op : DownlinkControlV3Op) (seq : UInt16) (result : ResultCode) :
    DownlinkControlV3Reply :=
  { seq, result, op }

def populateReplyStats (reply : DownlinkControlV3Reply) (linkFlags : UInt8) : DownlinkControlV3Reply :=
  { reply with
    flags := linkFlags
    streamId := (s.activeStream.map ActiveStream.streamId).getD 0
    stagingActive := s.activeStream.isSome
    stagingStreamId := (s.activeStream.map ActiveStream.streamId).getD 0
    totalFrames := (s.activeStream.map ActiveStream.totalFrames).getD 0
    contiguousFrames := s.contiguousFrames
    contiguousBytes := s.contiguousBytes
    windowCredit := s.windowCredit
    drainQueuedFrames := UInt16.ofNat s.drain.items.length
    drainFreeFrames := UInt16.ofNat (drainFreeFrames s.drain.items)
    duplicateFrames := (s.activeStream.map ActiveStream.duplicateFrames).getD 0
    acceptedBytes := s.drain.acceptedBytes
    flushedBytes := s.drain.flushedBytes
    droppedCommittedBytes := s.drain.droppedCommittedBytes }

variable (request : DownlinkControlV3Request)

def canAcceptBegin : Bool :=
  !(s.activeStream.isSome || request.streamId = 0 || request.totalFrames = 0 ||
    stagingFrameLimit < request.totalFrames.toNat || request.totalBytes = 0 || request.committedFrames != 0 ||
    request.committedBytes != 0)

/-- What a request names a stream by: its id, its number of frames and its number of bytes. -/
structure StreamIdentity where
  streamId : UInt16
  totalFrames : UInt16
  totalBytes : UInt32
  deriving DecidableEq

def ActiveStream.identity : StreamIdentity :=
  ⟨stream.streamId, stream.totalFrames, stream.totalBytes⟩

def CommittedStreamCache.identity (cache : CommittedStreamCache) : StreamIdentity :=
  ⟨cache.streamId, cache.totalFrames, cache.totalBytes⟩

def requestIdentity : StreamIdentity := ⟨request.streamId, request.totalFrames, request.totalBytes⟩

def matchesActiveBegin : Option ActiveStream :=
  s.activeStream.filter fun stream => stream.identity = requestIdentity request

def matchesCommittedCommit : Option CommittedStreamCache :=
  s.committedStream.filter fun cache => cache.identity = requestIdentity request

def ActiveStream.staged (index : ℕ) : Option DrainFrame := stream.stagedFrames[index]?.join

/-- Offsets are compared with those of the neighbours that are already there. -/
def ActiveStream.fitsPrevious : Bool :=
  if frame.frameIndex = 0 then frame.byteOffset = 0
  else
    match stream.staged (frame.frameIndex.toNat - 1) with
    | some previous => frame.byteOffset = previous.byteOffset + previous.byteCount.toUInt32
    | none => true

def ActiveStream.frameFitsActiveLayout : Bool :=
  let frameEnd := frame.byteOffset + frame.byteCount.toUInt32
  if stream.totalBytes ≤ frame.byteOffset || stream.totalBytes < frameEnd then false
  else if !stream.fitsPrevious frame then false
  else if frame.frameIndex.toNat + 1 = stream.totalFrames.toNat then frameEnd = stream.totalBytes
  else if stream.totalBytes ≤ frameEnd then false
  else
    match stream.staged (frame.frameIndex.toNat + 1) with
    | some next => next.byteOffset = frameEnd
    | none => true

def answer (linkFlags : UInt8) (result : ResultCode) :
    DownlinkControlV3Reply :=
  s.populateReplyStats (makeDownlinkControlV3Reply request.op request.header.seq result) linkFlags

/-- The frames are in the queue once the stream is committed; its reply is kept for a repeated commit. -/
def tryCommitActive (seq : UInt16) (linkFlags : UInt8) :
    Option (CommNodeDownlinkV3State × DownlinkControlV3Reply) :=
  if stream.commitComplete || drainFreeFrames s.drain.items < stream.totalFrames.toNat then none
  else if !stream.stagedFrames.all Option.isSome then none
  else
    let drain := s.drain.append DrainFrame.byteCount stream.stagedFrames.reduceOption
    let committing := { s with activeStream := some { stream with commitComplete := true }, drain }
    let populated := committing.populateReplyStats (makeDownlinkControlV3Reply .commit seq .ok) linkFlags
    let reply := { populated with
      streamId := stream.streamId
      totalFrames := stream.totalFrames
      windowCredit := UInt16.ofNat stagingFrameLimit
      stagingActive := false
      stagingStreamId := 0
      contiguousFrames := stream.totalFrames
      contiguousBytes := stream.totalBytes }
    let committedStream := some
      { streamId := stream.streamId
        totalFrames := stream.totalFrames
        totalBytes := stream.totalBytes
        commitReply := reply }
    some ({ activeStream := none, committedStream, drain }, reply)

variable (clock : ClockReads)

def handleBegin (request : DownlinkControlV3Request) (linkFlags : UInt8) :
    CommNodeDownlinkV3State × DownlinkControlV3Reply :=
  match s.matchesActiveBegin request with
  | some stream => (s, s.populateReplyStats { stream.beginReply with seq := request.header.seq } linkFlags)
  | none =>
    if !s.canAcceptBegin request then
      (s, s.answer request linkFlags (if s.activeStream.isSome then .busy else .invalidRequest))
    else
      let stream :=
        { streamId := request.streamId
          totalFrames := request.totalFrames
          totalBytes := request.totalBytes
          stagedFrames := List.replicate request.totalFrames.toNat none
          beginReply := makeDownlinkControlV3Reply request.op request.header.seq .ok
          lastActivity := clock.later }
      let beginReply := { s with activeStream := some stream }.populateReplyStats stream.beginReply linkFlags
      ({ s with activeStream := some { stream with beginReply } }, beginReply)

def handleAbort (linkFlags : UInt8) : CommNodeDownlinkV3State × DownlinkControlV3Reply :=
  if (s.activeStream.map ActiveStream.streamId) = some request.streamId then
    (s.clearActiveStream, s.clearActiveStream.answer request linkFlags .ok)
  else if (s.matchesCommittedCommit request).isSome then (s, s.answer request linkFlags .ok)
  else (s, s.answer request linkFlags .invalidRequest)

def handleActive (request : DownlinkControlV3Request) (linkFlags : UInt8) :
    CommNodeDownlinkV3State × DownlinkControlV3Reply :=
  match s.matchesActiveBegin request with
  | none => (s, s.answer request linkFlags .invalidRequest)
  | some active =>
    let stream := { active with lastActivity := clock.later }
    let s := { s with activeStream := some stream }
    match request.op with
    | .ackPoll =>
      let reply := s.answer request linkFlags .ok
      if reply.contiguousFrames = request.committedFrames && reply.contiguousBytes = request.committedBytes then
        (s, { reply with result := .noProgress })
      else (s, reply)
    | .commit =>
      if s.contiguousFrames != stream.totalFrames || s.contiguousBytes != stream.totalBytes then
        (s, s.answer request linkFlags .noProgress)
      else (s.tryCommitActive stream request.header.seq linkFlags).getD (s, s.answer request linkFlags .noCredit)
    | _ => (s, s.answer request linkFlags .invalidRequest)

def handleControl (request : DownlinkControlV3Request) (linkFlags : UInt8) :
    CommNodeDownlinkV3State × DownlinkControlV3Reply :=
  let s := s.reapTimedOut clock.now
  if !validV3ControlHeader request.header then (s, s.answer request linkFlags .invalidRequest)
  else
    match request.op with
    | .status => (s, s.answer request linkFlags .ok)
    | .begin => s.handleBegin clock request linkFlags
    | .abort => s.handleAbort request linkFlags
    | .commit =>
      match s.matchesCommittedCommit request with
      | some cache => (s, s.populateReplyStats { cache.commitReply with seq := request.header.seq } linkFlags)
      | none => s.handleActive clock request linkFlags
    | _ => s.handleActive clock request linkFlags

def drainFrameOf : DrainFrame :=
  { streamId := frame.streamId
    frameIndex := frame.frameIndex
    frameCount := frame.frameCount
    byteOffset := frame.byteOffset
    byteCount := frame.byteCount
    data := frame.data.take frame.byteCount.toNat }

/-- A frame whose slot is taken is counted if it is the same frame again. -/
def handleData (frame : DownlinkDataV3Frame) : CommNodeDownlinkV3State × Bool :=
  let s := s.reapTimedOut clock.now
  match s.activeStream with
  | none => (s, false)
  | some stream =>
    if !validV3FrameShape frame || frame.streamId != stream.streamId || frame.frameCount != stream.totalFrames ||
        stream.totalFrames ≤ frame.frameIndex then (s, false)
    else if !stream.frameFitsActiveLayout frame then (s, false)
    else
      match stream.staged frame.frameIndex.toNat with
      | some staged =>
        let duplicate := staged.byteCount = frame.byteCount && staged.byteOffset = frame.byteOffset &&
          staged.data = frame.data.take frame.byteCount.toNat
        let duplicateFrames := if duplicate then stream.duplicateFrames + 1 else stream.duplicateFrames
        ({ s with activeStream := some { stream with duplicateFrames, lastActivity := clock.later } }, false)
      | none =>
        let stagedFrames := stream.stagedFrames.set frame.frameIndex.toNat (some (drainFrameOf frame))
        ({ s with activeStream := some { stream with stagedFrames, lastActivity := clock.later } }, true)

def sameFrame (front frame : DrainFrame) : Bool :=
  front.streamId = frame.streamId && front.frameIndex = frame.frameIndex && front.byteCount = frame.byteCount &&
    front.byteOffset = frame.byteOffset

def confirmDrainFrameFlushed (frame : DrainFrame) : CommNodeDownlinkV3State × Bool :=
  let flushed := s.drain.confirmFlushed DrainFrame.byteCount sameFrame frame
  ({ s with drain := flushed.1 }, flushed.2)

def handleDrainWriteFailure (inFlightBytes : UInt32) : CommNodeDownlinkV3State :=
  { activeStream := none
    committedStream := none
    drain := s.drain.writeFailure DrainFrame.byteCount inFlightBytes }

end CommNodeDownlinkV3State

/-- The calls on the staging state. A disconnect is a failure with nothing in flight. -/
inductive CommNodeV3Input where
  | control (clock : ClockReads) (request : DownlinkControlV3Request) (linkFlags : UInt8)
  | data (clock : ClockReads) (frame : DownlinkDataV3Frame)
  | reapTimedOut (now : ℕ)
  | confirmFlushed (frame : DrainFrame)
  | drainWriteFailure (inFlightBytes : UInt32)
  | disconnect

inductive CommNodeV3Output where
  | replied (reply : DownlinkControlV3Reply)
  | accepted (accepted : Bool)
  | flushed (flushed : Bool)
  deriving DecidableEq

namespace CommNodeDownlinkV3State

def step (s : CommNodeDownlinkV3State) : CommNodeV3Input → CommNodeDownlinkV3State × List CommNodeV3Output
  | .control clock request linkFlags =>
    let next := s.handleControl clock request linkFlags
    (next.1, [.replied next.2])
  | .data clock frame =>
    let next := s.handleData clock frame
    (next.1, [.accepted next.2])
  | .reapTimedOut now => (s.reapTimedOut now, [])
  | .confirmFlushed frame =>
    let next := s.confirmDrainFrameFlushed frame
    (next.1, [.flushed next.2])
  | .drainWriteFailure inFlightBytes => (s.handleDrainWriteFailure inFlightBytes, [])
  | .disconnect => (s.handleDrainWriteFailure 0, [])

end CommNodeDownlinkV3State

def commNodeV3 : Machine CommNodeDownlinkV3State CommNodeV3Input CommNodeV3Output :=
  ⟨CommNodeDownlinkV3State.step⟩

end ObcFlight
