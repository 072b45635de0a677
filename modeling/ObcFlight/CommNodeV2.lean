import ObcFlight.CommNodeV3

/-!
# Downlink staging of the communication node, version 2

The chunks of a stream arrive one request at a time, in order. They are kept aside until the last
one arrives, and then appended to the drain queue together, if there is room. The reply to each
chunk is kept so that a repeated request is answered without being taken again. The functions are
those of `CommNodeDownlinkV2State`.
-/

namespace ObcFlight

/-- The data of a chunk are the first `byteCount` bytes. -/
structure DownlinkStageV2Request where
  header : RequestHeader
  streamId : UInt16
  byteCount : UInt16
  flags : UInt8
  data : Bytes
  deriving DecidableEq

structure DownlinkStageV2Reply where
  seq : UInt16
  result : ResultCode
  flags : UInt8 := 0
  streamId : UInt16 := 0
  acceptedSeq : UInt16 := 0
  stagedSlotsUsed : UInt16 := 0
  drainFreeSlots : UInt16 := 0
  deriving DecidableEq

structure DownlinkStatusV2Reply where
  seq : UInt16
  result : ResultCode
  flags : UInt8 := 0
  drainQueuedSlots : UInt16 := 0
  drainFreeSlots : UInt16 := 0
  stagingActive : Bool := false
  stagingStreamId : UInt16 := 0
  acceptedBytes : UInt32 := 0
  flushedBytes : UInt32 := 0
  droppedCommittedBytes : UInt32 := 0
  deriving DecidableEq

structure DownlinkAbortV2Reply where
  seq : UInt16
  result : ResultCode
  flags : UInt8 := 0
  streamId : UInt16 := 0
  deriving DecidableEq

namespace CommNodeDownlinkV2State

def chunkBytes : ℕ := 246
def stagingSlotLimit : ℕ := 24
def drainSlotLimit : ℕ := 64
def stagingTimeoutMs : ℕ := 2000

structure DrainChunk where
  streamId : UInt16
  acceptedSeq : UInt16
  byteCount : UInt16
  data : Bytes
  deriving DecidableEq

structure CachedStageReply where
  streamId : UInt16
  seq : UInt16
  chunk : DrainChunk
  flags : UInt8
  reply : DownlinkStageV2Reply
  deriving DecidableEq

/-- The last chunk of a stream that waits for room in the drain queue, and its flags. -/
structure PendingFinal where
  chunk : DrainChunk
  flags : UInt8
  deriving DecidableEq

structure ActiveStream where
  streamId : UInt16
  nextSeq : UInt16 := 1
  stagedChunks : List DrainChunk := []
  stagedReplies : List CachedStageReply := []
  pendingFinal : Option PendingFinal := none
  lastActivity : ℕ := 0
  deriving DecidableEq

end CommNodeDownlinkV2State

open CommNodeDownlinkV2State (DrainChunk CachedStageReply PendingFinal)

structure CommNodeDownlinkV2State where
  activeStream : Option CommNodeDownlinkV2State.ActiveStream := none
  drain : DrainQueue DrainChunk := {}
  committedReplyCache : List CachedStageReply := []

namespace CommNodeDownlinkV2State

variable (s : CommNodeDownlinkV2State)

def clearActiveStream : CommNodeDownlinkV2State := { s with activeStream := none }

def reapTimedOut (now : ℕ) : CommNodeDownlinkV2State :=
  match s.activeStream with
  | none => s
  | some stream =>
    if stream.lastActivity = 0 then s
    else if now - stream.lastActivity < stagingTimeoutMs * 1000000 then s
    else s.clearActiveStream

def isFirst (flags : UInt8) : Bool := flags &&& 1 != 0
def isLast (flags : UInt8) : Bool := flags &&& 2 != 0

variable (header : RequestHeader)

def validV2Header (service : UInt8) : Bool := header.version = 2 && header.service = service

def drainChunkEqualsRequest (chunk : DrainChunk) (request : DownlinkStageV2Request) : Bool :=
  chunk.streamId = request.streamId && chunk.acceptedSeq = request.header.seq &&
    chunk.byteCount = request.byteCount && chunk.data = request.data.take request.byteCount.toNat

variable (request : DownlinkStageV2Request)

def chunkOf : DrainChunk :=
  { streamId := request.streamId
    acceptedSeq := request.header.seq
    byteCount := request.byteCount
    data := request.data.take request.byteCount.toNat }

variable (stream : ActiveStream)

def ActiveStream.stagedSlotCount : ℕ :=
  stream.stagedChunks.length + if stream.pendingFinal.isSome then 1 else 0

def drainFreeSlots : ℕ := drainSlotLimit - s.drain.items.length

def cachedReplyMatchesRequest (entry : CachedStageReply) : Bool :=
  entry.flags = request.flags && drainChunkEqualsRequest entry.chunk request

def findActiveReply : Option CachedStageReply :=
  match s.activeStream with
  | none => none
  | some stream =>
    if stream.streamId != request.streamId then none
    else stream.stagedReplies.find? (cachedReplyMatchesRequest request)

def findCommittedReply : Option CachedStageReply :=
  s.committedReplyCache.find? (cachedReplyMatchesRequest request)

def trimCommittedReplyCache (cache : List CachedStageReply) : List CachedStageReply :=
  cache.drop (cache.length - (drainSlotLimit + stagingSlotLimit))

/-- All chunks of the stream enter the drain queue, or none does. The reply is the last of the cache. -/
def tryCommitPendingFinal (final : PendingFinal) (linkFlags : UInt8) :
    Option (CommNodeDownlinkV2State × DownlinkStageV2Reply) :=
  if s.drainFreeSlots < stream.stagedChunks.length + 1 then none
  else
    let drain := s.drain.append DrainChunk.byteCount (stream.stagedChunks ++ [final.chunk])
    let reply :=
      { seq := final.chunk.acceptedSeq
        result := .ok
        flags := linkFlags
        streamId := stream.streamId
        acceptedSeq := final.chunk.acceptedSeq
        stagedSlotsUsed := 0
        drainFreeSlots := UInt16.ofNat (drainSlotLimit - drain.items.length) }
    let entry := ⟨stream.streamId, final.chunk.acceptedSeq, final.chunk, final.flags, reply⟩
    let committedReplyCache :=
      trimCommittedReplyCache (s.committedReplyCache ++ (stream.stagedReplies ++ [entry]))
    some ({ activeStream := none, drain, committedReplyCache }, reply)

/-- Without room for the stream its last chunk is kept, and the sender repeats it. -/
def commitOrWait (final : PendingFinal) (reply : DownlinkStageV2Reply) (linkFlags : UInt8)
    (acceptedNewChunk : Bool) : CommNodeDownlinkV2State × DownlinkStageV2Reply × Bool :=
  let stream := { stream with pendingFinal := some final }
  match s.tryCommitPendingFinal stream final linkFlags with
  | some committed => (committed.1, committed.2, acceptedNewChunk)
  | none =>
    ({ s with activeStream := some stream },
      { reply with
        result := .noCredit
        stagedSlotsUsed := UInt16.ofNat stream.stagedSlotCount
        drainFreeSlots := UInt16.ofNat s.drainFreeSlots }, false)

/-- The chunk of a valid request for the stream that is staged. -/
def stageChunk (clock : ClockReads) (request : DownlinkStageV2Request) (reply : DownlinkStageV2Reply)
    (linkFlags : UInt8) (stream : ActiveStream) : CommNodeDownlinkV2State × DownlinkStageV2Reply × Bool :=
  let s := { s with activeStream := some stream }
  let invalid := (s, { reply with result := .invalidRequest }, false)
  let first := isFirst request.flags
  match stream.pendingFinal with
  | some final =>
    if request.header.seq = stream.nextSeq && drainChunkEqualsRequest final.chunk request &&
        request.flags = final.flags then
      s.commitOrWait stream final reply linkFlags false
    else invalid
  | none =>
    if request.header.seq != stream.nextSeq then invalid
    else if !isLast request.flags then
      if request.header.seq = 0 || (request.header.seq != 1 && first) ||
          stagingSlotLimit ≤ stream.stagedChunks.length then invalid
      else
        let stagedChunks := stream.stagedChunks ++ [chunkOf request]
        let reply :=
          { reply with
            stagedSlotsUsed := UInt16.ofNat stagedChunks.length
            drainFreeSlots := UInt16.ofNat s.drainFreeSlots }
        let entry := ⟨request.streamId, request.header.seq, chunkOf request, request.flags, reply⟩
        let stream :=
          { stream with
            stagedChunks
            nextSeq := request.header.seq + 1
            lastActivity := clock.later
            stagedReplies := stream.stagedReplies ++ [entry] }
        ({ s with activeStream := some stream }, reply, true)
    else if (request.header.seq != 1 && first) || (request.header.seq = 1 && !first) then invalid
    else
      s.commitOrWait { stream with lastActivity := clock.later } ⟨chunkOf request, request.flags⟩ reply
        linkFlags true

/-- The reply, and whether a chunk was taken that had not been seen before. -/
def handleStage (clock : ClockReads) (request : DownlinkStageV2Request) (linkFlags : UInt8) :
    CommNodeDownlinkV2State × DownlinkStageV2Reply × Bool :=
  let s := s.reapTimedOut clock.now
  let reply :=
    { seq := request.header.seq
      result := .ok
      flags := linkFlags
      streamId := request.streamId
      acceptedSeq := request.header.seq
      drainFreeSlots := UInt16.ofNat s.drainFreeSlots }
  match (s.findActiveReply request).or (s.findCommittedReply request) with
  | some entry => (s, entry.reply, false)
  | none =>
    let invalid := (s, { reply with result := .invalidRequest }, false)
    if !validV2Header request.header 34 || request.byteCount = 0 || chunkBytes < request.byteCount.toNat then invalid
    else
      match s.activeStream with
      | some stream =>
        if request.streamId != stream.streamId then invalid
        else s.stageChunk clock request reply linkFlags stream
      | none =>
        if !isFirst request.flags || request.header.seq != 1 then invalid
        else s.stageChunk clock request reply linkFlags { streamId := request.streamId }

def handleStatus (linkFlags : UInt8) : DownlinkStatusV2Reply :=
  if !validV2Header header 35 then { seq := header.seq, result := .invalidRequest, flags := linkFlags }
  else
    { seq := header.seq
      result := .ok
      flags := linkFlags
      drainQueuedSlots := UInt16.ofNat s.drain.items.length
      drainFreeSlots := UInt16.ofNat s.drainFreeSlots
      stagingActive := s.activeStream.isSome
      stagingStreamId := (s.activeStream.map ActiveStream.streamId).getD 0
      acceptedBytes := s.drain.acceptedBytes
      flushedBytes := s.drain.flushedBytes
      droppedCommittedBytes := s.drain.droppedCommittedBytes }

def handleAbort (streamId : UInt16) (linkFlags : UInt8) :
    CommNodeDownlinkV2State × DownlinkAbortV2Reply :=
  if !validV2Header header 36 then (s, { seq := header.seq, result := .invalidRequest, flags := linkFlags, streamId })
  else if (s.activeStream.map ActiveStream.streamId) = some streamId then
    (s.clearActiveStream, { seq := header.seq, result := .ok, flags := linkFlags, streamId })
  else (s, { seq := header.seq, result := .ok, flags := linkFlags, streamId })

def sameChunk (front chunk : DrainChunk) : Bool :=
  front.streamId = chunk.streamId && front.acceptedSeq = chunk.acceptedSeq && front.byteCount = chunk.byteCount

/-- Replies are forgotten when the last chunk has been written. -/
def confirmDrainChunkFlushed (chunk : DrainChunk) : CommNodeDownlinkV2State × Bool :=
  let flushed := s.drain.confirmFlushed DrainChunk.byteCount sameChunk chunk
  let committedReplyCache :=
    if flushed.2 && flushed.1.items.isEmpty then [] else s.committedReplyCache
  ({ s with drain := flushed.1, committedReplyCache }, flushed.2)

def handleDrainWriteFailure (inFlightBytes : UInt32) : CommNodeDownlinkV2State :=
  { activeStream := none
    committedReplyCache := []
    drain := s.drain.writeFailure DrainChunk.byteCount inFlightBytes }

end CommNodeDownlinkV2State

/-- The calls on the staging state. A disconnect is a failure with nothing in flight. -/
inductive CommNodeV2Input where
  | stage (clock : ClockReads) (request : DownlinkStageV2Request) (linkFlags : UInt8)
  | status (header : RequestHeader) (linkFlags : UInt8)
  | abort (header : RequestHeader) (streamId : UInt16) (linkFlags : UInt8)
  | reapTimedOut (now : ℕ)
  | confirmFlushed (chunk : DrainChunk)
  | drainWriteFailure (inFlightBytes : UInt32)
  | disconnect

inductive CommNodeV2Output where
  | staged (reply : DownlinkStageV2Reply) (acceptedNewChunk : Bool)
  | status (reply : DownlinkStatusV2Reply)
  | aborted (reply : DownlinkAbortV2Reply)
  | flushed (flushed : Bool)
  deriving DecidableEq

namespace CommNodeDownlinkV2State

def step (s : CommNodeDownlinkV2State) : CommNodeV2Input → CommNodeDownlinkV2State × List CommNodeV2Output
  | .stage clock request linkFlags =>
    let next := s.handleStage clock request linkFlags
    (next.1, [.staged next.2.1 next.2.2])
  | .status header linkFlags => (s, [.status (s.handleStatus header linkFlags)])
  | .abort header streamId linkFlags =>
    let next := s.handleAbort header streamId linkFlags
    (next.1, [.aborted next.2])
  | .reapTimedOut now => (s.reapTimedOut now, [])
  | .confirmFlushed chunk =>
    let next := s.confirmDrainChunkFlushed chunk
    (next.1, [.flushed next.2])
  | .drainWriteFailure inFlightBytes => (s.handleDrainWriteFailure inFlightBytes, [])
  | .disconnect => (s.handleDrainWriteFailure 0, [])

end CommNodeDownlinkV2State

def commNodeV2 : Machine CommNodeDownlinkV2State CommNodeV2Input CommNodeV2Output :=
  ⟨CommNodeDownlinkV2State.step⟩

end ObcFlight
