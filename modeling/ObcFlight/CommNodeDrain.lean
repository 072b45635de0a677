import ObcFlight.CommNodeV2Staging
import ObcFlight.CommNodeV3Commits
import ObcFlight.DrainWorker

/-!
# The drain workers of the communication node

Each staging version has a worker of its own, and both write to the one external link. A write
fails when another caller has closed the link, and closing it has already dropped the queue with
the item that was being written: the bytes of that item are then counted as dropped a second time.
-/

namespace ObcFlight

open CommNodeDownlinkV2State (DrainChunk)
open CommNodeDownlinkV3State (DrainFrame oneFrame dataFrame)

/-- The calls on the version 2 state that do not come from its worker. -/
inductive StagingCallV2 where
  | stage (clock : ClockReads) (request : DownlinkStageV2Request) (linkFlags : UInt8)
  | status (header : RequestHeader) (linkFlags : UInt8)
  | abort (header : RequestHeader) (streamId : UInt16) (linkFlags : UInt8)
  | reapTimedOut (now : ℕ)

def StagingCallV2.input : StagingCallV2 → CommNodeV2Input
  | .stage clock request linkFlags => .stage clock request linkFlags
  | .status header linkFlags => .status header linkFlags
  | .abort header streamId linkFlags => .abort header streamId linkFlags
  | .reapTimedOut now => .reapTimedOut now

inductive StagingCallV3 where
  | control (clock : ClockReads) (request : DownlinkControlV3Request) (linkFlags : UInt8)
  | data (clock : ClockReads) (frame : DownlinkDataV3Frame)
  | reapTimedOut (now : ℕ)

def StagingCallV3.input : StagingCallV3 → CommNodeV3Input
  | .control clock request linkFlags => .control clock request linkFlags
  | .data clock frame => .data clock frame
  | .reapTimedOut now => .reapTimedOut now

namespace CommNodeDownlinkV2State

variable {s : CommNodeDownlinkV2State}

theorem Staging.drain_append {r : DownlinkStageV2Request}
    {next : CommNodeDownlinkV2State × DownlinkStageV2Reply × Bool} (h : Staging s r next) :
    ∃ items, next.1.drain = s.drain.append DrainChunk.byteCount items := by
  cases h with
  | cached | refused | staged | waiting => exact ⟨[], by rw [DrainQueue.append_nil]⟩
  | committed x f => exact ⟨x.stagedChunks ++ [f.chunk], rfl⟩

theorem drain_serve (s : CommNodeDownlinkV2State) (call : StagingCallV2) :
    ∃ items, (s.step call.input).1.drain = s.drain.append DrainChunk.byteCount items := by
  cases call with
  | stage c r l =>
    obtain ⟨items, hit⟩ := (s.staging c r l).drain_append
    rw [reapTimedOut_drain] at hit
    exact ⟨items, hit⟩
  | status => exact ⟨[], by rw [DrainQueue.append_nil]; rfl⟩
  | abort =>
    refine ⟨[], ?_⟩
    rw [DrainQueue.append_nil]
    simp only [StagingCallV2.input, step, handleAbort]
    split_ifs <;> rfl
  | reapTimedOut now =>
    refine ⟨[], ?_⟩
    rw [DrainQueue.append_nil]
    exact s.reapTimedOut_drain now

theorem byteCount_of_sameChunk (f c : DrainChunk) (h : sameChunk f c = true) :
    f.byteCount = c.byteCount := by
  simp only [sameChunk, Bool.and_eq_true, decide_eq_true_eq] at h
  exact h.2

def store : DrainStore CommNodeDownlinkV2State StagingCallV2 DrainChunk where
  drain := drain
  size := DrainChunk.byteCount
  same := sameChunk
  serve s call := (s.step call.input).1
  confirm s chunk := (s.confirmDrainChunkFlushed chunk).1
  fail s inFlightBytes := s.handleDrainWriteFailure inFlightBytes
  drain_serve := drain_serve
  drain_confirm _ _ := rfl
  drain_fail _ _ := rfl
  size_same := byteCount_of_sameChunk

end CommNodeDownlinkV2State

namespace CommNodeDownlinkV3State

variable {s : CommNodeDownlinkV3State} {next : CommNodeDownlinkV3State}

theorem Controlled.drain_append {r : DownlinkControlV3Request}
    {y : DownlinkControlV3Reply} (h : Controlled s r next y) :
    ∃ items, next.drain = s.drain.append DrainFrame.byteCount items := by
  cases h with
  | kept | repeated | touched | begun => exact ⟨[], by rw [DrainQueue.append_nil]⟩
  | aborted => exact ⟨[], by rw [DrainQueue.append_nil]; rfl⟩
  | committed _ x => exact ⟨x.stagedFrames.reduceOption, rfl⟩

theorem Received.drain_eq {f : DownlinkDataV3Frame} {a : Bool}
    (h : Received s f next a) : next.drain = s.drain := by
  cases h <;> rfl

theorem drain_serve (s : CommNodeDownlinkV3State) (call : StagingCallV3) :
    ∃ items, (s.step call.input).1.drain = s.drain.append DrainFrame.byteCount items := by
  cases call with
  | control c r l =>
    obtain ⟨items, hit⟩ := (s.controlled c r l).drain_append
    rw [reapTimedOut_drain] at hit
    exact ⟨items, hit⟩
  | data c f =>
    refine ⟨[], ?_⟩
    rw [DrainQueue.append_nil]
    exact (s.received c f).drain_eq.trans (by rw [reapTimedOut_drain])
  | reapTimedOut now =>
    refine ⟨[], ?_⟩
    rw [DrainQueue.append_nil]
    exact s.reapTimedOut_drain now

theorem byteCount_of_sameFrame (f g : DrainFrame) (h : sameFrame f g = true) :
    f.byteCount = g.byteCount := by
  simp only [sameFrame, Bool.and_eq_true, decide_eq_true_eq] at h
  exact h.1.2

def store : DrainStore CommNodeDownlinkV3State StagingCallV3 DrainFrame where
  drain := drain
  size := DrainFrame.byteCount
  same := sameFrame
  serve s call := (s.step call.input).1
  confirm s frame := (s.confirmDrainFrameFlushed frame).1
  fail s inFlightBytes := s.handleDrainWriteFailure inFlightBytes
  drain_serve := drain_serve
  drain_confirm _ _ := rfl
  drain_fail _ _ := rfl
  size_same := byteCount_of_sameFrame

end CommNodeDownlinkV3State

/-- For both versions and every run from the empty state, the counters balance and account for
every item at all times exactly when each failed write is reported while the queue still has the
bytes of its item. -/
theorem drain_accounted (inputsV2 : List (DrainStore.Input StagingCallV2))
    (inputsV3 : List (DrainStore.Input StagingCallV3)) :
    let v2 := CommNodeDownlinkV2State.store
    let v3 := CommNodeDownlinkV3State.store
    ((∀ pre, pre <+: inputsV2 →
        (v2.worker.run ⟨{}, .idle⟩ pre).node.drain.Balanced v2.size ∧
          (v2.worker.run ⟨{}, .idle⟩ pre).node.drain.Accounted v2.size (v2.worker.trace ⟨{}, .idle⟩ pre)) ↔
      v2.worker.Admits v2.Holds ⟨{}, .idle⟩ inputsV2) ∧
    ((∀ pre, pre <+: inputsV3 →
        (v3.worker.run ⟨{}, .idle⟩ pre).node.drain.Balanced v3.size ∧
          (v3.worker.run ⟨{}, .idle⟩ pre).node.drain.Accounted v3.size (v3.worker.trace ⟨{}, .idle⟩ pre)) ↔
      v3.worker.Admits v3.Holds ⟨{}, .idle⟩ inputsV3) := by
  intro v2 v3
  exact ⟨v2.accounted_iff_admits {} rfl inputsV2, v3.accounted_iff_admits {} rfl inputsV3⟩

def wholeChunk : DownlinkStageV2Request where
  header := ⟨2, 34, 1⟩
  streamId := 9
  byteCount := 3
  flags := 3
  data := ascii "XYZ"

/-- The link is closed by another caller after the worker has looked at the front, and the write
fails: three bytes were accepted and six are counted as dropped. -/
theorem drain_dropped_twice :
    let v2 := CommNodeDownlinkV2State.store.worker.run ⟨{}, .idle⟩
      [.serve (.stage ⟨1, 1⟩ wholeChunk 1), .peek, .disconnect, .writeFailed]
    let v3 := CommNodeDownlinkV3State.store.worker.run ⟨{}, .idle⟩
      [.serve (.control ⟨1, 1⟩ (oneFrame .begin) 1), .serve (.data ⟨1, 1⟩ (dataFrame (ascii "XYZ"))),
        .serve (.control ⟨1, 1⟩ (oneFrame .commit) 1), .peek, .disconnect, .writeFailed]
    (v2.node.drain.acceptedBytes = 3 ∧ v2.node.drain.flushedBytes = 0 ∧ v2.node.drain.items = [] ∧
      v2.node.drain.droppedCommittedBytes = 6 ∧ ¬ v2.node.drain.Balanced DrainChunk.byteCount) ∧
    (v3.node.drain.acceptedBytes = 3 ∧ v3.node.drain.flushedBytes = 0 ∧ v3.node.drain.items = [] ∧
      v3.node.drain.droppedCommittedBytes = 6 ∧ ¬ v3.node.drain.Balanced DrainFrame.byteCount) := by
  decide +kernel

end ObcFlight
