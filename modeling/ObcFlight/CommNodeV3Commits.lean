import ObcFlight.CommNodeV3Layout

/-!
# Commits that are answered OK

Along a run it is written down which streams were begun, which frames were staged for them and
which frames were appended to the drain queue. A commit that is answered OK should find its frames
in the queue: those staged since the stream was last begun, appended once. The record of the last
commit outlives a new stream with the same id, frames and bytes, whose commit is then answered from
it; the statement holds for the runs in which no stream is begun under that identity.
-/

namespace ObcFlight

open CommNodeDownlinkV3State

inductive StreamEvent where
  | begun (stream : StreamIdentity)
  | staged (stream : StreamIdentity) (frame : DrainFrame)
  | appended (stream : StreamIdentity) (frames : List DrainFrame)
  deriving DecidableEq

namespace StreamEvent

def stagedFor (stream : StreamIdentity) (events : List StreamEvent) : List DrainFrame :=
  events.filterMap fun
    | .staged other frame => if other = stream then some frame else none
    | _ => none

def appendedFor (stream : StreamIdentity) (events : List StreamEvent) : List (List DrainFrame) :=
  events.filterMap fun
    | .appended other frames => if other = stream then some frames else none
    | _ => none

def sinceBegin (stream : StreamIdentity) (events : List StreamEvent) : List StreamEvent :=
  (events.reverse.takeWhile (· ≠ .begun stream)).reverse

theorem sinceBegin_begun (stream : StreamIdentity) (events : List StreamEvent) :
    sinceBegin stream (events ++ [StreamEvent.begun stream]) = [] := by
  rw [sinceBegin, List.reverse_append, List.reverse_singleton, List.singleton_append,
    List.takeWhile_cons_of_neg (by simp)]
  rfl

theorem sinceBegin_concat {stream : StreamIdentity} {e : StreamEvent} (h : e ≠ .begun stream)
    (events : List StreamEvent) : sinceBegin stream (events ++ [e]) = sinceBegin stream events ++ [e] := by
  rw [sinceBegin, List.reverse_append, List.reverse_singleton, List.singleton_append,
    List.takeWhile_cons_of_pos (by simpa using h), List.reverse_cons]
  rfl

/-- The frames staged since the stream was last begun have been appended, once and in one piece. -/
structure Queued (stream : StreamIdentity) (events : List StreamEvent) : Prop where
  begun : .begun stream ∈ events
  appended : ∃ frames, appendedFor stream (sinceBegin stream events) = [frames] ∧
    frames.Perm (stagedFor stream (sinceBegin stream events))

/-- The stream has been begun, the given frames have been staged for it, and none is in the queue. -/
structure Open (stream : StreamIdentity) (frames : List DrainFrame) (events : List StreamEvent) : Prop where
  begun : .begun stream ∈ events
  appended : appendedFor stream (sinceBegin stream events) = []
  staged : frames.Perm (stagedFor stream (sinceBegin stream events))

variable {stream : StreamIdentity} {frames : List DrainFrame} {events : List StreamEvent}

theorem open_begun (stream : StreamIdentity) (events : List StreamEvent) :
    Open stream [] (events ++ [StreamEvent.begun stream]) := by
  refine ⟨List.mem_append_right _ List.mem_cons_self, ?_, ?_⟩
  · rw [sinceBegin_begun]
    rfl
  · rw [sinceBegin_begun]
    exact .refl _

theorem Open.staged_frame (h : Open stream frames events) (f : DrainFrame) :
    Open stream (f :: frames) (events ++ [StreamEvent.staged stream f]) := by
  have hne : StreamEvent.staged stream f ≠ .begun stream := nofun
  refine ⟨List.mem_append_left _ h.begun, ?_, ?_⟩
  · rw [sinceBegin_concat hne, appendedFor, List.filterMap_append, ← appendedFor, h.appended]
    rfl
  · rw [sinceBegin_concat hne, stagedFor, List.filterMap_append, ← stagedFor]
    simp only [List.filterMap_cons, if_pos, List.filterMap_nil]
    exact (h.staged.cons f).trans (List.perm_append_singleton ..).symm

theorem Open.appended_frames (h : Open stream frames events) :
    Queued stream (events ++ [StreamEvent.appended stream frames]) := by
  have hne : StreamEvent.appended stream frames ≠ .begun stream := nofun
  refine ⟨List.mem_append_left _ h.begun, frames, ?_, ?_⟩
  · rw [sinceBegin_concat hne, appendedFor, List.filterMap_append, ← appendedFor, h.appended]
    simp
  · rw [sinceBegin_concat hne, stagedFor, List.filterMap_append, ← stagedFor]
    simpa using h.staged

theorem Queued.concat (h : Queued stream events) {e : StreamEvent} (hbg : e ≠ .begun stream)
    (hs : ∀ f, e ≠ .staged stream f) (hap : ∀ frames, e ≠ .appended stream frames) :
    Queued stream (events ++ [e]) := by
  obtain ⟨frames, hf, hp⟩ := h.appended
  refine ⟨List.mem_append_left _ h.begun, frames, ?_, ?_⟩
  · rw [sinceBegin_concat hbg, appendedFor, List.filterMap_append, ← appendedFor, hf]
    cases e with
    | begun => rfl
    | staged => rfl
    | appended o l =>
      have hne : o ≠ stream := fun heq => hap l (by rw [heq])
      simp [hne]
  · rw [sinceBegin_concat hbg, stagedFor, List.filterMap_append, ← stagedFor]
    cases e with
    | begun => simpa using hp
    | staged o f =>
      have hne : o ≠ stream := fun heq => hs f (by rw [heq])
      simpa [hne] using hp
    | appended => simpa using hp

end StreamEvent

open StreamEvent

namespace CommNodeDownlinkV3State

variable {s : CommNodeDownlinkV3State}

/-- A stream that is staged after a request and was not before has been begun by it. -/
def begunBy (before after : CommNodeDownlinkV3State) : List StreamEvent :=
  match before.activeStream, after.activeStream with
  | none, some stream => [.begun stream.identity]
  | _, _ => []

/-- The frames that a request has added to the drain queue, for the stream that it names. -/
def appendedBy (request : DownlinkControlV3Request) (before after : CommNodeDownlinkV3State) : List StreamEvent :=
  let frames := after.drain.items.drop before.drain.items.length
  if frames = [] then [] else [.appended (requestIdentity request) frames]

def streamEvents (s : CommNodeDownlinkV3State) : CommNodeV3Input → List StreamEvent
  | .control clock request linkFlags =>
    let before := s.reapTimedOut clock.now
    let after := (s.handleControl clock request linkFlags).1
    begunBy before after ++ appendedBy request before after
  | .data clock frame =>
    if (s.handleData clock frame).2 then
      match (s.reapTimedOut clock.now).activeStream with
      | some stream => [.staged stream.identity (drainFrameOf frame)]
      | none => []
    else []
  | _ => []

/-- A stream is not begun under the identity of the commit that is still on record. -/
def FreshBegin (s : CommNodeDownlinkV3State) : CommNodeV3Input → Prop
  | .control _ request _ => request.op = .begin → s.matchesCommittedCommit request = none
  | _ => True

/-- How the state agrees with what has been written down. -/
structure Recorded (events : List StreamEvent) (s : CommNodeDownlinkV3State) : Prop where
  laidOut : s.LaidOut
  active : ∀ stream, s.activeStream = some stream →
    Open stream.identity stream.stagedFrames.reduceOption events
  cached : ∀ cache, s.committedStream = some cache → Queued cache.identity events
  apart : ∀ stream cache, s.activeStream = some stream → s.committedStream = some cache →
    stream.identity ≠ cache.identity

variable {events : List StreamEvent}

theorem Recorded.clearActiveStream (h : Recorded events s) : Recorded events s.clearActiveStream :=
  ⟨⟨fun _ hac => (nomatch hac), h.laidOut.capacity⟩, fun _ hac => (nomatch hac), h.cached,
    fun _ _ hac => (nomatch hac)⟩

theorem Recorded.reapTimedOut (h : Recorded events s) (now : ℕ) : Recorded events (s.reapTimedOut now) := by
  rcases s.reapTimedOut_cases now with heq | heq <;> rw [heq]
  · exact h
  · exact h.clearActiveStream

theorem Recorded.touch (h : Recorded events s) {stream st' : ActiveStream}
    (hac : s.activeStream = some stream)
    (hl : ({ s with activeStream := some st' } : CommNodeDownlinkV3State).LaidOut)
    (hid : st'.identity = stream.identity) (hs : st'.stagedFrames = stream.stagedFrames) :
    Recorded events { s with activeStream := some st' } := by
  refine ⟨hl, ?_, h.cached, ?_⟩
  · rintro _ ⟨⟩
    rw [hid, hs]
    exact h.active stream hac
  · rintro _ c ⟨⟩ hc
    rw [hid]
    exact h.apart stream c hac hc

theorem Recorded.begun (h : Recorded events s) {stream : ActiveStream} (hl : stream.Layout)
    (he : stream.stagedFrames.reduceOption = [])
    (hf : ∀ c, s.committedStream = some c → stream.identity ≠ c.identity) :
    Recorded (events ++ [StreamEvent.begun stream.identity]) { s with activeStream := some stream } := by
  refine ⟨h.laidOut.activate hl, ?_, fun c hc => ?_, ?_⟩
  · rintro _ ⟨⟩
    rw [he]
    exact open_begun stream.identity events
  · exact (h.cached c hc).concat (fun heq => hf c hc (StreamEvent.begun.inj heq)) nofun nofun
  · rintro _ c ⟨⟩ hc
    exact hf c hc

theorem reduceOption_set_perm {l : List (Option DrainFrame)} {i : ℕ} (h : l[i]? = some none)
    (f : DrainFrame) : (l.set i (some f)).reduceOption.Perm (f :: l.reduceOption) := by
  induction l generalizing i with
  | nil => cases h
  | cons slot _ ih =>
    cases i with
    | zero =>
      rw [List.getElem?_cons_zero, Option.some.injEq] at h
      rw [h, List.set_cons_zero, List.reduceOption_cons_of_some, List.reduceOption_cons_of_none]
    | succ =>
      rw [List.getElem?_cons_succ] at h
      rw [List.set_cons_succ]
      cases slot with
      | none =>
        rw [List.reduceOption_cons_of_none, List.reduceOption_cons_of_none]
        exact ih h
      | some o =>
        rw [List.reduceOption_cons_of_some, List.reduceOption_cons_of_some]
        exact ((ih h).cons o).trans (List.Perm.swap ..)

theorem Recorded.staged (h : Recorded events s) {stream : ActiveStream} (hac : s.activeStream = some stream)
    {f : DownlinkDataV3Frame} (hin : f.frameIndex.toNat < stream.totalFrames.toNat)
    (hf : stream.staged f.frameIndex.toNat = none) {now : ℕ}
    (hl : ({ s with activeStream := some (stream.stage f now) } : CommNodeDownlinkV3State).LaidOut) :
    Recorded (events ++ [StreamEvent.staged stream.identity (drainFrameOf f)])
      { s with activeStream := some (stream.stage f now) } := by
  have hs : stream.stagedFrames[f.frameIndex.toNat]? = some none := by
    rw [← (h.laidOut.layout stream hac).slots] at hin
    rw [ActiveStream.staged, List.getElem?_eq_getElem hin] at hf
    rw [List.getElem?_eq_getElem hin]
    exact congrArg some hf
  refine ⟨hl, ?_, fun c hc => ?_, ?_⟩
  · rintro _ ⟨⟩
    obtain ⟨hbg, han, hst⟩ := (h.active stream hac).staged_frame (drainFrameOf f)
    exact ⟨hbg, han, (reduceOption_set_perm hs _).trans hst⟩
  · have hap := h.apart stream c hac hc
    refine (h.cached c hc).concat ?_ (fun _ heq => hap (StreamEvent.staged.inj heq).1) ?_ <;> simp
  · rintro _ c ⟨⟩ hc
    exact h.apart stream c hac hc

/-! ### One step -/

variable {s' : CommNodeDownlinkV3State}

theorem appendedBy_of_items (h : s'.drain.items = s.drain.items)
    (request : DownlinkControlV3Request) : appendedBy request s s' = [] := by
  rw [appendedBy, h, List.drop_length]
  rfl

theorem begunBy_of_active {stream : ActiveStream} (h : s.activeStream = some stream)
    (s' : CommNodeDownlinkV3State) : begunBy s s' = [] := by
  rw [begunBy, h]

theorem begunBy_of_idle (h : s'.activeStream = none) : begunBy s s' = [] := by
  rw [begunBy, h]
  cases s.activeStream <;> rfl

theorem begunBy_self (s : CommNodeDownlinkV3State) : begunBy s s = [] := by
  cases h : s.activeStream with
  | none => exact begunBy_of_idle h
  | some => exact begunBy_of_active h s

theorem Recorded.committed (h : Recorded events s) {stream : ActiveStream}
    (hac : s.activeStream = some stream) {frames : List DrainFrame}
    (hf : stream.stagedFrames = frames.map some) (hl : s'.LaidOut)
    (hid : s'.activeStream = none) {c : CommittedStreamCache}
    (hc : s'.committedStream = some c) (hin : c.identity = stream.identity) :
    Recorded (events ++ [StreamEvent.appended stream.identity frames]) s' := by
  refine ⟨hl, fun _ h => ?_, fun o hot => ?_, fun _ _ h => ?_⟩
  · exact absurd (hid.symm.trans h) nofun
  · cases hc.symm.trans hot
    have ho := h.active stream hac
    rw [hf, reduceOption_map_some] at ho
    rw [hin]
    exact ho.appended_frames
  · exact absurd (hid.symm.trans h) nofun

variable {reply : DownlinkControlV3Reply} {request : DownlinkControlV3Request}

theorem Recorded.controlled (h : Recorded events s)
    (hfr : request.op = .begin → s.matchesCommittedCommit request = none)
    (hn : Controlled s request s' reply) :
    Recorded (events ++ (begunBy s s' ++ appendedBy request s s')) s' := by
  have hl := h.laidOut.controlled hn
  cases hn with
  | kept | repeated =>
    rw [begunBy_self, appendedBy_of_items rfl, List.append_nil]
    simpa using h
  | touched _ _ _ hac =>
    rw [begunBy_of_active hac, appendedBy_of_items (by rfl)]
    simpa using h.touch hac hl rfl rfl
  | aborted =>
    rw [begunBy_of_idle (by rfl), appendedBy_of_items (by rfl)]
    simpa using h.clearActiveStream
  | begun _ stream hop hil hid hp hlm he =>
    have hbg : begunBy s { s with activeStream := some stream } = [.begun stream.identity] := by
      rw [begunBy, hil]
    rw [hbg, appendedBy_of_items (by rfl), List.append_nil]
    refine h.begun (ActiveStream.layout_empty hp hlm he) ?_ fun c hc hs => ?_
    · rw [he, List.reduceOption_replicate_none]
    · have hnone := hfr hop
      rw [matchesCommittedCommit, hc, Option.filter_some, if_pos (by simp [← hs, hid])] at hnone
      cases hnone
  | committed _ stream c _ hac hid _ hc _ hfl =>
    obtain ⟨frames, hf⟩ := exists_map_some hfl
    have hly := h.laidOut.layout stream hac
    have hne : frames ≠ [] := by
      rintro rfl
      have := hly.slots
      rw [hf] at this
      exact hly.positive.ne this
    have hap : appendedBy request s
        { activeStream := none
          committedStream := some c
          drain := s.drain.append DrainFrame.byteCount stream.stagedFrames.reduceOption } =
        [.appended stream.identity frames] := by
      rw [appendedBy, DrainQueue.append, hf, reduceOption_map_some, List.drop_left, if_neg hne, hid]
    rw [begunBy_of_active hac, hap]
    exact h.committed hac hf hl rfl rfl hc

theorem Recorded.drainWriteFailure (h : Recorded events s) (i : UInt32) (e' : List StreamEvent) :
    Recorded e' (s.handleDrainWriteFailure i) := by
  have hid : (s.handleDrainWriteFailure i).activeStream = none := rfl
  have hc : (s.handleDrainWriteFailure i).committedStream = none := rfl
  refine ⟨h.laidOut.step (.drainWriteFailure i), fun _ hac => ?_, fun _ hcc => ?_,
    fun _ _ hac => ?_⟩
  · exact absurd (hid.symm.trans hac) nofun
  · exact absurd (hc.symm.trans hcc) nofun
  · exact absurd (hid.symm.trans hac) nofun

theorem Recorded.step (h : Recorded events s) {x : CommNodeV3Input} (hfr : s.FreshBegin x) :
    Recorded (events ++ s.streamEvents x) (s.step x).1 := by
  cases x with
  | control c request l =>
    refine (h.reapTimedOut c.now).controlled (fun hop => ?_) (s.controlled c request l)
    rw [matchesCommittedCommit, reapTimedOut_committedStream]
    exact hfr hop
  | data c f =>
    have hnext := s.received c f
    have hr := h.reapTimedOut c.now
    have hl := hr.laidOut.received hnext
    rw [streamEvents]
    change Recorded _ (s.handleData c f).1
    generalize s.handleData c f = next at hnext hl ⊢
    obtain ⟨s', a⟩ := next
    generalize s.reapTimedOut c.now = before at hnext hr ⊢
    cases hnext with
    | dropped => simpa using hr
    | taken _ _ _ hac => simpa using hr.touch hac hl rfl rfl
    | staged _ _ hac _ hin _ hf =>
      rw [if_pos rfl, hac]
      exact hr.staged hac hin hf hl
  | reapTimedOut now =>
    change Recorded (events ++ []) _
    rw [List.append_nil]
    exact h.reapTimedOut now
  | confirmFlushed f =>
    change Recorded (events ++ []) _
    rw [List.append_nil]
    exact ⟨h.laidOut.step (.confirmFlushed f), h.active, h.cached, h.apart⟩
  | drainWriteFailure i => exact h.drainWriteFailure i _
  | disconnect => exact h.drainWriteFailure 0 _

/-! ### Runs -/

theorem cached_of_ok (hn : Controlled s request s' reply) (hop : request.op = .commit)
    (hok : reply.result = .ok) :
    ∃ c, s'.committedStream = some c ∧ c.identity = requestIdentity request := by
  cases hn with
  | kept _ hr | touched _ _ _ _ hr => exact absurd hok (hr hop)
  | repeated _ c _ hc hid => exact ⟨c, hc, hid⟩
  | aborted _ hab => exact absurd (hop.symm.trans hab) nofun
  | begun _ _ hbg => exact absurd (hop.symm.trans hbg) nofun
  | committed _ _ c _ _ hid _ hc => exact ⟨c, rfl, hc.trans hid⟩

theorem recorded_nil : Recorded [] {} :=
  ⟨⟨fun _ h => (nomatch h), Nat.zero_le _⟩, fun _ h => (nomatch h), fun _ h => (nomatch h), fun _ _ h => (nomatch h)⟩

theorem Recorded.queued_of_ok (h : Recorded events s) {c : ClockReads} {l : UInt8}
    (hop : request.op = .commit) (hok : (s.handleControl c request l).2.result = .ok) :
    Queued (requestIdentity request) (events ++ s.streamEvents (.control c request l)) := by
  have hnext : Recorded _ (s.handleControl c request l).1 :=
    h.step (show FreshBegin s (.control c request l) from fun hbg =>
      absurd (hop.symm.trans hbg) nofun)
  obtain ⟨cc, hc, hid⟩ := cached_of_ok (s.controlled c request l) hop hok
  rw [← hid]
  exact hnext.cached cc hc

/-- In every run in which no stream is begun under the identity of the commit on record, a commit that
is answered OK finds the frames that were staged since its stream was last begun in the queue, to
which they have been appended once. -/
theorem commit_ok_queued (inputs : List CommNodeV3Input) (h : commNodeV3.Admits FreshBegin {} inputs)
    (clock : ClockReads) (request : DownlinkControlV3Request) (linkFlags : UInt8) (hop : request.op = .commit)
    (hok : ((commNodeV3.run {} inputs).handleControl clock request linkFlags).2.result = .ok) :
    Queued (requestIdentity request)
      ((commNodeV3.observe streamEvents).trace {} (inputs ++ [CommNodeV3Input.control clock request linkFlags])) := by
  have hrecorded : Recorded ((commNodeV3.observe streamEvents).trace {} inputs) (commNodeV3.run {} inputs) :=
    commNodeV3.observed_invariant_of_admits (fun _ _ _ hfresh hs => hs.step hfresh) [] {}
      recorded_nil inputs h
  rw [Machine.trace_append, Machine.observe_run, Machine.trace_cons, Machine.trace_nil, List.append_nil]
  exact hrecorded.queued_of_ok hop hok

def oneFrame (op : DownlinkControlV3Op) : DownlinkControlV3Request where
  header := ⟨3, 39, 1⟩
  op := op
  streamId := 9
  totalFrames := 1
  totalBytes := 3

def dataFrame (data : Bytes) : DownlinkDataV3Frame where
  version := 3
  kind := 1
  streamId := 9
  frameIndex := 0
  frameCount := 1
  byteOffset := 0
  byteCount := 3
  data := data

def begunAndStaged (data : Bytes) : List CommNodeV3Input :=
  [.control ⟨1, 1⟩ (oneFrame .begin) 1, .data ⟨1, 1⟩ (dataFrame data)]

theorem first_commit_queued :
    ((commNodeV3.run {} (begunAndStaged (ascii "XYZ"))).handleControl ⟨1, 1⟩ (oneFrame .commit) 1).2.result = .ok ∧
      Queued ⟨9, 1, 3⟩ ((commNodeV3.observe streamEvents).trace {}
        (begunAndStaged (ascii "XYZ") ++ [CommNodeV3Input.control ⟨1, 1⟩ (oneFrame .commit) 1])) := by
  have hok : ((commNodeV3.run {} (begunAndStaged (ascii "XYZ"))).handleControl ⟨1, 1⟩ (oneFrame .commit)
      1).2.result = .ok := by
    decide +kernel
  have hfresh : commNodeV3.Admits FreshBegin {} (begunAndStaged (ascii "XYZ")) := ⟨fun _ => rfl, trivial, trivial⟩
  exact ⟨hok, commit_ok_queued _ hfresh _ _ _ rfl hok⟩

/-- A stream is committed, begun again under the same identity and filled with other data. Its commit
is answered OK and the queue has only the old data. -/
theorem recommit_not_queued :
    let inputs := begunAndStaged (ascii "XYZ") ++ [CommNodeV3Input.control ⟨1, 1⟩ (oneFrame .commit) 1] ++
      begunAndStaged (ascii "ABC")
    let s := commNodeV3.run {} inputs
    let next := s.handleControl ⟨1, 1⟩ (oneFrame .commit) 1
    let events := sinceBegin ⟨9, 1, 3⟩
      ((commNodeV3.observe streamEvents).trace {} (inputs ++ [CommNodeV3Input.control ⟨1, 1⟩ (oneFrame .commit) 1]))
    next.2.result = .ok ∧ next.1.drain.items.map DrainFrame.data = [ascii "XYZ"] ∧
      appendedFor ⟨9, 1, 3⟩ events = [] ∧ (stagedFor ⟨9, 1, 3⟩ events).map DrainFrame.data = [ascii "ABC"] := by
  decide +kernel

end CommNodeDownlinkV3State

end ObcFlight
