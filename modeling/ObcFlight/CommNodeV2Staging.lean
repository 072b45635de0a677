import ObcFlight.CommNodeV2

/-!
# Streams enter the drain queue whole

What a request for a chunk can do is said once, from the state after the timeout check. The chunks
of the staged stream are numbered from one without gaps, so that what the last chunk appends is a
whole stream, and the queue is what is left at the end of the streams that were committed.
-/

namespace ObcFlight

namespace CommNodeDownlinkV2State

variable {s : CommNodeDownlinkV2State} {request : DownlinkStageV2Request}

/-! ### What a request does -/

def Cached (s : CommNodeDownlinkV2State) (request : DownlinkStageV2Request) : Prop :=
  (s.findActiveReply request).isSome ∨ (s.findCommittedReply request).isSome

/-- The stream that takes the chunk: the staged one, or a new one. -/
def Joins (s : CommNodeDownlinkV2State) (request : DownlinkStageV2Request) (stream : ActiveStream) : Prop :=
  s.activeStream = some stream ∧ request.streamId = stream.streamId ∨
    s.activeStream = none ∧ stream = { streamId := request.streamId }

/-- The last chunk of a stream, or the same once more while it waits for room. -/
structure ActiveStream.Ends (stream : ActiveStream) (request : DownlinkStageV2Request) (final : PendingFinal) :
    Prop where
  seq : request.header.seq = stream.nextSeq
  chunk : final.chunk = chunkOf request
  flags : final.flags = request.flags
  last : stream.pendingFinal = some final ∨ isLast request.flags = true

def ActiveStream.push (stream : ActiveStream) (request : DownlinkStageV2Request) (reply : DownlinkStageV2Reply)
    (now : ℕ) : ActiveStream :=
  { stream with
    stagedChunks := stream.stagedChunks ++ [chunkOf request]
    nextSeq := request.header.seq + 1
    lastActivity := now
    stagedReplies :=
      stream.stagedReplies ++ [⟨request.streamId, request.header.seq, chunkOf request, request.flags, reply⟩] }

/-- From the state after the timeout check. -/
inductive Staging (s : CommNodeDownlinkV2State) (request : DownlinkStageV2Request) :
    CommNodeDownlinkV2State × DownlinkStageV2Reply × Bool → Prop
  | cached (reply : DownlinkStageV2Reply) (hcached : s.Cached request) : Staging s request (s, reply, false)
  | refused (reply : DownlinkStageV2Reply) (hresult : reply.result = .invalidRequest) :
      Staging s request (s, reply, false)
  | staged (stream : ActiveStream) (reply : DownlinkStageV2Reply) (now : ℕ) (hjoins : s.Joins request stream)
      (hseq : request.header.seq = stream.nextSeq) (hwaiting : stream.pendingFinal = none)
      (hroom : stream.stagedChunks.length < stagingSlotLimit) (hresult : reply.result = .ok) :
      Staging s request ({ s with activeStream := some (stream.push request reply now) }, reply, true)
  | waiting (stream : ActiveStream) (final : PendingFinal) (reply : DownlinkStageV2Reply) (now : ℕ)
      (hjoins : s.Joins request stream) (hends : stream.Ends request final) (hresult : reply.result = .noCredit) :
      Staging s request
        ({ s with activeStream := some { stream with pendingFinal := some final, lastActivity := now } }, reply,
          false)
  | committed (stream : ActiveStream) (final : PendingFinal) (reply : DownlinkStageV2Reply) (accepted : Bool)
      (hjoins : s.Joins request stream) (hends : stream.Ends request final)
      (hroom : stream.stagedChunks.length + 1 ≤ s.drainFreeSlots) (hresult : reply.result = .ok) :
      Staging s request
        ({ activeStream := none
           drain := s.drain.append DrainChunk.byteCount (stream.stagedChunks ++ [final.chunk])
           committedReplyCache := trimCommittedReplyCache (s.committedReplyCache ++ (stream.stagedReplies ++
             [⟨stream.streamId, final.chunk.acceptedSeq, final.chunk, final.flags, reply⟩])) }, reply, accepted)

variable {stream : ActiveStream} {final : PendingFinal}

theorem staging_commitOrWait (hjn : s.Joins request stream) (he : stream.Ends request final)
    (now : ℕ) (r : DownlinkStageV2Reply) (l : UInt8) (a : Bool) (x : Option ActiveStream) :
    Staging s request (({ s with activeStream := x } : CommNodeDownlinkV2State).commitOrWait
      { stream with lastActivity := now } final r l a) := by
  unfold commitOrWait tryCommitPendingFinal
  dsimp only
  split
  · rename_i c hc
    split at hc
    · cases hc
    · rename_i hr
      cases hc
      exact .committed stream final _ a hjn he (Nat.le_of_not_lt hr) rfl
  · exact .waiting stream final _ now hjn he rfl

variable {chunk : DrainChunk}

theorem eq_chunkOf (h : drainChunkEqualsRequest chunk request = true) :
    chunk = chunkOf request := by
  simp only [drainChunkEqualsRequest, Bool.and_eq_true, decide_eq_true_eq] at h
  obtain ⟨⟨⟨hs, hseq⟩, hc⟩, hdt⟩ := h
  cases chunk
  subst hs hseq hc hdt
  rfl

theorem staging_stageChunk (hjn : s.Joins request stream)
    (hf : s.activeStream = none → isFirst request.flags = true ∧ request.header.seq = 1)
    (c : ClockReads) {r : DownlinkStageV2Reply} (hrp : r.result = .ok) (l : UInt8) :
    Staging s request (s.stageChunk c request r l stream) := by
  have hr (hin : s.activeStream = none → False) :
      Staging s request ({ s with activeStream := some stream }, { r with result := .invalidRequest }, false) := by
    rcases hjn with ⟨hac, -⟩ | ⟨hid, -⟩
    · have hs : ({ s with activeStream := some stream } : CommNodeDownlinkV2State) = s := by
        rw [← hac]
      rw [hs]
      exact .refused _ rfl
    · exact (hin hid).elim
  have hnew (hid : s.activeStream = none) : stream = { streamId := request.streamId } := by
    rcases hjn with ⟨hac, -⟩ | ⟨-, hnew⟩
    · rw [hid] at hac
      cases hac
    · exact hnew
  unfold stageChunk
  dsimp only
  split
  · rename_i final hfn
    split
    · rename_i hs
      simp only [Bool.and_eq_true, decide_eq_true_eq] at hs
      exact staging_commitOrWait hjn ⟨hs.1.1, eq_chunkOf hs.1.2, hs.2.symm, .inl hfn⟩
        stream.lastActivity r l false _
    · refine hr fun hid => ?_
      rw [hnew hid] at hfn
      cases hfn
  · rename_i hw
    split_ifs with hseq hl hbad hbad
    · refine hr fun hid => ?_
      rw [hnew hid, (hf hid).2] at hseq
      exact absurd hseq (by simp)
    · refine hr fun hid => ?_
      rw [hnew hid, (hf hid).2] at hbad
      exact absurd hbad (by simp [stagingSlotLimit])
    · simp only [bne_iff_ne, ne_eq, not_not] at hseq
      simp only [Bool.or_eq_true, decide_eq_true_eq, not_or, Nat.not_le] at hbad
      exact .staged stream _ c.later hjn hseq hw hbad.2 hrp
    · refine hr fun hid => ?_
      rw [(hf hid).1, (hf hid).2] at hbad
      exact absurd hbad (by decide)
    · simp only [bne_iff_ne, ne_eq, not_not] at hseq
      have he : stream.Ends request ⟨chunkOf request, request.flags⟩ :=
        ⟨hseq, rfl, rfl, .inr (by simpa using hl)⟩
      exact staging_commitOrWait hjn he c.later r l true _

theorem staging (s : CommNodeDownlinkV2State) (c : ClockReads) (request : DownlinkStageV2Request)
    (l : UInt8) :
    Staging (s.reapTimedOut c.now) request (s.handleStage c request l) := by
  unfold handleStage
  dsimp only
  generalize s.reapTimedOut c.now = s
  split
  · rename_i e he
    refine .cached _ ?_
    rcases Option.or_eq_some_iff.mp he with hac | ⟨-, hc⟩
    · exact .inl (Option.isSome_of_eq_some hac)
    · exact .inr (Option.isSome_of_eq_some hc)
  · split
    · exact .refused _ rfl
    · split
      · rename_i stream hac
        split
        · exact .refused _ rfl
        · rename_i hs
          exact staging_stageChunk (.inl ⟨hac, by simpa using hs⟩) (by simp [hac]) c rfl l
      · rename_i hid
        split
        · exact .refused _ rfl
        · rename_i hf
          exact staging_stageChunk (.inr ⟨hid, rfl⟩) (fun _ => by simpa using hf) c rfl l

/-! ### Staged chunks are numbered from one -/

structure ActiveStream.InOrder (stream : ActiveStream) : Prop where
  numbered : stream.stagedChunks.map (fun chunk => chunk.acceptedSeq.toNat) =
    List.range' 1 stream.stagedChunks.length
  owned : ∀ chunk ∈ stream.stagedChunks, chunk.streamId = stream.streamId
  next : stream.nextSeq.toNat = stream.stagedChunks.length + 1
  limit : stream.stagedChunks.length ≤ stagingSlotLimit
  final : ∀ final, stream.pendingFinal = some final →
    final.chunk.streamId = stream.streamId ∧ final.chunk.acceptedSeq = stream.nextSeq ∧ isLast final.flags = true

/-- All chunks of one stream, from the first to the last. -/
structure WholeStream (chunks : List DrainChunk) : Prop where
  nonempty : chunks ≠ []
  owned : ∃ streamId, ∀ chunk ∈ chunks, chunk.streamId = streamId
  numbered : chunks.map (fun chunk => chunk.acceptedSeq.toNat) = List.range' 1 chunks.length

structure Ordered (s : CommNodeDownlinkV2State) : Prop where
  active : ∀ stream, s.activeStream = some stream → stream.InOrder
  capacity : s.drain.items.length ≤ drainSlotLimit

theorem inOrder_new (streamId : UInt16) : ({ streamId } : ActiveStream).InOrder where
  numbered := rfl
  owned := fun _ h => (nomatch h)
  next := rfl
  limit := Nat.zero_le _
  final := fun _ h => (nomatch h)

theorem Joins.inOrder (h : s.Joins request stream) (hs : s.Ordered) :
    stream.InOrder ∧ request.streamId = stream.streamId := by
  rcases h with ⟨hac, hst⟩ | ⟨-, rfl⟩
  · exact ⟨hs.active stream hac, hst⟩
  · exact ⟨inOrder_new request.streamId, rfl⟩

theorem numbered_concat {c : List DrainChunk}
    (h : c.map (fun chunk => chunk.acceptedSeq.toNat) = List.range' 1 c.length)
    (hseq : chunk.acceptedSeq.toNat = c.length + 1) :
    (c ++ [chunk]).map (fun chunk => chunk.acceptedSeq.toNat) = List.range' 1 (c ++ [chunk]).length := by
  rw [List.map_append, h, List.length_append, List.length_singleton, List.range'_concat, List.map_singleton, hseq,
    Nat.one_mul, Nat.add_comm]

theorem owned_concat {c : List DrainChunk} {streamId : UInt16}
    (h : ∀ chunk ∈ c, chunk.streamId = streamId) (hc : chunk.streamId = streamId) :
    ∀ o ∈ c ++ [chunk], o.streamId = streamId := by
  intro o ho
  rcases List.mem_append.mp ho with hold | hnew
  · exact h o hold
  · rw [List.mem_singleton.mp hnew, hc]

theorem ActiveStream.InOrder.push (h : stream.InOrder)
    (hs : request.streamId = stream.streamId) (hseq : request.header.seq = stream.nextSeq)
    (hw : stream.pendingFinal = none) (hr : stream.stagedChunks.length < stagingSlotLimit)
    (r : DownlinkStageV2Reply) (now : ℕ) : (stream.push request r now).InOrder where
  numbered := numbered_concat h.numbered (by rw [← h.next, ← hseq]; rfl)
  owned := owned_concat h.owned hs
  next := by
    have hsm : (1 : UInt16).toNat = 1 := rfl
    have hnext := h.next
    have hl : stagingSlotLimit = 24 := rfl
    rw [ActiveStream.push, hseq, UInt16.toNat_add, List.length_append, List.length_singleton]
    omega
  limit := by
    rw [ActiveStream.push, List.length_append, List.length_singleton]
    exact hr
  final := by
    rw [ActiveStream.push, hw]
    exact fun _ h => (nomatch h)

theorem ActiveStream.Ends.isLast (he : stream.Ends request final) (h : stream.InOrder) :
    isLast request.flags = true := by
  rcases he.last with hf | hl
  · rw [← he.flags]
    exact (h.final final hf).2.2
  · exact hl

theorem ActiveStream.Ends.seq_toNat (he : stream.Ends request final) (h : stream.InOrder) :
    final.chunk.acceptedSeq.toNat = stream.stagedChunks.length + 1 := by
  rw [he.chunk, ← h.next, ← he.seq]
  rfl

theorem ActiveStream.InOrder.wait (h : stream.InOrder)
    (hs : request.streamId = stream.streamId) (he : stream.Ends request final) (now : ℕ) :
    ({ stream with pendingFinal := some final, lastActivity := now } : ActiveStream).InOrder where
  numbered := h.numbered
  owned := h.owned
  next := h.next
  limit := h.limit
  final := by
    rintro _ ⟨⟩
    refine ⟨?_, ?_, ?_⟩
    · rw [he.chunk]
      exact hs
    · rw [he.chunk]
      exact he.seq
    · rw [he.flags]
      exact he.isLast h

theorem ActiveStream.InOrder.whole (h : stream.InOrder)
    (hs : request.streamId = stream.streamId) (he : stream.Ends request final) :
    WholeStream (stream.stagedChunks ++ [final.chunk]) where
  nonempty := by simp
  owned := ⟨stream.streamId, owned_concat h.owned (by rw [he.chunk]; exact hs)⟩
  numbered := numbered_concat h.numbered (he.seq_toNat h)

theorem reapTimedOut_cases (s : CommNodeDownlinkV2State) (now : ℕ) :
    s.reapTimedOut now = s ∨ s.reapTimedOut now = s.clearActiveStream := by
  unfold reapTimedOut
  split
  · exact .inl rfl
  · split_ifs
    · exact .inl rfl
    · exact .inl rfl
    · exact .inr rfl

@[simp] theorem reapTimedOut_drain (s : CommNodeDownlinkV2State) (now : ℕ) :
    (s.reapTimedOut now).drain = s.drain := by
  rcases s.reapTimedOut_cases now with h | h <;> rw [h]
  rfl

theorem Ordered.clearActiveStream (h : s.Ordered) : s.clearActiveStream.Ordered :=
  ⟨fun _ hac => (nomatch hac), h.capacity⟩

theorem Ordered.reapTimedOut (h : s.Ordered) (now : ℕ) : (s.reapTimedOut now).Ordered := by
  rcases s.reapTimedOut_cases now with heq | heq <;> rw [heq]
  · exact h
  · exact h.clearActiveStream

theorem Ordered.activate (h : s.Ordered) (hs : stream.InOrder) :
    ({ s with activeStream := some stream } : CommNodeDownlinkV2State).Ordered := by
  refine ⟨?_, h.capacity⟩
  rintro _ ⟨⟩
  exact hs

variable {next : CommNodeDownlinkV2State × DownlinkStageV2Reply × Bool}

theorem Ordered.staging (h : s.Ordered) (hn : Staging s request next) : next.1.Ordered := by
  cases hn with
  | cached => exact h
  | refused => exact h
  | staged _ r now hjn hseq hw hrm =>
    obtain ⟨ho, hs⟩ := hjn.inOrder h
    exact h.activate (ho.push hs hseq hw hrm r now)
  | waiting _ _ _ now hjn he =>
    obtain ⟨ho, hs⟩ := hjn.inOrder h
    exact h.activate (ho.wait hs he now)
  | committed stream final _ _ _ _ hrm =>
    refine ⟨fun _ hac => (nomatch hac), ?_⟩
    have hl : (s.drain.items ++ (stream.stagedChunks ++ [final.chunk])).length =
        s.drain.items.length + (stream.stagedChunks.length + 1) := by
      simp only [List.length_append, List.length_singleton]
    have hcp := h.capacity
    rw [drainFreeSlots] at hrm
    show (s.drain.items ++ (stream.stagedChunks ++ [final.chunk])).length ≤ drainSlotLimit
    omega

theorem Ordered.step (h : s.Ordered) (i : CommNodeV2Input) : (s.step i).1.Ordered := by
  cases i with
  | stage c request l => exact (h.reapTimedOut c.now).staging (s.staging c request l)
  | status => exact h
  | abort =>
    simp only [CommNodeDownlinkV2State.step, handleAbort]
    split_ifs
    · exact h
    · exact h.clearActiveStream
    · exact h
  | reapTimedOut now => exact h.reapTimedOut now
  | confirmFlushed chunk =>
    exact ⟨h.active, (DrainQueue.suffix_of_confirmFlushed sameChunk chunk).length_le.trans h.capacity⟩
  | drainWriteFailure | disconnect => exact ⟨fun _ hac => (nomatch hac), Nat.zero_le _⟩

/-! ### Repeated chunks -/

theorem handleStage_of_cached {c : ClockReads} (h : (s.reapTimedOut c.now).Cached request)
    (l : UInt8) : (s.handleStage c request l).1 = s.reapTimedOut c.now := by
  have hf : (((s.reapTimedOut c.now).findActiveReply request).or
      ((s.reapTimedOut c.now).findCommittedReply request)).isSome = true := by
    rw [Option.isSome_or, Bool.or_eq_true]
    exact h
  obtain ⟨e, he⟩ := Option.isSome_iff_exists.mp hf
  simp only [handleStage, he]

theorem cachedReplyMatchesRequest_self (n : UInt16) (r : DownlinkStageV2Reply) :
    cachedReplyMatchesRequest request ⟨n, request.header.seq, chunkOf request, request.flags, r⟩ = true := by
  simp [cachedReplyMatchesRequest, drainChunkEqualsRequest, chunkOf]

theorem mem_trimCommittedReplyCache (l : List CachedStageReply) (e : CachedStageReply) :
    e ∈ trimCommittedReplyCache (l ++ [e]) := by
  rw [trimCommittedReplyCache, List.drop_append_of_le_length]
  · exact List.mem_append_right _ List.mem_cons_self
  · rw [List.length_append, List.length_singleton]
    have hl : drainSlotLimit + stagingSlotLimit = 88 := rfl
    omega

theorem Staging.cached_of_ok (h : Staging s request next) (hs : s.Ordered)
    (hok : next.2.1.result = .ok) : next.1.Cached request := by
  cases h with
  | cached _ hc => exact hc
  | refused _ hr | waiting _ _ _ _ _ _ hr =>
    rw [hr] at hok
    cases hok
  | staged stream r now hjn =>
    left
    have hst : ¬ (stream.push request r now).streamId ≠ request.streamId :=
      not_not.mpr (hjn.inOrder hs).2.symm
    simp only [findActiveReply, bne_iff_ne, if_neg hst]
    exact List.find?_isSome.mpr
      ⟨_, List.mem_append_right _ List.mem_cons_self, cachedReplyMatchesRequest_self _ r⟩
  | committed _ _ r _ _ he =>
    right
    rw [findCommittedReply, ← List.append_assoc]
    refine List.find?_isSome.mpr ⟨_, mem_trimCommittedReplyCache _ _, ?_⟩
    rw [he.chunk, he.flags]
    exact cachedReplyMatchesRequest_self _ r

theorem Staging.eq_of_invalid (h : Staging s request next)
    (hin : next.2.1.result = .invalidRequest) : next.1 = s := by
  cases h with
  | cached => rfl
  | refused => rfl
  | staged _ _ _ _ _ _ _ hr | waiting _ _ _ _ _ _ hr | committed _ _ _ _ _ _ _ hr =>
    rw [hr] at hin
    cases hin

/-! ### The queue -/

/-- The chunks that a request has added to the drain queue, from the state after the timeout check:
those that were staged and the one that it carries, which is the last. Nothing is staged after it. -/
structure Committed (s : CommNodeDownlinkV2State) (request : DownlinkStageV2Request) (chunks : List DrainChunk)
    (next : CommNodeDownlinkV2State) : Prop where
  last : isLast request.flags = true
  chunks_eq : chunks = (s.activeStream.map ActiveStream.stagedChunks).getD [] ++ [chunkOf request]
  whole : WholeStream chunks
  items : next.drain.items = s.drain.items ++ chunks
  idle : next.activeStream = none

theorem Joins.stagedChunks (h : s.Joins request stream) :
    (s.activeStream.map ActiveStream.stagedChunks).getD [] = stream.stagedChunks := by
  rcases h with ⟨hac, -⟩ | ⟨hid, rfl⟩
  · rw [hac]
    rfl
  · rw [hid]
    rfl

theorem Staging.drain_cases (h : Staging s request next) (hs : s.Ordered) :
    next.1.drain = s.drain ∨ ∃ c, Committed s request c next.1 := by
  cases h with
  | cached | refused | staged | waiting => exact .inl rfl
  | committed stream final _ _ hjn he =>
    obtain ⟨ho, hst⟩ := hjn.inOrder hs
    refine .inr ⟨stream.stagedChunks ++ [final.chunk], he.isLast ho, ?_, ho.whole hst he, rfl, rfl⟩
    rw [hjn.stagedChunks, he.chunk]

def committedBy (s : CommNodeDownlinkV2State) : CommNodeV2Input → List (List DrainChunk)
  | .stage clock request linkFlags =>
    let chunks := (s.handleStage clock request linkFlags).1.drain.items.drop s.drain.items.length
    if chunks = [] then [] else [chunks]
  | _ => []

theorem committedBy_cases (hs : s.Ordered) (c : ClockReads) (request : DownlinkStageV2Request)
    (l : UInt8) :
    (s.committedBy (.stage c request l) = [] ∧ (s.handleStage c request l).1.drain = s.drain) ∨
      ∃ ch, s.committedBy (.stage c request l) = [ch] ∧
        Committed (s.reapTimedOut c.now) request ch (s.handleStage c request l).1 := by
  rcases (s.staging c request l).drain_cases (hs.reapTimedOut c.now) with hsm | ⟨ch, h⟩
  · rw [reapTimedOut_drain] at hsm
    refine .inl ⟨?_, hsm⟩
    rw [committedBy, hsm, List.drop_length]
    exact if_pos rfl
  · refine .inr ⟨ch, ?_, h⟩
    rw [committedBy, h.items, reapTimedOut_drain, List.drop_left]
    exact if_neg h.whole.nonempty

/-- The queue is an end of what has been committed. -/
structure Drained (streams : List (List DrainChunk)) (s : CommNodeDownlinkV2State) : Prop where
  ordered : s.Ordered
  suffix : s.drain.items <:+ streams.flatten
  whole : ∀ chunks ∈ streams, WholeStream chunks

theorem Drained.step {x : List (List DrainChunk)} (h : Drained x s) (i : CommNodeV2Input) :
    Drained (x ++ s.committedBy i) (s.step i).1 := by
  have ho := h.ordered.step i
  -- requests other than those for a chunk append nothing
  have hk (hn : s.committedBy i = []) (hsf : (s.step i).1.drain.items <:+ s.drain.items) :
      Drained (x ++ s.committedBy i) (s.step i).1 := by
    rw [hn, List.append_nil]
    exact ⟨ho, hsf.trans h.suffix, h.whole⟩
  cases i with
  | stage c request l =>
    rcases committedBy_cases h.ordered c request l with ⟨hn, hs⟩ | ⟨ch, hch, hc⟩
    · refine hk hn ?_
      show (s.handleStage c request l).1.drain.items <:+ _
      exact hs ▸ List.suffix_refl _
    · rw [hch]
      refine ⟨ho, ?_, ?_⟩
      · obtain ⟨pre, hpre⟩ := h.suffix
        refine ⟨pre, ?_⟩
        show pre ++ (s.handleStage c request l).1.drain.items = _
        rw [hc.items, reapTimedOut_drain, ← List.append_assoc, hpre, List.flatten_append,
          List.flatten_singleton]
      · intro o hot
        rcases List.mem_append.mp hot with hold | hnew
        · exact h.whole o hold
        · rw [List.mem_singleton.mp hnew]
          exact hc.whole
  | status => exact hk rfl (List.suffix_refl _)
  | abort =>
    refine hk rfl ?_
    simp only [CommNodeDownlinkV2State.step, handleAbort]
    split_ifs <;> exact List.suffix_refl _
  | reapTimedOut now =>
    refine hk rfl ?_
    show (s.reapTimedOut now).drain.items <:+ _
    exact reapTimedOut_drain s now ▸ List.suffix_refl _
  | confirmFlushed chunk => exact hk rfl (DrainQueue.suffix_of_confirmFlushed sameChunk chunk)
  | drainWriteFailure | disconnect => exact hk rfl List.nil_suffix

theorem drained_nil : Drained [] {} :=
  ⟨⟨fun _ hac => (nomatch hac), Nat.zero_le _⟩, List.suffix_refl _, fun _ h => (nomatch h)⟩

theorem handleAbort_of_invalid {r : RequestHeader} {n : UInt16} {l : UInt8}
    (h : (s.handleAbort r n l).2.result = .invalidRequest) :
    (s.handleAbort r n l).1 = s := by
  unfold handleAbort at h ⊢
  split_ifs at h ⊢
  rfl

/-- After any run the queue is what is left of the streams committed so far, each of them whole. A
chunk either leaves the queue and the counters alone or commits the stream it ends. Once answered
OK it is taken only once while its reply is kept, and a refused request changes nothing. -/
theorem staging_atomic (inputs : List CommNodeV2Input) :
    let s := commNodeV2.run {} inputs
    let streams := (commNodeV2.observe committedBy).trace {} inputs
    s.drain.items.length ≤ 64 ∧ s.drain.items <:+ streams.flatten ∧ (∀ chunks ∈ streams, WholeStream chunks) ∧
      (∀ header streamId linkFlags, (s.handleAbort header streamId linkFlags).2.result = .invalidRequest →
        (s.handleAbort header streamId linkFlags).1 = s) ∧
      ∀ clock request linkFlags,
        let before := s.reapTimedOut clock.now
        let next := s.handleStage clock request linkFlags
        (next.1.drain = s.drain ∨ ∃ chunks, s.committedBy (.stage clock request linkFlags) = [chunks] ∧
            Committed before request chunks next.1) ∧
          (next.2.1.result = .ok → next.1.Cached request) ∧ (before.Cached request → next.1 = before) ∧
          (next.2.1.result = .invalidRequest → next.1 = before) := by
  intro s streams
  have hs : Drained streams s := by
    have h := (commNodeV2.observe committedBy).history_invariant (I := Drained)
      (fun _ _ input h => h.step input) [] {} drained_nil inputs
    rwa [Machine.observe_run] at h
  refine ⟨hs.ordered.capacity, hs.suffix, hs.whole, fun _ _ _ => handleAbort_of_invalid,
    fun clock request linkFlags => ?_⟩
  have hstaging := s.staging clock request linkFlags
  have hbefore := hs.ordered.reapTimedOut clock.now
  refine ⟨?_, hstaging.cached_of_ok hbefore, fun h => handleStage_of_cached h linkFlags, hstaging.eq_of_invalid⟩
  rcases committedBy_cases hs.ordered clock request linkFlags with ⟨-, hsame⟩ | h
  · exact .inl hsame
  · exact .inr h

end CommNodeDownlinkV2State

end ObcFlight
