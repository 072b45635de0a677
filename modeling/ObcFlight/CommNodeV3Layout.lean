import Mathlib.Algebra.Order.BigOperators.Group.List
import Mathlib.Data.List.ReduceOption
import ObcFlight.CommNodeV3

/-!
# Committed streams tile their buffer

A data frame is checked only against the neighbours that have already been staged, and offsets
wrap at 32 bits. A commit compares the bytes of the staged frames with the announced number, which
leaves no room for wrapping: the frames of a committed stream are consecutive, start at zero and
end at the announced number of bytes.
-/

namespace ObcFlight

/-! ### Consecutive intervals -/

theorem existsUnique_interval (l : List ℕ) {p : ℕ} (h : p < l.sum) :
    ∃! i, (l.take i).sum ≤ p ∧ p < (l.take (i + 1)).sum := by
  have hex : ∃ k, p < (l.take k).sum := ⟨l.length, by rwa [List.take_length]⟩
  have hf := Nat.find_spec hex
  have hp : Nat.find hex ≠ 0 := by
    intro hz
    rw [hz] at hf
    exact Nat.not_lt_zero _ hf
  refine ⟨Nat.find hex - 1, ⟨?_, ?_⟩, fun j hj => ?_⟩
  · exact Nat.le_of_not_lt (Nat.find_min hex (Nat.sub_lt (Nat.pos_of_ne_zero hp) Nat.one_pos))
  · rwa [Nat.sub_add_cancel (Nat.pos_of_ne_zero hp)]
  · have hle : Nat.find hex ≤ j + 1 := Nat.find_min' hex hj.2
    have hge : j < Nat.find hex := by
      by_contra hnot
      have hsum : (l.take (Nat.find hex)).sum ≤ (l.take j).sum :=
        List.monotone_sum_take l (Nat.le_of_not_lt hnot)
      omega
    omega

namespace CommNodeDownlinkV3State

variable {s : CommNodeDownlinkV3State}

/-! ### What a control request does -/

/-- From the state after the timeout check. -/
inductive Controlled (s : CommNodeDownlinkV3State) (request : DownlinkControlV3Request) :
    CommNodeDownlinkV3State → DownlinkControlV3Reply → Prop
  | kept (reply : DownlinkControlV3Reply) (hresult : request.op = .commit → reply.result ≠ .ok) :
      Controlled s request s reply
  | repeated (reply : DownlinkControlV3Reply) (cache : CommittedStreamCache) (hop : request.op = .commit)
      (hcache : s.committedStream = some cache) (hidentity : cache.identity = requestIdentity request) :
      Controlled s request s reply
  | touched (reply : DownlinkControlV3Reply) (stream : ActiveStream) (now : ℕ)
      (hactive : s.activeStream = some stream) (hresult : request.op = .commit → reply.result ≠ .ok) :
      Controlled s request { s with activeStream := some { stream with lastActivity := now } } reply
  | aborted (reply : DownlinkControlV3Reply) (hop : request.op = .abort) :
      Controlled s request s.clearActiveStream reply
  | begun (reply : DownlinkControlV3Reply) (stream : ActiveStream) (hop : request.op = .begin)
      (hidle : s.activeStream = none) (hidentity : stream.identity = requestIdentity request)
      (hpositive : 0 < stream.totalFrames.toNat) (hlimit : stream.totalFrames.toNat ≤ stagingFrameLimit)
      (hempty : stream.stagedFrames = List.replicate stream.totalFrames.toNat none) :
      Controlled s request { s with activeStream := some stream } reply
  | committed (reply : DownlinkControlV3Reply) (stream : ActiveStream) (cache : CommittedStreamCache)
      (hop : request.op = .commit) (hactive : s.activeStream = some stream)
      (hidentity : stream.identity = requestIdentity request)
      (hnew : s.matchesCommittedCommit request = none) (hcache : cache.identity = stream.identity)
      (hfree : stream.totalFrames.toNat ≤ drainFreeFrames s.drain.items)
      (hfull : stream.stagedFrames.all Option.isSome = true)
      (hbytes : DrainQueue.totalBytes DrainFrame.byteCount stream.contiguous = stream.totalBytes)
      (hresult : reply.result = .ok) :
      Controlled s request
        { activeStream := none
          committedStream := some cache
          drain := s.drain.append DrainFrame.byteCount stream.stagedFrames.reduceOption } reply

theorem controlled_handleBegin (c : ClockReads) (request : DownlinkControlV3Request) (l : UInt8)
    (hop : request.op = .begin) :
    Controlled s request (s.handleBegin c request l).1 (s.handleBegin c request l).2 := by
  have hnot {reply : DownlinkControlV3Reply} : request.op = .commit → reply.result ≠ .ok := by
    rw [hop]
    nofun
  unfold handleBegin
  split
  · exact .kept _ hnot
  · split
    · exact .kept _ hnot
    · rename_i hac
      simp only [canAcceptBegin, Bool.not_not, Bool.or_eq_true, decide_eq_true_eq, not_or, Bool.not_eq_true,
        Option.isSome_eq_false_iff, Option.isNone_iff_eq_none] at hac
      obtain ⟨⟨⟨⟨⟨⟨hid, -⟩, hf⟩, hl⟩, -⟩, -⟩, -⟩ := hac
      have hp : 0 < request.totalFrames.toNat :=
        Nat.pos_of_ne_zero fun hz => hf (UInt16.toNat_inj.mp hz)
      exact .begun _ _ hop hid rfl hp (Nat.le_of_not_lt hl) rfl

variable {request : DownlinkControlV3Request} {stream : ActiveStream}

theorem eq_of_matchesActiveBegin (h : s.matchesActiveBegin request = some stream) :
    s.activeStream = some stream ∧ stream.identity = requestIdentity request := by
  rw [matchesActiveBegin, Option.filter_eq_some_iff] at h
  exact ⟨h.1, of_decide_eq_true h.2⟩

theorem eq_of_matchesCommittedCommit {c : CommittedStreamCache}
    (h : s.matchesCommittedCommit request = some c) :
    s.committedStream = some c ∧ c.identity = requestIdentity request := by
  rw [matchesCommittedCommit, Option.filter_eq_some_iff] at h
  exact ⟨h.1, of_decide_eq_true h.2⟩

theorem controlled_commit {c : ClockReads} (hop : request.op = .commit)
    (hnew : s.matchesCommittedCommit request = none) (hac : s.activeStream = some stream)
    (hid : stream.identity = requestIdentity request) {l : UInt8}
    {next : CommNodeDownlinkV3State × DownlinkControlV3Reply}
    (hby : DrainQueue.totalBytes DrainFrame.byteCount stream.contiguous = stream.totalBytes)
    (h : ({ s with activeStream := some { stream with lastActivity := c.later } } :
      CommNodeDownlinkV3State).tryCommitActive { stream with lastActivity := c.later } request.header.seq
        l = some next) : Controlled s request next.1 next.2 := by
  unfold tryCommitActive at h
  split at h
  · cases h
  · rename_i hr
    split at h
    · cases h
    · rename_i hf
      simp only [Bool.or_eq_true, decide_eq_true_eq, not_or, Nat.not_lt] at hr
      rw [Bool.not_eq_true, Bool.not_eq_false'] at hf
      cases h
      exact .committed _ stream _ hop hac hid hnew rfl hr.2 hf hby rfl

theorem controlled_handleActive (c : ClockReads) (request : DownlinkControlV3Request) (l : UInt8)
    (hnew : request.op = .commit → s.matchesCommittedCommit request = none) :
    Controlled s request (s.handleActive c request l).1 (s.handleActive c request l).2 := by
  unfold handleActive
  split
  · exact .kept _ fun _ => nofun
  · rename_i stream hm
    obtain ⟨hac, hid⟩ := eq_of_matchesActiveBegin hm
    dsimp only
    split
    · rename_i hop
      have hnot {reply : DownlinkControlV3Reply} : request.op = .commit → reply.result ≠ .ok := by
        rw [hop]
        nofun
      split
      · exact .touched _ stream _ hac hnot
      · exact .touched _ stream _ hac hnot
    · rename_i hop
      split
      · exact .touched _ stream _ hac fun _ => nofun
      · rename_i hc
        simp only [Bool.or_eq_true, bne_iff_ne, ne_eq, not_or, not_not] at hc
        cases hcm : tryCommitActive { s with activeStream := some { stream with lastActivity := c.later } }
            { stream with lastActivity := c.later } request.header.seq l with
        | none => exact .touched _ stream _ hac fun _ => nofun
        | some => exact controlled_commit hop (hnew hop) hac hid hc.2 hcm
    · exact .touched _ stream _ hac fun _ => nofun

theorem controlled (s : CommNodeDownlinkV3State) (c : ClockReads) (request : DownlinkControlV3Request)
    (l : UInt8) :
    Controlled (s.reapTimedOut c.now) request (s.handleControl c request l).1
      (s.handleControl c request l).2 := by
  unfold handleControl
  dsimp only
  split
  · exact .kept _ fun _ => nofun
  · split
    · rename_i hop
      exact .kept _ (by rw [hop]; nofun)
    · rename_i hop
      exact controlled_handleBegin c request l hop
    · rename_i hop
      unfold handleAbort
      split
      · exact .aborted _ hop
      · split
        · exact .kept _ (by rw [hop]; nofun)
        · exact .kept _ fun _ => nofun
    · rename_i hop
      split
      · rename_i cc hm
        obtain ⟨hc, hid⟩ := eq_of_matchesCommittedCommit hm
        exact .repeated _ cc hop hc hid
      · rename_i hnew
        exact controlled_handleActive c request l fun _ => hnew
    · rename_i ho
      exact controlled_handleActive c request l fun hop => absurd hop ho

/-! ### What a data frame does -/

def ActiveStream.stage (stream : ActiveStream) (frame : DownlinkDataV3Frame) (now : ℕ) : ActiveStream :=
  { stream with
    stagedFrames := stream.stagedFrames.set frame.frameIndex.toNat (some (drainFrameOf frame))
    lastActivity := now }

/-- From the state after the timeout check. -/
inductive Received (s : CommNodeDownlinkV3State) (frame : DownlinkDataV3Frame) :
    CommNodeDownlinkV3State → Bool → Prop
  | dropped : Received s frame s false
  | taken (stream : ActiveStream) (duplicateFrames : UInt16) (now : ℕ) (hactive : s.activeStream = some stream) :
      Received s frame
        { s with activeStream := some { stream with duplicateFrames := duplicateFrames, lastActivity := now } } false
  | staged (stream : ActiveStream) (now : ℕ) (hactive : s.activeStream = some stream)
      (hshape : validV3FrameShape frame = true) (hindex : frame.frameIndex.toNat < stream.totalFrames.toNat)
      (hfits : stream.frameFitsActiveLayout frame = true) (hfree : stream.staged frame.frameIndex.toNat = none) :
      Received s frame
        { s with activeStream := some (stream.stage frame now) } true

theorem received (s : CommNodeDownlinkV3State) (c : ClockReads) (frame : DownlinkDataV3Frame) :
    Received (s.reapTimedOut c.now) frame (s.handleData c frame).1 (s.handleData c frame).2 := by
  unfold handleData
  dsimp only
  split
  · exact .dropped
  · rename_i stream hac
    split
    · exact .dropped
    · rename_i hf
      split
      · exact .dropped
      · rename_i hft
        simp only [Bool.or_eq_true, Bool.not_eq_true', not_or, Bool.not_eq_false, decide_eq_true_eq,
          UInt16.not_le] at hf
        rw [Bool.not_eq_true, Bool.not_eq_false'] at hft
        split
        · exact .taken stream _ _ hac
        · rename_i hfr
          exact .staged stream _ hac hf.1.1.1 hf.2 hft hfr

/-! ### The layout of a staged stream -/

variable {frame : DownlinkDataV3Frame}

theorem ActiveStream.frameFits (h : stream.frameFitsActiveLayout frame = true) :
    (frame.frameIndex = 0 → frame.byteOffset = 0) ∧
      (∀ i p, i + 1 = frame.frameIndex.toNat → stream.staged i = some p →
        frame.byteOffset = p.byteOffset + p.byteCount.toUInt32) ∧
      ∀ next, frame.frameIndex.toNat + 1 < stream.totalFrames.toNat →
        stream.staged (frame.frameIndex.toNat + 1) = some next →
          next.byteOffset = frame.byteOffset + frame.byteCount.toUInt32 := by
  unfold frameFitsActiveLayout at h
  dsimp only at h
  split at h
  · cases h
  · cases hp : stream.fitsPrevious frame with
    | false =>
      rw [hp, if_pos (by rfl)] at h
      cases h
    | true =>
      rw [hp, if_neg (by simp)] at h
      unfold fitsPrevious at hp
      refine ⟨fun hz => ?_, fun i p hi hs => ?_, fun next hl hs => ?_⟩
      · rw [if_pos hz] at hp
        exact of_decide_eq_true hp
      · have hne : frame.frameIndex ≠ 0 := by
          intro hz
          rw [hz] at hi
          exact Nat.succ_ne_zero i hi
        rw [if_neg hne, ← hi, Nat.add_sub_cancel, hs] at hp
        exact of_decide_eq_true hp
      · rw [if_neg (by omega)] at h
        split at h
        · cases h
        · rw [hs] at h
          exact of_decide_eq_true h

/-- Neighbours that have both been staged follow each other. -/
structure ActiveStream.Layout (stream : ActiveStream) : Prop where
  slots : stream.stagedFrames.length = stream.totalFrames.toNat
  positive : 0 < stream.totalFrames.toNat
  limit : stream.totalFrames.toNat ≤ stagingFrameLimit
  indexed : ∀ i frame, stream.staged i = some frame → frame.frameIndex.toNat = i
  sized : ∀ i frame, stream.staged i = some frame → frame.byteCount.toNat ≤ frameBytes
  first : ∀ frame, stream.staged 0 = some frame → frame.byteOffset = 0
  adjacent : ∀ i frame next, stream.staged i = some frame → stream.staged (i + 1) = some next →
    next.byteOffset = frame.byteOffset + frame.byteCount.toUInt32

theorem ActiveStream.Layout.congr {st' : ActiveStream} (h : stream.Layout)
    (hf : st'.stagedFrames = stream.stagedFrames)
    (ht : st'.totalFrames = stream.totalFrames) : st'.Layout := by
  have hs : st'.staged = stream.staged := by
    funext i
    rw [staged, staged, hf]
  exact ⟨by rw [hf, ht]; exact h.slots, by rw [ht]; exact h.positive, by rw [ht]; exact h.limit,
    by rw [hs]; exact h.indexed, by rw [hs]; exact h.sized, by rw [hs]; exact h.first, by rw [hs]; exact h.adjacent⟩

theorem ActiveStream.layout_empty (hp : 0 < stream.totalFrames.toNat)
    (hl : stream.totalFrames.toNat ≤ stagingFrameLimit)
    (he : stream.stagedFrames = List.replicate stream.totalFrames.toNat none) :
    stream.Layout := by
  have hnone (i : ℕ) : stream.staged i = none := by
    rw [staged, he, List.getElem?_replicate]
    split <;> rfl
  refine ⟨by rw [he, List.length_replicate], hp, hl, ?_, ?_, ?_, ?_⟩ <;> simp [hnone]

theorem ActiveStream.staged_stage_self (hs : frame.frameIndex.toNat < stream.stagedFrames.length)
    (now : ℕ) :
    (stream.stage frame now).staged frame.frameIndex.toNat = some (drainFrameOf frame) := by
  rw [staged, stage, List.getElem?_set_self hs]
  rfl

theorem ActiveStream.staged_stage_of_ne {i : ℕ} (hne : i ≠ frame.frameIndex.toNat) (now : ℕ) :
    (stream.stage frame now).staged i = stream.staged i := by
  rw [staged, stage, List.getElem?_set_ne hne.symm]
  rfl

theorem ActiveStream.Layout.stage (h : stream.Layout) (hsh : validV3FrameShape frame = true)
    (hin : frame.frameIndex.toNat < stream.totalFrames.toNat)
    (hft : stream.frameFitsActiveLayout frame = true) (now : ℕ) :
    (stream.stage frame now).Layout := by
  have hs := staged_stage_self (hin.trans_eq h.slots.symm) now
  have ho {i : ℕ} (hne : i ≠ frame.frameIndex.toNat) :
      (stream.stage frame now).staged i = stream.staged i := staged_stage_of_ne hne now
  obtain ⟨hf, hp, hn⟩ := frameFits hft
  simp only [validV3FrameShape, Bool.and_eq_true, decide_eq_true_eq] at hsh
  refine ⟨?_, h.positive, h.limit, fun i x hi => ?_, fun i x hi => ?_, fun x hi => ?_,
    fun i x next hi hi' => ?_⟩
  · rw [ActiveStream.stage, List.length_set]
    exact h.slots
  · by_cases heq : i = frame.frameIndex.toNat
    · rw [heq, hs] at hi
      cases hi
      exact heq.symm
    · exact h.indexed i x (ho heq ▸ hi)
  · by_cases heq : i = frame.frameIndex.toNat
    · rw [heq, hs] at hi
      cases hi
      exact hsh.2
    · exact h.sized i x (ho heq ▸ hi)
  · by_cases heq : 0 = frame.frameIndex.toNat
    · rw [heq, hs] at hi
      cases hi
      exact hf (UInt16.toNat_inj.mp heq.symm)
    · exact h.first x (ho heq ▸ hi)
  · by_cases heq : i = frame.frameIndex.toNat
    · have hne : i + 1 ≠ frame.frameIndex.toNat := by omega
      rw [heq, hs] at hi
      cases hi
      rw [ho hne, heq] at hi'
      have hsl : frame.frameIndex.toNat + 1 < stream.totalFrames.toNat := by
        by_contra hout
        rw [ActiveStream.staged, List.getElem?_eq_none (by rw [h.slots]; omega)] at hi'
        cases hi'
      exact hn next hsl hi'
    · rw [ho heq] at hi
      by_cases heq' : i + 1 = frame.frameIndex.toNat
      · rw [heq', hs] at hi'
        cases hi'
        exact hp i x heq' hi
      · exact h.adjacent i x next hi (ho heq' ▸ hi')

/-- The staged stream is laid out well and the queue has room for what is in it. -/
structure LaidOut (s : CommNodeDownlinkV3State) : Prop where
  layout : ∀ stream, s.activeStream = some stream → stream.Layout
  capacity : s.drain.items.length ≤ drainFrameLimit

theorem reapTimedOut_cases (s : CommNodeDownlinkV3State) (now : ℕ) :
    s.reapTimedOut now = s ∨ s.reapTimedOut now = s.clearActiveStream := by
  unfold reapTimedOut
  split
  · exact .inl rfl
  · split_ifs
    · exact .inl rfl
    · exact .inl rfl
    · exact .inr rfl

@[simp] theorem reapTimedOut_drain (s : CommNodeDownlinkV3State) (now : ℕ) :
    (s.reapTimedOut now).drain = s.drain := by
  rcases s.reapTimedOut_cases now with heq | heq <;> rw [heq]
  rfl

@[simp] theorem reapTimedOut_committedStream (s : CommNodeDownlinkV3State) (now : ℕ) :
    (s.reapTimedOut now).committedStream = s.committedStream := by
  rcases s.reapTimedOut_cases now with heq | heq <;> rw [heq]
  rfl

theorem LaidOut.reapTimedOut (h : s.LaidOut) (now : ℕ) : (s.reapTimedOut now).LaidOut := by
  rcases s.reapTimedOut_cases now with heq | heq <;> rw [heq]
  · exact h
  · exact ⟨fun _ hac => (nomatch hac), h.capacity⟩

theorem LaidOut.activate (h : s.LaidOut) (hl : stream.Layout) :
    ({ s with activeStream := some stream } : CommNodeDownlinkV3State).LaidOut :=
  ⟨fun _ hac => Option.some.inj hac ▸ hl, h.capacity⟩

/-! ### Committed frames -/

theorem receivedPrefix_map_some (frames : List DrainFrame) : receivedPrefix (frames.map some) = frames := by
  induction frames with
  | nil => rfl
  | cons _ _ ih => rw [List.map_cons, receivedPrefix, ih]

theorem reduceOption_map_some (frames : List DrainFrame) : (frames.map some).reduceOption = frames := by
  rw [List.reduceOption, List.filterMap_map]
  exact List.filterMap_some

theorem exists_map_some {l : List (Option DrainFrame)} (h : l.all Option.isSome = true) :
    ∃ frames, l = List.map some frames := by
  induction l with
  | nil => exact ⟨[], rfl⟩
  | cons _ _ ih =>
    rw [List.all_cons, Bool.and_eq_true] at h
    obtain ⟨frame, rfl⟩ := Option.isSome_iff_exists.mp h.1
    obtain ⟨frames, rfl⟩ := ih h.2
    exact ⟨frame :: frames, rfl⟩

def bytesOf (frames : List DrainFrame) : ℕ := (frames.map fun frame => frame.byteCount.toNat).sum

/-- The frames are in the order of their indices and cover the positions below the total once each. -/
structure Tiled (frames : List DrainFrame) (total : ℕ) : Prop where
  indexed : ∀ (i : ℕ) (frame : DrainFrame), frames[i]? = some frame → frame.frameIndex.toNat = i
  lengths : bytesOf frames = total
  offsets : ∀ (i : ℕ) (frame : DrainFrame), frames[i]? = some frame → frame.byteOffset.toNat = bytesOf (frames.take i)
  covered : ∀ position < total, ∃! i : ℕ, ∃ frame : DrainFrame, frames[i]? = some frame ∧
    frame.byteOffset.toNat ≤ position ∧ position < frame.byteOffset.toNat + frame.byteCount.toNat

variable {frames : List DrainFrame}

theorem bytesOf_take_succ {i : ℕ} {frame : DrainFrame} (h : frames[i]? = some frame) :
    bytesOf (frames.take (i + 1)) = bytesOf (frames.take i) + frame.byteCount.toNat := by
  rw [bytesOf, List.take_add_one, h, List.map_append, List.sum_append]
  rfl

theorem bytesOf_take_le (frames : List DrainFrame) (i : ℕ) : bytesOf (frames.take i) ≤ bytesOf frames := by
  conv_rhs => rw [← List.take_append_drop i frames, bytesOf, List.map_append, List.sum_append]
  exact Nat.le_add_right ..

theorem covered_of_offsets (ho : ∀ (i : ℕ) (frame : DrainFrame), frames[i]? = some frame →
      frame.byteOffset.toNat = bytesOf (frames.take i)) {p : ℕ}
    (h : p < bytesOf frames) : ∃! i : ℕ, ∃ frame : DrainFrame, frames[i]? = some frame ∧
      frame.byteOffset.toNat ≤ p ∧ p < frame.byteOffset.toNat + frame.byteCount.toNat := by
  obtain ⟨i, ⟨hlo, hhi⟩, hu⟩ := existsUnique_interval _ h
  simp only [← List.map_take] at hlo hhi hu
  have hs : i < frames.length := by
    by_contra hout
    rw [List.take_of_length_le (by omega)] at hlo hhi
    omega
  have hf : frames[i]? = some frames[i] := List.getElem?_eq_getElem hs
  refine ⟨i, ⟨frames[i], hf, ?_, ?_⟩, ?_⟩
  · rw [ho i _ hf]
    exact hlo
  · rw [ho i _ hf, ← bytesOf_take_succ hf]
    exact hhi
  · rintro j ⟨frame, hj, hlo', hhi'⟩
    rw [ho j frame hj] at hlo' hhi'
    rw [← bytesOf_take_succ hj] at hhi'
    exact hu j ⟨hlo', hhi'⟩

theorem ActiveStream.Layout.tiled (h : stream.Layout) (hfr : stream.stagedFrames = frames.map some)
    (hby : DrainQueue.totalBytes DrainFrame.byteCount stream.contiguous = stream.totalBytes) :
    Tiled frames stream.totalBytes.toNat := by
  have hs (i : ℕ) : stream.staged i = frames[i]? := by
    rw [staged, hfr, List.getElem?_map]
    cases frames[i]? <;> rfl
  have hl : frames.length = stream.totalFrames.toNat := by rw [← h.slots, hfr, List.length_map]
  have hc : stream.contiguous = frames := by
    rw [contiguous, hfr, List.take_of_length_le (by rw [List.length_map, hl]), receivedPrefix_map_some]
  have hbn : bytesOf frames < 2 ^ 32 := by
    refine ((List.sum_le_card_nsmul _ frameBytes fun n hn => ?_).trans ?_).trans_lt
      (show stagingFrameLimit * frameBytes < 2 ^ 32 by decide)
    · obtain ⟨frame, hf, rfl⟩ := List.mem_map.mp hn
      obtain ⟨i, hi⟩ := List.mem_iff_getElem?.mp hf
      exact h.sized i frame (by rw [hs, hi])
    · rw [List.length_map, hl]
      exact Nat.mul_le_mul_right _ h.limit
  have htt : stream.totalBytes.toNat = bytesOf frames := by
    rw [← hby, hc, DrainQueue.totalBytes_toNat]
    exact Nat.mod_eq_of_lt hbn
  have ho (i : ℕ) : ∀ frame : DrainFrame, frames[i]? = some frame →
      frame.byteOffset.toNat = bytesOf (frames.take i) := by
    induction i with
    | zero =>
      intro frame hf
      rw [h.first frame (by rw [hs, hf])]
      rfl
    | succ i ih =>
      intro frame hf
      have hsl : i < frames.length := (Nat.lt_succ_self i).trans (List.getElem?_eq_some_iff.mp hf).1
      have hp : frames[i]? = some frames[i] := List.getElem?_eq_getElem hsl
      have ht := bytesOf_take_le frames (i + 1)
      rw [bytesOf_take_succ hp] at ht ⊢
      rw [h.adjacent i _ frame (by rw [hs, hp]) (by rw [hs, hf]), UInt32.toNat_add,
        UInt16.toNat_toUInt32, ih _ hp, Nat.mod_eq_of_lt (ht.trans_lt hbn)]
  exact ⟨fun i frame hf => h.indexed i frame (by rw [hs, hf]), htt.symm, ho,
    fun p hps => covered_of_offsets ho (htt ▸ hps)⟩

/-! ### Runs -/

variable {s' : CommNodeDownlinkV3State} {reply : DownlinkControlV3Reply}

theorem LaidOut.controlled (h : s.LaidOut) (hn : Controlled s request s' reply) : s'.LaidOut := by
  cases hn with
  | kept => exact h
  | repeated => exact h
  | touched _ stream _ hac => exact h.activate ((h.layout stream hac).congr rfl rfl)
  | aborted => exact ⟨fun _ hac => (nomatch hac), h.capacity⟩
  | begun _ _ _ _ _ hp hl he =>
    exact h.activate (ActiveStream.layout_empty hp hl he)
  | committed _ stream _ _ hac _ _ _ hfr hfl =>
    refine ⟨fun _ hac => (nomatch hac), ?_⟩
    obtain ⟨frames, hf⟩ := exists_map_some hfl
    have hs := (h.layout stream hac).slots
    rw [hf, List.length_map] at hs
    have hc := h.capacity
    rw [drainFreeFrames] at hfr
    rw [DrainQueue.append, hf, reduceOption_map_some, List.length_append]
    omega

theorem LaidOut.received (h : s.LaidOut) {a : Bool} (hn : Received s frame s' a) : s'.LaidOut := by
  cases hn with
  | dropped => exact h
  | taken stream _ _ hac => exact h.activate ((h.layout stream hac).congr rfl rfl)
  | staged stream now hac hs hin hf =>
    exact h.activate ((h.layout stream hac).stage hs hin hf now)

theorem LaidOut.step (h : s.LaidOut) (i : CommNodeV3Input) : (s.step i).1.LaidOut := by
  cases i with
  | control c request l =>
    exact (h.reapTimedOut c.now).controlled (s.controlled c request l)
  | data c frame => exact (h.reapTimedOut c.now).received (s.received c frame)
  | reapTimedOut now => exact h.reapTimedOut now
  | confirmFlushed frame =>
    exact ⟨h.layout, (DrainQueue.suffix_of_confirmFlushed sameFrame frame).length_le.trans h.capacity⟩
  | drainWriteFailure | disconnect => exact ⟨fun _ hac => (nomatch hac), Nat.zero_le _⟩

/-- The request commits a stream that is staged, and its frames have been appended in one piece. -/
structure Committed (s : CommNodeDownlinkV3State) (request : DownlinkControlV3Request)
    (reply : DownlinkControlV3Reply) (stream : ActiveStream) (frames : List DrainFrame)
    (s' : CommNodeDownlinkV3State) : Prop where
  op : request.op = .commit
  fresh : s.matchesCommittedCommit request = none
  active : s.activeStream = some stream
  identity : stream.identity = requestIdentity request
  staged : stream.stagedFrames = frames.map some
  appended : s'.drain.items = s.drain.items ++ frames
  result : reply.result = .ok

theorem items_of_controlled (hn : Controlled s request s' reply) :
    s'.drain.items = s.drain.items ∨ ∃ stream frames, Committed s request reply stream frames s' ∧
      DrainQueue.totalBytes DrainFrame.byteCount stream.contiguous = stream.totalBytes := by
  cases hn with
  | kept | repeated | touched | aborted | begun => exact .inl rfl
  | committed _ stream _ hop hac hid hnew _ _ hfl hby hr =>
    obtain ⟨frames, hf⟩ := exists_map_some hfl
    refine .inr ⟨stream, frames, ⟨hop, hnew, hac, hid, hf, ?_, hr⟩, hby⟩
    rw [DrainQueue.append, hf, reduceOption_map_some]

theorem items_of_received {a : Bool} (hn : Received s frame s' a) :
    s'.drain.items = s.drain.items := by
  cases hn <;> rfl

/-- In every run the frames staged so far stand where their indices say, each after its neighbour, and
the queue keeps within its capacity. -/
theorem staging_laid_out (inputs : List CommNodeV3Input) : (commNodeV3.run {} inputs).LaidOut :=
  commNodeV3.run_invariant (fun _ input h => h.step input) {} ⟨(fun _ h => by cases h), Nat.zero_le _⟩ inputs

/-- In every run a step either takes frames from the front of the drain queue at most, or it commits
a stream and appends its frames, which tile the announced number of bytes; and the queue never has
more frames than its capacity. -/
theorem commits_tile (inputs : List CommNodeV3Input) (input : CommNodeV3Input) :
    let s := commNodeV3.run {} inputs
    let next := s.step input
    next.1.drain.items.length ≤ drainFrameLimit ∧
      (next.1.drain.items <:+ s.drain.items ∨
        ∃ clock request linkFlags reply stream frames, input = .control clock request linkFlags ∧
          next.2 = [.replied reply] ∧
          Committed (s.reapTimedOut clock.now) request reply stream frames next.1 ∧
          frames.length = request.totalFrames.toNat ∧ Tiled frames request.totalBytes.toNat) := by
  intro s next
  have hs : s.LaidOut :=
    commNodeV3.run_invariant (fun _ input h => h.step input) {} ⟨(fun _ h => by cases h), Nat.zero_le _⟩ inputs
  refine ⟨(hs.step input).capacity, ?_⟩
  have hkeep (h : next.1.drain.items = s.drain.items) : next.1.drain.items <:+ s.drain.items :=
    h ▸ List.suffix_refl _
  cases input with
  | control clock request linkFlags =>
    rcases items_of_controlled (s.controlled clock request linkFlags) with hkept | ⟨stream, frames, h, hbytes⟩
    · exact .inl (hkeep (hkept.trans (by rw [reapTimedOut_drain])))
    · right
      have hlayout := (hs.reapTimedOut clock.now).layout stream h.active
      have htotals := h.identity
      simp only [ActiveStream.identity, requestIdentity, StreamIdentity.mk.injEq] at htotals
      refine ⟨clock, request, linkFlags, _, stream, frames, rfl, rfl, h, ?_, ?_⟩
      · rw [← htotals.2.1, ← hlayout.slots, h.staged, List.length_map]
      · rw [← htotals.2.2]
        exact hlayout.tiled h.staged hbytes
  | data clock frame =>
    exact .inl (hkeep ((items_of_received (s.received clock frame)).trans (by rw [reapTimedOut_drain])))
  | reapTimedOut now => exact .inl (hkeep (congrArg DrainQueue.items (reapTimedOut_drain s now)))
  | confirmFlushed frame => exact .inl (DrainQueue.suffix_of_confirmFlushed sameFrame frame)
  | drainWriteFailure | disconnect => exact .inl List.nil_suffix

end CommNodeDownlinkV3State

end ObcFlight
