import ObcFlight.SequenceFileLayout
import ObcFlight.SequenceLifetimes

/-!
# The files of admitted contexts

The commands of a sequence file are checked as it lies in the staging directory; what is run is a
copy, tied to the checked bytes by its checksum alone. Where no other file with the same checksum
takes the staged file's place, and no context id comes round again while its context is in use, the
copy holds only authorised commands, its path is its context's own, and no file of a context under
way is ever removed.
-/

namespace ObcFlight

namespace SequenceAdmissionController

variable {c : SequenceAdmissionController}

/-! ### Statuses and callbacks touch no file -/

/-- The contexts stay the same ones, and no file is removed. -/
structure Kept (c : SequenceAdmissionController) (next : SequenceAdmissionController × List SequenceOutput) :
    Prop where
  nextContextId : next.1.nextContextId = c.nextContextId
  admittedRoot : next.1.admittedRoot = c.admittedRoot
  same : ∀ i, SameContext (c.contexts i) (next.1.contexts i)
  quiet : ∀ path, .fileRemoved path ∉ next.2

theorem Kept.refl (c : SequenceAdmissionController) : Kept c (c, []) := ⟨rfl, rfl, fun _ => .refl _, by simp⟩

variable {next : SequenceAdmissionController × List SequenceOutput}

theorem Kept.trans {next' : SequenceAdmissionController × List SequenceOutput} (h : Kept c next)
    (h' : Kept next.1 next') : Kept c (next'.1, next.2 ++ next'.2) where
  nextContextId := h'.nextContextId.trans h.nextContextId
  admittedRoot := h'.admittedRoot.trans h.admittedRoot
  same i := (h.same i).trans (h'.same i)
  quiet path hp := (List.mem_append.mp hp).elim (h.quiet path) (h'.quiet path)

theorem Settles.kept (h : Settles c next) : Kept c next where
  nextContextId := h.nextContextId
  admittedRoot := h.admittedRoot
  same := h.same
  quiet path hp := by
    obtain ⟨_, _, _, ho⟩ := h.reports _ hp
    cases ho

theorem kept_of_modes (c : SequenceAdmissionController) (op : InternalOp) (m p : Sequencer → Bool)
    {outputs : List SequenceOutput} (ho : ∀ path, .fileRemoved path ∉ outputs) :
    Kept c ({ c with internalOp := op, sequencerManualMode := m, pendingAutoRestore := p }, outputs) :=
  ⟨rfl, rfl, fun _ => .refl _, ho⟩

theorem kept_requestSequencerAutoRestore (c : SequenceAdmissionController) (q : Sequencer) :
    Kept c (c.requestSequencerAutoRestore q) := by
  rcases c.requestSequencerAutoRestore_cases q with ⟨-, h⟩ | ⟨-, -, h⟩ | ⟨-, -, p, h⟩
  · rw [h]
    exact .refl c
  · rw [h]
    exact kept_of_modes c _ _ _ (by simp)
  · rw [h]
    exact kept_of_modes c _ _ _ (by simp)

theorem kept_processPendingAutoRestore (c : SequenceAdmissionController) : Kept c c.processPendingAutoRestore := by
  unfold processPendingAutoRestore
  split_ifs
  · exact .refl c
  · split
    · exact .refl c
    · exact kept_requestSequencerAutoRestore c _

theorem kept_publishControlStatus (c : SequenceAdmissionController) (op' op : InternalOp)
    (r : CmdResponse) : Kept c ({ c with internalOp := op' }, publishControlStatus op r) :=
  kept_of_modes c _ _ _ (by simp [publishControlStatus])

theorem kept_closeOperation (c : SequenceAdmissionController) (op : InternalOp) (response : CmdResponse) :
    Kept c (c.closeOperation op response) := by
  unfold closeOperation
  dsimp only
  split_ifs
  · exact (kept_publishControlStatus c {} op response).trans (kept_processPendingAutoRestore _)
  · exact (kept_of_modes c {} _ _ (by simp)).trans (kept_processPendingAutoRestore _)

theorem kept_manualModeSet (c : SequenceAdmissionController) (op : InternalOp) : Kept c (c.manualModeSet op) := by
  have hs (manual : Sequencer → Bool) (op' : InternalOp) (packet : Bytes) :
      Kept c ({ c with sequencerManualMode := manual, internalOp := op' }, [.internalCmdOut packet]) :=
    kept_of_modes c _ _ _ (by simp)
  have hl (manual : Sequencer → Bool) (op' : InternalOp) :
      Kept c ({ c with sequencerManualMode := manual, internalOp := op' }, []) :=
    kept_of_modes c _ _ _ (by simp)
  unfold manualModeSet
  cases op.targetSequencer with
  | none =>
    dsimp only
    split
    · exact hs _ _ _
    · exact (((hl _ _).trans (kept_publishControlStatus _ {} op .executionError)).trans
        (kept_processPendingAutoRestore _))
  | some t =>
    dsimp only
    split
    · exact hs _ _ _
    · exact ((((hl _ _).trans (kept_requestSequencerAutoRestore _ t)).trans
        (kept_publishControlStatus _ {} op .executionError)).trans (kept_processPendingAutoRestore _))

theorem kept_finalizeInternalOperation (c : SequenceAdmissionController) (r : CmdResponse) :
    Kept c (c.finalizeInternalOperation r) := by
  unfold finalizeInternalOperation
  dsimp only
  by_cases hac : c.internalOp.active = true
  · rw [if_neg (by simp [hac])]
    split_ifs
    · exact kept_manualModeSet c _
    · exact (settles_succeedOperation hac _).kept.trans (kept_closeOperation _ _ _)
    · exact (settles_failOperation hac _).kept.trans (kept_closeOperation _ _ _)
  · rw [if_pos (by simpa using hac)]
    exact .refl c

theorem kept_seqStartIn (c : SequenceAdmissionController) (port : Sequencer) (f : Bytes) :
    Kept c (c.seqStartIn port f) := by
  unfold seqStartIn
  split
  · exact .refl c
  · exact (c.settles_updateContextState _ _ _).kept

theorem kept_seqDoneIn (c : SequenceAdmissionController) (port : Sequencer) (r : CmdResponse) :
    Kept c (c.seqDoneIn port r) := by
  unfold seqDoneIn
  split
  · exact .refl c
  · generalize (if r = .ok then SequenceContextState.succeeded else .failed) = state
    dsimp only
    split_ifs
    · exact ((c.settles_updateContextState _ _ _).clear _).kept.trans (kept_requestSequencerAutoRestore _ _)
    · exact (c.settles_updateContextState _ _ _).kept

/-! ### What has been checked -/

/-- The command is in the catalogue, allowed for the link of the request, and not about sequencing. -/
def Authorised (request : SequenceControlRequest) (opcode : UInt32) : Prop :=
  (findCommandAuthorityCatalogEntry opcode).isSome = true ∧
    (evaluateCommandAuthority (configFromRequest request) opcode).allow = true ∧
    isForbiddenNestedSequencingOpcode opcode = false

variable {request : SequenceControlRequest}

theorem authorised_of_refuseRecord {r : SequenceRecordInfo}
    (h : refuseRecord (configFromRequest request) r = none) : Authorised request r.opcode := by
  unfold refuseRecord at h
  split_ifs at h with hns hu hdn
  refine ⟨Option.isSome_iff_ne_none.mpr fun hn => hu (Option.isNone_iff_eq_none.mpr hn), ?_,
    Bool.eq_false_iff.mpr hns⟩
  exact Bool.of_not_eq_false fun hf => hdn (by rw [hf]; rfl)

variable {inspection : SequenceInspection} {leaf : Bytes} {format : SequenceFileFormat}

theorem inspectStaged_ok {reads : AdmissionReads} {request : SequenceControlRequest}
    (h : c.inspectStaged format reads request = .ok (leaf, inspection)) :
    stagedLeaf request.fileName = some leaf ∧
      SequenceFileInspector.inspect format reads.validTime reads.staged = .ok inspection ∧
      ∀ r ∈ inspection.records, Authorised request r.opcode := by
  unfold inspectStaged at h
  split_ifs at h
  cases hl : stagedLeaf request.fileName with
  | none => simp [hl] at h
  | some =>
    cases hin : SequenceFileInspector.inspect format reads.validTime reads.staged with
    | error => simp [hl, hin] at h
    | ok i' =>
      cases hr : i'.records.findSome? (refuseRecord (configFromRequest request)) with
      | some => simp [hl, hin, hr] at h
      | none =>
        simp only [hl, hin, hr, Except.ok.injEq, Prod.mk.injEq] at h
        obtain ⟨rfl, rfl⟩ := h
        exact ⟨rfl, rfl, fun r hrc =>
          authorised_of_refuseRecord (List.findSome?_eq_none_iff.mp hr r hrc)⟩

theorem slash_notMem_stagedLeaf {path : Bytes} (h : stagedLeaf path = some leaf) :
    slash ∉ leaf := by
  unfold stagedLeaf at h
  dsimp only at h
  split_ifs at h with _ hbad
  obtain rfl := Option.some.inj h
  simp only [Bool.or_eq_true, not_or, List.contains_iff_mem] at hbad
  exact hbad.1.2

def checksum (format : SequenceFileFormat) (bytes : Bytes) : UInt32 :=
  SequenceFileInspector.computedCrc format (bytes.take (bytes.length - 4))

theorem crc_of_inspect {v : TimeFrame} {bytes : Bytes}
    (h : SequenceFileInspector.inspect format v (.content bytes) = .ok inspection) :
    inspection.crc = checksum format bytes := by
  have hbd {numRecords : UInt32}
      (h : SequenceFileInspector.inspectBody format bytes numRecords = .ok inspection) :
      inspection.crc = checksum format bytes := by
    unfold SequenceFileInspector.inspectBody at h
    dsimp only at h
    split at h
    · cases h
    · split_ifs at h with hcrc
      · cases h
      · split at h
        · cases h
        · split_ifs at h
          · cases h
          · obtain rfl := Except.ok.inj h
            exact not_not.mp hcrc
  dsimp only [SequenceFileInspector.inspect, SequenceFileInspector.inspectBytes] at h
  by_cases hs : bytes.length < SequenceFileInspector.headerSize + 4
  · rw [if_pos hs] at h
    cases h
  · rw [if_neg hs] at h
    split at h
    · cases h
    · split_ifs at h
      · cases h
      · cases h
      · cases h
      · cases h
      · cases h
      · exact hbd h

/-! ### Paths -/

theorem id_of_admittedName {id id' : UInt32} {l' : Bytes}
    (h : admittedName id leaf = admittedName id' l') : id = id' := by
  unfold admittedName at h
  simp only [List.append_assoc] at h
  have ht := List.append_cancel_left h
  have hdg (n : ℕ) (rest : Bytes) :
      (decimal n ++ (ascii "-" ++ rest)).takeWhile isDigit = decimal n := by
    rw [List.takeWhile_append_of_pos fun b hb => isDigit_of_mem_decimal hb]
    simp [ascii, isDigit]
  have he := congrArg (List.takeWhile isDigit) ht
  rw [hdg, hdg] at he
  have hvl := congrArg decimalValue he
  rw [decimalValue_decimal, decimalValue_decimal] at hvl
  exact UInt32.toNat_inj.mp hvl

/-- Every context in use has a file of its own in the admitted directory. -/
structure Filed (root : Bytes) (c : SequenceAdmissionController) : Prop where
  under : c.admittedRoot = root
  named : ∀ i, (c.contexts i).used = true → ∃ leaf, slash ∉ leaf ∧
    (c.contexts i).admittedPhysicalPath = root ++ ascii "/" ++ admittedName (c.contexts i).id leaf
  distinct : ∀ i j, (c.contexts i).used = true → (c.contexts j).used = true →
    (c.contexts i).id = (c.contexts j).id → i = j

variable {root : Bytes} {i : ContextIndex}

theorem Filed.path_ne (h : Filed root c) (hu : (c.contexts i).used = true) {id : UInt32}
    (hid : (c.contexts i).id ≠ id) (leaf : Bytes) :
    (c.contexts i).admittedPhysicalPath ≠ root ++ ascii "/" ++ admittedName id leaf := by
  obtain ⟨l', -, hp⟩ := h.named i hu
  rw [hp]
  exact fun heq => hid (id_of_admittedName (List.append_cancel_left heq))

theorem Filed.paths_ne (h : Filed root c) {j : ContextIndex} (hi : (c.contexts i).used = true)
    (hj : (c.contexts j).used = true) (hij : i ≠ j) :
    (c.contexts i).admittedPhysicalPath ≠ (c.contexts j).admittedPhysicalPath := by
  obtain ⟨leaf, -, hp⟩ := h.named j hj
  rw [hp]
  exact h.path_ne hi (fun hid => hij (h.distinct i j hi hj hid)) leaf

theorem Filed.kept (h : Filed root c) (hk : Kept c next) : Filed root next.1 := by
  have he (i : ContextIndex) : (next.1.contexts i).used = (c.contexts i).used ∧
      (next.1.contexts i).id = (c.contexts i).id ∧
      (next.1.contexts i).admittedPhysicalPath = (c.contexts i).admittedPhysicalPath := by
    obtain ⟨_, _, _, heq⟩ := hk.same i
    rw [heq]
    exact ⟨rfl, rfl, rfl⟩
  refine ⟨hk.admittedRoot.trans h.under, fun i hi => ?_, fun i j hi hj hid => ?_⟩
  · obtain ⟨hu, hid, hp⟩ := he i
    rw [hp, hid]
    exact h.named i (hu ▸ hi)
  · rw [(he i).2.1, (he j).2.1] at hid
    exact h.distinct i j ((he i).1 ▸ hi) ((he j).1 ▸ hj) hid

/-! ### Requests -/

/-- The next context id belongs to no context in use. -/
def IdFree (c : SequenceAdmissionController) : Prop :=
  ∀ i, (c.contexts i).used = true → (c.contexts i).id ≠ c.nextContextId

/-- No other file with the same checksum takes the place of the staged one between the inspection and
the copy, and the next context id is free. -/
def Genuine (format : SequenceFileFormat) (c : SequenceAdmissionController) : SequenceInput → Prop
  | .controlIn _ reads =>
    (∀ staged bytes, reads.staged = .content staged → reads.copied = some bytes →
      checksum format bytes = checksum format staged → bytes = staged) ∧
      c.IdFree
  | _ => True

theorem removed_by_allocation (hs : c.allocateContextSlot.1 = some i) {o : SequenceOutput}
    (h : o ∈ c.allocateContextSlot.2.2) :
    (c.contexts i).used = true ∧ o = .fileRemoved (c.contexts i).admittedPhysicalPath := by
  rcases c.allocateContextSlot_cases with ⟨hn, -⟩ | ⟨j, -, heq⟩ | ⟨j, hu, -, heq⟩
  · exact absurd (hs.symm.trans hn) (by simp)
  · rw [heq] at h
    cases h
  · obtain rfl : j = i := Option.some.inj ((congrArg Prod.fst heq).symm.trans hs)
    rw [heq] at h
    dsimp only [releaseContextResources, removeFileIfPresent] at h
    split_ifs at h
    · cases h
    · exact ⟨hu, by simpa using h⟩

variable {x : ContextEntry}

/-- The entry of a slot that an admission takes is replaced by one that is free, or whose file is the
new one. -/
theorem Filed.entered (h : Filed root c) (hf : c.IdFree) (i : ContextIndex)
    (hx : x.used = true → x.id = c.nextContextId ∧ ∃ leaf, slash ∉ leaf ∧
      x.admittedPhysicalPath = root ++ ascii "/" ++ admittedName x.id leaf)
    {c' : SequenceAdmissionController} (hr : c'.admittedRoot = c.admittedRoot)
    (hc : c'.contexts = (c.setContext i x).contexts) : Filed root c' := by
  refine ⟨hr.trans h.under, fun j hj => ?_, fun j k hj hk hid => ?_⟩
  · rw [hc] at hj ⊢
    by_cases hji : j = i
    · subst hji
      rw [setContext_self] at hj ⊢
      exact (hx hj).2
    · rw [setContext_of_ne c hji] at hj ⊢
      exact h.named j hj
  · rw [hc] at hj hk hid
    by_cases hji : j = i <;> by_cases hki : k = i
    · rw [hji, hki]
    · rw [hji, setContext_self] at hj hid
      rw [setContext_of_ne c hki] at hk hid
      exact absurd (hid.symm.trans (hx hj).1) (hf k hk)
    · rw [hki, setContext_self] at hk hid
      rw [setContext_of_ne c hji] at hj hid
      exact absurd (hid.trans (hx hk).1) (hf j hj)
    · rw [setContext_of_ne c hji] at hj hid
      rw [setContext_of_ne c hki] at hk hid
      exact h.distinct j k hj hk hid

theorem Beginning.entry {kind : InternalOpKind} {t : Option Sequencer} {e : ContextEntry}
    (h : Beginning c request i leaf inspection kind t e) :
    e.used = true ∧ e.id = c.nextContextId ∧
      e.admittedPhysicalPath = c.admittedPhysicalPathForContext c.nextContextId leaf := by
  cases h with
  | run | prepare => exact ⟨rfl, rfl, rfl⟩

variable {format : SequenceFileFormat} {reads : AdmissionReads} {request : SequenceControlRequest}
  {result : SequenceControlResult} {c' : SequenceAdmissionController} {outputs : List SequenceOutput}

theorem Filed.requested (h : Filed root c) (hf : c.IdFree)
    (hr : Requested c format reads request result c' outputs) : Filed root c' := by
  cases hr with
  | settled | commanded => exact ⟨h.1, h.2, h.3⟩
  | dropped _ _ i => exact h.entered hf i (x := {}) (fun hu => nomatch hu) rfl rfl
  | begun _ _ _ i leaf _ _ _ _ _ hc hbg =>
    obtain ⟨-, hid, hp⟩ := hbg.entry
    have hl := slash_notMem_stagedLeaf (inspectStaged_ok hc.staged).1
    refine h.entered hf i (fun _ => ⟨hid, leaf, hl, ?_⟩) rfl rfl
    rw [hp, hid, admittedPhysicalPathForContext, h.under]

/-- No file is removed that belongs to a context under way, before the step or after it. -/
def Spares (c c' : SequenceAdmissionController) (outputs : List SequenceOutput) : Prop :=
  ∀ path, .fileRemoved path ∈ outputs → ∀ j,
    ((c.contexts j).used = true → isTerminalState (c.contexts j).state = false →
      path ≠ (c.contexts j).admittedPhysicalPath) ∧
    ((c'.contexts j).used = true → isTerminalState (c'.contexts j).state = false →
      path ≠ (c'.contexts j).admittedPhysicalPath)

theorem Filed.spares_of_slot (h : Filed root c) (hf : c.IdFree)
    (hs : c.allocateContextSlot.1 = some i) (hc : c'.contexts = (c.setContext i x).contexts)
    (hr : ∀ path, .fileRemoved path ∈ outputs →
      (c.contexts i).used = true ∧ path = (c.contexts i).admittedPhysicalPath ∨
        ∃ leaf, path = c.admittedPhysicalPathForContext c.nextContextId leaf)
    (hx : x.used = true → ∀ path, .fileRemoved path ∈ outputs → path ≠ x.admittedPhysicalPath) :
    Spares c c' outputs := by
  intro path hp
  have ho (j : ContextIndex) (hj : (c.contexts j).used = true) (hji : j ≠ i) :
      path ≠ (c.contexts j).admittedPhysicalPath := by
    rcases hr path hp with ⟨hi, rfl⟩ | ⟨leaf, rfl⟩
    · exact h.paths_ne hi hj hji.symm
    · rw [admittedPhysicalPathForContext, h.under]
      exact (h.path_ne hj (hf j hj) leaf).symm
  refine fun j => ⟨fun hj hl => ho j hj ?_, fun hj _ => ?_⟩
  · rintro rfl
    exact absurd ((c.terminal_of_slot hs hj).symm.trans hl) (by simp)
  · rw [hc] at hj ⊢
    by_cases hji : j = i
    · subst hji
      rw [setContext_self] at hj ⊢
      exact hx hj path hp
    · rw [setContext_of_ne c hji] at hj ⊢
      exact ho j hj hji

theorem Filed.spares_requested (h : Filed root c) (hf : c.IdFree)
    (hrq : Requested c format reads request result c' outputs) : Spares c c' outputs := by
  cases hrq with
  | settled => simp [Spares]
  | commanded => simp [Spares]
  | dropped _ _ _ leaf _ _ _ _ _ hs ho =>
    refine h.spares_of_slot hf hs (x := {}) rfl (fun path hp => ?_) (fun hu => nomatch hu)
    rcases List.mem_append.mp hp with hp | hp
    · exact .inl ((removed_by_allocation hs hp).imp_right SequenceOutput.fileRemoved.inj)
    · rcases ho _ hp with heq | ⟨_, heq⟩
      · exact .inr ⟨leaf, SequenceOutput.fileRemoved.inj heq⟩
      · cases heq
  | begun _ _ e i leaf _ b p outputs _ hc hbg ho =>
    obtain ⟨-, -, hp⟩ := hbg.entry
    have hr (path : Bytes) (hmem : .fileRemoved path ∈ c.allocateContextSlot.2.2 ++
        .fileCopied (c.admittedPhysicalPathForContext c.nextContextId leaf) b :: outputs ++
          [.internalCmdOut p]) :
        (c.contexts i).used = true ∧ path = (c.contexts i).admittedPhysicalPath := by
      simp only [List.mem_append, List.mem_cons, List.not_mem_nil, or_false, reduceCtorEq, false_or] at hmem
      rcases hmem with hmem | hmem
      · exact (removed_by_allocation hc.slot hmem).imp_right SequenceOutput.fileRemoved.inj
      · obtain ⟨_, heq⟩ := ho _ hmem
        cases heq
    refine h.spares_of_slot hf hc.slot (x := e) rfl (fun path hmem => .inl (hr path hmem))
      fun _ path hmem => ?_
    obtain ⟨hi, rfl⟩ := hr path hmem
    rw [hp, admittedPhysicalPathForContext, h.under]
    exact h.path_ne hi (hf i hi) leaf

/-- What is known of a context that has just been admitted. -/
structure AdmittedFor (format : SequenceFileFormat) (request : SequenceControlRequest) (reads : AdmissionReads)
    (root : Bytes) (outputs : List SequenceOutput) (x : ContextEntry) : Prop where
  used : x.used = true
  copy : ∃ bytes inspection, .fileCopied x.admittedPhysicalPath bytes ∈ outputs ∧
    SequenceFileInspector.inspect format reads.validTime (.content bytes) = .ok inspection ∧
    ∀ record ∈ inspection.records, Authorised request record.opcode
  inside : ∃ name, x.admittedPhysicalPath = root ++ ascii "/" ++ name ∧ ascii "ctx-" <+: name ∧ slash ∉ name

theorem slash_notMem_admittedName (h : slash ∉ leaf) (id : UInt32) :
    slash ∉ admittedName id leaf := by
  unfold admittedName
  simp only [List.mem_append, not_or]
  refine ⟨⟨⟨by decide, fun hmem => ?_⟩, by decide⟩, h⟩
  exact absurd (isDigit_of_mem_decimal hmem) (by decide)

theorem admittedFor_begun (h : Filed root c) (hg : c.Genuine format (.controlIn request reads))
    {b : Bytes} (hc : c.Copies format reads request i leaf inspection b) (hu : x.used = true)
    (hp : x.admittedPhysicalPath = c.admittedPhysicalPathForContext c.nextContextId leaf)
    (hcp : .fileCopied x.admittedPhysicalPath b ∈ outputs) :
    AdmittedFor format request reads root outputs x := by
  obtain ⟨hl, hin, hat⟩ := inspectStaged_ok hc.staged
  obtain ⟨_, hsc, hcrc⟩ := hc.inspected
  cases hr : reads.staged with
  | notFound | bad => rw [hr] at hin; cases hin
  | content staged =>
    rw [hr] at hin
    have hs : b = staged := by
      refine hg.1 staged b hr hc.copied ?_
      rw [← crc_of_inspect hsc, ← crc_of_inspect hin, hcrc]
    refine ⟨hu, ⟨b, inspection, hcp, hs ▸ hin, hat⟩, admittedName c.nextContextId leaf,
      ?_, ⟨decimal c.nextContextId.toNat ++ ascii "-" ++ leaf, by simp [admittedName]⟩,
      slash_notMem_admittedName (slash_notMem_stagedLeaf hl) _⟩
    rw [hp, admittedPhysicalPathForContext, h.under]

theorem Filed.admittedFor (h : Filed root c) (hg : c.Genuine format (.controlIn request reads))
    (hrq : Requested c format reads request result c' outputs) {id : UInt32}
    (hr : .contextUpdated i id .admitted ∈ outputs) :
    AdmittedFor format request reads root outputs (c'.contexts i) := by
  have hrl {j : ContextIndex} (hs : c.allocateContextSlot.1 = some j) :
      .contextUpdated i id .admitted ∉ c.allocateContextSlot.2.2 :=
    fun hmem => nomatch (removed_by_allocation hs hmem).2
  cases hrq with
  | settled => cases hr
  | commanded => simp at hr
  | dropped _ _ _ _ _ _ _ _ _ hs ho =>
    rcases List.mem_append.mp hr with hmem | hmem
    · exact absurd hmem (hrl hs)
    · rcases ho _ hmem with heq | ⟨_, heq⟩ <;> cases heq
  | begun _ _ e j _ _ _ _ _ _ hc hbg ho =>
    obtain ⟨hu, -, hp⟩ := hbg.entry
    obtain rfl : i = j := by
      simp only [List.mem_append, List.mem_cons, List.not_mem_nil, or_false, reduceCtorEq, false_or] at hr
      rcases hr with hmem | hmem
      · exact absurd hmem (hrl hc.slot)
      · obtain ⟨_, heq⟩ := ho _ hmem
        exact (SequenceOutput.contextUpdated.inj heq).1
    rw [show (c.entered i e).contexts i = e from c.setContext_self i e]
    exact admittedFor_begun h hg hc hu hp (by rw [hp]; simp)

/-! ### Runs -/

theorem filed_boot (r d a : Bytes) (b : Bool) : Filed d (boot r d a b) :=
  ⟨rfl, fun _ hi => (nomatch hi), fun _ _ hi => (nomatch hi)⟩

theorem kept_step (format : SequenceFileFormat) (c : SequenceAdmissionController) {i : SequenceInput}
    (hin : ∀ request reads, i ≠ .controlIn request reads) : Kept c (c.step format i) := by
  cases i with
  | controlIn request reads => exact absurd rfl (hin request reads)
  | internalCmdStatusIn r => exact kept_finalizeInternalOperation c r
  | seqStartIn port f => exact kept_seqStartIn c port f
  | seqDoneIn port r => exact kept_seqDoneIn c port r

theorem Filed.step (h : Filed root c) {i : SequenceInput} (hg : c.Genuine format i) :
    Filed root (c.step format i).1 ∧ Spares c (c.step format i).1 (c.step format i).2 := by
  by_cases hc : ∃ request reads, i = .controlIn request reads
  · obtain ⟨request, reads, rfl⟩ := hc
    have hr := c.requested format reads request
    exact ⟨h.requested hg.2 hr, h.spares_requested hg.2 hr⟩
  · have hk := kept_step format c fun request reads heq => hc ⟨request, reads, heq⟩
    exact ⟨h.kept hk, fun path hp => absurd hp (hk.quiet path)⟩

/-- Along every run of genuine requests: a context that is reported as admitted has a copy with
authorised commands only, inside the admitted directory and under a path that no other context in use
has; and no file of a context under way is removed. -/
theorem admitted_files_authorised (format : SequenceFileFormat)
    (runtimeRoot admittedRoot admittedCommandPrefix : Bytes) (configured : Bool) (inputs : List SequenceInput)
    (input : SequenceInput)
    (h : (sequenceController format).Admits (Genuine format)
      (boot runtimeRoot admittedRoot admittedCommandPrefix configured) (inputs ++ [input])) :
    let c := (sequenceController format).run
      (boot runtimeRoot admittedRoot admittedCommandPrefix configured) inputs
    let next := c.step format input
    (∀ request reads i id, input = .controlIn request reads → .contextUpdated i id .admitted ∈ next.2 →
      AdmittedFor format request reads admittedRoot next.2 (next.1.contexts i)) ∧
      (∀ i j, i ≠ j → (next.1.contexts i).used = true → (next.1.contexts j).used = true →
        (next.1.contexts i).admittedPhysicalPath ≠ (next.1.contexts j).admittedPhysicalPath) ∧
      Spares c next.1 next.2 := by
  intro c next
  have hc : Filed admittedRoot c := (sequenceController format).run_invariant_of_admits
    (fun s _ hinput hs => (hs.step hinput).1) _ (filed_boot ..) inputs h.of_append
  have hgenuine : c.Genuine format input := h.after.1
  refine ⟨?_, fun i j hij hi hj => (hc.step hgenuine).1.paths_ne hi hj hij, (hc.step hgenuine).2⟩
  rintro request reads i id rfl hreported
  exact hc.admittedFor hgenuine (c.requested format reads request) hreported

/-- The primary S-band link asks for a run of the staged file s. -/
def runStaged : SequenceControlRequest where
  operation := .seqRun
  linkIdentity := 1
  linkRole := 1
  fileName := ascii ".sequence-staging/s"

/-- One command to the dispatcher that does nothing. -/
def noOpFile : Bytes :=
  SequenceFile.encode defaultFormat ⟨0, 0, [.command 0 5 0 ⟨16777216, []⟩, .endOfSequence]⟩

/-- A first sequence that runs to its end. -/
def firstSequence : List SequenceInput :=
  [.controlIn runStaged (unchanged emptySequence), .internalCmdStatusIn .ok, .seqStartIn 0 (ascii "a/ctx-1-s"),
    .seqDoneIn 0 .ok]

theorem genuine_unchanged (hf : c.IdFree) (bytes : Bytes) :
    c.Genuine defaultFormat (.controlIn runStaged (unchanged bytes)) :=
  ⟨fun _ _ hs hc _ => (Option.some.inj hc).symm.trans (FileRead.content.inj hs), hf⟩

/-- A staged file that stays the same is admitted under its own path, next to that of the sequence
before. -/
theorem unchanged_sequence_admitted :
    let next := ((sequenceController defaultFormat).run atBoot firstSequence).step defaultFormat
      (.controlIn runStaged (unchanged noOpFile))
    .contextUpdated 1 2 .admitted ∈ next.2 ∧
      AdmittedFor defaultFormat runStaged (unchanged noOpFile) (ascii "/d/a") next.2 (next.1.contexts 1) := by
  have hreported : .contextUpdated 1 2 .admitted ∈ (((sequenceController defaultFormat).run atBoot
      firstSequence).step defaultFormat (.controlIn runStaged (unchanged noOpFile))).2 := by
    decide +kernel
  have hboot : atBoot.IdFree := fun i hi => nomatch hi
  have hfree : ((sequenceController defaultFormat).run atBoot firstSequence).IdFree := by
    unfold IdFree
    decide +kernel
  have hauthorised := admitted_files_authorised defaultFormat (ascii "/d") (ascii "/d/a") (ascii "a/") true
    firstSequence (.controlIn runStaged (unchanged noOpFile))
    ⟨genuine_unchanged hboot _, trivial, trivial, trivial, genuine_unchanged hfree _, trivial⟩
  rw [show boot (ascii "/d") (ascii "/d/a") (ascii "a/") true = atBoot from rfl] at hauthorised
  exact ⟨hreported, hauthorised.1 runStaged (unchanged noOpFile) 1 2 rfl hreported⟩

/-! ### Another file with the same checksum -/

/-- One command, to run a sequence, with an argument that gives the file the checksum of the empty
sequence. -/
def forgedSequence : Bytes :=
  [0, 0, 0, 27, 0, 0, 0, 1, 255, 255, 255, 0, 0, 0, 0, 0, 0, 0, 0, 0, 0, 0, 0, 10, 0, 0, 16, 4, 160, 1,
    200, 150, 217, 176, 17, 149, 4, 210]

def replaced : AdmissionReads :=
  { validTime := ⟨0, 0⟩, staged := .content emptySequence, copied := some forgedSequence, reopened := true }

theorem forged_sequence_admitted :
    let next := atBoot.step defaultFormat (.controlIn runStaged replaced)
    .contextUpdated 0 1 .admitted ∈ next.2 ∧
      .fileCopied (next.1.contexts 0).admittedPhysicalPath forgedSequence ∈ next.2 ∧
      (next.1.contexts 0).state = .autoDispatched ∧
      (SequenceFileInspector.inspect defaultFormat ⟨0, 0⟩ (.content forgedSequence)).toOption.map
        (fun inspection => inspection.records.map (·.opcode)) = some [obcSeqRunOpcode] ∧
      isForbiddenNestedSequencingOpcode obcSeqRunOpcode = true := by
  decide +kernel

end SequenceAdmissionController

end ObcFlight
