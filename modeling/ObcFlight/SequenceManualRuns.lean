import ObcFlight.SequenceManualMode
import Mathlib.Data.Fintype.Card

/-!
# Runs of sequencers in and out of manual mode

Callbacks and requests keep the account of the sequencers in manual mode, as the statuses do. So
along every run in which a start callback comes from its context's own sequencer, at a time when
that context is under way and not waiting for manual mode, a sequencer in manual mode is always
answered for, and from every state of such a run each sequencer can become free again.
-/

namespace ObcFlight

namespace SequenceAdmissionController

variable {c : SequenceAdmissionController}

/-! ### Callbacks -/

variable {c' : SequenceAdmissionController}

theorem Job.of_contexts (h : c.Job) (hop : c'.internalOp = c.internalOp)
    (hm : c'.sequencerManualMode = c.sequencerManualMode)
    (hl : ∀ j q, LiveOn (c'.contexts j) q → LiveOn (c.contexts j) q)
    (hset : c.internalOp.kind = .setManual → c'.opContext = c.opContext)
    (hsq : c'.opContext.sequencer = c.opContext.sequencer)
    (hfl : c'.opContext.manualModeContext = true → c.opContext.manualModeContext = true ∧
      (isTerminalState c.opContext.state = false → isTerminalState c'.opContext.state = false)) :
    c'.Job := by
  cases h with
  | run hk hoff =>
    refine .run (by rw [hop]; exact hk) (Bool.eq_false_iff.mpr fun hon => ?_)
    exact absurd (hoff.symm.trans (hfl hon).1) (by simp)
  | waiting q hk ht hq hoff hon hst =>
    have hs := hset hk
    exact .waiting q (by rw [hop]; exact hk) (by rw [hop]; exact ht) (hsq.trans hq)
      (by rw [hm]; exact hoff) (by rw [hs]; exact hon) (by rw [hs]; exact hst)
  | command q hk ht hq hon hal =>
    refine .command q (by rw [hop]; exact hk) (by rw [hop]; exact ht) (hsq.trans hq)
      (fun hf => (hfl hf).2 (hon (hfl hf).1)) fun j hj => ?_
    rw [hop]
    exact hal j (hl j q hj)

variable {i : ContextIndex}

theorem findContext_some {p : ContextEntry → Bool} (h : c.findContext p = some i) :
    (c.contexts i).used = true ∧ p (c.contexts i) = true := by
  have hf := List.find?_some h
  rwa [Bool.and_eq_true] at hf

/-- A start callback that comes from the context's own sequencer, for a context that is under way and
is not waiting for manual mode. -/
def StartsOwn (c : SequenceAdmissionController) (port : Sequencer) (i : ContextIndex) : Prop :=
  (c.contexts i).sequencer = some port ∧ isTerminalState (c.contexts i).state = false ∧
    ¬(c.internalOp.active = true ∧ c.internalOp.kind = .setManual ∧ c.internalOp.contextIndex = i)

theorem setContext_cases (c : SequenceAdmissionController) (i : ContextIndex) (y : ContextEntry) (j : ContextIndex) :
    (c.setContext i y).contexts j = c.contexts j ∨ j = i ∧ (c.setContext i y).contexts j = y := by
  by_cases hj : j = i
  · exact .inr ⟨hj, by rw [hj, setContext_self]⟩
  · exact .inl (setContext_of_ne c hj y)

variable {port q : Sequencer}

/-- A change of one entry that changes neither who holds a sequencer nor the work of the operation in
flight keeps the phase. -/
theorem Phase.setContext (h : c.Phase) {y : ContextEntry} (ht : (c.setContext i y).Table)
    (hh : ∀ q, (c.setContext i y).Held q ↔ c.Held q)
    (hu : c.opContext.used = true → (c.setContext i y).opContext.used = true)
    (hj : c.internalOp.active = true → c.Job → (c.setContext i y).Job) : (c.setContext i y).Phase := by
  cases h with
  | idle hop hpn hcv => exact .idle hop hpn fun q hq => (hh q).mpr (hcv q hq)
  | restoring q hop hpn hl =>
    exact .restoring q hop hpn ⟨ht, fun hq => hl.unheld ((hh q).mp hq),
      fun p hp hp' => (hl.others p hp hp').imp_right (hh p).mpr⟩
  | working hac hpb hud hc hjob =>
    exact .working hac hpb (hu hud) (fun q hq => (hc q hq).imp_right (hh q).mpr) (hj hac hjob)

theorem Accounted.started (h : c.Accounted) (hown : c.StartsOwn port i) :
    (c.updateContextState i .running (some port)).1.Accounted := by
  obtain ⟨hs, hg, hw⟩ := hown
  generalize hy : ({ c.contexts i with state := .running, sequencer := some port } : ContextEntry) = y
  have hu : (c.updateContextState i .running (some port)).1 = c.setContext i y := by rw [← hy]; rfl
  rw [hu]
  have hf : y.manualModeContext = (c.contexts i).manualModeContext := by rw [← hy]
  have hyq : y.sequencer = (c.contexts i).sequencer := by rw [← hy, hs]
  have hyg : isTerminalState y.state = false := by rw [← hy]; rfl
  have hys : y.used = (c.contexts i).used := by rw [← hy]
  have he := c.setContext_cases i y
  have hl (j : ContextIndex) (q : Sequencer) :
      LiveOn ((c.setContext i y).contexts j) q ↔ LiveOn (c.contexts j) q := by
    rcases he j with hj | ⟨rfl, hj⟩
    · rw [hj]
    · rw [hj]
      unfold LiveOn
      rw [hys, hyg, hg, hyq]
  have hh (q : Sequencer) : (c.setContext i y).Held q ↔ c.Held q := by
    refine exists_congr fun j => and_congr (hl j q) ?_
    rcases he j with hj | ⟨rfl, hj⟩
    · rw [hj]
    · rw [hj, hf]
  have ht : (c.setContext i y).Table := by
    refine ⟨fun j hj => ?_, fun j k q hj hk => h.table.exclusive j k q ((hl j q).mp hj) ((hl k q).mp hk),
      h.table.manual_of_pending, fun q hq hq' => h.table.unheld_of_pending q hq ((hh q).mp hq')⟩
    rcases he j with heq | ⟨rfl, heq⟩
    · rw [heq] at hj ⊢
      exact h.table.named j hj
    · rw [heq] at hj ⊢
      rw [← hy]
      exact ⟨nofun, (h.table.named j (hys ▸ hj)).2⟩
  have hop : (c.setContext i y).opContext = c.opContext ∨
      c.internalOp.contextIndex = i ∧ c.opContext = c.contexts i ∧ (c.setContext i y).opContext = y :=
    (he c.internalOp.contextIndex).imp_right fun ⟨hi, heq⟩ => ⟨hi, by rw [opContext, hi], heq⟩
  refine ⟨ht, fun j hj had => ?_, h.phase.setContext ht hh (fun hu => ?_) fun hac hjob => ?_⟩
  · rcases he j with heq | ⟨-, heq⟩
    · rw [heq] at hj had
      exact h.entering j hj had
    · rw [heq, ← hy] at had
      cases had
  · rcases hop with heq | ⟨-, hold, heq⟩
    · rwa [heq]
    · rwa [heq, hys, ← hold]
  · refine hjob.of_contexts rfl rfl (fun j q => (hl j q).mp) (fun hkn => ?_) ?_ fun hon => ?_
    · rcases hop with heq | ⟨hi, -⟩
      · exact heq
      · exact absurd ⟨hac, hkn, hi⟩ hw
    · rcases hop with heq | ⟨-, hold, heq⟩
      · rw [heq]
      · rw [heq, hold, hyq]
    · rcases hop with heq | ⟨-, hold, heq⟩
      · rw [heq] at hon ⊢
        exact ⟨hon, id⟩
      · rw [heq] at hon ⊢
        exact ⟨by rw [hold, ← hf]; exact hon, fun _ => hyg⟩

/-- What a done callback does: the context ends without its flag, and a context that had it lets its
sequencer leave manual mode. -/
theorem seqDoneIn_cases (hdn : c.doneContext port = some i) (r : CmdResponse) :
    ∃ y, Ended (c.contexts i) y ∧ y.sequencer = some port ∧ y.manualModeContext = false ∧
      ((c.contexts i).manualModeContext = false ∧ (c.seqDoneIn port r).1 = c.setContext i y ∨
        (c.contexts i).manualModeContext = true ∧
          (c.seqDoneIn port r).1 = ((c.setContext i y).requestSequencerAutoRestore port).1) := by
  unfold seqDoneIn updateContextState
  rw [hdn]
  dsimp only
  generalize hy : ({ c.contexts i with
    state := if r = .ok then .succeeded else .failed
    sequencer := (some port <|> (c.contexts i).sequencer) } : ContextEntry) = y
  have he : Ended (c.contexts i) y := by
    refine ⟨⟨_, _, _, hy.symm⟩, ?_⟩
    rw [← hy]
    split_ifs <;> rfl
  have hf : y.manualModeContext = (c.contexts i).manualModeContext := by rw [← hy]
  have hp : y.sequencer = some port := by rw [← hy]; rfl
  rw [setContext_self, clearManualModeContext_setContext, hf]
  cases hon : (c.contexts i).manualModeContext with
  | false => exact ⟨y, he, hp, hf.trans hon, .inl ⟨rfl, rfl⟩⟩
  | true =>
    exact ⟨{ y with manualModeContext := false }, ⟨he.same.trans ⟨_, _, _, rfl⟩, he.terminal⟩, hp,
      rfl, .inr ⟨rfl, rfl⟩⟩

theorem doneContext_liveOn (hdn : c.doneContext port = some i) :
    LiveOn (c.contexts i) port ∧ (c.contexts i).state ≠ .admitted := by
  obtain ⟨hu, hf⟩ := findContext_some hdn
  simp only [Bool.and_eq_true, Bool.or_eq_true, decide_eq_true_eq] at hf
  obtain ⟨hp, (hs | hs) | hs⟩ := hf <;>
    exact ⟨⟨hu, by rw [hs]; rfl, hp⟩, by simp [hs]⟩

theorem Job.admitted (h : c.Job) (hk : c.internalOp.kind = .setManual) : c.opContext.state = .admitted := by
  cases h with
  | waiting _ _ _ _ _ _ hs => exact hs
  | run hrun => exact absurd (hrun.symm.trans hk) (by simp)
  | command _ hc => simp [hk] at hc

theorem Job.of_ended (h : c.Job) {y : ContextEntry} (he : Ended (c.contexts i) y)
    (hs : y.sequencer = (c.contexts i).sequencer) (hoff : y.manualModeContext = false)
    (hst : (c.contexts i).state ≠ .admitted) : (c.setContext i y).Job := by
  have hop := c.setContext_cases i y c.internalOp.contextIndex
  refine h.of_contexts rfl rfl (fun j q hj => ?_) (fun hk => ?_) ?_ fun hon => ?_
  · rcases c.setContext_cases i y j with heq | ⟨-, heq⟩
    · exact heq ▸ hj
    · exact absurd (heq ▸ hj) (he.not_liveOn q)
  · exact hop.resolve_right fun hi => hst (hi.1 ▸ h.admitted hk)
  · rcases hop with heq | ⟨hi, heq⟩
    · exact congrArg ContextEntry.sequencer heq
    · exact (congrArg ContextEntry.sequencer heq).trans (by rw [hs, opContext, hi])
  · rcases hop with heq | ⟨-, heq⟩
    · rw [show (c.setContext i y).opContext = c.opContext from heq] at hon ⊢
      exact ⟨hon, id⟩
    · exact absurd ((congrArg ContextEntry.manualModeContext heq).symm.trans hon) (by simp [hoff])

/-- The context in slot i has ended as y: its sequencer is not held any more, and the other contexts
and the operation in flight are as before. -/
structure Vacated (c : SequenceAdmissionController) (i : ContextIndex) (y : ContextEntry)
    (port : Sequencer) : Prop where
  table : (c.setContext i y).Table
  entering : (c.setContext i y).Entering
  unheld : ¬(c.setContext i y).Held port
  held_of : ∀ p, (c.setContext i y).Held p → c.Held p
  held : ∀ p, p ≠ port → c.Held p → (c.setContext i y).Held p
  used : c.opContext.used = true → (c.setContext i y).opContext.used = true
  job : c.Job → (c.setContext i y).Job

variable {y : ContextEntry}

theorem Accounted.vacated (h : c.Accounted) (hdn : c.doneContext port = some i)
    (he : Ended (c.contexts i) y) (hs : y.sequencer = some port) (hoff : y.manualModeContext = false) :
    Vacated c i y port := by
  obtain ⟨hlv, hst⟩ := doneContext_liveOn hdn
  refine ⟨h.table.setContext_of_not_live i (he.named (h.table.named i)) he.not_liveOn,
    fun j hj had => ?_, fun hh => ?_, fun p hh => ?_, fun p hp hh => ?_, fun hu => ?_,
    fun hjob => hjob.of_ended he (hs.trans hlv.2.2.symm) hoff hst⟩
  · rcases c.setContext_cases i y j with heq | ⟨-, heq⟩
    · exact h.entering j (heq ▸ hj) (heq ▸ had)
    · exact absurd (heq ▸ had) he.state_ne_admitted
  · rcases held_of_setContext hh with hy | ⟨j, hj, hhl⟩
    · exact he.not_liveOn port hy.1
    · exact hj (h.table.exclusive j i port hhl.1 hlv)
  · rcases held_of_setContext hh with hy | ⟨j, -, hhl⟩
    · exact absurd hy.1 (he.not_liveOn p)
    · exact ⟨j, hhl⟩
  · exact held_setContext hh fun hhl => absurd (hhl.1.unique hlv) hp
  · rcases c.setContext_cases i y c.internalOp.contextIndex with heq | ⟨-, heq⟩
    · exact (congrArg ContextEntry.used heq).trans hu
    · obtain ⟨_, _, _, hs⟩ := he.same
      exact (congrArg ContextEntry.used (heq.trans hs)).trans hlv.1

namespace Vacated

variable (hv : Vacated c i y port)
include hv

theorem restore_idle (hop : c.internalOp = {}) (hpn : ∀ q, c.pendingAutoRestore q = false)
    (hcv : ∀ q, c.sequencerManualMode q = true → c.Held q) :
    ((c.setContext i y).requestSequencerAutoRestore port).1.Accounted := by
  have hot {p : Sequencer} (hp : p ≠ port) (hm : c.sequencerManualMode p = true) :
      (c.setContext i y).Held p := hv.held p hp (hcv p hm)
  have hna : (c.setContext i y).internalOp.active ≠ true := by
    rw [show (c.setContext i y).internalOp = {} from hop]
    decide
  rcases (c.setContext i y).requestSequencerAutoRestore_cases port with
    ⟨hm, hr⟩ | ⟨-, hac, -⟩ | ⟨-, -, packet, hr⟩
  · rw [hr]
    refine ⟨hv.table, hv.entering, .idle hop hpn fun p hp => hot ?_ hp⟩
    rintro rfl
    exact absurd (hm.symm.trans hp) (by simp)
  · exact absurd hac hna
  · rw [hr]
    have hqt : Function.update c.pendingAutoRestore port false = c.pendingAutoRestore := by
      rw [← hpn port, Function.update_eq_self]
    have ht : Table { c.setContext i y with
        pendingAutoRestore := Function.update c.pendingAutoRestore port false
        internalOp := restoreOp port } :=
      ⟨hv.table.1, hv.table.2, by rw [hqt]; exact hv.table.3, by rw [hqt]; exact hv.table.4⟩
    exact ⟨ht, fun j hj had => absurd (hv.entering j hj had).1 hna,
      .restoring port rfl (Function.update_self ..) ⟨ht, hv.unheld, fun p hp hm => .inr (hot hp hm)⟩⟩

theorem restore_restoring (hne : port ≠ q) (hop : c.internalOp = restoreOp q)
    (hpn : c.pendingAutoRestore q = false) (hl : c.LetGo q) :
    ((c.setContext i y).requestSequencerAutoRestore port).1.Accounted := by
  have hac : (c.setContext i y).internalOp.active = true := by
    rw [show (c.setContext i y).internalOp = restoreOp q from hop]
    rfl
  have hdf := hv.table.deferRestore hv.unheld
  rw [requestSequencerAutoRestore_of_active _ hac]
  refine ⟨hdf, hv.entering, .restoring q hop ?_
    ⟨hdf, fun hq => hl.unheld (hv.held_of q hq), fun p hp hp' => ?_⟩⟩
  · rw [deferRestore_pending, show (c.setContext i y).pendingAutoRestore q = false from hpn]
    simp [hne.symm]
  · rw [deferRestore_pending]
    by_cases hpp : p = port
    · exact .inl (by simp [hpp, show (c.setContext i y).sequencerManualMode port = true from hpp ▸ hp'])
    · rcases hl.others p hp hp' with hdue | hh
      · exact .inl (by simp [show (c.setContext i y).pendingAutoRestore p = true from hdue])
      · exact .inr (hv.held p hpp hh)

theorem restore_working (hac : c.internalOp.active = true) (hpb : c.internalOp.publishStatus = true)
    (hu : c.opContext.used = true) (hc : c.Covered) (hj : c.Job) :
    ((c.setContext i y).requestSequencerAutoRestore port).1.Accounted := by
  have hl : (c.setContext i y).LetGo port :=
    ⟨hv.table, hv.unheld, fun p hp hm => (hc p hm).imp_right (hv.held p hp)⟩
  rw [(c.setContext i y).requestSequencerAutoRestore_of_active hac]
  have hdr : ((c.setContext i y).deferRestore port).Job :=
    (hv.job hj).of_contexts rfl rfl (fun _ _ hlv => hlv) (fun _ => rfl) rfl fun hon => ⟨hon, id⟩
  exact ⟨hv.table.deferRestore hv.unheld, hv.entering,
    .working hac hpb (hv.used hu) hl.covered_deferRestore hdr⟩

end Vacated

theorem Accounted.done (h : c.Accounted) (hdn : c.doneContext port = some i)
    (r : CmdResponse) : (c.seqDoneIn port r).1.Accounted := by
  obtain ⟨y, he, hs, hoff, hcs⟩ := seqDoneIn_cases hdn r
  have hv := h.vacated hdn he hs hoff
  rcases hcs with ⟨hf, heq⟩ | ⟨hf, heq⟩
  · rw [heq]
    refine ⟨hv.table, hv.entering,
      h.phase.setContext hv.table (fun q => ⟨hv.held_of q, fun hh => ?_⟩) hv.used fun _ => hv.job⟩
    exact held_setContext hh fun hhl => absurd (hf.symm.trans hhl.2) (by simp)
  · rw [heq]
    cases h.phase with
    | idle hop hpn hcv => exact hv.restore_idle hop hpn hcv
    | restoring q hop hpn hl =>
      refine hv.restore_restoring ?_ hop hpn hl
      rintro rfl
      exact hl.unheld ⟨i, (doneContext_liveOn hdn).1, hf⟩
    | working hac hpb hu hc hj => exact hv.restore_working hac hpb hu hc hj

/-! ### Requests -/

theorem not_liveOn_of_slot (hs : c.allocateContextSlot.1 = some i) (q : Sequencer) :
    ¬LiveOn (c.contexts i) q := fun hl =>
  absurd ((c.terminal_of_slot hs hl.1).symm.trans hl.2.1) (by simp)

theorem Phase.idle_of_inactive (h : c.Phase) (hid : c.internalOp.active = false) :
    c.internalOp = {} ∧ (∀ q, c.pendingAutoRestore q = false) ∧
      ∀ q, c.sequencerManualMode q = true → c.Held q := by
  cases h with
  | idle hop hp hh => exact ⟨hop, hp, hh⟩
  | restoring _ hop =>
    rw [hop] at hid
    cases hid
  | working hac => exact absurd (hid.symm.trans hac) (by simp)

theorem Accounted.not_admitted_of_inactive (h : c.Accounted) (hid : c.internalOp.active = false)
    (i : ContextIndex) (hi : (c.contexts i).used = true) : (c.contexts i).state ≠ .admitted :=
  fun hs => absurd (hid.symm.trans (h.entering i hi hs).1) (by simp)

theorem chooseAvailableSequencer_some (h : c.chooseAvailableSequencer = some q) :
    c.sequencerManualMode q = false ∧ ∀ j, keepsBusy (c.contexts j) q = false := by
  have hq := List.find?_some h
  simp only [Bool.and_eq_true, Bool.not_eq_true', Bool.or_eq_false_iff, List.all_eq_true] at hq
  exact ⟨hq.1.1, fun j => by simpa using hq.2 j (List.mem_finRange j)⟩

theorem LiveOn.keepsBusy {x : ContextEntry} (h : LiveOn x q) (hnm : x.state ≠ .unused) :
    keepsBusy x q = true := by
  obtain ⟨hu, hg, hsq⟩ := h
  unfold SequenceAdmissionController.keepsBusy
  rw [hu, hsq]
  cases hs : x.state with
  | unused => exact absurd hs hnm
  | succeeded | failed | canceled => rw [hs] at hg; cases hg
  | admitted | autoDispatched | manualPrepared | running => simp

theorem held_of_slot (hs : c.allocateContextSlot.1 = some i) (x : ContextEntry) (h : c.Held q) :
    (c.setContext i x).Held q :=
  held_setContext h fun hh => absurd hh.1 (not_liveOn_of_slot hs q)

theorem Accounted.dropped (h : c.Accounted) (hid : c.internalOp.active = false)
    (hs : c.allocateContextSlot.1 = some i) (n : UInt32) :
    Accounted { c.entered i {} with rejectTotal := n } := by
  obtain ⟨hop, hp, hh⟩ := h.phase.idle_of_inactive hid
  have ht : (c.setContext i {}).Table :=
    h.table.setContext_of_not_live i (fun hu => nomatch hu) not_liveOn_default
  refine ⟨⟨ht.1, ht.2, ht.3, ht.4⟩, fun j hj had => ?_,
    .idle hop hp fun q hq => held_of_slot hs {} (hh q hq)⟩
  rcases c.setContext_cases i {} j with heq | ⟨-, heq⟩
  · exact absurd (heq ▸ had) (h.not_admitted_of_inactive hid j (heq ▸ hj))
  · exact absurd (heq ▸ hj) (by simp)

variable {request : SequenceControlRequest}

theorem Accounted.begun (h : c.Accounted) (hid : c.internalOp.active = false)
    (hsl : c.allocateContextSlot.1 = some i) {leaf : Bytes} {x : SequenceInspection}
    {kind : InternalOpKind} {t : Option Sequencer} {entry : ContextEntry}
    (hsh : (c.admittedCommandPathForContext c.nextContextId leaf).length < cmdStringSize)
    (hbg : Beginning c request i leaf x kind t entry) :
    Accounted { c.entered i entry with internalOp := c.operationFor request kind i t } := by
  obtain ⟨hop, hpn, hh⟩ := h.phase.idle_of_inactive hid
  have hf {q : Sequencer} (hbs : ∀ j, j ≠ i → keepsBusy (c.contexts j) q = false) (j : ContextIndex)
      (hj : j ≠ i) : ¬LiveOn (c.contexts j) q := fun hl =>
    absurd ((hbs j hj).symm.trans (hl.keepsBusy (h.table.named j hl.1).1)) (by simp)
  have hp : (c.operationFor request kind i t).publishStatus = true := by
    rw [operationFor, hop]
  have hna (j : ContextIndex) (hj : j ≠ i) (hu : ((c.setContext i entry).contexts j).used = true)
      (had : ((c.setContext i entry).contexts j).state = .admitted) : False := by
    rw [setContext_of_ne c hj] at hu had
    exact h.not_admitted_of_inactive hid j hu had
  have hs : (c.setContext i entry).contexts i = entry := c.setContext_self i entry
  have ht (hu : entry.used = true) (hnm : entry.state ≠ .unused)
      (hpt : entry.admittedCommandPath = c.admittedCommandPathForContext c.nextContextId leaf)
      (hal : ∀ q, LiveOn entry q → ∀ j, j ≠ i → ¬LiveOn (c.contexts j) q) : (c.setContext i entry).Table :=
    h.table.setContext (fun _ => ⟨hnm, hpt ▸ hsh⟩) hal
      fun q hq => absurd (hq.symm.trans (hpn q)) (by simp)
  have hc (q : Sequencer) (hq : c.sequencerManualMode q = true) :
      c.pendingAutoRestore q = true ∨ (c.setContext i entry).Held q :=
    .inr (held_of_slot hsl entry (hh q hq))
  cases hbg with
  | run _ ho htr =>
    have ht := ht rfl nofun rfl fun q hl => by
      obtain ⟨-, hbs⟩ := chooseAvailableSequencer_some (htr.trans hl.2.2)
      refine hf fun j hj => ?_
      rw [← c.setContext_of_ne hj]
      exact hbs j
    refine ⟨⟨ht.1, ht.2, ht.3, ht.4⟩, fun j hj had => ?_,
      .working rfl hp (congrArg ContextEntry.used hs) hc
        (.run rfl ((congrArg ContextEntry.manualModeContext hs).trans ?_))⟩
    · by_cases hji : j = i
      · subst hji
        exact absurd (hs ▸ had) nofun
      · exact (hna j hji hj had).elim
    · simp [newContext, ho]
  | prepare q ho hsq =>
    obtain ⟨hm, hbs⟩ := chooseAvailableSequencer_some hsq
    have ht := ht rfl nofun rfl fun p hl => by
      obtain rfl : q = p := Option.some.inj hl.2.2
      exact hf fun j _ => hbs j
    refine ⟨⟨ht.1, ht.2, ht.3, ht.4⟩, fun j hj had => ?_,
      .working rfl hp (congrArg ContextEntry.used hs) hc
        (.waiting q rfl rfl (congrArg ContextEntry.sequencer hs) hm
          ((congrArg ContextEntry.manualModeContext hs).trans ?_) (congrArg ContextEntry.state hs))⟩
    · by_cases hji : j = i
      · exact ⟨rfl, .inl rfl, hji⟩
      · exact (hna j hji hj had).elim
    · simp [newContext, ho]

theorem Accounted.counted (h : c.Accounted) (n : UInt32) : Accounted { c with rejectTotal := n } := by
  refine ⟨⟨h.table.1, h.table.2, h.table.3, h.table.4⟩, h.entering, ?_⟩
  cases h.phase with
  | idle hop hp hh => exact .idle hop hp hh
  | restoring q hop hp hl =>
    exact .restoring q hop hp ⟨⟨h.table.1, h.table.2, h.table.3, h.table.4⟩, hl.unheld, hl.others⟩
  | working hac hpb hu hc hjob =>
    exact .working hac hpb hu hc
      (hjob.of_contexts rfl rfl (fun _ _ => id) (fun _ => rfl) rfl fun hon => ⟨hon, id⟩)

theorem Accounted.commanded (h : c.Accounted) (hid : c.internalOp.active = false)
    {kind : InternalOpKind} (hk : kind = .start ∨ kind = .step ∨ kind = .cancel)
    (hl : LiveOn (c.contexts i) q) (request : SequenceControlRequest) :
    Accounted { c with internalOp := c.operationFor request kind i (some q) } := by
  obtain ⟨hop, -, hh⟩ := h.phase.idle_of_inactive hid
  refine ⟨⟨h.table.1, h.table.2, h.table.3, h.table.4⟩,
    fun j hj had => absurd had (h.not_admitted_of_inactive hid j hj),
    .working rfl (by rw [operationFor, hop]) hl.1 (fun p hp => .inr (hh p hp))
      (.command q (.inr hk) rfl hl.2.2 (fun _ => hl.2.1) fun j hj => ?_)⟩
  exact h.table.exclusive j i q hj hl

theorem Accounted.requested (h : c.Accounted) {f : SequenceFileFormat} {d : AdmissionReads}
    {r : SequenceControlResult} {o : List SequenceOutput}
    (hr : Requested c f d request r c' o) : c'.Accounted := by
  cases hr with
  | settled _ op n _ hop =>
    have hsm : op = c.internalOp :=
      hop.elim id fun hid => hid.2.trans (h.phase.idle_of_inactive hid.1).1.symm
    rw [hsm]
    exact h.counted n
  | dropped _ n _ _ _ _ _ hid _ hs => exact h.dropped hid hs n
  | begun _ _ _ _ _ _ _ _ _ hid hc hbg => exact h.begun hid hc.slot hc.short hbg
  | commanded _ _ _ _ hid hk hu _ hg _ hsq =>
    exact h.commanded hid hk ⟨hu, hg, hsq⟩ request

/-! ### Runs -/

/-- The conditions on a step: a start callback comes from the context's own sequencer, for a context
that is under way and is not waiting for manual mode. -/
def Orderly (c : SequenceAdmissionController) : SequenceInput → Prop
  | .seqStartIn port filename => ∀ i, c.findContextByAdmittedPath filename = some i → c.StartsOwn port i
  | _ => True

theorem accounted_boot (r d a : Bytes) (b : Bool) : (boot r d a b).Accounted := by
  refine ⟨⟨fun i hi => ?_, fun i j q hi => ?_, fun q hq => ?_, fun q hq => ?_⟩, fun i hi => ?_,
    .idle rfl (fun q => rfl) fun q hq => ?_⟩
  · cases hi
  · cases hi.1
  · cases hq
  · cases hq
  · cases hi
  · cases hq

theorem Accounted.step (h : c.Accounted) (f : SequenceFileFormat) {x : SequenceInput}
    (hin : c.Orderly x) : (c.step f x).1.Accounted := by
  cases x with
  | controlIn request d => exact h.requested (c.requested f d request)
  | internalCmdStatusIn r => exact h.finalize r
  | seqStartIn _ fl =>
    dsimp only [SequenceAdmissionController.step]
    unfold SequenceAdmissionController.seqStartIn
    cases hf : c.findContextByAdmittedPath fl with
    | none => exact h
    | some i => exact h.started (hin i hf)
  | seqDoneIn port r =>
    dsimp only [SequenceAdmissionController.step]
    cases hdn : c.doneContext port with
    | none =>
      unfold SequenceAdmissionController.seqDoneIn
      rw [hdn]
      exact h
    | some => exact h.done hdn r

end SequenceAdmissionController

end ObcFlight
