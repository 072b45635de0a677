import ObcFlight.SequenceManualRuns

/-!
# Sequencers become free again

The statuses of the internal commands end the operation in flight and the restores behind it, one
after the other; a done callback then ends the one context that is under way on a sequencer. So a
controller whose sequencers in manual mode are all answered for can free any of them.
-/

namespace ObcFlight

namespace SequenceAdmissionController

variable {c : SequenceAdmissionController} (format : SequenceFileFormat)

def Selectable (c : SequenceAdmissionController) (q : Sequencer) : Prop :=
  c.sequencerManualMode q = false ∧ c.pendingAutoRestore q = false ∧
    ∀ i, keepsBusy (c.contexts i) q = false

/-- The second state follows from the first one in an orderly run. -/
def Leads (c c' : SequenceAdmissionController) : Prop :=
  ∃ more, (sequenceController format).Admits Orderly c more ∧ (sequenceController format).run c more = c'

variable {format}

theorem Leads.refl (c : SequenceAdmissionController) : Leads format c c := ⟨[], trivial, rfl⟩

theorem Leads.trans {c₁ c₂ c₃ : SequenceAdmissionController} (h : Leads format c₁ c₂)
    (h' : Leads format c₂ c₃) : Leads format c₁ c₃ := by
  obtain ⟨is, his, rfl⟩ := h
  obtain ⟨js, hjs, rfl⟩ := h'
  exact ⟨is ++ js, his.append _ hjs, Machine.run_append ..⟩

theorem leads_status (c : SequenceAdmissionController) (r : CmdResponse) :
    Leads format c (c.finalizeInternalOperation r).1 :=
  ⟨[.internalCmdStatusIn r], ⟨trivial, trivial⟩, rfl⟩

def due (c : SequenceAdmissionController) : Finset Sequencer :=
  Finset.univ.filter fun q => c.pendingAutoRestore q = true

theorem finalizeInternalOperation_ok (hac : c.internalOp.active = true)
    (hk : c.internalOp.kind ≠ .setManual) :
    (c.finalizeInternalOperation .ok).1 =
      ((c.succeedOperation c.internalOp).1.closeOperation c.internalOp .ok).1 := by
  unfold finalizeInternalOperation
  rw [if_neg (by simp [hac]), if_neg (fun h => hk h.2), if_pos rfl]

theorem closeOperation_next (op : InternalOp) (r : CmdResponse) :
    (c.closeOperation op r).1.internalOp.active = false ∨
      ∃ q, (c.closeOperation op r).1.internalOp = restoreOp q ∧
        (c.closeOperation op r).1.due ⊂ c.due := by
  rcases c.closeOperation_cases op r with ⟨-, heq⟩ | ⟨q, b, hpn, -, heq⟩
  · exact .inl (by rw [heq])
  · refine .inr ⟨q, by rw [heq], ?_⟩
    rw [heq, Finset.ssubset_iff_of_subset]
    · exact ⟨q, by simp [due, hpn], by simp [due]⟩
    · intro p hp
      simp only [due, Finset.mem_filter, Finset.mem_univ, true_and] at hp ⊢
      by_cases hpq : p = q
      · rwa [hpq]
      · rwa [Function.update_of_ne hpq] at hp

variable {q : Sequencer}

theorem Accounted.leads_idle_of_restoring (h : c.Accounted) (hop : c.internalOp = restoreOp q) :
    ∃ c', Leads format c c' ∧ c'.Accounted ∧ c'.internalOp.active = false ∧ c'.contexts = c.contexts := by
  induction hn : c.due.card using Nat.strong_induction_on generalizing c q with
  | _ _ ih =>
    have hf := finalizeInternalOperation_ok (c := c) (by rw [hop]; rfl) (by rw [hop]; nofun)
    have hc : (c.finalizeInternalOperation .ok).1.contexts = c.contexts := by
      rw [hf, closeOperation_contexts, hop]
      rfl
    rcases (c.succeedOperation c.internalOp).1.closeOperation_next c.internalOp .ok with hid | ⟨p, hp, hdue⟩
    · exact ⟨_, c.leads_status .ok, h.finalize .ok, by rw [hf]; exact hid, hc⟩
    · have hs : (c.succeedOperation c.internalOp).1.due = c.due := by rw [hop]; rfl
      rw [← hf] at hp hdue
      rw [hs] at hdue
      obtain ⟨c', hl, hc', hid, hk⟩ := ih _ (hn ▸ Finset.card_lt_card hdue) (h.finalize .ok) hp rfl
      exact ⟨c', (c.leads_status .ok).trans hl, hc', hid, hk.trans hc⟩

theorem Accounted.leads_idle_of_kind (h : c.Accounted) (hac : c.internalOp.active = true)
    (hk : c.internalOp.kind ≠ .setManual) :
    ∃ c', Leads format c c' ∧ c'.Accounted ∧ c'.internalOp.active = false := by
  have hf := finalizeInternalOperation_ok hac hk
  rcases (c.succeedOperation c.internalOp).1.closeOperation_next c.internalOp .ok with hid | ⟨q, hq, -⟩
  · exact ⟨_, c.leads_status .ok, h.finalize .ok, by rw [hf]; exact hid⟩
  · rw [← hf] at hq
    obtain ⟨c', hl, hc', hid, -⟩ := (h.finalize .ok).leads_idle_of_restoring hq
    exact ⟨c', (c.leads_status .ok).trans hl, hc', hid⟩

theorem Accounted.leads_idle (h : c.Accounted) :
    ∃ c', Leads format c c' ∧ c'.Accounted ∧ c'.internalOp.active = false := by
  cases h.phase with
  | idle hop => exact ⟨c, .refl c, h, by rw [hop]⟩
  | restoring _ hop => exact h.leads_idle_of_kind (by rw [hop]; rfl) (by rw [hop]; nofun)
  | working hac _ hu =>
    by_cases hk : c.internalOp.kind = .setManual
    · obtain ⟨p, hset⟩ := c.manualModeSet_of_used hu (h.table.named _ hu).2
      have hf : (c.finalizeInternalOperation .ok).1 = c.loading c.internalOp.targetSequencer := by
        unfold finalizeInternalOperation
        rw [if_neg (by simp [hac]), if_pos ⟨rfl, hk⟩, hset]
      obtain ⟨c', hl, hc', hid⟩ :=
        (h.finalize .ok).leads_idle_of_kind (by rw [hf]; exact hac) (by rw [hf]; nofun)
      exact ⟨c', (c.leads_status .ok).trans hl, hc', hid⟩
    · exact h.leads_idle_of_kind hac hk

/-! ### The last context on a sequencer -/

theorem liveOn_of_keepsBusy {x : ContextEntry} (h : keepsBusy x q = true) : LiveOn x q := by
  unfold keepsBusy at h
  simp only [Bool.and_eq_true, Bool.or_eq_true, decide_eq_true_eq] at h
  obtain ⟨⟨hu, hsq⟩, ((hs | hs) | hs) | hs⟩ := h <;>
    exact ⟨hu, by rw [hs]; rfl, hsq⟩

theorem Accounted.selectable (h : c.Accounted) (hid : c.internalOp.active = false)
    (hf : ∀ i, ¬LiveOn (c.contexts i) q) : c.Selectable q := by
  obtain ⟨-, hp, hh⟩ := h.phase.idle_of_inactive hid
  refine ⟨Bool.eq_false_iff.mpr fun hm => ?_, hp q,
    fun i => Bool.eq_false_iff.mpr fun hbs => hf i (liveOn_of_keepsBusy hbs)⟩
  obtain ⟨i, hi⟩ := hh q hm
  exact hf i hi.1

variable {i : ContextIndex}

theorem Accounted.doneContext_isSome (h : c.Accounted) (hid : c.internalOp.active = false)
    (hl : LiveOn (c.contexts i) q) : ∃ j, c.doneContext q = some j := by
  refine Option.isSome_iff_exists.mp (List.find?_isSome.mpr ⟨i, List.mem_finRange i, ?_⟩)
  obtain ⟨hu, hg, hsq⟩ := hl
  have hnm := (h.table.named i hu).1
  have had := h.not_admitted_of_inactive hid i hu
  dsimp only
  rw [hu, hsq]
  cases hs : (c.contexts i).state with
  | unused => exact absurd hs hnm
  | admitted => exact absurd hs had
  | succeeded | failed | canceled => rw [hs] at hg; cases hg
  | autoDispatched | manualPrepared | running => simp

theorem seqDoneIn_next (hid : c.internalOp.active = false) (hdn : c.doneContext q = some i)
    (r : CmdResponse) : (c.seqDoneIn q r).1.internalOp.active = false ∨
      ∃ p, (c.seqDoneIn q r).1.internalOp = restoreOp p := by
  obtain ⟨y, -, -, -, ⟨-, heq⟩ | ⟨-, heq⟩⟩ := seqDoneIn_cases hdn r
  · exact .inl (by rw [heq]; exact hid)
  · rw [heq]
    rcases (c.setContext i y).requestSequencerAutoRestore_cases q with ⟨-, h⟩ | ⟨-, -, h⟩ | ⟨-, -, b, h⟩
    · exact .inl (by rw [h]; exact hid)
    · exact .inl (by rw [h]; exact hid)
    · exact .inr ⟨q, by rw [h]⟩

theorem Accounted.done_frees (h : c.Accounted) (hdn : c.doneContext q = some i)
    (r : CmdResponse) (j : ContextIndex) :
    ¬LiveOn ((c.seqDoneIn q r).1.contexts j) q := by
  have hl := (doneContext_liveOn hdn).1
  obtain ⟨y, he, -, -, hc⟩ := seqDoneIn_cases hdn r
  have hcn : (c.seqDoneIn q r).1.contexts = (c.setContext i y).contexts := by
    rcases hc with ⟨-, heq⟩ | ⟨-, heq⟩
    · rw [heq]
    · rw [heq, requestSequencerAutoRestore_contexts]
  rw [hcn]
  rcases c.setContext_cases i y j with heq | ⟨-, heq⟩
  · rw [heq]
    intro hj
    obtain rfl := h.table.exclusive j i q hj hl
    exact he.not_liveOn q (by rwa [← heq, setContext_self] at hj)
  · rw [heq]
    exact he.not_liveOn q

theorem Accounted.leads_selectable (h : c.Accounted) (q : Sequencer) :
    ∃ c', Leads format c c' ∧ c'.Selectable q := by
  obtain ⟨c₁, hl, h₁, hid⟩ := h.leads_idle
  by_cases hbs : ∃ i, LiveOn (c₁.contexts i) q
  · obtain ⟨i, hlv⟩ := hbs
    obtain ⟨j, hdn⟩ := h₁.doneContext_isSome hid hlv
    have hstep : Leads format c₁ (c₁.seqDoneIn q .ok).1 := ⟨[.seqDoneIn q .ok], ⟨trivial, trivial⟩, rfl⟩
    have hf := h₁.done_frees hdn .ok
    rcases seqDoneIn_next hid hdn .ok with hdi | ⟨p, hp⟩
    · exact ⟨_, hl.trans hstep, (h₁.done hdn .ok).selectable hdi hf⟩
    · obtain ⟨c₂, hl', h₂, hidle₂, hc⟩ := (h₁.done hdn .ok).leads_idle_of_restoring hp
      exact ⟨c₂, (hl.trans hstep).trans hl', h₂.selectable hidle₂ (by rw [hc]; exact hf)⟩
  · exact ⟨c₁, hl, h₁.selectable hid fun i hi => hbs ⟨i, hi⟩⟩

/-! ### The account along a run -/

/-- Along every run in which a start callback comes from the context's own sequencer, for a context
that is under way and is not waiting for manual mode: a sequencer in manual mode is the target of the
operation in flight, has its restore due or is held by a context; a restore is due only for a
sequencer in manual mode, and never while no operation is in flight; and each sequencer can become
free again. -/
theorem manual_mode_accounted (format : SequenceFileFormat)
    (runtimeRoot admittedRoot admittedCommandPrefix : Bytes) (configured : Bool) (inputs : List SequenceInput)
    (h : (sequenceController format).Admits Orderly
      (boot runtimeRoot admittedRoot admittedCommandPrefix configured) inputs) :
    let c := (sequenceController format).run
      (boot runtimeRoot admittedRoot admittedCommandPrefix configured) inputs
    (∀ q, c.sequencerManualMode q = true →
      c.internalOp.active = true ∧ c.internalOp.targetSequencer = some q ∨
        c.pendingAutoRestore q = true ∨ ∃ i, Holds (c.contexts i) q) ∧
      (∀ q, c.pendingAutoRestore q = true → c.sequencerManualMode q = true) ∧
      (c.internalOp.active = false → ∀ q, c.pendingAutoRestore q = false) ∧
      ∀ q, ∃ c', Leads format c c' ∧ c'.Selectable q := by
  intro c
  have hc : c.Accounted := (sequenceController format).run_invariant_of_admits
    (fun s _ hinput hs => hs.step format hinput) _ (accounted_boot ..) inputs h
  refine ⟨fun q hq => ?_, hc.table.manual_of_pending, fun hidle => (hc.phase.idle_of_inactive hidle).2.1,
    hc.leads_selectable⟩
  cases hc.phase with
  | idle _ _ hheld => exact .inr (.inr (hheld q hq))
  | working _ _ _ hcovered => exact .inr (hcovered q hq)
  | restoring p hop _ hletGo =>
    by_cases hqp : q = p
    · exact .inl ⟨by rw [hop]; rfl, by rw [hop, hqp]; rfl⟩
    · exact .inr (hletGo.others q hqp hq)

/-- A context is loaded and its sequencer starts the file. -/
def startedManually : List SequenceInput :=
  [prepareManual, .internalCmdStatusIn .ok, .internalCmdStatusIn .ok, .seqStartIn 0 (ascii "a/ctx-1-s")]

/-- The sequencer in manual mode is answered for. -/
theorem prepared_accounted :
    let c := (sequenceController defaultFormat).run atBoot startedManually
    c.sequencerManualMode 0 = true ∧
      (c.internalOp.active = true ∧ c.internalOp.targetSequencer = some 0 ∨
        c.pendingAutoRestore 0 = true ∨ ∃ i, Holds (c.contexts i) 0) := by
  have hmanual : ((sequenceController defaultFormat).run atBoot startedManually).sequencerManualMode 0 = true := by
    decide +kernel
  have hstart : ((sequenceController defaultFormat).run atBoot (startedManually.take 3)).Orderly
      (.seqStartIn 0 (ascii "a/ctx-1-s")) := by
    unfold Orderly StartsOwn
    decide +kernel
  have haccounted := manual_mode_accounted defaultFormat (ascii "/d") (ascii "/d/a") (ascii "a/") true
    startedManually ⟨trivial, trivial, trivial, hstart, trivial⟩
  rw [show boot (ascii "/d") (ascii "/d/a") (ascii "a/") true = atBoot from rfl] at haccounted
  exact ⟨hmanual, haccounted.1 0 hmanual⟩

/-- The file starts and is done while its context waits for manual mode. -/
def doneWhileWaiting : List SequenceInput :=
  [prepareManual, .seqStartIn 0 (ascii "a/ctx-1-s"), .seqDoneIn 0 .ok, .internalCmdStatusIn .ok,
    .internalCmdStatusIn .ok]

/-- The start callback comes from the context's own sequencer, and yet the sequencer is left in manual
mode with no operation in flight, no restore due and no context that holds it. -/
theorem manual_mode_leaked :
    let begun := (sequenceController defaultFormat).run atBoot [prepareManual]
    let c := (sequenceController defaultFormat).run atBoot doneWhileWaiting
    (begun.contexts 0).admittedCommandPath = ascii "a/ctx-1-s" ∧ (begun.contexts 0).sequencer = some 0 ∧
      c.sequencerManualMode 0 = true ∧ c.internalOp.active = false ∧ c.pendingAutoRestore 0 = false ∧
      ∀ i, (c.contexts i).manualModeContext = false := by
  decide +kernel

end SequenceAdmissionController

end ObcFlight
