import ObcFlight.SequenceLifetimes

/-!
# Sequencers in manual mode

A sequencer is put into manual mode for one context and is taken out of it when that context is
done, canceled or has failed. Between these two moments stand chained commands, each of which can
fail or be overtaken by a callback. The invariant says who answers for a sequencer in manual mode:
the operation in flight, a restore that is due, or a context that is under way.
-/

namespace ObcFlight

namespace SequenceAdmissionController

def LiveOn (x : ContextEntry) (q : Sequencer) : Prop :=
  x.used = true ∧ isTerminalState x.state = false ∧ x.sequencer = some q

/-- The context is under way on the sequencer and has put it into manual mode. -/
def Holds (x : ContextEntry) (q : Sequencer) : Prop := LiveOn x q ∧ x.manualModeContext = true

/-- An entry in use has a state, and a path that fits into a command. -/
def Named (x : ContextEntry) : Prop :=
  x.used = true → x.state ≠ .unused ∧ x.admittedCommandPath.length < cmdStringSize

variable {q : Sequencer} {x y : ContextEntry}

theorem LiveOn.unique {q' : Sequencer} (h : LiveOn x q) (h' : LiveOn x q') : q = q' :=
  Option.some.inj (h.2.2.symm.trans h'.2.2)

theorem not_liveOn_of_isTerminalState (h : isTerminalState x.state = true) (q : Sequencer) :
    ¬LiveOn x q := fun hl => absurd (h.symm.trans hl.2.1) (by simp)

theorem not_liveOn_default (q : Sequencer) : ¬LiveOn {} q := fun h => nomatch h.1

variable (c : SequenceAdmissionController)

def Held (q : Sequencer) : Prop := ∃ i, Holds (c.contexts i) q

/-- Entries in use are named, no two contexts are under way on one sequencer, and a restore is due
only for a sequencer in manual mode that no context holds. -/
structure Table : Prop where
  named : ∀ i, Named (c.contexts i)
  exclusive : ∀ i j q, LiveOn (c.contexts i) q → LiveOn (c.contexts j) q → i = j
  manual_of_pending : ∀ q, c.pendingAutoRestore q = true → c.sequencerManualMode q = true
  unheld_of_pending : ∀ q, c.pendingAutoRestore q = true → ¬c.Held q

/-- Every sequencer in manual mode is held or has its restore due. -/
def Covered : Prop := ∀ q, c.sequencerManualMode q = true → c.pendingAutoRestore q = true ∨ c.Held q

/-- No context holds the sequencer any more, and the others are covered. -/
structure LetGo (q : Sequencer) : Prop where
  table : c.Table
  unheld : ¬c.Held q
  others : ∀ p, p ≠ q → c.sequencerManualMode p = true → c.pendingAutoRestore p = true ∨ c.Held p

variable {c}

/-! ### Changes of one entry -/

variable {i : ContextIndex}

theorem held_setContext (h : c.Held q) (hx : Holds (c.contexts i) q → Holds x q) :
    (c.setContext i x).Held q := by
  obtain ⟨j, hj⟩ := h
  refine ⟨j, ?_⟩
  by_cases hji : j = i
  · subst hji
    rw [setContext_self]
    exact hx hj
  · rwa [setContext_of_ne c hji]

theorem held_of_setContext (h : (c.setContext i x).Held q) :
    Holds x q ∨ ∃ j, j ≠ i ∧ Holds (c.contexts j) q := by
  obtain ⟨j, hj⟩ := h
  by_cases hji : j = i
  · subst hji
    rw [setContext_self] at hj
    exact .inl hj
  · rw [setContext_of_ne c hji] at hj
    exact .inr ⟨j, hji, hj⟩

theorem Table.setContext (h : c.Table) (hnm : Named x)
    (hal : ∀ q, LiveOn x q → ∀ j, j ≠ i → ¬LiveOn (c.contexts j) q)
    (hdue : ∀ q, c.pendingAutoRestore q = true → ¬Holds x q) : (c.setContext i x).Table where
  named j := by
    by_cases hji : j = i
    · subst hji
      rwa [setContext_self]
    · rw [setContext_of_ne c hji]
      exact h.named j
  exclusive j k q hj hk := by
    by_cases hji : j = i <;> by_cases hki : k = i
    · rw [hji, hki]
    · rw [hji, setContext_self] at hj
      rw [setContext_of_ne c hki] at hk
      exact absurd hk (hal q hj k hki)
    · rw [hki, setContext_self] at hk
      rw [setContext_of_ne c hji] at hj
      exact absurd hj (hal q hk j hji)
    · rw [setContext_of_ne c hji] at hj
      rw [setContext_of_ne c hki] at hk
      exact h.exclusive j k q hj hk
  manual_of_pending := h.manual_of_pending
  unheld_of_pending q hq hh := by
    rcases held_of_setContext hh with hx | ⟨j, -, hj⟩
    · exact hdue q hq hx
    · exact h.unheld_of_pending q hq ⟨j, hj⟩

theorem Table.setContext_of_not_live (h : c.Table) (i : ContextIndex) (hnm : Named x)
    (hx : ∀ q, ¬LiveOn x q) : (c.setContext i x).Table :=
  h.setContext hnm (fun q hl => absurd hl (hx q)) fun q _ hh => hx q hh.1

theorem letGo_setContext (h : c.Table) (hc : c.Covered) (hs : (c.contexts i).sequencer = some q)
    (hal : ∀ j, LiveOn (c.contexts j) q → j = i) (hnm : Named x) (hx : ∀ p, ¬LiveOn x p) :
    (c.setContext i x).LetGo q where
  table := h.setContext_of_not_live i hnm hx
  unheld hh := by
    rcases held_of_setContext hh with hhl | ⟨j, hji, hj⟩
    · exact hx q hhl.1
    · exact hji (hal j hj.1)
  others p hp hm := by
    rcases hc p hm with hpn | hh
    · exact .inl hpn
    · refine .inr (held_setContext hh fun hhl => absurd ?_ hp)
      exact Option.some.inj (hhl.1.2.2.symm.trans hs)

/-! ### Restores that become due -/

theorem deferRestore_pending (q p : Sequencer) :
    (c.deferRestore q).pendingAutoRestore p =
      (c.pendingAutoRestore p || (decide (p = q) && c.sequencerManualMode p)) := by
  unfold deferRestore
  by_cases hp : p = q
  · subst hp
    simp
  · simp [hp]

theorem Table.deferRestore (h : c.Table) (hu : ¬c.Held q) : (c.deferRestore q).Table where
  named := h.named
  exclusive := h.exclusive
  manual_of_pending p hp := by
    rw [deferRestore_pending] at hp
    simp only [Bool.or_eq_true, Bool.and_eq_true] at hp
    exact hp.elim (h.manual_of_pending p) And.right
  unheld_of_pending p hp := by
    rw [deferRestore_pending] at hp
    simp only [Bool.or_eq_true, Bool.and_eq_true, decide_eq_true_eq] at hp
    rcases hp with hp | ⟨rfl, -⟩
    · exact h.unheld_of_pending p hp
    · exact hu

theorem LetGo.covered_deferRestore (h : c.LetGo q) : (c.deferRestore q).Covered := by
  intro p hm
  rw [deferRestore_pending]
  by_cases hp : p = q
  · exact .inl (by simp [hp, show c.sequencerManualMode q = true from hp ▸ hm])
  · rcases h.others p hp hm with hpn | hh
    · exact .inl (by simp [hpn])
    · exact .inr hh

theorem LetGo.covered (h : c.LetGo q)
    (hq : c.sequencerManualMode q = true → c.pendingAutoRestore q = true) : c.Covered := by
  intro p hm
  by_cases hp : p = q
  · subst hp
    exact .inl (hq hm)
  · exact h.others p hp hm

/-! ### The operation in flight -/

variable (c)

abbrev opContext : ContextEntry := c.contexts c.internalOp.contextIndex

/-- What an operation that owes a status is about: a dispatched run, a context that waits for manual
mode, or a command to the one context under way on its sequencer. -/
inductive Job : Prop
  | run (hkind : c.internalOp.kind = .dispatchRun) (hflag : c.opContext.manualModeContext = false)
  | waiting (q : Sequencer) (hkind : c.internalOp.kind = .setManual)
      (htarget : c.internalOp.targetSequencer = some q) (hsequencer : c.opContext.sequencer = some q)
      (hmanual : c.sequencerManualMode q = false) (hflag : c.opContext.manualModeContext = true)
      (hstate : c.opContext.state = .admitted)
  | command (q : Sequencer)
      (hkind : c.internalOp.kind = .loadManual ∨ c.internalOp.kind = .start ∨ c.internalOp.kind = .step ∨
        c.internalOp.kind = .cancel)
      (htarget : c.internalOp.targetSequencer = some q) (hsequencer : c.opContext.sequencer = some q)
      (hflag : c.opContext.manualModeContext = true → isTerminalState c.opContext.state = false)
      (halone : ∀ j, LiveOn (c.contexts j) q → j = c.internalOp.contextIndex)

/-- The controller is idle, leaves manual mode, or works for a request. -/
inductive Phase : Prop
  | idle (hop : c.internalOp = {}) (hpending : ∀ q, c.pendingAutoRestore q = false)
      (hheld : ∀ q, c.sequencerManualMode q = true → c.Held q)
  | restoring (q : Sequencer) (hop : c.internalOp = restoreOp q) (hpending : c.pendingAutoRestore q = false)
      (hletGo : c.LetGo q)
  | working (hactive : c.internalOp.active = true) (hpublish : c.internalOp.publishStatus = true)
      (hused : c.opContext.used = true) (hcovered : c.Covered) (hjob : c.Job)

/-- Only the operation in flight can have a context that has just been admitted. -/
def Entering : Prop :=
  ∀ i, (c.contexts i).used = true → (c.contexts i).state = .admitted → c.internalOp.active = true ∧
    (c.internalOp.kind = .setManual ∨ c.internalOp.kind = .loadManual) ∧ i = c.internalOp.contextIndex

structure Accounted : Prop where
  table : c.Table
  entering : c.Entering
  phase : c.Phase

/-- What is left when an operation has done its work. -/
structure Settled : Prop where
  table : c.Table
  covered : c.Covered
  entered : ∀ i, (c.contexts i).used = true → (c.contexts i).state ≠ .admitted

variable {c}

theorem Settled.closeOperation (h : c.Settled) (op : InternalOp) (r : CmdResponse) :
    (c.closeOperation op r).1.Accounted := by
  rcases c.closeOperation_cases op r with ⟨hn, heq⟩ | ⟨q, b, hpn, hm, heq⟩
  · have hpn (q : Sequencer) : c.pendingAutoRestore q = false := by
      by_contra hq
      have hq' : c.pendingAutoRestore q = true := by simpa using hq
      exact absurd ((h.table.manual_of_pending q hq').symm.trans (hn q hq')) (by simp)
    rw [heq]
    refine ⟨⟨h.table.1, h.table.2, h.table.3, h.table.4⟩, fun i hi hs => absurd hs (h.entered i hi),
      .idle rfl hpn fun q hq => ?_⟩
    exact (h.covered q hq).resolve_left (by simp [hpn])
  · have hl : LetGo { c with
        pendingAutoRestore := Function.update c.pendingAutoRestore q false
        internalOp := restoreOp q } q := by
      have hle (p : Sequencer) (hp : Function.update c.pendingAutoRestore q false p = true) :
          c.pendingAutoRestore p = true := by
        by_cases hpq : p = q
        · simp [hpq] at hp
        · rwa [Function.update_of_ne hpq] at hp
      refine ⟨⟨h.table.1, h.table.2, fun p hp => h.table.3 p (hle p hp), fun p hp => h.table.4 p (hle p hp)⟩,
        h.table.unheld_of_pending q hpn, fun p hp hp' => ?_⟩
      exact (h.covered p hp').imp_left fun hdue => (Function.update_of_ne hp ..).trans hdue
    rw [heq]
    exact ⟨hl.table, fun i hi hs => absurd hs (h.entered i hi),
      .restoring q rfl (Function.update_self ..) hl⟩

/-! ### How operations end -/

/-- The entry of a context after it has ended. -/
structure Ended (x y : ContextEntry) : Prop where
  same : SameContext x y
  terminal : isTerminalState y.state = true

theorem Ended.named (h : Ended x y) (hx : Named x) : Named y := by
  intro hu
  obtain ⟨⟨v, s, flag, rfl⟩, ht⟩ := h
  refine ⟨fun hs => ?_, (hx hu).2⟩
  rw [hs] at ht
  cases ht

theorem Ended.not_liveOn (h : Ended x y) (q : Sequencer) : ¬LiveOn y q :=
  not_liveOn_of_isTerminalState h.terminal q

theorem failOperation_command {op : InternalOp} (hac : c.internalOp.active = true)
    (hp : op.publishStatus = true) (hu : (c.contexts op.contextIndex).used = true)
    (ht : op.targetSequencer = some q)
    (hk : op.kind = .loadManual ∨ op.kind = .start ∨ op.kind = .step ∨ op.kind = .cancel) :
    ∃ y, Ended (c.contexts op.contextIndex) y ∧
      ((c.failOperation op).1 = (c.setContext op.contextIndex y).deferRestore q ∨
        (c.failOperation op).1 = c.setContext op.contextIndex y ∧
          (c.sequencerManualMode q = false ∨ (c.contexts op.contextIndex).manualModeContext = false)) := by
  unfold failOperation updateContextState
  rw [if_pos (by simp [hp, hu]), ht]
  dsimp only
  generalize hy : ({ c.contexts op.contextIndex with
    state := .failed
    sequencer := ((some q <|> (c.contexts op.contextIndex).sequencer) <|>
      (c.contexts op.contextIndex).sequencer) } : ContextEntry) = y
  have he : Ended (c.contexts op.contextIndex) y := ⟨⟨_, _, _, hy.symm⟩, by rw [← hy]; rfl⟩
  have hc : Ended (c.contexts op.contextIndex) { y with manualModeContext := false } :=
    ⟨he.same.trans ⟨_, _, _, rfl⟩, he.terminal⟩
  have hys : y.used = true := by rw [← hy]; exact hu
  by_cases hm : c.sequencerManualMode q = true
  · have hset : ¬(!(c.setContext op.contextIndex y).sequencerManualMode q) = true := by
      rw [show (c.setContext op.contextIndex y).sequencerManualMode = c.sequencerManualMode from rfl]
      simpa using hm
    rw [if_neg hset, setContext_self, if_pos hys, clearManualModeContext_setContext,
      thenRestore_of_active (c.setContext op.contextIndex { y with manualModeContext := false }) hac]
    rcases hk with h | h | h | h <;> rw [h] <;> dsimp only
    · exact ⟨_, hc, .inl rfl⟩
    · split_ifs with hf
      · exact ⟨_, hc, .inl rfl⟩
      · exact ⟨y, he, .inr ⟨rfl, .inr (by rw [hys, ← hy] at hf; simpa using hf)⟩⟩
    · split_ifs with hf
      · exact ⟨_, hc, .inl rfl⟩
      · exact ⟨y, he, .inr ⟨rfl, .inr (by rw [hys, ← hy] at hf; simpa using hf)⟩⟩
    · exact ⟨_, hc, .inl rfl⟩
  · have hset : (!(c.setContext op.contextIndex y).sequencerManualMode q) = true := by
      rw [show (c.setContext op.contextIndex y).sequencerManualMode = c.sequencerManualMode from rfl]
      simpa using hm
    rw [if_pos hset]
    exact ⟨y, he, .inr ⟨rfl, .inl (by simpa using hm)⟩⟩

theorem succeedOperation_cancel {op : InternalOp} (hac : c.internalOp.active = true)
    (ht : op.targetSequencer = some q) (hk : op.kind = .cancel) :
    ∃ y, Ended (c.contexts op.contextIndex) y ∧
      ((c.succeedOperation op).1 = (c.setContext op.contextIndex y).deferRestore q ∨
        (c.succeedOperation op).1 = c.setContext op.contextIndex y ∧
          (c.contexts op.contextIndex).manualModeContext = false) := by
  unfold succeedOperation updateContextState
  rw [hk, ht]
  dsimp only
  generalize hy : ({ c.contexts op.contextIndex with
    state := .canceled
    sequencer := (some q <|> (c.contexts op.contextIndex).sequencer) } : ContextEntry) = y
  have he : Ended (c.contexts op.contextIndex) y := ⟨⟨_, _, _, hy.symm⟩, by rw [← hy]; rfl⟩
  rw [setContext_self, clearManualModeContext_setContext,
    thenRestore_of_active (c.setContext op.contextIndex { y with manualModeContext := false }) hac]
  split_ifs with hf
  · exact ⟨{ y with manualModeContext := false }, ⟨he.same.trans ⟨_, _, _, rfl⟩, he.terminal⟩, .inl rfl⟩
  · exact ⟨y, he, .inr ⟨rfl, by rw [← hy] at hf; simpa using hf⟩⟩

/-! ### Statuses -/

theorem Entering.setContext (h : c.Entering) (hy : y.state ≠ .admitted) (i : ContextIndex)
    (hu : ((c.setContext c.internalOp.contextIndex y).contexts i).used = true) :
    ((c.setContext c.internalOp.contextIndex y).contexts i).state ≠ .admitted := by
  by_cases hi : i = c.internalOp.contextIndex
  · subst hi
    rwa [setContext_self]
  · rw [setContext_of_ne c hi] at hu ⊢
    exact fun hs => hi (h i hu hs).2.2

theorem Entering.of_kind (h : c.Entering)
    (hk : ¬(c.internalOp.kind = .setManual ∨ c.internalOp.kind = .loadManual)) (i : ContextIndex)
    (hu : (c.contexts i).used = true) : (c.contexts i).state ≠ .admitted :=
  fun hs => hk (h i hu hs).2.1

theorem Ended.state_ne_admitted (h : Ended x y) : y.state ≠ .admitted :=
  fun hs => absurd (hs ▸ h.terminal) (by decide)

theorem settled_of_ended {c' : SequenceAdmissionController} (h : c.Accounted) (hc : c.Covered)
    (hs : c.opContext.sequencer = some q)
    (hal : ∀ j, LiveOn (c.contexts j) q → j = c.internalOp.contextIndex) (he : Ended c.opContext y)
    (hc' : c' = (c.setContext c.internalOp.contextIndex y).deferRestore q ∨
      c' = c.setContext c.internalOp.contextIndex y ∧
        (c.sequencerManualMode q = false ∨ c.opContext.manualModeContext = false)) :
    c'.Settled := by
  have hl : (c.setContext c.internalOp.contextIndex y).LetGo q :=
    letGo_setContext h.table hc hs hal (he.named (h.table.named _)) he.not_liveOn
  have hen := h.entering.setContext he.state_ne_admitted
  rcases hc' with rfl | ⟨rfl, hq⟩
  · exact ⟨hl.table.deferRestore hl.unheld, hl.covered_deferRestore, hen⟩
  · refine ⟨hl.table, hl.covered fun hm => ?_, hen⟩
    rcases hq with hoff | hf
    · exact absurd (hoff.symm.trans hm) (by simp)
    · rcases hc q hm with hp | ⟨j, hj⟩
      · exact hp
      · obtain rfl := hal j hj.1
        exact absurd (hf.symm.trans hj.2) (by simp)

theorem settled_of_advanced (h : c.Accounted) (hc : c.Covered)
    (hus : c.opContext.used = true) (hsq : c.opContext.sequencer = some q)
    (hfl : c.opContext.manualModeContext = true → isTerminalState c.opContext.state = false)
    (hal : ∀ j, LiveOn (c.contexts j) q → j = c.internalOp.contextIndex)
    {state : SequenceContextState} (hst : state = .manualPrepared ∨ state = .running) :
    (c.updateContextState c.internalOp.contextIndex state (some q)).1.Settled := by
  have hh (p : Sequencer) : Holds { c.opContext with state, sequencer := some q } p ↔
      Holds c.opContext p := by
    unfold Holds LiveOn
    rw [hsq]
    rcases hst with rfl | rfl
    all_goals
      constructor
      · rintro ⟨⟨hu, -, hs⟩, hf⟩
        exact ⟨⟨hu, hfl hf, hs⟩, hf⟩
      · rintro ⟨⟨hu, -, hs⟩, hf⟩
        exact ⟨⟨hu, rfl, hs⟩, hf⟩
  have ht : (c.setContext c.internalOp.contextIndex
      { c.opContext with state, sequencer := some q }).Table := by
    refine h.table.setContext (fun _ => ⟨?_, (h.table.named _ hus).2⟩) (fun p hp j hj hl => ?_)
      (fun p hp hx => h.table.unheld_of_pending p hp ⟨_, (hh p).mp hx⟩)
    · rcases hst with rfl | rfl <;> simp
    · obtain rfl : q = p := Option.some.inj hp.2.2
      exact hj (hal j hl)
  refine ⟨ht, fun p hp => ?_, h.entering.setContext ?_⟩
  · exact (hc p hp).imp_right fun hhl => held_setContext hhl (hh p).mpr
  · rcases hst with rfl | rfl <;> simp

theorem failOperation_restoreOp (hac : c.internalOp.active = true) (q : Sequencer) :
    c.failOperation (restoreOp q) = (c.deferRestore q, []) := by
  simp only [failOperation, restoreOp, Bool.false_and, Bool.false_eq_true, if_false]
  rw [c.thenRestore_of_active hac]
  cases hm : c.sequencerManualMode q with
  | true => rfl
  | false =>
    rw [deferRestore, hm, Bool.or_false, Function.update_eq_self]
    rfl

theorem settled_of_restoring (h : c.Accounted) (hop : c.internalOp = restoreOp q)
    (hpn : c.pendingAutoRestore q = false) (hl : c.LetGo q) :
    (c.succeedOperation (restoreOp q)).1.Settled ∧ (c.failOperation (restoreOp q)).1.Settled := by
  have he := h.entering.of_kind (by rw [hop]; simp [restoreOp])
  constructor
  · have hne {p : Sequencer} (hp : c.pendingAutoRestore p = true) : p ≠ q := by
      rintro rfl
      exact absurd (hp.symm.trans hpn) (by simp)
    refine ⟨⟨h.table.1, h.table.2, fun p hp => ?_, h.table.4⟩, fun p hp => ?_, he⟩
    · exact (Function.update_of_ne (hne hp) ..).trans (h.table.manual_of_pending p hp)
    · have hpq : p ≠ q := by
        rintro rfl
        exact absurd ((Function.update_self ..).symm.trans hp) (by simp)
      exact hl.others p hpq ((Function.update_of_ne hpq ..).symm.trans hp)
  · rw [failOperation_restoreOp (by rw [hop]; rfl)]
    exact ⟨hl.table.deferRestore hl.unheld, hl.covered_deferRestore, he⟩

theorem settled_of_run (h : c.Accounted) (hc : c.Covered) (hp : c.internalOp.publishStatus = true)
    (hu : c.opContext.used = true) (hk : c.internalOp.kind = .dispatchRun)
    (hf : c.opContext.manualModeContext = false) :
    (c.succeedOperation c.internalOp).1.Settled ∧ (c.failOperation c.internalOp).1.Settled := by
  have hen := h.entering.of_kind (by simp [hk])
  constructor
  · unfold succeedOperation
    rw [hk]
    exact ⟨h.table, hc, hen⟩
  · obtain ⟨y, he, hy⟩ : ∃ y, Ended c.opContext y ∧
        (c.failOperation c.internalOp).1 = c.setContext c.internalOp.contextIndex y := by
      unfold failOperation updateContextState
      rw [if_pos (by simp [hp, hu]), hk]
      refine ⟨{ c.opContext with
        state := .failed
        sequencer := ((c.internalOp.targetSequencer <|> c.opContext.sequencer) <|> c.opContext.sequencer) },
        ⟨⟨_, _, _, rfl⟩, rfl⟩, ?_⟩
      cases c.internalOp.targetSequencer with
      | none => rfl
      | some =>
        dsimp only
        rw [ite_self]
    rw [hy]
    refine ⟨h.table.setContext_of_not_live _ (he.named (h.table.named _)) he.not_liveOn,
      fun q hq => (hc q hq).imp_right fun hh => held_setContext hh fun hhl => ?_,
      h.entering.setContext he.state_ne_admitted⟩
    exact absurd (hf.symm.trans hhl.2) (by simp)

theorem settled_of_command (h : c.Accounted) (hc : c.Covered) (hac : c.internalOp.active = true)
    (hp : c.internalOp.publishStatus = true) (hu : c.opContext.used = true)
    (hk : c.internalOp.kind = .loadManual ∨ c.internalOp.kind = .start ∨ c.internalOp.kind = .step ∨
      c.internalOp.kind = .cancel) (ht : c.internalOp.targetSequencer = some q)
    (hs : c.opContext.sequencer = some q)
    (hf : c.opContext.manualModeContext = true → isTerminalState c.opContext.state = false)
    (hal : ∀ j, LiveOn (c.contexts j) q → j = c.internalOp.contextIndex) :
    (c.succeedOperation c.internalOp).1.Settled ∧ (c.failOperation c.internalOp).1.Settled := by
  constructor
  · rcases hk with hk | hk | hk | hk
    · unfold succeedOperation
      rw [hk, ht]
      exact settled_of_advanced h hc hu hs hf hal (.inl rfl)
    · unfold succeedOperation
      rw [hk, ht]
      exact settled_of_advanced h hc hu hs hf hal (.inr rfl)
    · unfold succeedOperation
      rw [hk]
      exact ⟨h.table, hc, h.entering.of_kind (by simp [hk])⟩
    · obtain ⟨y, he, hy⟩ := succeedOperation_cancel hac ht hk
      exact settled_of_ended h hc hs hal he (hy.imp_right (And.imp_right .inr))
  · obtain ⟨y, he, hy⟩ := failOperation_command hac hp hu ht hk
    exact settled_of_ended h hc hs hal he hy

theorem settled_of_waiting (h : c.Accounted) (hc : c.Covered)
    (hp : c.internalOp.publishStatus = true) (hu : c.opContext.used = true)
    (hk : c.internalOp.kind = .setManual) (ht : c.internalOp.targetSequencer = some q)
    (hs : c.opContext.sequencer = some q) (hm : c.sequencerManualMode q = false)
    (hst : c.opContext.state = .admitted) : (c.failOperation c.internalOp).1.Settled := by
  have hl : LiveOn c.opContext q := ⟨hu, by rw [hst]; rfl, hs⟩
  refine settled_of_ended h hc hs (fun j hj => h.table.exclusive _ _ q hj hl)
    (y := { c.opContext with state := .failed, sequencer := some q }) ⟨⟨_, _, _, rfl⟩, rfl⟩
    (.inr ⟨?_, .inl hm⟩)
  unfold failOperation updateContextState
  rw [if_pos (by simp [hp, hu]), hk, ht]
  dsimp only
  rw [ite_self]
  rfl

theorem accounted_loading (h : c.Accounted) (hc : c.Covered)
    (hac : c.internalOp.active = true) (hpb : c.internalOp.publishStatus = true)
    (hu : c.opContext.used = true) (hs : c.opContext.sequencer = some q)
    (ht : c.internalOp.targetSequencer = some q) (hf : c.opContext.manualModeContext = true)
    (hst : c.opContext.state = .admitted) : (c.loading (some q)).Accounted := by
  have hl : LiveOn c.opContext q := ⟨hu, by rw [hst]; rfl, hs⟩
  have he : (c.loading (some q)).Entering := fun i hi had =>
    ⟨hac, .inr rfl, (h.entering i hi had).2.2⟩
  refine ⟨⟨h.table.1, h.table.2, fun p hp => ?_, h.table.4⟩, he,
    .working hac hpb hu (fun p hp => ?_) (.command q (.inl rfl) ht hs ?_ ?_)⟩
  · by_cases hpq : p = q
    · rw [hpq]
      exact Function.update_self ..
    · exact (Function.update_of_ne hpq ..).trans (h.table.manual_of_pending p hp)
  · by_cases hpq : p = q
    · exact .inr ⟨c.internalOp.contextIndex, hpq ▸ hl, hf⟩
    · exact hc p ((Function.update_of_ne hpq ..).symm.trans hp)
  · exact fun _ => hl.2.1
  · exact fun j hj => h.table.exclusive _ _ q hj hl

theorem Accounted.finalize (h : c.Accounted) (r : CmdResponse) :
    (c.finalizeInternalOperation r).1.Accounted := by
  have hcl {settled : SequenceAdmissionController × List SequenceOutput} (hs : settled.1.Settled) :
      (settled.1.closeOperation c.internalOp r).1.Accounted := hs.closeOperation ..
  have hend (hac : c.internalOp.active = true) (hk : c.internalOp.kind ≠ .setManual)
      (hs : (c.succeedOperation c.internalOp).1.Settled ∧ (c.failOperation c.internalOp).1.Settled) :
      (c.finalizeInternalOperation r).1.Accounted := by
    unfold finalizeInternalOperation
    rw [if_neg (by simp [hac]), if_neg (fun hset => hk hset.2)]
    split_ifs
    · exact hcl hs.1
    · exact hcl hs.2
  cases h.phase with
  | idle hop =>
    unfold finalizeInternalOperation
    rw [if_pos (by rw [hop]; rfl)]
    exact h
  | restoring _ hop hpn hl =>
    have hs := settled_of_restoring h hop hpn hl
    rw [← hop] at hs
    exact hend (by rw [hop]; rfl) (by rw [hop]; nofun) hs
  | working hac hp hu hc hjob =>
    cases hjob with
    | run hk hf =>
      exact hend hac (by simp [hk]) (settled_of_run h hc hp hu hk hf)
    | command _ hk ht hsq hf hal =>
      refine hend hac ?_ (settled_of_command h hc hac hp hu hk ht hsq hf hal)
      rcases hk with h | h | h | h <;> simp [h]
    | waiting _ hk ht hsq hm hf hst =>
      unfold finalizeInternalOperation
      rw [if_neg (by simp [hac])]
      by_cases hok : r = .ok
      · obtain ⟨p, hset⟩ := c.manualModeSet_of_used hu (h.table.named _ hu).2
        rw [if_pos ⟨hok, hk⟩, hset, ht]
        exact accounted_loading h hc hac hp hu hsq ht hf hst
      · rw [if_neg (fun hset => hok hset.1), if_neg hok]
        exact hcl (settled_of_waiting h hc hp hu hk ht hsq hm hst)

end SequenceAdmissionController

end ObcFlight
