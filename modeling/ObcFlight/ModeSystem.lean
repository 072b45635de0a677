import ObcFlight.ModeSafety
import ObcFlight.TtcPassManager
import ObcFlight.RecoveryModes

/-!
# The four components that set the mode

The mode manager, the mode safety controller, the recovery executor and the TTC pass manager
run side by side, each tick, fault report or command to its end before the next one. What they
read of the other components, the battery charge and the boot record among it, may change in any
way between two steps and may be changed by the executor's own actions.
-/

namespace ObcFlight

/-- The other components as these four see them. -/
structure ModePeers (ω : Type*) where
  charge : ω → CachedCharge
  around : ω → TtcSurroundings
  pointing : Option (ω → Bool × ω)
  eps : Option (ω → CmdResponse × ω)
  adcs : Option (ω → CmdResponse × ω)
  boot : Option (RecoveryBootControl ω)
  comm : Option (ω → RecoveryCommActionResult × ω)

/-- A call on the other components leaves the mode manager alone. -/
def beside {α ω : Type*} (f : ω → α × ω) (x : ModeManager × ω) : α × (ModeManager × ω) :=
  ((f x.2).1, x.1, (f x.2).2)

namespace ModePeers

variable {ω : Type*}

/-- The executor's controls, with the mode manager as its mode control. -/
def controls (p : ModePeers ω) : RecoveryControls (ModeManager × ω) where
  mode := some {
    getMode := fun x => x.1.currentMode
    applyMode := fun mode source x => (x.1.applyModeForInternalSource mode source, x.2) }
  eps := p.eps.map beside
  adcs := p.adcs.map beside
  boot := p.boot.map fun boot => {
    isBootSafeFallbackRequired := fun x => boot.isBootSafeFallbackRequired x.2
    getConsecutiveResetCount := fun x => boot.getConsecutiveResetCount x.2
    recordRecoveryRestartIntent := fun cause source level =>
      beside (boot.recordRecoveryRestartIntent cause source level)
    acknowledgeRuntimeStable := beside boot.acknowledgeRuntimeStable }
  comm := p.comm.map beside

def bootFallbackRequired (p : ModePeers ω) (world : ω) : Bool :=
  p.boot.any fun boot => boot.isBootSafeFallbackRequired world

def point (p : ModePeers ω) (request : TtcRequest) (world : ω) : Option Bool × ω :=
  match request, p.pointing with
  | .entry _, some requestPointing =>
      let answer := requestPointing world
      (some answer.1, answer.2)
  | _, _ => (none, world)

end ModePeers

structure ModeSystem (ω : Type*) where
  modes : ModeManager := {}
  safety : ModeSafetyController := {}
  ttc : TtcPassManager := {}
  recovery : RecoveryExecutor
  world : ω

namespace ModeSystem

open ModeSafetyPolicy ModeSafetyController

variable {ω : Type*}

inductive Input (ω : Type*)
  | modeSet (mode : SatMode)
  | modeGet
  | safetyTick
  | recoveryCall (call : RecoveryExecutor.Call)
  | ttcTick
  | ttcSetPolicy (enabled : Bool) (lossOfLockTimeoutSec : UInt32)
  | ttcSetPassWindow (startUnixSec endUnixSec : UInt64)
  | ttcClearPassWindow
  | environment (change : ω → ω)

inductive Output
  | response (response : CmdResponse)
  | recovery (event : RecoveryEvent)
  | ttc (event : TtcEvent)

variable (p : ModePeers ω)

def modeSet (mode : SatMode) (s : ModeSystem ω) : ModeSystem ω × List Output :=
  let answer := s.modes.requestModeFromOperator (some (evaluateOperatorTransition (p.charge s.world))) mode
  ({ s with modes := answer.1 }, [.response answer.2])

def safetyTick (s : ModeSystem ω) : ModeSystem ω :=
  let charge := p.charge s.world
  let mode := s.modes.currentMode
  { s with
    safety := s.safety.afterCycle charge mode
    modes := match cycleTarget charge mode with
      | none => s.modes
      | some target => s.modes.applyModeForInternalSource target (applySource (cycleDecision charge mode)) }

def enter (s : ModeSystem ω) : RecoveryExecutor.Frame (ModeManager × ω) :=
  { executor := s.recovery, world := (s.modes, s.world) }

def recoveryCall (k : RecoveryExecutor.Call) (s : ModeSystem ω) : ModeSystem ω × List Output :=
  let f := RecoveryExecutor.call p.controls s.enter k
  ({ s with recovery := f.executor, modes := f.world.1, world := f.world.2 }, f.log.map .recovery)

def ttcTick (s : ModeSystem ω) : ModeSystem ω × List Output :=
  let decided := s.ttc.schedDecide true (p.around s.world) s.modes.currentMode
  match decided.2 with
  | none => ({ s with ttc := decided.1 }, [])
  | some request =>
      let pointed := p.point request s.world
      let recorded := decided.1.schedRecord pointed.1 request
      ({ s with
          modes := s.modes.applyModeForInternalSource request.target .ttcPassPolicy
          ttc := recorded.1
          world := pointed.2 }, recorded.2.map .ttc)

def machine : Machine (ModeSystem ω) (Input ω) Output where
  step s
    | .modeSet mode => s.modeSet p mode
    | .modeGet => ({ s with modes := s.modes.announceBoot }, [.response .ok])
    | .safetyTick => (s.safetyTick p, [])
    | .recoveryCall k => s.recoveryCall p k
    | .ttcTick => s.ttcTick p
    | .ttcSetPolicy enabled timeout =>
        let answer := s.ttc.setPolicy enabled timeout
        ({ s with ttc := answer.1 }, [.response answer.2])
    | .ttcSetPassWindow startUnixSec endUnixSec =>
        let answer := s.ttc.setPassWindow startUnixSec endUnixSec
        ({ s with ttc := answer.1 }, [.response answer.2])
    | .ttcClearPassWindow => ({ s with ttc := s.ttc.clearPassWindow }, [.response .ok])
    | .environment change => ({ s with world := change s.world }, [])

def boot (hardware : Bool) (world : ω) : ModeSystem ω :=
  { recovery := RecoveryExecutor.configured hardware, world }

end ModeSystem

/-! ### What a step does to the mode -/

namespace ModeManager

def changes (m : ModeManager) : List SatMode :=
  m.events.filterMap fun
    | .modeChange mode => some mode
    | _ => none

/-- The mode becomes the target, and if it was another one, that is the one change reported. -/
structure Moves (target : SatMode) (m m' : ModeManager) : Prop where
  mode : m'.currentMode = target
  changes : m'.changes = m.changes ++ if m.currentMode = target then [] else [target]

theorem Moves.rfl {m : ModeManager} : Moves m.currentMode m m :=
  ⟨.refl _, by rw [if_pos (Eq.refl _), List.append_nil]⟩

theorem Moves.trans {a b : SatMode} {m m' m'' : ModeManager} (h : Moves a m m') (h' : Moves b m' m'')
    (hab : a = m.currentMode ∨ a = b) : Moves b m m'' := by
  refine ⟨h'.mode, ?_⟩
  rw [h'.changes, h.changes, h.mode]
  rcases hab with rfl | rfl
  · rw [if_pos (Eq.refl _), List.append_nil]
  · rw [if_pos (Eq.refl a), List.append_nil]

@[simp] theorem announceBoot_changes (m : ModeManager) : m.announceBoot.changes = m.changes := by
  unfold announceBoot
  split_ifs
  · rfl
  · simp [changes]

theorem moves_announceBoot (m : ModeManager) : Moves m.currentMode m m.announceBoot :=
  ⟨m.announceBoot_currentMode, by simp⟩

theorem moves_applyMode (mode : SatMode) (m : ModeManager) : Moves mode m (m.applyMode mode) := by
  refine ⟨applyMode_currentMode mode m, ?_⟩
  by_cases h : m.currentMode = mode
  · simp [applyMode, h]
  · simp [applyMode, h, changes]

theorem moves_applyModeForInternalSource (mode : SatMode) (s : ModeApplySource) (m : ModeManager) :
    Moves mode m (m.applyModeForInternalSource mode s) :=
  m.moves_announceBoot.trans (moves_applyMode mode _) (.inl (Eq.refl _))

theorem moves_rejectTransition (t : SatMode) (r : ModeTransitionRejectionReason)
    (m : ModeManager) : Moves m.currentMode m (m.rejectTransition t r) :=
  ⟨Eq.refl _, by simp [changes, rejectTransition]⟩

theorem moves_requestModeFromOperator
    (e : SatMode → SatMode → OperatorModeTransitionDecision) (mode : SatMode) (m : ModeManager) :
    Moves (if (e m.currentMode mode).accepted then mode else m.currentMode) m
      (m.requestModeFromOperator (some e) mode).1 := by
  have hr := moves_rejectTransition mode (e m.currentMode mode).reason m.announceBoot
  unfold requestModeFromOperator
  dsimp only
  rw [announceBoot_currentMode] at *
  split_ifs
  · exact m.moves_announceBoot.trans (moves_applyMode mode _) (.inl (Eq.refl _))
  · exact m.moves_announceBoot.trans hr (.inl (Eq.refl _))

end ModeManager

namespace RecoveryExecutor

open ModeManager

variable {ω : Type*} (p : ModePeers ω) (f : Frame (ModeManager × ω))

theorem executeExternalAction_moves (a : ExternalActionRequest) :
    Moves (match a with | .applySafe _ _ => .safe | _ => f.world.1.currentMode) f.world.1
      (executeExternalAction p.controls f a).1.world.1 := by
  have hin (s : IncidentSource) (level : RecoveryLevel) :
      (recordIntent p.controls s level f.world).2.1 = f.world.1 := by
    unfold recordIntent ModePeers.controls
    cases p.boot <;> rfl
  have hk {m : ModeManager} (h : m = f.world.1) : Moves f.world.1.currentMode f.world.1 m :=
    h ▸ .rfl
  cases a with
  | applySafe _ ms => exact moves_applyModeForInternalSource .safe ms _
  | epsReset =>
    refine hk ?_
    dsimp only [executeExternalAction, resetSubsystem, ModePeers.controls]
    cases p.eps <;> rfl
  | adcsReset =>
    refine hk ?_
    dsimp only [executeExternalAction, resetSubsystem, ModePeers.controls]
    cases p.adcs <;> rfl
  | commFailover =>
    refine hk ?_
    dsimp only [executeExternalAction, commFailover, ModePeers.controls]
    cases p.comm with
    | none =>
      dsimp only [Option.map_none]
      split_ifs <;> rfl
    | some =>
      dsimp only [Option.map_some]
      split_ifs <;> rfl
  | recordProcessRestartIntent s =>
    refine hk ?_
    dsimp only [executeExternalAction, recordProcessRestartIntent]
    split_ifs <;> exact hin s _
  | recordRebootIntent s =>
    refine hk ?_
    dsimp only [executeExternalAction, recordRebootIntent]
    split_ifs <;> exact hin s _
  | ackStable =>
    refine hk ?_
    dsimp only [executeExternalAction, ackStable, ModePeers.controls]
    cases p.boot
    · rfl
    · dsimp only [Option.map_some]
      split_ifs <;> rfl

/-- A call outside HELL may end in SAFE; in HELL it leaves the mode as it is. -/
def Falls (mode target : SatMode) : Prop := target = mode ∨ target = .safe ∧ mode ≠ .hell

theorem canRequestSafe_hell (a : Bool) : canRequestSafe .hell a = false := by
  cases a <;> rfl

theorem executeExternalActions_moves {q : List ExternalActionRequest}
    (h : Permitted f.world.1.currentMode q) : ∃ t, Falls f.world.1.currentMode t ∧
      Moves t f.world.1 (executeExternalActions p.controls f q).world.1 := by
  let s := f.world.1.currentMode
  let I (f' : Frame (ModeManager × ω)) (q : List ExternalActionRequest) : Prop :=
    (∃ t, Falls s t ∧ Moves t f.world.1 f'.world.1) ∧
      ∀ r ∈ q, ∃ seen, (s = .hell → seen = .hell) ∧ Permits seen r
  refine (WorkQueue.drain_invariant (externalActions p.controls) (I := I) ?_
    ⟨⟨s, .inl rfl, .rfl⟩, fun r hmem => ⟨s, id, h r hmem⟩⟩).1
  rintro f' a rest ⟨⟨t, hf, hm⟩, hq⟩
  obtain ⟨seen, hs, hp⟩ := hq a List.mem_cons_self
  have hstep := executeExternalAction_moves p f' a
  have hnext : ∃ t, Falls s t ∧
      Moves t f.world.1 (executeExternalAction p.controls f' a).1.world.1 := by
    cases a with
    | applySafe =>
      have hh : s ≠ .hell := by
        intro hh
        rw [hs hh, Permits, canRequestSafe_hell] at hp
        cases hp
      refine ⟨.safe, .inr ⟨rfl, hh⟩, hm.trans hstep ?_⟩
      exact hf.imp id And.left
    | _ =>
      dsimp only at hstep
      rw [hm.mode] at hstep
      exact ⟨t, hf, hm.trans hstep (.inr rfl)⟩
  refine ⟨hnext, fun r hmem => ?_⟩
  rcases List.mem_append.mp hmem with hmem | hmem
  · exact hq r (List.mem_cons_of_mem _ hmem)
  · refine ⟨_, fun hh => ?_, permitted_executeExternalAction p.controls f' hp r hmem⟩
    obtain ⟨t', hf', hm'⟩ := hnext
    rcases hf' with rfl | ⟨-, hne⟩
    · exact hm'.mode.trans hh
    · exact absurd hh hne

theorem bootSafeFallbackRequired_controls (x : ModeManager × ω) :
    bootSafeFallbackRequired p.controls x = p.bootFallbackRequired x.2 := by
  unfold bootSafeFallbackRequired ModePeers.bootFallbackRequired ModePeers.controls
  cases p.boot <;> rfl

theorem call_moves (k : Call) :
    ∃ t, Falls (clampCall p.controls f k).world.1.currentMode t ∧
      Moves t (clampCall p.controls f k).world.1 (call p.controls f k).world.1 := by
  have hw := beginCall_world p.controls (clampCall p.controls f k) k
  have hp := permitted_beginCall p.controls (clampCall p.controls f k) k
  rw [call_eq_beginCall, ← hw]
  rw [← hw] at hp
  exact executeExternalActions_moves p _ hp

def Clamping (f : Frame (ModeManager × ω)) (k : Call) : Prop :=
  k = .schedIn ∧ f.executor.bootClampApplied = false ∧ p.bootFallbackRequired f.world.2 = true

theorem clampCall_of_clamping {f : Frame (ModeManager × ω)} {k : Call} (h : Clamping p f k) :
    (clampCall p.controls f k).world.1 =
      f.world.1.applyModeForInternalSource .safe .recoveryBootFallback := by
  obtain ⟨rfl, hap, hr⟩ := h
  rw [← bootSafeFallbackRequired_controls] at hr
  simp [clampCall, applyBootClamp, ModePeers.controls] at hr ⊢
  simp [hap, hr]

theorem clampCall_of_not_clamping {f : Frame (ModeManager × ω)} {k : Call} (h : ¬Clamping p f k) :
    clampCall p.controls f k = f := by
  cases k with
  | schedIn =>
    have hid : ¬((!f.executor.bootClampApplied && bootSafeFallbackRequired p.controls f.world) = true) := by
      rw [bootSafeFallbackRequired_controls]
      simpa [Clamping] using h
    exact if_neg hid
  | _ => rfl

theorem call_falls (k : Call) : ∃ t, Moves t f.world.1 (call p.controls f k).world.1 ∧
      (Clamping p f k ∧ t = .safe ∨ ¬Clamping p f k ∧ Falls f.world.1.currentMode t) := by
  obtain ⟨t, hf, hm⟩ := call_moves p f k
  by_cases hc : Clamping p f k
  · rw [clampCall_of_clamping p hc] at hf hm
    rw [applyModeForInternalSource_currentMode] at hf
    have ht : t = .safe := hf.elim id And.left
    refine ⟨t, ?_, .inl ⟨hc, ht⟩⟩
    exact (moves_applyModeForInternalSource .safe _ _).trans hm (.inr ht.symm)
  · rw [clampCall_of_not_clamping p hc] at hf hm
    exact ⟨t, hm, .inr ⟨hc, hf⟩⟩

end RecoveryExecutor

end ObcFlight
