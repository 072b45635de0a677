import ObcFlight.ModeSystem

/-!
# The graph of approved mode changes

SAFE is left for HELL on a critical charge or for IDLE at the operator's request, HELL is left
for SAFE above the hysteresis threshold, and PAYLOAD and TTC are entered from IDLE. Every step of
the four components keeps to this graph but one: the executor's clamp after a boot takes the
satellite out of HELL whatever the charge is.
-/

namespace ObcFlight

namespace ModeSystem

open ModeSafetyPolicy ModeSafetyController ModeManager

variable {ω : Type*} (p : ModePeers ω)

def ChargedAbove (threshold : F32) (world : ω) : Prop :=
  ∃ soc, p.charge world = some soc ∧ threshold.lt soc = true

/-- The graph: from a mode to a target, at a charge, by an operator's request or without one. -/
structure Edge (charge : CachedCharge) (request : Option SatMode) (mode target : SatMode) : Prop where
  safe_left : mode = .safe → target ≠ .safe →
    target = .hell ∧ (∃ soc, charge = some soc ∧ soc.lt safeToHellSoc = true) ∨
      target = .idle ∧ request = some .idle ∧ ∃ soc, charge = some soc ∧ safeToIdleSoc.lt soc = true
  hell_left : mode = .hell → target ≠ .hell →
    target = .safe ∧ ∃ soc, charge = some soc ∧ hellToSafeSoc.lt soc = true
  payload_entered : mode ≠ .payload → target = .payload →
    mode = .idle ∧ request = some .payload ∧ ∃ soc, charge = some soc ∧ idleToPayloadSoc.lt soc = true
  ttc_entered : mode ≠ .ttc → target = .ttc → mode = .idle

def Input.operatorRequest : Input ω → Option SatMode
  | .modeSet mode => some mode
  | _ => none

/-- The step takes an edge of the graph. Each change of mode within it is reported, so the change
from its first to its last mode is all there is. -/
structure Approved (s : ModeSystem ω) (input : Input ω) : Prop where
  edge : Edge (p.charge s.world) input.operatorRequest s.modes.currentMode
    ((machine p).step s input).1.modes.currentMode
  reported : Moves ((machine p).step s input).1.modes.currentMode s.modes ((machine p).step s input).1.modes

/-- When the executor is about to clamp the mode to SAFE in HELL, the charge allows it. -/
def ClampCharged (s : ModeSystem ω) (input : Input ω) : Prop :=
  input = .recoveryCall .schedIn → s.modes.currentMode = .hell →
    s.recovery.bootClampApplied = false → p.bootFallbackRequired s.world = true →
    ChargedAbove p hellToSafeSoc s.world

theorem Edge.stay (charge : CachedCharge) (r : Option SatMode) (mode : SatMode) :
    Edge charge r mode mode where
  safe_left h hne := absurd h hne
  hell_left h hne := absurd h hne
  payload_entered hne h := absurd h hne
  ttc_entered hne h := absurd h hne

variable {charge : CachedCharge}

theorem guardSoc_accepted {t : F32} (h : (guardSoc charge t).accepted = true) :
    ∃ soc, charge = some soc ∧ t.lt soc = true := by
  cases charge with
  | none => cases h
  | some soc =>
    refine ⟨soc, rfl, ?_⟩
    dsimp only [guardSoc] at h
    split_ifs at h with hlt
    exact hlt

variable {mode : SatMode} {target : SatMode}

theorem Edge.of_operator
    (h : (evaluateOperatorTransition charge mode target).accepted = true) :
    Edge charge (some target) mode target := by
  refine ⟨?_, ?_, ?_, ?_⟩
  · rintro rfl hne
    cases target with
    | idle => exact .inr ⟨rfl, rfl, guardSoc_accepted h⟩
    | safe => exact absurd rfl hne
    | _ => cases h
  · rintro rfl hne
    cases target with
    | safe => exact ⟨rfl, guardSoc_accepted h⟩
    | hell => exact absurd rfl hne
    | _ => cases h
  · rintro hne rfl
    cases mode with
    | idle => exact ⟨rfl, rfl, guardSoc_accepted h⟩
    | payload => exact absurd rfl hne
    | _ => cases h
  · rintro hne rfl
    cases mode with
    | idle => rfl
    | ttc => exact absurd rfl hne
    | _ => cases h

theorem evaluate_cases (mode : SatMode) (v : Bool) (soc : F32) :
    (evaluate mode v soc).action = .none ∨
      mode = .safe ∧ (evaluate mode v soc).targetMode = .hell ∧ soc.lt safeToHellSoc = true ∨
      mode = .hell ∧ (evaluate mode v soc).targetMode = .safe ∧ hellToSafeSoc.lt soc = true ∨
      mode ≠ .safe ∧ mode ≠ .hell ∧
        ((evaluate mode v soc).targetMode = .safe ∨ (evaluate mode v soc).targetMode = .idle) := by
  unfold evaluate
  dsimp only
  simp only [Bool.and_eq_true, decide_eq_true_eq]
  split_ifs with hvl hc hr hp hp' hac
  · exact .inl rfl
  · exact .inr (.inl ⟨hc.1, rfl, hc.2⟩)
  · exact .inr (.inr (.inl ⟨hr.1, rfl, hr.2⟩))
  · rw [hp.1]
    exact .inr (.inr (.inr ⟨nofun, nofun, .inl rfl⟩))
  · rw [hp'.1]
    exact .inr (.inr (.inr ⟨nofun, nofun, .inr rfl⟩))
  · refine .inr (.inr (.inr ⟨?_, ?_, .inl rfl⟩))
    · rintro rfl
      cases hac.1
    · rintro rfl
      cases hac.1
  · exact .inl rfl

theorem cycleTarget_cases {t : SatMode} (h : cycleTarget charge mode = some t) :
    ∃ soc, charge = some soc ∧
      (mode = .safe ∧ t = .hell ∧ soc.lt safeToHellSoc = true ∨
        mode = .hell ∧ t = .safe ∧ hellToSafeSoc.lt soc = true ∨
        mode ≠ .safe ∧ mode ≠ .hell ∧ (t = .safe ∨ t = .idle)) := by
  cases charge with
  | none => cases h
  | some soc =>
    refine ⟨soc, rfl, ?_⟩
    dsimp only [cycleTarget] at h
    split_ifs at h with ht
    cases h
    have hac : (evaluate mode true soc).action ≠ .none := by
      simp only [ModeSafetyDecision.shouldTransition, Bool.and_eq_true, decide_eq_true_eq] at ht
      exact ht.2.1
    exact (evaluate_cases mode true soc).resolve_left hac

theorem Edge.of_cycle (r : Option SatMode)
    (h : cycleTarget charge mode = some target) : Edge charge r mode target := by
  obtain ⟨soc, rfl, ⟨rfl, rfl, hlt⟩ | ⟨rfl, rfl, hlt⟩ | ⟨hs, hh, ht⟩⟩ := cycleTarget_cases h
  · exact ⟨fun _ _ => .inl ⟨rfl, soc, rfl, hlt⟩, nofun, nofun, nofun⟩
  · exact ⟨nofun, fun _ _ => ⟨rfl, soc, rfl, hlt⟩, nofun, nofun⟩
  · refine ⟨fun h => absurd h hs, fun h => absurd h hh, ?_, ?_⟩
    · rintro - rfl
      rcases ht with h | h <;> cases h
    · rintro - rfl
      rcases ht with h | h <;> cases h

theorem Edge.of_falls (charge : CachedCharge) (r : Option SatMode)
    (h : RecoveryExecutor.Falls mode target) : Edge charge r mode target := by
  rcases h with rfl | ⟨rfl, hh⟩
  · exact .stay charge r _
  · exact ⟨fun _ hne => absurd rfl hne, fun h => absurd h hh, nofun, nofun⟩

theorem Edge.of_ttc {r : TtcRequest} (charge : CachedCharge)
    (h : mode = .idle ∧ r.target = .ttc ∨ mode = .ttc ∧ r.target = .idle) :
    Edge charge none mode r.target := by
  rcases h with ⟨rfl, h⟩ | ⟨rfl, h⟩
  · rw [h]
    exact ⟨nofun, nofun, nofun, fun _ _ => rfl⟩
  · rw [h]
    exact ⟨nofun, nofun, nofun, nofun⟩

theorem Approved.of_moves {s : ModeSystem ω} {input : Input ω} (t : SatMode)
    (hm : Moves t s.modes ((machine p).step s input).1.modes)
    (he : Edge (p.charge s.world) input.operatorRequest s.modes.currentMode t) :
    Approved p s input := by
  obtain rfl := hm.mode
  exact ⟨he, hm⟩

theorem approved_iff (s : ModeSystem ω) (input : Input ω) : Approved p s input ↔ ClampCharged p s input := by
  cases input with
  | modeSet mode =>
    refine iff_of_true (.of_moves p _ (moves_requestModeFromOperator _ mode s.modes) ?_) (by rintro ⟨⟩)
    split_ifs with hac
    · exact .of_operator hac
    · exact .stay ..
  | modeGet => exact iff_of_true (.of_moves p _ s.modes.moves_announceBoot (.stay ..)) (by rintro ⟨⟩)
  | safetyTick =>
    refine iff_of_true ?_ (by rintro ⟨⟩)
    cases hc : cycleTarget (p.charge s.world) s.modes.currentMode with
    | none =>
      refine .of_moves p s.modes.currentMode ?_ (.stay ..)
      dsimp only [machine, safetyTick]
      rw [hc]
      exact .rfl
    | some target =>
      refine .of_moves p target ?_ (.of_cycle none hc)
      dsimp only [machine, safetyTick]
      rw [hc]
      exact moves_applyModeForInternalSource ..
  | recoveryCall k =>
    obtain ⟨target, hm, ht⟩ := RecoveryExecutor.call_falls p s.enter k
    have hmd : ((machine p).step s (.recoveryCall k)).1.modes.currentMode = target := hm.mode
    rcases ht with ⟨⟨rfl, hap, hr⟩, rfl⟩ | ⟨hid, hf⟩
    · refine ⟨fun h _ hh _ _ => ?_, fun h => ?_⟩
      · refine (h.edge.hell_left hh ?_).2
        rw [hmd]
        decide
      · refine .of_moves p .safe hm ⟨fun _ hne => absurd rfl hne, fun hh _ => ?_, by simp, by simp⟩
        exact ⟨rfl, h rfl hh hap hr⟩
    · refine iff_of_true (.of_moves p target hm (.of_falls _ _ hf)) ?_
      rintro ⟨⟩ - hap hr
      exact absurd ⟨rfl, hap, hr⟩ hid
  | ttcTick =>
    refine iff_of_true ?_ (by rintro ⟨⟩)
    cases hdc : (s.ttc.schedDecide true (p.around s.world) s.modes.currentMode).2 with
    | none =>
      refine .of_moves p s.modes.currentMode ?_ (.stay ..)
      dsimp only [machine, ttcTick]
      rw [hdc]
      exact .rfl
    | some r =>
      refine .of_moves p r.target ?_ (.of_ttc _ (TtcPassManager.schedDecide_request hdc))
      dsimp only [machine, ttcTick]
      rw [hdc]
      exact moves_applyModeForInternalSource r.target .ttcPassPolicy s.modes
  | ttcSetPolicy | ttcSetPassWindow | ttcClearPassWindow | environment =>
    exact iff_of_true (.of_moves p _ Moves.rfl (.stay ..)) (by rintro ⟨⟩)

/-- A run from boot keeps to the graph at every step exactly when the charge allows each clamp
that finds the satellite in HELL. -/
theorem mode_graph_kept_iff (hardware : Bool) (world : ω) (inputs : List (Input ω)) :
    (machine p).Admits (Approved p) (boot hardware world) inputs ↔
      (machine p).Admits (ClampCharged p) (boot hardware world) inputs :=
  (machine p).admits_congr (approved_iff p) _ inputs

/-- A battery and a boot record that answer with fixed values, and no other component. -/
def quietPeers (soc : F32) (fallbackRequired : Bool) : ModePeers Unit where
  charge _ := some soc
  around _ := { wallclockSec := 0, gps := none, comm := none }
  pointing := none
  eps := none
  adcs := none
  boot := some {
    isBootSafeFallbackRequired := fun _ => fallbackRequired
    getConsecutiveResetCount := fun _ => 3
    recordRecoveryRestartIntent := fun _ _ _ world => (true, world)
    acknowledgeRuntimeStable := fun world => (true, world) }
  comm := none

/-- The first cycle after the third reset of a row, at five percent: the safety controller goes to
HELL and the executor's clamp takes the satellite straight back to SAFE. -/
theorem clamp_leaves_hell_uncharged :
    let p := quietPeers (.finite 5) true
    let inputs : List (Input Unit) := [.safetyTick, .recoveryCall .schedIn]
    ((machine p).run (boot false ()) inputs).modes.changes = [.hell, .safe] ∧
      ¬ChargedAbove p hellToSafeSoc () ∧
      ¬(machine p).Admits (Approved p) (boot false ()) inputs := by
  intro p inputs
  have hcharge : ¬ChargedAbove p hellToSafeSoc () := by
    rintro ⟨soc, hsoc, hlt⟩
    cases hsoc
    revert hlt
    decide
  refine ⟨by decide, hcharge, fun h => hcharge ?_⟩
  exact (approved_iff p _ _).mp h.2.1 rfl (by decide) rfl rfl

end ModeSystem

end ObcFlight
