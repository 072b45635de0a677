import ObcFlight.ModeSystem

/-!
# Mode decisions that are carried out later

Each of the components that set the mode reads it first, decides, and sets it afterwards; the
setter does not compare. Here the reading and the setting are separate steps, and the steps of
the components interleave. A decision waits together with the mode it was made on, and every
setting is written down with that mode and with the mode in force when it happens.
-/

namespace ObcFlight

/-- On whose account the mode is set, with what its rule depends on besides the mode. -/
inductive ModeSetter
  | operator (charge : CachedCharge)
  | safety (charge : CachedCharge)
  | ttcPass
  | fallback (source : IncidentSource)
  | bootClamp
deriving DecidableEq

/-- The rule of a setter: the targets it allows from a mode. The clamp does not ask for the mode. -/
def ModeSetter.Allows (mode target : SatMode) : ModeSetter → Prop
  | .operator charge =>
      (ModeSafetyController.evaluateOperatorTransition charge mode target).accepted = true
  | .safety charge => ModeSafetyController.cycleTarget charge mode = some target
  | .ttcPass => mode = .idle ∧ target = .ttc ∨ mode = .ttc ∧ target = .idle
  | .fallback source =>
      target = .safe ∧
        RecoveryExecutor.canRequestSafe mode (RecoveryExecutor.allowsAlreadySafe source) = true
  | .bootClamp => target = .safe

structure ModeSetting where
  setter : ModeSetter
  seen : SatMode
  inForce : SatMode
  target : SatMode
deriving DecidableEq

def ModeSetting.Allowed (setting : ModeSetting) : Prop := setting.setter.Allows setting.inForce setting.target

/-- A choice and the mode it was made on. -/
structure Decided (α : Type) where
  seen : SatMode
  choice : α

/-- How far a call of the executor has come. -/
inductive RecoveryStage
  | idle
  | entered (call : RecoveryExecutor.Call)
  | acting (queue : List (Decided RecoveryExecutor.ExternalActionRequest))

structure ModeInterleaving (ω : Type*) where
  system : ModeSystem ω
  operator : Option (Decided (CachedCharge × SatMode)) := none
  safety : Option (Decided (CachedCharge × SatMode)) := none
  ttc : Option (Decided TtcRequest) := none
  recovery : RecoveryStage := .idle

namespace ModeInterleaving

open ModeSafetyController

variable {ω : Type*}

inductive Input (ω : Type*)
  | operatorRead (mode : SatMode)
  | operatorSet
  | safetyRead
  | safetySet
  | ttcRead
  | ttcSet
  | recoveryEnter (call : RecoveryExecutor.Call)
  | recoveryLock
  | recoveryAct
  | ttcSetPolicy (enabled : Bool) (lossOfLockTimeoutSec : UInt32)
  | ttcSetPassWindow (startUnixSec endUnixSec : UInt64)
  | ttcClearPassWindow
  | environment (change : ω → ω)

def mode (s : ModeInterleaving ω) : SatMode := s.system.modes.currentMode

def setting (setter : ModeSetter) (seen target : SatMode) (s : ModeInterleaving ω) : ModeSetting :=
  { setter, seen, inForce := s.mode, target }

variable (p : ModePeers ω)

def operatorRead (requested : SatMode) (s : ModeInterleaving ω) : ModeInterleaving ω :=
  let modes := s.system.modes.announceBoot
  let charge := p.charge s.system.world
  let decision := evaluateOperatorTransition charge modes.currentMode requested
  if decision.accepted then
    { s with
      system := { s.system with modes }
      operator := some { seen := modes.currentMode, choice := (charge, requested) } }
  else { s with system := { s.system with modes := modes.rejectTransition requested decision.reason } }

def operatorSet (s : ModeInterleaving ω) : ModeInterleaving ω × List ModeSetting :=
  match s.operator with
  | none => (s, [])
  | some { seen, choice := (charge, target) } =>
      ({ s with
          system := { s.system with modes := s.system.modes.applyMode target }
          operator := none }, [s.setting (.operator charge) seen target])

def safetyRead (s : ModeInterleaving ω) : ModeInterleaving ω :=
  let charge := p.charge s.system.world
  match cycleTarget charge s.mode with
  | none => { s with system := { s.system with safety := s.system.safety.afterCycle charge s.mode } }
  | some target => { s with safety := some { seen := s.mode, choice := (charge, target) } }

def safetySet (s : ModeInterleaving ω) : ModeInterleaving ω × List ModeSetting :=
  match s.safety with
  | none => (s, [])
  | some { seen, choice := (charge, target) } =>
      ({ s with
          system := { s.system with
            modes := s.system.modes.applyModeForInternalSource target
              (applySource (cycleDecision charge seen))
            safety := s.system.safety.afterCycle charge seen }
          safety := none }, [s.setting (.safety charge) seen target])

def ttcRead (s : ModeInterleaving ω) : ModeInterleaving ω :=
  let decided := s.system.ttc.schedDecide true (p.around s.system.world) s.mode
  { s with
    system := { s.system with ttc := decided.1 }
    ttc := decided.2.map fun request => { seen := s.mode, choice := request } }

def ttcSet (s : ModeInterleaving ω) : ModeInterleaving ω × List ModeSetting :=
  match s.ttc with
  | none => (s, [])
  | some { seen, choice := request } =>
      let pointed := p.point request s.system.world
      ({ s with
          system := { s.system with
            modes := s.system.modes.applyModeForInternalSource request.target .ttcPassPolicy
            ttc := (s.system.ttc.schedRecord pointed.1 request).1
            world := pointed.2 }
          ttc := none }, [s.setting .ttcPass seen request.target])

def leave (s : ModeInterleaving ω) (f : RecoveryExecutor.Frame (ModeManager × ω))
    (recovery : RecoveryStage) : ModeInterleaving ω :=
  { s with
    system := { s.system with recovery := f.executor, modes := f.world.1, world := f.world.2 }
    recovery }

def recoveryEnter (k : RecoveryExecutor.Call) (s : ModeInterleaving ω) :
    ModeInterleaving ω × List ModeSetting :=
  let clamping := decide (k = .schedIn) && !s.system.recovery.bootClampApplied &&
    p.bootFallbackRequired s.system.world
  (s.leave (RecoveryExecutor.clampCall p.controls s.system.enter k) (.entered k),
    if clamping then [s.setting .bootClamp s.mode .safe] else [])

def recoveryLock (k : RecoveryExecutor.Call) (s : ModeInterleaving ω) : ModeInterleaving ω :=
  let begun := RecoveryExecutor.beginCall p.controls s.system.enter k
  s.leave begun.1 (.acting (begun.2.map fun request => { seen := s.mode, choice := request }))

/-- One action of the loop. What it asks for is decided on the mode it finds at its end. -/
def recoveryAct (action : Decided RecoveryExecutor.ExternalActionRequest)
    (rest : List (Decided RecoveryExecutor.ExternalActionRequest)) (s : ModeInterleaving ω) :
    ModeInterleaving ω × List ModeSetting :=
  let done := RecoveryExecutor.executeExternalAction p.controls s.system.enter action.choice
  let followups := done.2.map fun request =>
    { seen := RecoveryExecutor.currentMode p.controls done.1.world, choice := request }
  (s.leave done.1 (.acting (rest ++ followups)),
    match action.choice with
    | .applySafe source _ => [s.setting (.fallback source) action.seen .safe]
    | _ => [])

/-- A component that has decided sets the mode before it reads it again. -/
def machine : Machine (ModeInterleaving ω) (Input ω) ModeSetting where
  step s
    | .operatorRead requested => (if s.operator.isNone then s.operatorRead p requested else s, [])
    | .operatorSet => s.operatorSet
    | .safetyRead => (if s.safety.isNone then s.safetyRead p else s, [])
    | .safetySet => s.safetySet
    | .ttcRead => (if s.ttc.isNone then s.ttcRead p else s, [])
    | .ttcSet => s.ttcSet p
    | .recoveryEnter k =>
        match s.recovery with
        | .idle => s.recoveryEnter p k
        | _ => (s, [])
    | .recoveryLock =>
        match s.recovery with
        | .entered k => (s.recoveryLock p k, [])
        | _ => (s, [])
    | .recoveryAct =>
        match s.recovery with
        | .acting [] => ({ s with recovery := .idle }, [])
        | .acting (action :: rest) => s.recoveryAct p action rest
        | _ => (s, [])
    | .ttcSetPolicy enabled timeout =>
        ({ s with system := { s.system with ttc := (s.system.ttc.setPolicy enabled timeout).1 } }, [])
    | .ttcSetPassWindow startUnixSec endUnixSec =>
        ({ s with system := { s.system with
          ttc := (s.system.ttc.setPassWindow startUnixSec endUnixSec).1 } }, [])
    | .ttcClearPassWindow => ({ s with system := { s.system with ttc := s.system.ttc.clearPassWindow } }, [])
    | .environment change =>
        ({ s with system := { s.system with world := change s.system.world } }, [])

def boot (hardware : Bool) (world : ω) : ModeInterleaving ω :=
  { system := ModeSystem.boot hardware world }

/-! ### Every decision is right for the mode it was made on -/

structure Sound (s : ModeInterleaving ω) : Prop where
  operator : ∀ d ∈ s.operator, (ModeSetter.operator d.choice.1).Allows d.seen d.choice.2
  safety : ∀ d ∈ s.safety, (ModeSetter.safety d.choice.1).Allows d.seen d.choice.2
  ttc : ∀ d ∈ s.ttc, ModeSetter.ttcPass.Allows d.seen d.choice.target
  recovery : ∀ queue, s.recovery = .acting queue → ∀ d ∈ queue, RecoveryExecutor.Permits d.seen d.choice

theorem sound_boot (b : Bool) (w : ω) : (boot b w).Sound := ⟨nofun, nofun, nofun, nofun⟩

variable {s : ModeInterleaving ω}

theorem Sound.step (h : s.Sound) (p : ModePeers ω) (i : Input ω) :
    ((machine p).step s i).1.Sound := by
  obtain ⟨ho, hs, httc, hr⟩ := h
  cases i with
  | operatorRead =>
    dsimp only [machine]
    split_ifs with hnone
    · unfold operatorRead
      dsimp only
      split_ifs with hap
      · refine ⟨?_, hs, httc, hr⟩
        rintro d ⟨⟩
        exact hap
      · exact ⟨ho, hs, httc, hr⟩
    · exact ⟨ho, hs, httc, hr⟩
  | operatorSet =>
    dsimp only [machine, operatorSet]
    split
    · exact ⟨ho, hs, httc, hr⟩
    · exact ⟨nofun, hs, httc, hr⟩
  | safetyRead =>
    dsimp only [machine]
    split_ifs with hnone
    · unfold safetyRead
      dsimp only
      split
      · exact ⟨ho, hs, httc, hr⟩
      · refine ⟨ho, ?_, httc, hr⟩
        rintro d ⟨⟩
        assumption
    · exact ⟨ho, hs, httc, hr⟩
  | safetySet =>
    dsimp only [machine, safetySet]
    split
    · exact ⟨ho, hs, httc, hr⟩
    · exact ⟨ho, nofun, httc, hr⟩
  | ttcRead =>
    dsimp only [machine]
    split_ifs with hnone
    · refine ⟨ho, hs, fun d hd => ?_, hr⟩
      obtain ⟨r, hrq, rfl⟩ := Option.map_eq_some_iff.mp hd
      exact TtcPassManager.schedDecide_request hrq
    · exact ⟨ho, hs, httc, hr⟩
  | ttcSet =>
    dsimp only [machine, ttcSet]
    split
    · exact ⟨ho, hs, httc, hr⟩
    · exact ⟨ho, hs, nofun, hr⟩
  | recoveryEnter =>
    dsimp only [machine]
    split
    · exact ⟨ho, hs, httc, nofun⟩
    · exact ⟨ho, hs, httc, hr⟩
  | recoveryLock =>
    dsimp only [machine]
    split
    · refine ⟨ho, hs, httc, ?_⟩
      rintro q ⟨⟩ d hd
      obtain ⟨r, hrq, rfl⟩ := List.mem_map.mp hd
      exact RecoveryExecutor.permitted_beginCall p.controls s.system.enter _ r hrq
    · exact ⟨ho, hs, httc, hr⟩
  | recoveryAct =>
    dsimp only [machine]
    split
    · exact ⟨ho, hs, httc, nofun⟩
    case h_2 action rest hac =>
      refine ⟨ho, hs, httc, ?_⟩
      rintro q ⟨⟩ d hd
      rcases List.mem_append.mp hd with hd | hd
      · exact hr _ hac d (List.mem_cons_of_mem _ hd)
      · obtain ⟨r, hrq, rfl⟩ := List.mem_map.mp hd
        exact RecoveryExecutor.permitted_executeExternalAction p.controls s.system.enter
          (hr _ hac action List.mem_cons_self) r hrq
    · exact ⟨ho, hs, httc, hr⟩
  | ttcSetPolicy | ttcSetPassWindow | ttcClearPassWindow | environment =>
    exact ⟨ho, hs, httc, hr⟩

theorem sound_run (b : Bool) (w : ω) (i : List (Input ω)) : ((machine p).run (boot b w) i).Sound :=
  (machine p).run_invariant (fun _ x h => h.step p x) _ (sound_boot b w) i

/-- The mode on which the decision was made that the step carries out. -/
def decidedOn (s : ModeInterleaving ω) : Input ω → Option SatMode
  | .operatorSet => s.operator.map Decided.seen
  | .safetySet => s.safety.map Decided.seen
  | .ttcSet => s.ttc.map Decided.seen
  | .recoveryAct =>
      match s.recovery with
      | .acting ({ seen, choice := .applySafe _ _ } :: _) => some seen
      | _ => none
  | _ => none

def Current (s : ModeInterleaving ω) (input : Input ω) : Prop := ∀ seen ∈ s.decidedOn input, seen = s.mode

theorem Sound.setting_seen (h : s.Sound) (p : ModePeers ω) (i : Input ω)
    {r : ModeSetting} (hr : r ∈ ((machine p).step s i).2) :
    r.inForce = s.mode ∧ r.setter.Allows r.seen r.target ∧
      (r.seen = s.mode ∨ s.decidedOn i = some r.seen) := by
  cases i with
  | operatorSet =>
    dsimp only [machine, operatorSet] at hr
    split at hr
    · cases hr
    case h_2 seen charge target hd =>
      obtain rfl := List.mem_singleton.mp hr
      exact ⟨rfl, h.operator _ hd, .inr (by rw [decidedOn, hd]; rfl)⟩
  | safetySet =>
    dsimp only [machine, safetySet] at hr
    split at hr
    · cases hr
    case h_2 seen charge target hd =>
      obtain rfl := List.mem_singleton.mp hr
      exact ⟨rfl, h.safety _ hd, .inr (by rw [decidedOn, hd]; rfl)⟩
  | ttcSet =>
    dsimp only [machine, ttcSet] at hr
    split at hr
    · cases hr
    case h_2 seen request hd =>
      obtain rfl := List.mem_singleton.mp hr
      exact ⟨rfl, h.ttc _ hd, .inr (by rw [decidedOn, hd]; rfl)⟩
  | recoveryEnter =>
    dsimp only [machine] at hr
    split at hr
    · dsimp only [recoveryEnter] at hr
      split_ifs at hr
      · obtain rfl := List.mem_singleton.mp hr
        exact ⟨rfl, rfl, .inl rfl⟩
      · cases hr
    · cases hr
  | recoveryAct =>
    dsimp only [machine] at hr
    split at hr
    · cases hr
    case h_2 action rest hac =>
      obtain ⟨seen, c⟩ := action
      have hp := h.recovery _ hac _ List.mem_cons_self
      cases c with
      | applySafe =>
        obtain rfl := List.mem_singleton.mp hr
        exact ⟨rfl, ⟨rfl, hp⟩, .inr (by rw [decidedOn, hac]; rfl)⟩
      | _ => cases hr
    · cases hr
  | recoveryLock =>
    dsimp only [machine] at hr
    split at hr <;> cases hr
  | _ => cases hr

theorem ttcPass_allows_iff {seen mode t : SatMode} (h : ModeSetter.ttcPass.Allows seen t) :
    ModeSetter.ttcPass.Allows mode t ↔ seen = mode := by
  rcases h with ⟨rfl, rfl⟩ | ⟨rfl, rfl⟩
  · exact ⟨fun h => h.elim (fun h => h.1.symm) nofun, fun h => .inl ⟨h.symm, rfl⟩⟩
  · exact ⟨fun h => h.elim nofun (fun h => h.1.symm), fun h => .inr ⟨h.symm, rfl⟩⟩

/-- In a run in which no decision is overtaken by another change of the mode, every mode that is
set is one that the setter's rule allows from the mode in force; and what the pass manager sets
is allowed from the mode in force only if its decision has not been overtaken. -/
theorem settings_allowed_of_current (hardware : Bool) (world : ω) (inputs : List (Input ω)) :
    ((machine p).Admits Current (boot hardware world) inputs →
      ∀ r ∈ (machine p).trace (boot hardware world) inputs, r.Allowed) ∧
    ((∀ r ∈ ((machine p).step ((machine p).run (boot hardware world) inputs) .ttcSet).2, r.Allowed) ↔
      Current ((machine p).run (boot hardware world) inputs) .ttcSet) := by
  refine ⟨fun hcurrent r hr => ?_, ?_⟩
  · obtain ⟨before, input, after, rfl, hstep⟩ := (machine p).exists_of_mem_trace hr
    have hinput := (Machine.Admits.after _ hcurrent).1
    obtain ⟨hforce, hseen, hdecided⟩ := (sound_run p hardware world before).setting_seen p input hstep
    have hmode : r.seen = r.inForce := (hdecided.elim id (hinput _)).trans hforce.symm
    rw [ModeSetting.Allowed, ← hmode]
    exact hseen
  · have hsound := sound_run p hardware world inputs
    generalize (machine p).run (boot hardware world) inputs = s at hsound
    cases hd : s.ttc with
    | none =>
      refine iff_of_true (fun r hr => ?_) (fun seen hseen => ?_)
      · dsimp only [machine, ttcSet] at hr
        rw [hd] at hr
        cases hr
      · dsimp only [decidedOn] at hseen
        rw [hd] at hseen
        cases hseen
    | some d =>
      have hstep : ((machine p).step s .ttcSet).2 = [s.setting .ttcPass d.seen d.choice.target] := by
        dsimp only [machine, ttcSet]
        rw [hd]
      have hdecided : s.decidedOn .ttcSet = some d.seen := by
        rw [decidedOn, hd]
        rfl
      rw [hstep, List.forall_mem_singleton, Current, hdecided]
      refine (ttcPass_allows_iff (hsound.ttc d hd)).trans ?_
      exact ⟨fun h seen hseen => Option.some.inj hseen ▸ h, fun h => h _ rfl⟩

/-- A battery whose charge is the world, and a GPS with a fix inside the pass window. -/
def passPeers : ModePeers F32 where
  charge soc := some soc
  around _ := {
    wallclockSec := 7
    gps := some { hasSample := true, fixValid := true, utcSecondsOfDay := 100, utcDateYmd := 19700102
                  acceptedSentenceCount := 1 }
    comm := none }
  pointing := none
  eps := none
  adcs := none
  boot := none
  comm := none

def passInputs : List (Input F32) :=
  [.operatorRead .idle, .operatorSet, .ttcSetPolicy true 30, .ttcSetPassWindow 86400 90000]

/-- The pass begins when nothing comes between its decision and the change of mode. -/
theorem pass_entered_undisturbed :
    ∀ r ∈ (machine passPeers).trace (boot false (.finite 80)) (passInputs ++ [.ttcRead, .ttcSet]), r.Allowed :=
  (settings_allowed_of_current passPeers false (.finite 80) (passInputs ++ [.ttcRead, .ttcSet])).1 (by
    refine ⟨nofun, ?_, nofun, nofun, nofun, ?_, trivial⟩
    · rintro seen ⟨⟩
      rfl
    · rintro seen ⟨⟩
      rfl)

/-- The pass manager decides in IDLE, the operator's MODE_SET from the thread of the command dispatcher
sets SAFE, and the decision for TTC is carried out over that. -/
theorem pass_overrides_operator_safe :
    let inputs := passInputs ++ [.ttcRead, .operatorRead .safe, .operatorSet, .ttcSet]
    ((machine passPeers).run (boot false (.finite 80)) inputs).system.modes.changes = [.idle, .safe, .ttc] ∧
      ∃ r ∈ (machine passPeers).trace (boot false (.finite 80)) inputs, ¬r.Allowed := by
  refine ⟨by decide, { setter := .ttcPass, seen := .idle, inForce := .safe, target := .ttc }, by decide, ?_⟩
  rintro (⟨⟨⟩, -⟩ | ⟨⟨⟩, -⟩)

end ModeInterleaving

end ObcFlight
