import ObcFlight.RoleChange

/-!
# Every operation keeps the agreement

Start-up establishes the agreement of the three copies, every operation of the wired
system keeps it, and an operation that changes the profile of a port ends with the port
cleared. On the command gate an operation is a list of calls, and every grant among them
is one that the authorizer reported.
-/

namespace ObcFlight.FlightSystem

variable {hmac : KeyedHash} {format : FilePacketFormat} {s t : FlightSystem} {p : Port}

theorem kept_of_configs (hag : Agreement t) (hs : Profiled s)
    (hc : t.link.gate.ingressConfigs = s.link.gate.ingressConfigs) (hcm : t.comm = s.comm) :
    Kept s t := by
  refine ⟨hag, fun q band => ?_, fun q hq => absurd (congrFun hc q) hq⟩
  rw [hc, hcm]
  exact hs q band

theorem gate_run_ingressConfigs {is : List GateInput} (g : CommandIngressAuthority)
    (h : ∀ q c, .reconfigureIngressSource q c ∉ is) :
    ((commandGate hmac).run g is).ingressConfigs = g.ingressConfigs := by
  induction is generalizing g with
  | nil => rfl
  | cons i _ ih =>
    rw [Machine.run_cons, ih _ fun q c hmem => h q c (List.mem_cons_of_mem _ hmem)]
    cases i with
    | seqCmdBuffIn q data ct k =>
      exact (CommandIngressAuthority.seqCmdBuffIn_grantView hmac k g q data ct).2
    | authGrantedIn grant => exact CommandIngressAuthority.authGrantedIn_ingressConfigs grant
    | authRevokedIn r => exact CommandIngressAuthority.authRevokedIn_ingressConfigs r
    | reconfigureIngressSource q c => exact absurd (List.mem_cons_self ..) (h q c)
    | revokeIngressSource _ y n =>
      exact CommandIngressAuthority.revokeIngressSource_ingressConfigs y n
    | seqCmdStatusIn => rfl
    | sequenceControlStatusIn => rfl

theorem linkAction_ingressConfigs {i : LinkInput}
    (h : ∀ q c, .reconfigureIngressSource q c ∉ s.link.gateInputs hmac i) :
    (linkAction hmac i s).1.link.gate.ingressConfigs = s.link.gate.ingressConfigs := by
  have hg := SecureLink.step_gate hmac s.link i
  simp only [linkAction, hg]
  exact gate_run_ingressConfigs _ h

theorem reconfigure_not_mem_toGate (os : List AuthorizerOutput) (q : Port) (c : AuthorityConfig) :
    .reconfigureIngressSource q c ∉ os.filterMap AuthorizerOutput.toGate := by
  intro hmem
  obtain ⟨o, -, ho⟩ := List.mem_filterMap.mp hmem
  cases o <;> simp [AuthorizerOutput.toGate] at ho

theorem performRecoveryLinkFailover_cases (hmac : KeyedHash) (c b f : Bool) (s : FlightSystem) :
    ∃ (t : FlightSystem × List SystemOutput) (r : RecoveryCommActionResult),
      performRecoveryLinkFailoverForRuntime hmac c b f s =
        (t.1, t.2 ++ [SystemOutput.recoveryResult r]) ∧
      (t = (s, []) ∨
        t = setPrimaryLinks hmac (CommBand.backup s.comm.primaryCommandLink) .linkFailover s ∨
        t = revokePrimary hmac s) := by
  unfold performRecoveryLinkFailoverForRuntime
  by_cases hh : (c && !f) = true
  · exact ⟨(s, []), _, if_pos hh, .inl rfl⟩
  · by_cases hbc : b = true
    · exact ⟨setPrimaryLinks hmac _ _ s, _, (if_neg hh).trans (if_pos hbc), .inr (.inl rfl)⟩
    · exact ⟨revokePrimary hmac s, _, (if_neg hh).trans (if_neg hbc), .inr (.inr rfl)⟩

theorem performRecoveryLinkFailover_kept (h : Agreement s) (hs : Profiled s) (c b f : Bool) :
    Kept s (performRecoveryLinkFailoverForRuntime hmac c b f s).1 := by
  obtain ⟨t, r, heq, ht⟩ := performRecoveryLinkFailover_cases hmac c b f s
  rw [heq]
  dsimp only
  rcases ht with rfl | rfl | rfl
  · exact ⟨h, hs, fun _ hq => absurd rfl hq⟩
  · exact setPrimaryLinks_kept h hs hmac _ _
  · -- no backup: the primary port keeps its profile and loses its session
    obtain ⟨⟨hag, hc⟩, -⟩ := revoke_invalidate_triple s hmac
      (CommBand.ingressPort s.comm.primaryCommandLink)
      CommPolicyTransitionReason.recoveryNoBackup.toCode _
      (fun k hk => h.keyService_eq (SameLink.of_eq rfl) hk) s ⟨h, Closing.refl s⟩
    refine ⟨hag, fun q band => ?_, fun q hq => absurd (congrFun hc.configs q) hq⟩
    exact (congrFun hc.configs q).symm ▸ (hc.profile band q).symm ▸ hs q band

theorem storeProfiles_profiled {sic u : AuthorityConfig}
    (hs : SameLink (s.link.gate.ingressConfigs sbandIngressPort) sic)
    (huhf : SameLink (s.link.gate.ingressConfigs uhfIngressPort) u) :
    Profiled (storeProfiles sic u s).1 := by
  have hr (config : AuthorityConfig) (role : AuthorityLinkRole) :
      SameLink config (withRole config role) := ⟨rfl, rfl⟩
  intro q band
  rcases eq_or_ne q uhfIngressPort with rfl | hne
  · cases band with
    | sband => exact huhf
    | uhf => exact huhf.trans (hr _ _)
  · obtain rfl : q = sbandIngressPort := by
      revert hne
      revert q
      decide
    cases band with
    | sband => exact hs
    | uhf => exact hs.trans (hr _ _)

theorem configureRuntime_spec (h : Agreement s) {sic ubic : AuthorityConfig}
    (hs : SameLink (s.link.gate.ingressConfigs sbandIngressPort) sic)
    (huhf : SameLink (s.link.gate.ingressConfigs uhfIngressPort) ubic) (hmac : KeyedHash)
    (i : CommBand) (ht : (configureRuntime hmac i sic ubic s).1 = t) :
    Agreement t ∧ Profiled t ∧ ∀ p, Cleared t p := by
  have hp := storeProfiles_profiled hs huhf
  have hag : Agreement (storeProfiles sic ubic s).1 :=
    h.withComm _
  generalize hu : (storeProfiles sic ubic s).1 = u at hp hag
  have hsw : Action.Triple (fun v => Agreement v ∧ Profiled v)
      (Action.guarded (fun v => i ≠ v.comm.primaryCommandLink)
        (setPrimaryLinks hmac i .initialBootstrap))
      fun v => Agreement v ∧ Profiled v := by
    refine Action.Triple.guarded (fun v hv _ => hv) ?_
    rintro v ⟨⟨hv, hv'⟩, -⟩
    have hk := setPrimaryLinks_kept hv hv' hmac i .initialBootstrap
    exact ⟨hk.agreement, hk.profiled⟩
  obtain ⟨hv, hv'⟩ := hsw u ⟨hag, hp⟩
  have hf := applyAuthorityProfiles_spec hv hv' hmac 0
  rw [← hu] at hf
  rw [← ht]
  exact hf

theorem step_kept (h : Agreement s) (hs : Profiled s) (hmac : KeyedHash) (format : FilePacketFormat)
    (i : SystemInput) :
    Kept s (action hmac format i s).1 := by
  cases i with
  | handshakeUplinkIn _ data r now =>
    exact kept_of_configs (h.handshakeUplinkIn data r now) hs
      (linkAction_ingressConfigs (reconfigure_not_mem_toGate _)) rfl
  | authorizerSchedIn now =>
    exact kept_of_configs (h.schedIn now) hs
      (linkAction_ingressConfigs (reconfigure_not_mem_toGate _)) rfl
  | seqCmdBuffIn _ data n c now =>
    exact kept_of_configs (h.seqCmdBuffIn data n c now) hs
      (linkAction_ingressConfigs (by simp [SecureLink.gateInputs])) rfl
  | seqCmdStatusIn _ o k q =>
    exact kept_of_configs (h.seqCmdStatusIn hmac o k q) hs
      (linkAction_ingressConfigs (by simp [SecureLink.gateInputs])) rfl
  | sequenceControlStatusIn x =>
    exact kept_of_configs (h.sequenceControlStatusIn hmac x) hs
      (linkAction_ingressConfigs (by simp [SecureLink.gateInputs])) rfl
  | bufferSendIn p b l now =>
    exact kept_of_configs (h.filesAction now
      (s.files.bufferSendIn_effect format p b l).authView_eq) hs rfl rfl
  | bufferReturnIn b now =>
    exact kept_of_configs (h.filesAction now
      (FileIngressAuthority.bufferReturnIn_authView b)) hs rfl rfl
  | setActiveBand band av =>
    cases av with
    | false => exact ⟨h, hs, fun _ hq => absurd rfl hq⟩
    | true => exact setPrimaryLinks_kept h hs hmac band .operatorSwitch
  | performRecoveryLinkFailover =>
    exact performRecoveryLinkFailover_kept h hs _ _ _
  | configureRuntime ipb =>
    obtain ⟨hag, hp, hc⟩ := configureRuntime_spec h (hs sbandIngressPort .sband)
      (hs uhfIngressPort .sband) hmac ipb rfl
    exact ⟨hag, hp, fun p _ => hc p⟩

theorem serves_of_identity {c : AuthorityConfig} (hvl : c.valid = true)
    (hs : secureServiceIdForAuthorityIdentity c.identity ≠ 0) :
    Serves c (secureServiceIdForAuthorityIdentity c.identity) :=
  ⟨hvl, (isCommManagedAuthority_iff c).mpr (.inr ((secureServiceId_ne_zero_iff _).mp hs)), rfl⟩

variable {state : TopologyState}

theorem configureSecureAuthIngress_spec {a a' : SecureLinkAuthorizer} {c : AuthorityConfig}
    (h : configureSecureAuthIngressForAuthority a p c state = some a') :
    a'.activeAuth = a.activeAuth ∧ a'.pendingChallenges = a.pendingChallenges ∧
      ∀ q, a'.ingressKeys q = a.ingressKeys q ∨
        q = p ∧ ∀ key, a'.ingressKeys q = some key → Serves c key.serviceId := by
  unfold configureSecureAuthIngressForAuthority at h
  dsimp only at h
  split_ifs at h with hnone
  · cases h
    exact ⟨rfl, rfl, fun q => .inl rfl⟩
  · simp only [Bool.or_eq_true, Bool.not_eq_true', decide_eq_true_eq, not_or,
      Bool.not_eq_false] at hnone
    unfold SecureLinkAuthorizer.configureIngressService at h
    split_ifs at h
    cases h
    refine ⟨rfl, rfl, fun q => ?_⟩
    rcases eq_or_ne q p with rfl | hne
    · refine .inr ⟨rfl, fun key hkey => ?_⟩
      dsimp only at hkey
      rw [Function.update_self, Option.some.injEq] at hkey
      rw [← hkey]
      exact serves_of_identity hnone.1 hnone.2
    · exact .inl (Function.update_of_ne hne ..)

def setupGate (sband uhf : AuthorityConfig) : CommandIngressAuthority :=
  (CommandIngressAuthority.initial.clearIngressSources.reconfigureIngressSource sbandIngressPort
    sband).reconfigureIngressSource uhfIngressPort uhf

theorem setupGate_ingressConfigs (sband uhf : AuthorityConfig) :
    (setupGate sband uhf).ingressConfigs sbandIngressPort = sband ∧
      (setupGate sband uhf).ingressConfigs uhfIngressPort = uhf := by
  simp [setupGate, sbandIngressPort, uhfIngressPort]

theorem setup_agreement {a : SecureLinkAuthorizer} (sband uhf : AuthorityConfig)
    (policy : FileIngressPolicy) (hac : ∀ q, a.activeAuth q = none)
    (hp : ∀ q, a.pendingChallenges q = none) (hk : ∀ q key, a.ingressKeys q = some key →
      Serves ((setupGate sband uhf).ingressConfigs q) key.serviceId) :
    Agreement ⟨⟨a, setupGate sband uhf⟩, FileIngressAuthority.initial policy, {}⟩ := by
  have hc (q : Port) : a.credentials q = none := by
    simp [SecureLinkAuthorizer.credentials, hac]
  refine ⟨?_, fun q o hq => ?_, fun q view hvw => ?_, fun q x hq => ?_,
    fun q => .inl ?_, fun q => ?_⟩
  · exact (CommandIngressAuthority.coherent_initial.reconfigureIngressSource _).reconfigureIngressSource _
  · obtain ⟨key, hkey, rfl⟩ := Option.map_eq_some_iff.mp hq
    exact hk q key hkey
  · rw [hc] at hvw
    cases hvw
  · rw [hp] at hq
    cases hq
  · have hnone : CommandIngressAuthority.initial.clearIngressSources.grantView = fun _ => none := rfl
    simp only [setupGate, CommandIngressAuthority.reconfigureIngressSource_grantView, hnone]
    simp
  · rw [hc]
    rfl

theorem setupTopology_spec (h : setupTopology hmac state = some s) :
    Agreement s ∧ Profiled s ∧ ∀ p, Cleared s p := by
  unfold setupTopology at h
  dsimp only at h
  split at h
  · cases h
  next a hsb =>
  split at h
  · cases h
  next a' huhf =>
  obtain ⟨hac, hp, hk⟩ := configureSecureAuthIngress_spec hsb
  obtain ⟨ha', hp', hk'⟩ := configureSecureAuthIngress_spec huhf
  obtain ⟨hconfig₀, hconfig₁⟩ := setupGate_ingressConfigs state.sbandCommandAuthorityConfig
    state.uhfCommandAuthorityConfig
  have hag := setup_agreement (a := a') state.sbandCommandAuthorityConfig
    state.uhfCommandAuthorityConfig state.fileIngressPolicy
    (fun q => by rw [ha', hac]; rfl) (fun q => by rw [hp', hp]; rfl)
    (fun q key hkey => by
      rcases hk' q with hs | ⟨rfl, hsr⟩
      · rw [hs] at hkey
        rcases hk q with hs | ⟨rfl, hsr⟩
        · rw [hs] at hkey
          cases hkey
        · rw [hconfig₀]
          exact hsr key hkey
      · rw [hconfig₁]
        exact hsr key hkey)
  exact configureRuntime_spec hag (SameLink.of_eq hconfig₀) (SameLink.of_eq hconfig₁)
    hmac state.initialCommBand (Option.some.inj h)

theorem run_agreement (format : FilePacketFormat) {s₀ : FlightSystem}
    (h : setupTopology hmac state = some s₀) (is : List SystemInput) :
    Agreement ((flightSystem hmac format).run s₀ is) ∧ Profiled ((flightSystem hmac format).run s₀ is) := by
  refine (flightSystem hmac format).run_invariant (I := fun s => Agreement s ∧ Profiled s) ?_ s₀
    ⟨(setupTopology_spec h).1, (setupTopology_spec h).2.1⟩ is
  rintro s i ⟨hag, hp⟩
  have hk := step_kept hag hp hmac format i
  exact ⟨hk.agreement, hk.profiled⟩

/-- The action moves the gate by calls on it, and every grant among them is reported. -/
def Drives (hmac : KeyedHash) (a : SystemAction) : Prop := ∀ s, ∃ is,
  (a s).1.link.gate = (commandGate hmac).run s.link.gate is ∧
    ∀ grant, .authGrantedIn grant ∈ is → .link (.authorizer (.authGrantedOut grant)) ∈ (a s).2

variable {a : SystemAction}

theorem Drives.of_gate_eq (h : ∀ s, (a s).1.link.gate = s.link.gate) :
    Drives hmac a := fun s => ⟨[], h s, by simp⟩

theorem Drives.seq {b : SystemAction} (ha : Drives hmac a) (hb : Drives hmac b) :
    Drives hmac (a.seq b) := by
  intro s
  obtain ⟨is, hg, hgr⟩ := ha s
  obtain ⟨is', hg', hgr'⟩ := hb (a s).1
  refine ⟨is ++ is', ?_, fun g hmem => List.mem_append.mpr ?_⟩
  · rw [Machine.run_append, ← hg]
    exact hg'
  · exact (List.mem_append.mp hmem).imp (hgr g) (hgr' g)

theorem Drives.guarded {c : FlightSystem → Bool} (ha : Drives hmac a) :
    Drives hmac (Action.guarded c a) := by
  intro s
  unfold Action.guarded
  split_ifs
  · exact ha s
  · exact ⟨[], rfl, by simp⟩

theorem linkAction_drives (i : LinkInput) : Drives hmac (linkAction hmac i) := by
  intro s
  refine ⟨s.link.gateInputs hmac i, SecureLink.step_gate hmac s.link i, fun g hmem => ?_⟩
  exact List.mem_map_of_mem (SecureLink.mem_step_of_mem_authorizerOutputs
    (SecureLink.mem_authorizerOutputs_of_granted hmem))

theorem countRevocation_drives : Drives hmac countRevocation := .of_gate_eq fun _ => rfl

theorem revokeIngressSource_drives (r : UInt32) : Drives hmac (revokeIngressSource hmac p r) :=
  ((linkAction_drives _).seq countRevocation_drives).guarded

theorem secureAuthInvalidate_drives (n : UInt8) : Drives hmac (secureAuthInvalidate hmac p n) := by
  unfold secureAuthInvalidate
  split_ifs
  · exact .of_gate_eq fun _ => rfl
  · exact linkAction_drives _

theorem reconfigureIngressSource_drives (c : AuthorityConfig) :
    Drives hmac (reconfigureIngressSource hmac p c) := by
  intro s
  have hc (b : Bool) : Drives hmac ((linkAction hmac (.reconfigureIngressSource p c)).seq
      (if b then countRevocation else .skip)) := by
    refine (linkAction_drives _).seq ?_
    split_ifs
    · exact countRevocation_drives
    · exact .of_gate_eq fun _ => rfl
  exact hc _ s

theorem applyAuthorityProfiles_drives (r : UInt32) :
    Drives hmac (applyAuthorityProfiles hmac r) := by
  have hp (p : Port) (config : AuthorityConfig) :
      Drives hmac (reconfigureIngressProfile hmac p config r) :=
    (revokeIngressSource_drives r).seq ((secureAuthInvalidate_drives _).seq
      ((reconfigureIngressSource_drives config).seq (.of_gate_eq fun _ => rfl)))
  intro s
  exact ((hp _ _).seq (hp _ _)) s

theorem setPrimaryLinks_drives (band : CommBand) (r : CommPolicyTransitionReason) :
    Drives hmac (setPrimaryLinks hmac band r) :=
  Drives.seq (.of_gate_eq fun _ => rfl) (applyAuthorityProfiles_drives _)

theorem Drives.report (ha : Drives hmac a) (s : FlightSystem) (o : SystemOutput) :
    ∃ is, (a s).1.link.gate = (commandGate hmac).run s.link.gate is ∧
      ∀ g, .authGrantedIn g ∈ is → .link (.authorizer (.authGrantedOut g)) ∈ (a s).2 ++ [o] := by
  obtain ⟨is, hg, hgr⟩ := ha s
  exact ⟨is, hg, fun g hmem => List.mem_append_left _ (hgr g hmem)⟩

theorem performRecoveryLinkFailover_drives (c b f : Bool) :
    Drives hmac (performRecoveryLinkFailoverForRuntime hmac c b f) := by
  intro s
  obtain ⟨t, r, heq, ht⟩ := performRecoveryLinkFailover_cases hmac c b f s
  rw [heq]
  dsimp only
  rcases ht with rfl | rfl | rfl
  · exact ⟨[], rfl, by simp⟩
  · exact (setPrimaryLinks_drives _ _).report s _
  · have hr : Drives hmac (revokePrimary hmac) := fun s =>
      ((revokeIngressSource_drives _).seq (secureAuthInvalidate_drives _)) s
    exact hr.report s _

theorem action_drives (hmac : KeyedHash) (format : FilePacketFormat) (i : SystemInput) :
    Drives hmac (action hmac format i) := by
  cases i with
  | bufferSendIn | bufferReturnIn => exact .of_gate_eq fun _ => rfl
  | setActiveBand _ av =>
    cases av with
    | false => exact .of_gate_eq fun _ => rfl
    | true => exact (setPrimaryLinks_drives _ _).seq (.of_gate_eq fun _ => rfl)
  | performRecoveryLinkFailover =>
    exact performRecoveryLinkFailover_drives _ _ _
  | configureRuntime =>
    intro s
    have hs (sband uhf : AuthorityConfig) : Drives hmac (storeProfiles sband uhf) :=
      .of_gate_eq fun _ => rfl
    exact ((hs _ _).seq ((setPrimaryLinks_drives _ _).guarded.seq
      (applyAuthorityProfiles_drives 0))) s
  | _ => exact linkAction_drives _

/-- A session that stands after an operation stood before it under the same profile, or
was granted by it. -/
theorem step_grantView_cases {i : SystemInput} {view : UInt8 × Digest}
    (h : (action hmac format i s).1.link.gate.grantView p = some view) :
    (action hmac format i s).1.link.gate.ingressConfigs p = s.link.gate.ingressConfigs p ∧
        s.link.gate.grantView p = some view ∨
      .link (.authorizer (.authGrantedOut ⟨p, view.1, view.2⟩)) ∈ (action hmac format i s).2 := by
  obtain ⟨is, hg, hgr⟩ := action_drives hmac format i s
  rw [hg] at h ⊢
  exact (CommandIngressAuthority.run_grantView h).imp_right (hgr _)

end ObcFlight.FlightSystem
