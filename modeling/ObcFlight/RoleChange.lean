import ObcFlight.SessionAgreement

/-!
# Role changes leave no session behind

The link controller changes the role of a port by revoking, invalidating, reconfiguring
and republishing, in that order and through four different components. Whatever the
order of earlier events, the port then has no session, no authentication and no pending
challenge, so that no command is handed on under a session from before the change.
-/

namespace ObcFlight.FlightSystem

variable {hmac : KeyedHash} {format : FilePacketFormat} {s t : FlightSystem} {p : Port}

/-- Nothing of an authentication is left on the port. -/
structure Cleared (s : FlightSystem) (p : Port) : Prop where
  gate : s.link.gate.grantView p = none
  credentials : s.link.authorizer.credentials p = none
  pending : s.link.authorizer.pendingChallenges p = none

/-- A step that only takes sessions away: profiles and keys stay, and what a port does not
have it does not get. -/
structure Closing (s t : FlightSystem) : Prop where
  configs : t.link.gate.ingressConfigs = s.link.gate.ingressConfigs
  keys : t.link.authorizer.ingressKeys = s.link.authorizer.ingressKeys
  gate : ∀ q, s.link.gate.grantView q = none → t.link.gate.grantView q = none
  credentials : ∀ q, s.link.authorizer.credentials q = none → t.link.authorizer.credentials q = none
  pending : ∀ q, s.link.authorizer.pendingChallenges q = none →
    t.link.authorizer.pendingChallenges q = none
  profile : ∀ band q, { t.comm with primaryCommandLink := band }.profile q =
    { s.comm with primaryCommandLink := band }.profile q

theorem Closing.refl (s : FlightSystem) : Closing s s :=
  ⟨rfl, rfl, fun _ h => h, fun _ h => h, fun _ h => h, fun _ _ => rfl⟩

theorem Closing.trans {u : FlightSystem} (h : Closing s t) (h' : Closing t u) : Closing s u where
  configs := h'.configs.trans h.configs
  keys := h'.keys.trans h.keys
  gate q hq := h'.gate q (h.gate q hq)
  credentials q hq := h'.credentials q (h.credentials q hq)
  pending q hq := h'.pending q (h.pending q hq)
  profile band q := (h'.profile band q).trans (h.profile band q)

theorem Closing.cleared (h : Closing s t) (hp : Cleared s p) : Cleared t p :=
  ⟨h.gate p hp.gate, h.credentials p hp.credentials, h.pending p hp.pending⟩

/-- Holding the invariant, and having come from a state by closing steps only. -/
def ClosedFrom (s₀ : FlightSystem) (s : FlightSystem) : Prop := Agreement s ∧ Closing s₀ s

theorem Agreement.withComm (h : Agreement s) (comm : CommController) :
    Agreement { s with comm := comm } :=
  ⟨h.coherent, h.keyed, h.active, h.pending, h.gate, h.files⟩

theorem linkAction_revokeIngressSource (r : UInt32) :
    (linkAction hmac (.revokeIngressSource p r false) s).1 =
      { s with link := { s.link with gate := (s.link.gate.revokeIngressSource p r false).1 } } := by
  have hf := notifyFiles_gate s.files (s.link.gate.revokeIngressSource p r false).2
  simp only [linkAction, SecureLink.step, SecureLink.fromGate, hf]

variable (s₀ : FlightSystem)

theorem revokeIngressSource_triple (hmac : KeyedHash) (p : Port) (r : UInt32) :
    Action.Triple (ClosedFrom s₀) (revokeIngressSource hmac p r)
      fun s => ClosedFrom s₀ s ∧ s.link.gate.grantView p = none := by
  refine Action.Triple.guarded (fun s hs hc => ⟨hs, by simp [CommandIngressAuthority.grantView,
    hc]⟩) ?_
  rintro s ⟨⟨hag, hcl⟩, -⟩
  have hvw := CommandIngressAuthority.revokeIngressSource_grantView (g := s.link.gate) (p := p)
    r false
  have hch := hag.coherent.step hmac (.revokeIngressSource p r false)
  have hg := hag.withGate hch
    (by rw [CommandIngressAuthority.step, CommandIngressAuthority.revokeIngressSource_ingressConfigs]
        exact fun _ _ hq => hq)
    (by rw [CommandIngressAuthority.step, hvw]; exact update_none_or)
  simp only [Action.seq, linkAction_revokeIngressSource]
  refine ⟨⟨hg.withComm _, hcl.trans ⟨?_, rfl, fun q hq => ?_, fun _ hq => hq,
    fun _ hq => hq, fun _ _ => rfl⟩⟩, ?_⟩
  · exact CommandIngressAuthority.revokeIngressSource_ingressConfigs _ _
  · refine (congrFun hvw q).trans ?_
    rcases update_none_or (v := s.link.gate.grantView) (p := p) q with hn | hsm
    · exact hn
    · exact hsm.trans hq
  · exact (congrFun hvw p).trans (Function.update_self ..)

theorem keyService_ne_zero {k : UInt8} (h : s.keyService p = some k) : k ≠ 0 := by
  obtain ⟨key, -, rfl⟩ := Option.map_eq_some_iff.mp h
  intro hz
  have hs := key.supported
  rw [hz] at hs
  revert hs
  decide

/-- Without a key of another service on the port, what an invalidation for the service
leaves behind is nothing. -/
theorem Agreement.cleared_of_service (h : Agreement s) {n : UInt8}
    (hkey : ∀ k, s.keyService p = some k → k = n) (hg : s.link.gate.grantView p = none)
    (hc : ∀ view, s.link.authorizer.credentials p = some view → view.1 ≠ n)
    (hp : ∀ x, s.link.authorizer.pendingChallenges p = some x → x.serviceId ≠ n) : Cleared s p := by
  refine ⟨hg, ?_, ?_⟩
  · rw [Option.eq_none_iff_forall_ne_some]
    intro view hvw
    exact hc view hvw (hkey _ (h.active p view hvw))
  · rw [Option.eq_none_iff_forall_ne_some]
    intro x hvw
    exact hp x hvw (hkey _ (h.pending p x hvw))

theorem Closing.withoutPending (n : UInt8) :
    Closing s { s with
      link := { s.link with authorizer := s.link.authorizer.withoutPending p n } } := by
  refine ⟨rfl, SecureLinkAuthorizer.withoutPending_ingressKeys _, fun _ hq => hq, fun q hq => ?_,
    fun q hq => ?_, fun _ _ => rfl⟩
  · exact (congrFun (withoutPending_credentials _ _) q).trans hq
  · rw [Option.eq_none_iff_forall_ne_some]
    intro x hp
    have hold := (mem_withoutPending hp).1
    rw [hq] at hold
    cases hold

theorem Closing.revoked (hmac : KeyedHash) (r : SecureAuthRevocation) :
    Closing s (delivered hmac s (s.link.authorizer.revokedOn p) [.authRevokedOut r]) := by
  refine ⟨CommandIngressAuthority.authRevokedIn_ingressConfigs r, rfl, fun q hq => ?_,
    fun q hq => ?_, fun _ hq => hq, fun _ _ => rfl⟩
  · rw [Option.eq_none_iff_forall_ne_some]
    intro view hvw
    obtain ⟨-, hg | hold⟩ :=
      CommandIngressAuthority.step_grantView hmac (i := .authRevokedIn r) hvw
    · cases hg
    · rw [hq] at hold
      cases hold
  · rw [delivered, credentials_revokedOn]
    rcases update_none_or (v := s.link.authorizer.credentials) (p := p) q with hn | hs
    · exact hn
    · exact hs.trans hq

/-- An invalidation closes, and leaves neither an authentication nor a challenge of its
service on its port. -/
theorem authInvalidateIn_effect (hmac : KeyedHash) (s : FlightSystem) (r : SecureAuthRevocation) :
    Closing s (linkAction hmac (.authInvalidateIn r) s).1 ∧
      (∀ view, (linkAction hmac (.authInvalidateIn r) s).1.link.authorizer.credentials
        r.ingressPort = some view → view.1 ≠ r.serviceId) ∧
      ∀ x, (linkAction hmac (.authInvalidateIn r) s).1.link.authorizer.pendingChallenges
        r.ingressPort = some x → x.serviceId ≠ r.serviceId := by
  rw [linkAction_eq_delivered (s.link.authorizer.authInvalidateIn r) rfl,
    SecureLinkAuthorizer.authInvalidateIn_eq]
  have hdr := Closing.withoutPending (s := s) (p := r.ingressPort) r.serviceId
  split_ifs with hac
  · refine ⟨hdr.trans (Closing.revoked hmac r), fun view hvw => ?_,
      fun x hp => (mem_withoutPending hp).2 rfl⟩
    rw [delivered, credentials_revokedOn, Function.update_self] at hvw
    cases hvw
  · rw [delivered_quiet ⟨rfl, rfl, rfl⟩]
    refine ⟨hdr, fun view hvw hs => hac ?_, fun x hp => (mem_withoutPending hp).2 rfl⟩
    rw [withoutPending_credentials] at hvw
    obtain ⟨a, hac, rfl⟩ := Option.map_eq_some_iff.mp hvw
    rw [hac, ← hs]
    rfl

/-- An invalidation for the service of the port's key leaves neither authentication nor
challenge. -/
theorem secureAuthInvalidate_triple (hmac : KeyedHash) (p : Port) (serviceId : UInt8)
    (hs : ∀ k, s₀.keyService p = some k → k = serviceId) :
    Action.Triple (fun s => ClosedFrom s₀ s ∧ s.link.gate.grantView p = none)
      (secureAuthInvalidate hmac p serviceId) fun s => ClosedFrom s₀ s ∧ Cleared s p := by
  rintro s ⟨⟨hag, hc⟩, hg⟩
  have hky {t : FlightSystem} (ht : Closing s₀ t) (k : UInt8) (hk : t.keyService p = some k) :
      k = serviceId := by
    refine hs k ?_
    rw [← hk, keyService, keyService, ht.keys]
  unfold secureAuthInvalidate
  split_ifs with hz
  · have hnone (k : UInt8) : s.keyService p ≠ some k := fun hk =>
      keyService_ne_zero hk ((hky hc k hk).trans hz)
    exact ⟨⟨hag, hc⟩, hag.cleared_of_service (hky hc) hg
      (fun view hvw => absurd (hag.active p view hvw) (hnone _))
      fun x hp => absurd (hag.pending p x hp) (hnone _)⟩
  · obtain ⟨hst, hcr, hp⟩ :=
      authInvalidateIn_effect hmac s ⟨p, serviceId, revocationInvalidated⟩
    have haf := hag.authInvalidateIn hmac ⟨p, serviceId, revocationInvalidated⟩
    have hcl := hc.trans hst
    exact ⟨⟨haf, hcl⟩, haf.cleared_of_service (hky hcl) (hst.gate p hg) hcr hp⟩

theorem revoke_invalidate_triple (hmac : KeyedHash) (p : Port) (r : UInt32) (n : UInt8)
    (hs : ∀ k, s₀.keyService p = some k → k = n) : Action.Triple (ClosedFrom s₀)
      ((revokeIngressSource hmac p r).seq (secureAuthInvalidate hmac p n))
      fun s => ClosedFrom s₀ s ∧ Cleared s p :=
  (revokeIngressSource_triple s₀ hmac p r).seq (secureAuthInvalidate_triple s₀ hmac p n hs)

variable {config : AuthorityConfig}

theorem SameLink.of_eq {config' : AuthorityConfig} (h : config = config') :
    SameLink config config' := h ▸ ⟨rfl, rfl⟩

theorem SameLink.symm {c' : AuthorityConfig} (h : SameLink config c') :
    SameLink c' config := ⟨h.identity.symm, h.valid.symm⟩

theorem SameLink.trans {c' config'' : AuthorityConfig} (h : SameLink config c')
    (h' : SameLink c' config'') : SameLink config config'' :=
  ⟨h'.identity.trans h.identity, h'.valid.trans h.valid⟩

theorem Agreement.keyService_eq (h : Agreement s)
    (hl : SameLink (s.link.gate.ingressConfigs p) config) {k : UInt8}
    (hk : s.keyService p = some k) : k = secureServiceIdForAuthorityIdentity config.identity := by
  rw [← (hl.serves (h.keyed p k hk)).service, secureServiceIdForConfig]

/-- The state after a port has been given a profile. -/
structure Reconfigured (s : FlightSystem) (p : Port) (config : AuthorityConfig) (t : FlightSystem) :
    Prop where
  agreement : Agreement t
  cleared : Cleared t p
  others : ∀ q, Cleared s q → Cleared t q
  configs : t.link.gate.ingressConfigs = Function.update s.link.gate.ingressConfigs p config
  profile : ∀ band q, { t.comm with primaryCommandLink := band }.profile q =
    { s.comm with primaryCommandLink := band }.profile q

theorem reconfigureIngressSource_fst (hmac : KeyedHash) (config : AuthorityConfig) :
    ∃ n, (reconfigureIngressSource hmac p config s).1 =
      { s with
        link := { s.link with gate := s.link.gate.reconfigureIngressSource p config }
        comm := { s.comm with sessionRevokeTotal := n } } := by
  unfold reconfigureIngressSource
  cases (s.link.gate.activeSessions p).isOpen with
  | true => exact ⟨_, rfl⟩
  | false => exact ⟨_, rfl⟩

theorem reconfigureIngressProfile_spec (h : Agreement s)
    (hl : SameLink (s.link.gate.ingressConfigs p) config) (hmac : KeyedHash) (r : UInt32) :
    Reconfigured s p config (reconfigureIngressProfile hmac p config r s).1 := by
  -- the state after the first two of the four calls
  obtain ⟨⟨hag, hc⟩, hcl⟩ := revoke_invalidate_triple s hmac p r
    (secureServiceIdForAuthorityIdentity config.identity) (fun k hk => h.keyService_eq hl hk) s
    ⟨h, Closing.refl s⟩
  generalize hu : ((revokeIngressSource hmac p r).seq (secureAuthInvalidate hmac p
    (secureServiceIdForAuthorityIdentity config.identity)) s).1 = u at hag hc hcl
  have hr : (reconfigureIngressProfile hmac p config r s).1 =
      (publishFileIngressPolicy p config (reconfigureIngressSource hmac p config u).1).1 := by
    rw [← hu]
    rfl
  obtain ⟨n, hn⟩ := reconfigureIngressSource_fst (s := u) (p := p) hmac config
  have hvw := CommandIngressAuthority.reconfigureIngressSource_grantView (g := u.link.gate)
    (p := p) config
  have hg (q : Port) (hq : u.link.gate.grantView q = none) :
      (u.link.gate.reconfigureIngressSource p config).grantView q = none := by
    rw [hvw]
    rcases update_none_or (v := u.link.gate.grantView) (p := p) q with hnn | hs
    · exact hnn
    · exact hs.trans hq
  rw [hr, hn]
  refine ⟨?_, ⟨hg p hcl.gate, hcl.credentials, hcl.pending⟩, fun q hq => ?_, ?_, hc.profile⟩
  · have hnew := hag.withGate (hag.coherent.reconfigureIngressSource (p := p) config)
      (fun q o hq => ?_) (by rw [hvw]; exact update_none_or)
    · exact (hnew.withComm _).withFiles (FileIngressAuthority.filePolicyIn_authView _)
    · rw [CommandIngressAuthority.reconfigureIngressSource_ingressConfigs]
      rcases eq_or_ne q p with rfl | hne
      · rw [Function.update_self]
        rw [hc.configs] at hq
        exact hl.serves hq
      · rwa [Function.update_of_ne hne]
  · have hq' := hc.cleared hq
    exact ⟨hg q hq'.gate, hq'.credentials, hq'.pending⟩
  · rw [← hc.configs]
    exact CommandIngressAuthority.reconfigureIngressSource_ingressConfigs config

theorem Reconfigured.profiled (h : Reconfigured s p config t)
    (hl : SameLink (s.link.gate.ingressConfigs p) config) (hs : Profiled s) : Profiled t := by
  intro q band
  rw [h.profile, h.configs]
  rcases eq_or_ne q p with rfl | hne
  · rw [Function.update_self]
    exact hl.symm.trans (hs q band)
  · rw [Function.update_of_ne hne]
    exact hs q band

theorem applyAuthorityProfiles_spec (h : Agreement s) (hs : Profiled s) (hmac : KeyedHash)
    (r : UInt32) :
    Agreement (applyAuthorityProfiles hmac r s).1 ∧
      Profiled (applyAuthorityProfiles hmac r s).1 ∧
      ∀ p, Cleared (applyAuthorityProfiles hmac r s).1 p := by
  have hsb := hs sbandIngressPort s.comm.primaryCommandLink
  have huhf := hs uhfIngressPort s.comm.primaryCommandLink
  have hf := reconfigureIngressProfile_spec h hsb hmac r
  have hu' : SameLink ((reconfigureIngressProfile hmac sbandIngressPort
      (s.comm.profile sbandIngressPort) r s).1.link.gate.ingressConfigs uhfIngressPort)
      (s.comm.profile uhfIngressPort) := by
    rw [hf.configs, Function.update_of_ne (by decide)]
    exact huhf
  have hsc := reconfigureIngressProfile_spec hf.agreement hu' hmac r
  refine ⟨hsc.agreement, hsc.profiled hu' (hf.profiled hsb hs), fun p => ?_⟩
  rcases eq_or_ne p uhfIngressPort with rfl | hne
  · exact hsc.cleared
  · obtain rfl : p = sbandIngressPort := by
      revert hne
      revert p
      decide
    exact hsc.others _ hf.cleared

/-- What an operation of the outside world guarantees. -/
structure Kept (s t : FlightSystem) : Prop where
  agreement : Agreement t
  profiled : Profiled t
  cleared : ∀ p, t.link.gate.ingressConfigs p ≠ s.link.gate.ingressConfigs p → Cleared t p

theorem setPrimaryLinks_kept (h : Agreement s) (hs : Profiled s) (hmac : KeyedHash)
    (band : CommBand) (r : CommPolicyTransitionReason) :
    Kept s (setPrimaryLinks hmac band r s).1 := by
  obtain ⟨hag, hp, hc⟩ := applyAuthorityProfiles_spec
    (h.withComm { s.comm with primaryCommandLink := band }) (s := { s with
      comm := { s.comm with primaryCommandLink := band } }) hs hmac r.toCode
  exact ⟨hag, hp, fun p _ => hc p⟩

end ObcFlight.FlightSystem
