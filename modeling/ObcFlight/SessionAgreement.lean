import ObcFlight.LinkHistory
import ObcFlight.SessionViews

/-!
# The three copies of a session agree

The command gate holds a session only where the authorizer holds the same
authentication, and the file gate believes exactly what the authorizer knows. The
invariant behind this ties the services together: the key of a port, its pending
challenge, its authentication and every profile it can be given name one service.
-/

namespace ObcFlight.FlightSystem

open SecureLinkAuthorizer (Quiet)

variable {hmac : KeyedHash} {format : FilePacketFormat} {s : FlightSystem} {p : Port}

/-- Profiles of one link, which may differ in the role. -/
structure SameLink (config config' : AuthorityConfig) : Prop where
  identity : config'.identity = config.identity
  valid : config'.valid = config.valid

variable {serviceId : UInt8}

theorem SameLink.serves {c c' : AuthorityConfig} (h : SameLink c c')
    (hs : Serves c serviceId) : Serves c' serviceId := by
  obtain ⟨hvl, hm, hsr⟩ := hs
  refine ⟨by rw [h.valid, hvl], ?_, ?_⟩
  · rw [isCommManagedAuthority_iff] at hm ⊢
    rwa [h.valid, h.identity]
  · rw [← hsr, secureServiceIdForConfig, secureServiceIdForConfig, h.identity]

def keyService (s : FlightSystem) (p : Port) : Option UInt8 :=
  (s.link.authorizer.ingressKeys p).map IngressKey.serviceId

structure Agreement (s : FlightSystem) : Prop where
  coherent : s.link.gate.Coherent
  keyed : ∀ p service, s.keyService p = some service → Serves (s.link.gate.ingressConfigs p) service
  active : ∀ p view, s.link.authorizer.credentials p = some view → s.keyService p = some view.1
  pending : ∀ p challenge, s.link.authorizer.pendingChallenges p = some challenge →
    s.keyService p = some challenge.serviceId
  gate : ∀ p, s.link.gate.grantView p = none ∨
    s.link.gate.grantView p = s.link.authorizer.credentials p
  files : ∀ p, s.files.authView p = (s.link.authorizer.credentials p).map Prod.fst

/-- Every profile the link controller can give a port is one of the port's link. -/
def Profiled (s : FlightSystem) : Prop := ∀ p band,
  SameLink (s.link.gate.ingressConfigs p) ({ s.comm with primaryCommandLink := band }.profile p)

/-- The system after the authorizer moved to a new state and made its calls. -/
def delivered (hmac : KeyedHash) (s : FlightSystem) (a : SecureLinkAuthorizer)
    (os : List AuthorizerOutput) : FlightSystem :=
  { s with
    link := ⟨a, (commandGate hmac).run s.link.gate (os.filterMap AuthorizerOutput.toGate)⟩
    files := notifyFiles s.files (os.map .authorizer) }

variable (f : FileIngressAuthority)

theorem notifyFiles_append (os os' : List LinkOutput) :
    notifyFiles f (os ++ os') = notifyFiles (notifyFiles f os) os' := by
  induction os generalizing f with
  | nil => rfl
  | cons o _ ih =>
    cases o with
    | gate => exact ih f
    | authorizer o => cases o <;> exact ih _

theorem notifyFiles_authorizer (os : List LinkOutput) :
    notifyFiles f os = notifyFiles f ((os.filterMap LinkOutput.ofAuthorizer).map .authorizer) := by
  induction os generalizing f with
  | nil => rfl
  | cons o _ ih =>
    cases o with
    | gate => exact ih f
    | authorizer o => cases o <;> exact ih _

theorem delivered_append (hmac : KeyedHash) (s : FlightSystem) (a a' : SecureLinkAuthorizer) (os os' : List AuthorizerOutput) :
    delivered hmac s a' (os ++ os') = delivered hmac (delivered hmac s a os) a' os' := by
  simp only [delivered, List.filterMap_append, Machine.run_append, List.map_append,
    notifyFiles_append]

theorem delivered_quiet {os : List AuthorizerOutput} (h : Quiet os) (a : SecureLinkAuthorizer) :
    delivered hmac s a os = { s with link := { s.link with authorizer := a } } := by
  have hg := h.toGate_eq_nil
  obtain ⟨-, hgr, hr⟩ := h
  have hf (f : FileIngressAuthority) : notifyFiles f (os.map .authorizer) = f := by
    clear hg
    induction os with
    | nil => rfl
    | cons o =>
      rw [List.filterMap_cons] at hgr hr
      cases o <;> simp_all [notifyFiles, AuthorizerOutput.granted, AuthorizerOutput.revoked]
  simp [delivered, hg, hf]

theorem linkAction_eq_delivered {i : LinkInput} (r : SecureLinkAuthorizer × List AuthorizerOutput)
    (h : s.link.step hmac i = s.link.fromAuthorizer hmac r) :
    (linkAction hmac i s).1 = delivered hmac s r.1 r.2 := by
  simp only [linkAction, h, SecureLink.fromAuthorizer, delivered]
  rw [notifyFiles_authorizer, SecureLink.notifyGate_authorizer, SecureLink.notifyGate_state]

variable {a : SecureLinkAuthorizer}

theorem Agreement.withAuthorizer (h : Agreement s)
    (hk : a.ingressKeys = s.link.authorizer.ingressKeys)
    (hc : a.credentials = s.link.authorizer.credentials)
    (hp : ∀ p c, a.pendingChallenges p = some c → s.keyService p = some c.serviceId) :
    Agreement { s with link := { s.link with authorizer := a } } where
  coherent := h.coherent
  keyed := by simpa only [keyService, hk] using h.keyed
  active := by simpa only [keyService, hk, hc] using h.active
  pending := by simpa only [keyService, hk] using hp
  gate := by simpa only [hc] using h.gate
  files := by simpa only [hc] using h.files

theorem Agreement.sameAuth (h : Agreement s) (hs : s.link.authorizer.SameAuth a) :
    Agreement { s with link := { s.link with authorizer := a } } :=
  h.withAuthorizer hs.ingressKeys hs.credentials (by rw [hs.pendingChallenges]; exact h.pending)

theorem credentials_established (a : SecureLinkAuthorizer) (serviceId : UInt8) (k : Digest)
    (now : FwTime) :
    (a.established p serviceId k now).credentials =
      Function.update a.credentials p (some (serviceId, k)) := by
  refine Function.eq_update_iff.mpr ⟨?_, fun q hne => ?_⟩
  · simp [SecureLinkAuthorizer.credentials, SecureLinkAuthorizer.established]
  · simp [SecureLinkAuthorizer.credentials, SecureLinkAuthorizer.established, hne]

theorem credentials_revokedOn (a : SecureLinkAuthorizer) :
    (a.revokedOn p).credentials = Function.update a.credentials p none := by
  refine Function.eq_update_iff.mpr ⟨?_, fun q hne => ?_⟩
  · simp [SecureLinkAuthorizer.credentials, SecureLinkAuthorizer.revokedOn]
  · simp [SecureLinkAuthorizer.credentials, SecureLinkAuthorizer.revokedOn, hne]

/-- A grant reaches all three copies. The gate cannot refuse it: the service of the key is
the service of the profile. -/
theorem Agreement.established (h : Agreement s) {c : Challenge} {r k : Digest}
    (hest : s.link.authorizer.Establishes hmac p serviceId c r k) (now : FwTime) :
    Agreement (delivered hmac s (s.link.authorizer.established p serviceId k now)
      [.authGrantedOut ⟨p, serviceId, k⟩]) := by
  have hac : s.link.gate.acceptsGrant ⟨p, serviceId, k⟩ = true :=
    CommandIngressAuthority.acceptsGrant_of_serves (h.keyed p serviceId hest.service)
  have hg := CommandIngressAuthority.authGrantedIn_grantView (g := s.link.gate)
    ⟨p, serviceId, k⟩
  rw [if_pos hac] at hg
  refine ⟨h.coherent.authGrantedIn _, fun q o hq => ?_, fun q view hvw => ?_,
    fun q x hp => ?_, fun q => ?_, fun q => ?_⟩
  · have hc := CommandIngressAuthority.authGrantedIn_ingressConfigs (g := s.link.gate)
      ⟨p, serviceId, k⟩
    exact (congrFun hc q).symm ▸ h.keyed q o hq
  · rw [delivered, credentials_established] at hvw
    rcases eq_or_ne q p with rfl | hne
    · rw [Function.update_self, Option.some.injEq] at hvw
      rw [← hvw]
      exact hest.service
    · rw [Function.update_of_ne hne] at hvw
      exact h.active q view hvw
  · rcases eq_or_ne q p with rfl | hne
    · simp [delivered, SecureLinkAuthorizer.established] at hp
    · refine h.pending q x ?_
      simpa [delivered, SecureLinkAuthorizer.established, hne] using hp
  · rw [delivered, credentials_established]
    refine (congrFun hg q).symm ▸ ?_
    rcases eq_or_ne q p with rfl | hne
    · exact .inr (by simp)
    · simpa [hne] using h.gate q
  · rw [delivered, credentials_established]
    refine (congrFun (FileIngressAuthority.authGrantedIn_authView _) q).trans ?_
    rcases eq_or_ne q p with rfl | hne
    · simp
    · simpa [hne] using h.files q

theorem Agreement.revoked (h : Agreement s) {view : UInt8 × Digest}
    (hvw : s.link.authorizer.credentials p = some view) (r : UInt32) :
    Agreement (delivered hmac s (s.link.authorizer.revokedOn p)
      [.authRevokedOut ⟨p, view.1, r⟩]) := by
  have hg : (s.link.gate.authRevokedIn ⟨p, view.1, r⟩).1.grantView =
      Function.update s.link.gate.grantView p none := by
    rw [CommandIngressAuthority.authRevokedIn_grantView h.coherent]
    dsimp only
    rcases h.gate p with hn | hs
    · simp [← hn]
    · simp [hs, hvw]
  have hf : (s.files.authRevokedIn ⟨p, view.1, r⟩).authView =
      Function.update s.files.authView p none := by
    rw [FileIngressAuthority.authRevokedIn_authView, if_pos]
    simp [h.files p, hvw]
  refine ⟨h.coherent.step hmac (.authRevokedIn _), fun q o hq => ?_, fun q v' hq => ?_,
    h.pending, fun q => ?_, fun q => ?_⟩
  · have hc := CommandIngressAuthority.authRevokedIn_ingressConfigs (g := s.link.gate)
      ⟨p, view.1, r⟩
    exact (congrFun hc q).symm ▸ h.keyed q o hq
  · rw [delivered, credentials_revokedOn] at hq
    rcases eq_or_ne q p with rfl | hne
    · simp at hq
    · rw [Function.update_of_ne hne] at hq
      exact h.active q v' hq
  · rw [delivered, credentials_revokedOn]
    refine (congrFun hg q).symm ▸ ?_
    rcases eq_or_ne q p with rfl | hne
    · exact .inl (by simp)
    · simpa [hne] using h.gate q
  · rw [delivered, credentials_revokedOn]
    refine (congrFun hf q).trans ?_
    rcases eq_or_ne q p with rfl | hne
    · simp
    · simpa [hne] using h.files q

theorem Agreement.handshakeUplinkIn (h : Agreement s) (data : Bytes)
    (r : Option RandomNonce) (now : FwTime) :
    Agreement (linkAction hmac (.handshakeUplinkIn p data r now) s).1 := by
  rw [linkAction_eq_delivered (s.link.authorizer.handshakeUplinkIn hmac p data r now) rfl]
  rcases s.link.authorizer.handshakeUplinkIn_cases hmac p data r now with
    ⟨outputs, hq, hr⟩ | ⟨serviceId, nonce, packet, hsr, -, hbl, hr⟩ |
      ⟨serviceId, challenge, response, sessionKey, outputs, hest, hq, hr⟩
  · rw [hr, delivered_quiet hq]
    exact h
  · rw [hr]
    refine h.withAuthorizer rfl rfl fun q x hp => ?_
    rcases eq_or_ne q p with rfl | hne
    · simp only [SecureLinkAuthorizer.challenged, Function.update_self, Option.some.injEq] at hp
      rw [← hp]
      exact hsr
    · refine h.pending q x ?_
      simpa [SecureLinkAuthorizer.challenged, hne] using hp
  · rw [hr]
    have hs := delivered_append hmac s
      (s.link.authorizer.established p serviceId sessionKey now)
      (s.link.authorizer.established p serviceId sessionKey now)
      [.authGrantedOut ⟨p, serviceId, sessionKey⟩] outputs
    rw [List.singleton_append, delivered_quiet hq] at hs
    rw [hs]
    exact h.established hest now

theorem Agreement.checkTimeout (h : Agreement s) (hmac : KeyedHash) (p : Port) (now : FwTime) :
    Agreement (delivered hmac s (s.link.authorizer.checkTimeout p now).1
      (s.link.authorizer.checkTimeout p now).2) := by
  rcases s.link.authorizer.checkTimeout_cases p now with ⟨a, hs, hr⟩ | ⟨x, hac, hr⟩
  · rw [hr, delivered_quiet ⟨rfl, rfl, rfl⟩]
    exact h.sameAuth hs
  · rw [hr]
    have hvw : s.link.authorizer.credentials p = some (x.serviceId, x.sessionKey) := by
      simp [SecureLinkAuthorizer.credentials, hac]
    exact h.revoked hvw revocationTimeout

theorem Agreement.schedIn (h : Agreement s) (now : FwTime) :
    Agreement (linkAction hmac (.schedIn now) s).1 := by
  rw [linkAction_eq_delivered (s.link.authorizer.schedIn now) rfl]
  have hf := h.checkTimeout hmac 0 now
  have hs := hf.checkTimeout hmac 1 now
  rw [← delivered_append] at hs
  exact hs

theorem withoutPending_credentials (a : SecureLinkAuthorizer) (serviceId : UInt8) :
    (a.withoutPending p serviceId).credentials = a.credentials := by
  funext q
  simp [SecureLinkAuthorizer.credentials]

theorem mem_withoutPending {q : Port} {x : PendingChallenge}
    (h : (a.withoutPending p serviceId).pendingChallenges q = some x) :
    a.pendingChallenges q = some x ∧ (q = p → x.serviceId ≠ serviceId) := by
  unfold SecureLinkAuthorizer.withoutPending at h
  split_ifs at h with hm
  · rcases eq_or_ne q p with rfl | hne
    · simp at h
    · exact ⟨by simpa [hne] using h, fun heq => absurd heq hne⟩
  · refine ⟨h, ?_⟩
    rintro rfl heq
    exact hm (by simp [h, heq])

theorem Agreement.authInvalidateIn (h : Agreement s) (hmac : KeyedHash) (r : SecureAuthRevocation) :
    Agreement (linkAction hmac (.authInvalidateIn r) s).1 := by
  rw [linkAction_eq_delivered (s.link.authorizer.authInvalidateIn r) rfl,
    SecureLinkAuthorizer.authInvalidateIn_eq]
  have hdr := h.withAuthorizer
    (SecureLinkAuthorizer.withoutPending_ingressKeys (p := r.ingressPort) r.serviceId)
    (withoutPending_credentials _ _)
    (fun q x hq => h.pending q x (mem_withoutPending hq).1)
  split_ifs with hac
  · obtain ⟨a, hac, hs⟩ := Option.map_eq_some_iff.mp hac
    have hvw : (s.link.authorizer.withoutPending r.ingressPort r.serviceId).credentials
        r.ingressPort = some (r.serviceId, a.sessionKey) := by
      rw [withoutPending_credentials, SecureLinkAuthorizer.credentials, hac, ← hs]
      rfl
    exact hdr.revoked hvw r.reason
  · rw [delivered_quiet ⟨rfl, rfl, rfl⟩]
    exact hdr

theorem Agreement.withGate (h : Agreement s) {g : CommandIngressAuthority} (hc : g.Coherent)
    (hcn : ∀ q o, Serves (s.link.gate.ingressConfigs q) o → Serves (g.ingressConfigs q) o)
    (hvw : ∀ q, g.grantView q = none ∨ g.grantView q = s.link.gate.grantView q) :
    Agreement { s with link := { s.link with gate := g } } where
  coherent := hc
  keyed q o hq := hcn q o (h.keyed q o hq)
  active := h.active
  pending := h.pending
  gate q := by
    rcases hvw q with hn | hs
    · exact .inl hn
    · exact hs ▸ h.gate q
  files := h.files

theorem Agreement.withFiles (h : Agreement s) {f : FileIngressAuthority}
    (hvw : f.authView = s.files.authView) : Agreement { s with files := f } :=
  ⟨h.coherent, h.keyed, h.active, h.pending, h.gate, by simpa only [hvw] using h.files⟩

theorem update_none_or {v : Port → Option (UInt8 × Digest)} (q : Port) :
    Function.update v p none q = none ∨ Function.update v p none q = v q := by
  rcases eq_or_ne q p with rfl | hne
  · exact .inl (Function.update_self ..)
  · exact .inr (Function.update_of_ne hne ..)

theorem notifyFiles_gate (os : List GateOutput) : notifyFiles f (os.map .gate) = f := by
  induction os with
  | nil => rfl
  | cons _ _ ih => exact ih

theorem Agreement.seqCmdBuffIn (h : Agreement s) (data : Bytes) (n : UInt32)
    (c : SequenceControlRequest → SequenceControlResult) (now : FwTime) :
    Agreement (linkAction hmac (.seqCmdBuffIn p data n c now) s).1 := by
  obtain ⟨hvw, hc⟩ := CommandIngressAuthority.seqCmdBuffIn_grantView hmac c s.link.gate p data n
  have hg := h.withGate (h.coherent.step hmac (.seqCmdBuffIn p data n c))
    (fun q _ hq => (congrFun hc q).symm ▸ hq) (fun q => .inr (congrFun hvw q))
  have hat := hg.sameAuth (SecureLink.notifyAuthorizer_sameAuth now s.link.authorizer
    (s.link.gate.seqCmdBuffIn hmac c p data n).2)
  exact hat.withFiles (congrArg _ (notifyFiles_gate s.files _))

theorem Agreement.seqCmdStatusIn (h : Agreement s) (hmac : KeyedHash) (o c : UInt32) (r : CmdResponse) :
    Agreement (linkAction hmac (.seqCmdStatusIn p o c r) s).1 := by
  have hg := h.withGate (h.coherent.step hmac (.seqCmdStatusIn p o c r))
    (fun _ _ hq => hq) fun _ => .inr rfl
  exact hg.withFiles (congrArg _ (notifyFiles_gate s.files _))

theorem Agreement.sequenceControlStatusIn (h : Agreement s) (hmac : KeyedHash)
    (x : SequenceControlStatus) :
    Agreement (linkAction hmac (.sequenceControlStatusIn x) s).1 := by
  have hg := h.withGate (h.coherent.step hmac (.sequenceControlStatusIn x))
    (fun _ _ hq => hq) fun _ => .inr rfl
  exact hg.withFiles (congrArg _ (notifyFiles_gate s.files _))

theorem Agreement.filesAction (h : Agreement s) (now : FwTime) {i : FileIngressInput}
    (hvw : (s.files.step format i).1.authView = s.files.authView) :
    Agreement (filesAction format now i s).1 := by
  have hs (a : SecureLinkAuthorizer) (os : List FileIngressOutput) :
      a.SameAuth (notifyAuthorizer now a os) := by
    induction os generalizing a with
    | nil => exact SecureLinkAuthorizer.sameAuth_refl
    | cons o _ ih =>
      cases o with
      | authActivityOut x => exact (a.authActivityIn_sameAuth x now).trans (ih _)
      | _ => exact ih a
  exact (h.sameAuth (hs _ _)).withFiles hvw

end ObcFlight.FlightSystem
