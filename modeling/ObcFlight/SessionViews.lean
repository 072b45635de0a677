import ObcFlight.FileIngressGate
import ObcFlight.FlightSystem

/-!
# What each component believes about the session of a port

The authorizer, the command gate and the file gate each keep a copy of the
authentication of a port. The views below reduce the three copies to comparable data and
say how every handler moves them.
-/

namespace ObcFlight

namespace CommandIngressAuthority

variable {hmac : KeyedHash} {g : CommandIngressAuthority} {p : Port}

def grantView (g : CommandIngressAuthority) (p : Port) : Option (UInt8 × Digest) :=
  if (g.activeSessions p).isOpen then
    some ((g.activeSessions p).serviceId, (g.activeSessions p).secureSessionKey)
  else none

theorem grantView_of_isOpen (h : (g.activeSessions p).isOpen = true) :
    g.grantView p = some ((g.activeSessions p).serviceId, (g.activeSessions p).secureSessionKey) :=
  if_pos h

theorem SameSessions.grantView_eq {g' : CommandIngressAuthority} (h : SameSessions g g') :
    g'.grantView = g.grantView := by
  funext q
  obtain ⟨n, hn⟩ := h.sessions q
  simp only [grantView, hn]

variable (reason : UInt32)

theorem closeSession_grantView (n : Bool) :
    (g.closeSession p reason n).1.grantView = Function.update g.grantView p none := by
  refine Function.eq_update_iff.mpr ⟨?_, fun q hne => ?_⟩
  · simp [grantView, closeSession, clearActiveSession, setSession]
  · simp [grantView, closeSession, clearActiveSession, setSession, resetSource, hne]

theorem reconfigureIngressSource_grantView (c : AuthorityConfig) :
    (g.reconfigureIngressSource p c).grantView = Function.update g.grantView p none := by
  refine Function.eq_update_iff.mpr ⟨?_, fun q hne => ?_⟩
  · simp [grantView, reconfigureIngressSource, clearActiveSession, setSession]
  · simp [grantView, reconfigureIngressSource, clearActiveSession, setSession, hne]

@[simp] theorem reconfigureIngressSource_ingressConfigs (config : AuthorityConfig) :
    (g.reconfigureIngressSource p config).ingressConfigs =
      Function.update g.ingressConfigs p config := by
  simp [reconfigureIngressSource, clearActiveSession, setSession]

theorem revokeIngressSource_grantView (n : Bool) :
    (g.revokeIngressSource p reason n).1.grantView = Function.update g.grantView p none := by
  cases ho : (g.activeSessions p).isOpen with
  | true => simp [revokeIngressSource, ho, closeSession_grantView]
  | false =>
    have hnone : g.grantView p = none := by simp [grantView, ho]
    simp [revokeIngressSource, ho, ← hnone]

theorem authGrantedIn_grantView (grant : SecureAuthGrant) :
    (g.authGrantedIn grant).1.grantView =
      if g.acceptsGrant grant then
        Function.update g.grantView grant.ingressPort (some (grant.serviceId, grant.sessionKey))
      else g.grantView := by
  rw [authGrantedIn_eq]
  split_ifs
  · refine Function.eq_update_iff.mpr ⟨?_, fun q hne => ?_⟩
    · simp [grantView, synthesizeSecureSessionFromAuthGrant, nextRuntimeSessionToken_, setSession,
        resetSource]
    · simp [grantView, synthesizeSecureSessionFromAuthGrant, nextRuntimeSessionToken_, setSession,
        resetSource, hne]
  · rfl

theorem authRevokedIn_grantView (h : g.Coherent) (r : SecureAuthRevocation) :
    (g.authRevokedIn r).1.grantView =
      if (g.grantView r.ingressPort).map Prod.fst = some r.serviceId then
        Function.update g.grantView r.ingressPort none
      else g.grantView := by
  rw [authRevokedIn, revokeSecureSession_eq]
  cases ho : (g.activeSessions r.ingressPort).isOpen with
  | false => simp [holdsSession, ho, grantView]
  | true =>
    have hat := (h.matchesConfig _ ho).secureAuthenticated
    simp only [holdsSession, ho, hat, Bool.and_self, Bool.true_and, decide_eq_true_eq,
      grantView_of_isOpen ho, Option.map_some, Option.some.injEq]
    split_ifs
    · exact closeSession_grantView _ _
    · rfl

theorem seqCmdBuffIn_grantView (hmac : KeyedHash)
    (c : SequenceControlRequest → SequenceControlResult) (g : CommandIngressAuthority)
    (p : Port) (data : Bytes) (n : UInt32) :
    (g.seqCmdBuffIn hmac c p data n).1.grantView = g.grantView ∧
      (g.seqCmdBuffIn hmac c p data n).1.ingressConfigs = g.ingressConfigs := by
  cases hc : isCommManagedAuthority (g.ingressConfigs p) with
  | false =>
    have hs := (seqCmdBuffIn_direct hmac c g p data n hc).1
    exact ⟨hs.grantView_eq, hs.configs⟩
  | true =>
    rcases seqCmdBuffIn_cases hmac c g p data n hc with
      ⟨r, hr⟩ | ⟨-, outer, a, inner, tag, -, -, -, -, -, hrs⟩
    · rw [hr]
      exact ⟨(reject_sameSessions r).grantView_eq, (reject_sameSessions r).configs⟩
    · rw [hrs]
      exact ⟨(handOn_sameSessions a).grantView_eq, (handOn_sameSessions a).configs⟩

@[simp] theorem authGrantedIn_ingressConfigs (grant : SecureAuthGrant) :
    (g.authGrantedIn grant).1.ingressConfigs = g.ingressConfigs := by
  rw [authGrantedIn_eq]
  split_ifs
  · simp [synthesizeSecureSessionFromAuthGrant, nextRuntimeSessionToken_, setSession, resetSource]
  · rfl

@[simp] theorem authRevokedIn_ingressConfigs (r : SecureAuthRevocation) :
    (g.authRevokedIn r).1.ingressConfigs = g.ingressConfigs := by
  rw [authRevokedIn, revokeSecureSession_eq]
  split_ifs <;> rfl

@[simp] theorem revokeIngressSource_ingressConfigs (n : Bool) :
    (g.revokeIngressSource p reason n).1.ingressConfigs = g.ingressConfigs := by
  unfold revokeIngressSource
  split_ifs <;> rfl

/-- A session that stands after an input was granted by it or stood before; either way the
input did not reconfigure the port. -/
theorem step_grantView (hmac : KeyedHash) {i : GateInput} {view : UInt8 × Digest}
    (h : (g.step hmac i).1.grantView p = some view) :
    (g.step hmac i).1.ingressConfigs p = g.ingressConfigs p ∧
      (i = .authGrantedIn ⟨p, view.1, view.2⟩ ∨ g.grantView p = some view) := by
  have keep {q : Port} (hk : Function.update g.grantView q none p = some view) :
      p ≠ q ∧ g.grantView p = some view := by
    rcases eq_or_ne p q with rfl | hne
    · simp at hk
    · exact ⟨hne, by simpa [hne] using hk⟩
  cases i with
  | seqCmdBuffIn q data n c =>
    obtain ⟨hvw, hc⟩ := seqCmdBuffIn_grantView hmac c g q data n
    simp only [step] at h ⊢
    exact ⟨by rw [hc], .inr (by rwa [hvw] at h)⟩
  | authGrantedIn grant =>
    simp only [step, authGrantedIn_grantView, authGrantedIn_ingressConfigs] at h ⊢
    refine ⟨trivial, ?_⟩
    split_ifs at h with hac
    · rcases eq_or_ne p grant.ingressPort with rfl | hne
      · rw [Function.update_self, Option.some.injEq] at h
        exact .inl (by rw [← h])
      · exact .inr (by simpa [hne] using h)
    · exact .inr h
  | authRevokedIn =>
    simp only [step, authRevokedIn_ingressConfigs] at h ⊢
    rw [authRevokedIn, revokeSecureSession_eq] at h
    split_ifs at h
    · rw [closeSession_grantView] at h
      exact ⟨trivial, .inr (keep h).2⟩
    · exact ⟨trivial, .inr h⟩
  | reconfigureIngressSource =>
    simp only [step, reconfigureIngressSource_grantView] at h
    obtain ⟨hne, hold⟩ := keep h
    exact ⟨by simp [step, hne], .inr hold⟩
  | revokeIngressSource =>
    simp only [step, revokeIngressSource_grantView, revokeIngressSource_ingressConfigs] at h ⊢
    exact ⟨trivial, .inr (keep h).2⟩
  | seqCmdStatusIn | sequenceControlStatusIn => exact ⟨rfl, .inr h⟩

theorem run_grantView {is : List GateInput} {view : UInt8 × Digest}
    (h : ((commandGate hmac).run g is).grantView p = some view) :
    ((commandGate hmac).run g is).ingressConfigs p = g.ingressConfigs p ∧
        g.grantView p = some view ∨
      .authGrantedIn ⟨p, view.1, view.2⟩ ∈ is := by
  induction is generalizing g with
  | nil => exact .inl ⟨rfl, h⟩
  | cons _ _ ih =>
    rw [Machine.run_cons] at h ⊢
    rcases ih h with ⟨hc, hvw⟩ | hg
    · obtain ⟨hs, rfl | hold⟩ := step_grantView hmac hvw
      · exact .inr (List.mem_cons_self ..)
      · exact .inl ⟨hc.trans hs, hold⟩
    · exact .inr (List.mem_cons_of_mem _ hg)

end CommandIngressAuthority

namespace FileIngressAuthority

variable {f : FileIngressAuthority} {p : Port}

def authView (f : FileIngressAuthority) (p : Port) : Option UInt8 :=
  if (f.ingressState p).secureAuthActive then some (f.ingressState p).serviceId else none

theorem authView_updatePort (s : IngressRuntimeState) :
    (f.updatePort p s).authView =
      Function.update f.authView p (if s.secureAuthActive then some s.serviceId else none) :=
  Function.eq_update_iff.mpr ⟨by simp [authView, updatePort], fun q hne => by
    simp [authView, updatePort, hne]⟩

theorem authView_congr {f' : FileIngressAuthority} (h : f'.ingressState = f.ingressState) :
    f'.authView = f.authView := by
  funext q
  simp only [authView, h]

theorem authView_setDropTransfer (e : Bool) : (f.setDropTransfer p e).authView = f.authView := by
  rw [setDropTransfer, authView_updatePort]
  exact Function.update_eq_self p f.authView

theorem authGrantedIn_authView (grant : SecureAuthGrant) :
    (f.authGrantedIn grant).authView = Function.update f.authView grant.ingressPort (some grant.serviceId) :=
  authView_updatePort _

theorem authRevokedIn_authView (r : SecureAuthRevocation) :
    (f.authRevokedIn r).authView =
      if f.authView r.ingressPort = some r.serviceId then
        Function.update f.authView r.ingressPort none
      else f.authView := by
  have hh : f.holdsAuth r = true ↔ f.authView r.ingressPort = some r.serviceId := by
    cases hac : (f.ingressState r.ingressPort).secureAuthActive <;>
      simp [holdsAuth, authView, hac]
  simp only [authRevokedIn, hh]
  split_ifs
  · exact authView_updatePort _
  · rfl

theorem filePolicyIn_authView (q : FileIngressPolicyState) :
    (f.filePolicyIn q).authView = f.authView := by
  simp only [filePolicyIn]
  rw [authView_updatePort]
  cases q.fileAllowed <;> exact Function.update_eq_self q.ingressPort f.authView

theorem PacketEffect.authView_eq {f' : FileIngressAuthority} {es : List TransferEvent}
    (h : PacketEffect f f' p es) : f'.authView = f.authView := by
  cases h with
  | accepted h | refused h | dropped h => rw [authView_congr h, authView_setDropTransfer]
  | passed h => exact authView_congr h

theorem bufferReturnIn_authView (b : FwBuffer) : (f.bufferReturnIn b).1.authView = f.authView := by
  unfold bufferReturnIn
  split <;> rfl

end FileIngressAuthority

end ObcFlight
