import ObcFlight.FlightSystem

/-!
# Session callbacks and the controller's lock

The link controller holds its lock while it switches the primary band, reconfigures the ingress
ports or fails over, and it is also the observer that the command gate calls when a session is
opened, used or revoked. These callbacks take the same lock, which is not recursive. Revoking a
session and invalidating an authentication both lead back to the gate: the first is told not to
notify, and the second finds the session already closed.
-/

namespace ObcFlight

/-- The callbacks of the session observer, each of which takes the controller's lock. -/
def GateOutput.callsObserver : GateOutput → Bool
  | .sessionOpened .. => true
  | .sessionActivity .. => true
  | .sessionRevoked .. => true
  | _ => false

def SystemOutput.callsObserver : SystemOutput → Bool
  | .link (.gate o) => o.callsObserver
  | _ => false

namespace FlightSystem

/-- An operation under the controller's lock. A callback made meanwhile waits for the lock that
its own caller holds, and the operation does not return. -/
def underLock (a : SystemAction) (s : FlightSystem) : Option (FlightSystem × List SystemOutput) :=
  if (a s).2.any SystemOutput.callsObserver then none else some (a s)

def NotObserved (o : SystemOutput) : Prop := o.callsObserver = false

theorem underLock_of_emits {a : SystemAction} {P : FlightSystem → Prop} (h : a.Emits P NotObserved)
    {s : FlightSystem} (hs : P s) : underLock a s = some (a s) := by
  have hnone : (a s).2.any SystemOutput.callsObserver = false :=
    List.any_eq_false.mpr fun o ho => by rw [h s hs o ho]; decide
  rw [underLock, hnone]
  rfl

def NoSession (p : Port) (s : FlightSystem) : Prop := (s.link.gate.activeSessions p).isOpen = false

variable (hmac : KeyedHash) (p : Port) (reason : UInt32)

theorem revokeIngressSource_noSession :
    Action.Triple (fun _ => True) (revokeIngressSource hmac p reason) (NoSession p) := by
  refine Action.Triple.guarded (fun s _ hc => hc) ?_
  rintro s ⟨-, ho⟩
  show (((s.link.gate.revokeIngressSource p reason false).1).activeSessions p).isOpen = false
  rw [CommandIngressAuthority.revokeIngressSource, ho]
  simp [CommandIngressAuthority.closeSession, CommandIngressAuthority.clearActiveSession,
    CommandIngressAuthority.setSession]

theorem revokeIngressSource_emits :
    (revokeIngressSource hmac p reason).Emits (fun _ => True) NotObserved := by
  refine Action.Emits.guarded (Action.Emits.seq_of_true ?_ (Action.emits_modify _ _ _))
  intro s _ o ho
  have hnone : (s.link.gate.revokeIngressSource p reason false).2 = [] := by
    unfold CommandIngressAuthority.revokeIngressSource
    split <;> rfl
  simp only [linkAction, SecureLink.step, SecureLink.fromGate, hnone] at ho
  cases ho

variable {g : CommandIngressAuthority}

theorem authRevokedIn_of_noSession {r : SecureAuthRevocation}
    (h : (g.activeSessions r.ingressPort).isOpen = false) :
    g.authRevokedIn r = (g, []) := by
  rw [CommandIngressAuthority.authRevokedIn, CommandIngressAuthority.revokeSecureSession, h]
  rfl

variable (a : SecureLinkAuthorizer)

theorem revokeActiveAuth_outputs (p : Port) (reason : UInt32) :
    ∀ o ∈ (a.revokeActiveAuth_ p reason true).2, ∃ r : SecureAuthRevocation,
      o = .authRevokedOut r ∧ r.ingressPort = p := by
  intro o ho
  unfold SecureLinkAuthorizer.revokeActiveAuth_ at ho
  split at ho
  · cases ho
  · rw [if_pos rfl, List.mem_singleton] at ho
    exact ⟨_, ho, rfl⟩

theorem authInvalidateIn_outputs (v : SecureAuthRevocation) :
    ∀ o ∈ (a.authInvalidateIn v).2, ∃ r : SecureAuthRevocation,
      o = .authRevokedOut r ∧ r.ingressPort = v.ingressPort := by
  intro o ho
  simp only [SecureLinkAuthorizer.authInvalidateIn] at ho
  split_ifs at ho
  · exact revokeActiveAuth_outputs _ _ _ o ho
  · cases ho
  · exact revokeActiveAuth_outputs _ _ _ o ho
  · cases ho

theorem notifyGate_of_noSession {p : Port} (h : (g.activeSessions p).isOpen = false)
    {os : List AuthorizerOutput}
    (hos : ∀ o ∈ os, ∃ r : SecureAuthRevocation, o = .authRevokedOut r ∧ r.ingressPort = p) :
    (SecureLink.notifyGate hmac g os).2 = os.map .authorizer := by
  induction os with
  | nil => rfl
  | cons o _ ih =>
    obtain ⟨r, rfl, rfl⟩ := hos o List.mem_cons_self
    have hg : g.step hmac (.authRevokedIn r) = (g, []) := authRevokedIn_of_noSession h
    have hr := ih fun o ho => hos o (List.mem_cons_of_mem _ ho)
    simp only [SecureLink.notifyGate, AuthorizerOutput.toGate, hg, hr, List.map_nil, List.nil_append,
      List.map_cons]

theorem secureAuthInvalidate_emits (n : UInt8) :
    (secureAuthInvalidate hmac p n).Emits (NoSession p) NotObserved := by
  unfold secureAuthInvalidate
  split_ifs
  · exact Action.emits_skip _ _
  · intro s hs o ho
    have hnt := notifyGate_of_noSession hmac hs
      (authInvalidateIn_outputs s.link.authorizer ⟨p, n, revocationInvalidated⟩)
    simp only [linkAction, SecureLink.step, SecureLink.fromAuthorizer, hnt, List.map_map] at ho
    obtain ⟨o', -, rfl⟩ := List.mem_map.mp ho
    rfl

theorem reconfigureIngressSource_emits (c : AuthorityConfig) :
    (reconfigureIngressSource hmac p c).Emits (fun _ => True) NotObserved := by
  intro s _ o ho
  simp only [reconfigureIngressSource, Action.seq, linkAction, SecureLink.step, List.map_nil, List.nil_append] at ho
  split_ifs at ho <;> cases ho

theorem revokeAndInvalidate_emits (s : UInt8) :
    ((revokeIngressSource hmac p reason).seq (secureAuthInvalidate hmac p s)).Emits (fun _ => True)
      NotObserved :=
  (revokeIngressSource_emits hmac p reason).seq (revokeIngressSource_noSession hmac p reason)
    (secureAuthInvalidate_emits hmac p s)

theorem reconfigureIngressProfile_emits (c : AuthorityConfig) (reason : UInt32) :
    (reconfigureIngressProfile hmac p c reason).Emits (fun _ => True) NotObserved := by
  refine (revokeIngressSource_emits hmac p reason).seq (revokeIngressSource_noSession hmac p reason) ?_
  refine (secureAuthInvalidate_emits hmac p _).seq_of_true ?_
  exact (reconfigureIngressSource_emits hmac p c).seq_of_true (Action.emits_modify _ _ _)

theorem applyAuthorityProfiles_emits :
    (applyAuthorityProfiles hmac reason).Emits (fun _ => True) NotObserved := by
  intro s _
  exact (reconfigureIngressProfile_emits hmac _ _ reason).seq_of_true
    (reconfigureIngressProfile_emits hmac _ _ reason) s trivial

theorem setPrimaryLinks_emits (band : CommBand) (reason : CommPolicyTransitionReason) :
    (setPrimaryLinks hmac band reason).Emits (fun _ => True) NotObserved :=
  (Action.emits_modify _ _ _).seq_of_true (applyAuthorityProfiles_emits hmac reason.toCode)

theorem revokePrimary_emits : (revokePrimary hmac).Emits (fun _ => True) NotObserved := by
  intro s _
  exact revokeAndInvalidate_emits hmac _ _ _ s trivial

theorem respond_emits {o : SystemOutput} (h : NotObserved o) : (respond o).Emits (fun _ => True) NotObserved := by
  intro s _ o' ho'
  rw [List.mem_singleton.mp ho']
  exact h

theorem setActiveBandForRuntime_emits (band : CommBand) (a : Bool) :
    (setActiveBandForRuntime hmac band a).Emits (fun _ => True) NotObserved := by
  unfold setActiveBandForRuntime
  split_ifs
  · exact respond_emits rfl
  · exact (setPrimaryLinks_emits hmac band _).seq_of_true (respond_emits rfl)

theorem performRecoveryLinkFailover_emits (c b f : Bool) :
    (performRecoveryLinkFailoverForRuntime hmac c b f).Emits (fun _ => True) NotObserved := by
  intro s _ o ho
  unfold performRecoveryLinkFailoverForRuntime at ho
  dsimp only at ho
  -- in each branch the report comes last
  split_ifs at ho
  · rw [List.nil_append, List.mem_singleton] at ho
    rw [ho]
    rfl
  · rcases List.mem_append.mp ho with hs | hr
    · exact setPrimaryLinks_emits hmac _ _ s trivial o hs
    · rw [List.mem_singleton.mp hr]
      rfl
  · rcases List.mem_append.mp ho with hrv | hr
    · exact revokePrimary_emits hmac s trivial o hrv
    · rw [List.mem_singleton.mp hr]
      rfl

theorem configureRuntime_emits (i : CommBand) (s u : AuthorityConfig) :
    (configureRuntime hmac i s u).Emits (fun _ => True) NotObserved := by
  refine (Action.emits_modify _ _ _).seq_of_true ?_
  exact (Action.Emits.guarded (setPrimaryLinks_emits hmac _ _)).seq_of_true (applyAuthorityProfiles_emits hmac 0)

/-- In every state of the three components each operation under the lock returns: the choice of the
primary band by command, by recovery and at configuration, the reconfiguration of a port, and the
revocation of the primary port's session. -/
theorem locked_operations_return (hmac : KeyedHash) (s : FlightSystem) :
    (∀ band available, underLock (setActiveBandForRuntime hmac band available) s =
        some (setActiveBandForRuntime hmac band available s)) ∧
      (∀ band reason, underLock (setPrimaryLinks hmac band reason) s = some (setPrimaryLinks hmac band reason s)) ∧
      (∀ p config reason, underLock (reconfigureIngressProfile hmac p config reason) s =
        some (reconfigureIngressProfile hmac p config reason s)) ∧
      (∀ currentAvailable backupAvailable fdirFaultLatched,
        underLock (performRecoveryLinkFailoverForRuntime hmac currentAvailable backupAvailable fdirFaultLatched) s =
          some (performRecoveryLinkFailoverForRuntime hmac currentAvailable backupAvailable fdirFaultLatched s)) ∧
      (∀ band sbandConfig uhfConfig, underLock (configureRuntime hmac band sbandConfig uhfConfig) s =
        some (configureRuntime hmac band sbandConfig uhfConfig s)) ∧
      underLock (revokePrimary hmac) s = some (revokePrimary hmac s) := by
  refine ⟨fun band available => ?_, fun band reason => ?_, fun p config reason => ?_, fun current backup latched => ?_,
    fun band sbandConfig uhfConfig => ?_, ?_⟩
  · exact underLock_of_emits (setActiveBandForRuntime_emits hmac band available) trivial
  · exact underLock_of_emits (setPrimaryLinks_emits hmac band reason) trivial
  · exact underLock_of_emits (reconfigureIngressProfile_emits hmac p config reason) trivial
  · exact underLock_of_emits (performRecoveryLinkFailover_emits hmac current backup latched) trivial
  · exact underLock_of_emits (configureRuntime_emits hmac band sbandConfig uhfConfig) trivial
  · exact underLock_of_emits (revokePrimary_emits hmac) trivial

end FlightSystem

end ObcFlight
