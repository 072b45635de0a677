import ObcFlight.SecureLinkAuthorizer
import ObcFlight.SessionLog

/-!
# What the authorizer can do

A handshake packet is answered without effect, or issues a challenge, or consumes the
pending challenge of its port and authenticates. Seen through its pending challenges
the authorizer is a session table in which every challenge is accepted at most once.
-/

namespace ObcFlight

open WireCodec

/-- The challenge that a downlink packet carries, if it is a challenge packet. -/
def challengeOfPacket (packet : Bytes) : Option Challenge :=
  let parsed := parseSecureHandshakePacket (unwrapHandshakePacketPayload packet)
  if parsed.valid && parsed.message.type = .challenge then some parsed.message.challenge else none

def AuthorizerOutput.issuedChallenge : AuthorizerOutput → Option Challenge
  | .handshakePacketOut _ packet => challengeOfPacket packet
  | .bufferReturnOut _ _ => none
  | .authGrantedOut _ => none
  | .authRevokedOut _ => none

def AuthorizerOutput.granted : AuthorizerOutput → Option SecureAuthGrant
  | .authGrantedOut grant => some grant
  | .bufferReturnOut _ _ => none
  | .handshakePacketOut _ _ => none
  | .authRevokedOut _ => none

def AuthorizerOutput.revoked : AuthorizerOutput → Option SecureAuthRevocation
  | .authRevokedOut revocation => some revocation
  | .bufferReturnOut _ _ => none
  | .handshakePacketOut _ _ => none
  | .authGrantedOut _ => none

@[simp] theorem Challenge.copy_val (c : Challenge) : Challenge.copy c.1 = c := by
  apply Subtype.ext
  simp [Challenge.copy, c.2]

@[simp] theorem unwrapHandshakePacketPayload_wrapped (payload : Bytes) :
    unwrapHandshakePacketPayload (u16.encode fwPacketHand ++ payload) = payload := by
  simp [unwrapHandshakePacketPayload]

theorem challengeOfPacket_challenge {serviceId : UInt8} {challenge : Challenge} {b : Bytes}
    (h : buildSecureChallengePacket serviceId challenge = some b) :
    challengeOfPacket b = some challenge := by
  unfold buildSecureChallengePacket at h
  split_ifs at h with hs
  simp only [Bool.not_eq_true', Bool.not_eq_false, Option.some.injEq] at hs h
  subst h
  have hp := parseSecureHandshakePacket_serialize .challenge hs challenge.1
    (by rw [challenge.2]; rfl)
  simp [challengeOfPacket, hp, handshakeMessage]

theorem challengeOfPacket_status {serviceId : UInt8} {s : UInt32} {b : Bytes}
    (h : buildSecureAuthStatusPacket serviceId s = some b) :
    challengeOfPacket b = none := by
  unfold buildSecureAuthStatusPacket at h
  split_ifs at h with hs
  simp only [Bool.not_eq_true', Bool.not_eq_false, Option.some.injEq] at hs h
  subst h
  have hp := parseSecureHandshakePacket_serialize .authStatus hs (u32.encode s)
    (by rw [u32_encode_length]; rfl)
  simp [challengeOfPacket, hp, handshakeMessage]

/-- The last activity lies so far back that the tick ends the authentication. -/
def ActiveAuth.TimedOut (active : ActiveAuth) (now : FwTime) : Prop :=
  ∃ elapsed ∈ computeElapsedTime now active.lastActivityTime, secureLinkAuthTimeoutSeconds ≤ elapsed.seconds

namespace SecureLinkAuthorizer

variable {hmac : KeyedHash} {a : SecureLinkAuthorizer} {p : Port}

/-- Outputs that neither issue a challenge nor speak to the gates. -/
def Quiet (outputs : List AuthorizerOutput) : Prop :=
  outputs.filterMap AuthorizerOutput.issuedChallenge = [] ∧
    outputs.filterMap AuthorizerOutput.granted = [] ∧
    outputs.filterMap AuthorizerOutput.revoked = []

theorem quiet_emitAuthStatus (serviceId : UInt8) (s : SecureAuthStatusCode) :
    Quiet (emitAuthStatus_ p serviceId s) := by
  unfold emitAuthStatus_
  split
  next b hp =>
    have hnone := challengeOfPacket_status hp
    simp [Quiet, AuthorizerOutput.issuedChallenge, AuthorizerOutput.granted,
      AuthorizerOutput.revoked, hnone]
  next => simp [Quiet]

theorem Quiet.append {os os' : List AuthorizerOutput} (h : Quiet os) (h' : Quiet os') :
    Quiet (os ++ os') := by
  obtain ⟨his, hg, hr⟩ := h
  obtain ⟨hi', hg', hr'⟩ := h'
  refine ⟨?_, ?_, ?_⟩ <;> rw [List.filterMap_append]
  · rw [his, hi', List.append_nil]
  · rw [hg, hg', List.append_nil]
  · rw [hr, hr', List.append_nil]

theorem quiet_bufferReturn (data : Bytes) : Quiet [.bufferReturnOut p data] := ⟨rfl, rfl, rfl⟩

def challenged (a : SecureLinkAuthorizer) (p : Port) (serviceId : UInt8) (nonce : RandomNonce) :
    SecureLinkAuthorizer :=
  { a with
    pendingChallenges := Function.update a.pendingChallenges p
      (some ⟨serviceId, Challenge.ofParts a.moduleSerial nonce⟩)
    challengeTotal := a.challengeTotal + 1 }

def established (a : SecureLinkAuthorizer) (p : Port) (serviceId : UInt8) (sessionKey : Digest)
    (now : FwTime) : SecureLinkAuthorizer :=
  { a with
    activeAuth := Function.update a.activeAuth p (some ⟨serviceId, sessionKey, now⟩)
    pendingChallenges := Function.update a.pendingChallenges p none
    establishedTotal := a.establishedTotal + 1 }

/-- What an answered challenge guarantees. -/
structure Establishes (hmac : KeyedHash) (a : SecureLinkAuthorizer) (p : Port) (serviceId : UInt8)
    (challenge : Challenge) (response sessionKey : Digest) : Prop where
  pending : a.pendingChallenges p = some ⟨serviceId, challenge⟩
  service : (a.ingressKeys p).map IngressKey.serviceId = some serviceId
  derived : deriveSecureSessionKey hmac (a.rootKey p) serviceId challenge = some sessionKey
  response_eq : computeSecureAuthResponse hmac sessionKey = some response

variable {serviceId : UInt8}

theorem establishAuth_cases (hmac : KeyedHash) (a : SecureLinkAuthorizer) (p : Port)
    (hsr : (a.ingressKeys p).map IngressKey.serviceId = some serviceId) (r : Digest)
    (now : FwTime) : a.establishAuth_ hmac p serviceId r now =
        (a, emitAuthStatus_ p serviceId .notAuthenticated) ∨
      ∃ c s, Establishes hmac a p serviceId c r s ∧
        a.establishAuth_ hmac p serviceId r now =
          (a.established p serviceId s now,
            .authGrantedOut ⟨p, serviceId, s⟩ :: emitAuthStatus_ p serviceId .authenticated) := by
  unfold establishAuth_
  cases hp : a.pendingChallenges p with
  | none => exact Or.inl rfl
  | some x =>
    obtain ⟨ps, c⟩ := x
    dsimp only
    by_cases hs : ps = serviceId
    · subst hs
      simp only [ne_eq, not_true_eq_false, if_false]
      cases hdr : deriveSecureSessionKey hmac (a.rootKey p) ps c with
      | none => exact Or.inl rfl
      | some s =>
        cases hvr : verifySecureAuthResponse hmac s r with
        | false => exact Or.inl (by simp only [hvr, Bool.not_false, if_true])
        | true =>
          have hr := (verifySecureAuthResponse_iff hmac s r).mp hvr
          refine Or.inr ⟨c, s, ⟨hp, hsr, hdr, hr⟩, ?_⟩
          simp only [hvr, Bool.not_true, Bool.false_eq_true, if_false]
          rfl
    · exact Or.inl (if_pos hs)

theorem issueChallenge_cases (a : SecureLinkAuthorizer) (p : Port)
    (hs : (a.ingressKeys p).map IngressKey.serviceId = some serviceId) (r : Option RandomNonce) :
    a.issueChallenge_ p serviceId r = (a, emitAuthStatus_ p serviceId .internalError) ∨
      ∃ n b, r = some n ∧
        buildSecureChallengePacket serviceId (Challenge.ofParts a.moduleSerial n) = some b ∧
        a.issueChallenge_ p serviceId r =
          (a.challenged p serviceId n, [.handshakePacketOut p b]) := by
  cases r with
  | none => exact Or.inl rfl
  | some n =>
    obtain ⟨key, hkey, rfl⟩ := Option.map_eq_some_iff.mp hs
    have hbl : buildSecureChallengePacket key.serviceId
        (Challenge.ofParts a.moduleSerial n) = some _ := if_neg (by simp [key.supported])
    refine Or.inr ⟨n, _, rfl, hbl, ?_⟩
    simp only [issueChallenge_, hbl]
    rfl

theorem handshakeUplinkIn_cases (hmac : KeyedHash) (a : SecureLinkAuthorizer) (p : Port)
    (data : Bytes) (r : Option RandomNonce) (now : FwTime) :
    (∃ o, Quiet o ∧ a.handshakeUplinkIn hmac p data r now = (a, o)) ∨
      (∃ serviceId n b, (a.ingressKeys p).map IngressKey.serviceId = some serviceId ∧
        r = some n ∧
        buildSecureChallengePacket serviceId (Challenge.ofParts a.moduleSerial n) = some b ∧
        a.handshakeUplinkIn hmac p data r now =
          (a.challenged p serviceId n, [.handshakePacketOut p b, .bufferReturnOut p data])) ∨
      ∃ serviceId c q s o,
        Establishes hmac a p serviceId c q s ∧ Quiet o ∧
        a.handshakeUplinkIn hmac p data r now =
          (a.established p serviceId s now, .authGrantedOut ⟨p, serviceId, s⟩ :: o) := by
  have hr := quiet_bufferReturn (p := p) data
  unfold handshakeUplinkIn
  dsimp only
  generalize parseSecureHandshakePacket (unwrapHandshakePacketPayload data) = parsed
  cases hvl : parsed.valid with
  | false => exact Or.inl ⟨_, hr, rfl⟩
  | true =>
    simp only [Bool.not_true, Bool.false_eq_true, if_false]
    by_cases hs : (a.ingressKeys p).map IngressKey.serviceId = some parsed.message.serviceId
    · rw [if_neg (not_not.mpr hs)]
      cases parsed.message.type with
      | reqAuth =>
        rcases issueChallenge_cases a p hs r with hnn | ⟨n, b, hn, hb, hi⟩
        · simp only [hnn]
          exact Or.inl ⟨_, (quiet_emitAuthStatus _ _).append hr, rfl⟩
        · simp only [hi]
          exact Or.inr (Or.inl ⟨_, n, b, hs, hn, hb, rfl⟩)
      | response =>
        rcases establishAuth_cases hmac a p hs parsed.message.response now with
          hrf | ⟨c, s, he, hrs⟩
        · simp only [hrf]
          exact Or.inl ⟨_, (quiet_emitAuthStatus _ _).append hr, rfl⟩
        · simp only [hrs]
          exact Or.inr (Or.inr ⟨_, c, _, s, _, he, (quiet_emitAuthStatus _ _).append hr, rfl⟩)
      | challenge | authStatus => exact Or.inl ⟨_, hr, rfl⟩
    · rw [if_pos hs]
      exact Or.inl ⟨_, (quiet_emitAuthStatus _ _).append hr, rfl⟩

/-- Service and key of the authentication that is active on a port. -/
def credentials (a : SecureLinkAuthorizer) (p : Port) : Option (UInt8 × Digest) :=
  (a.activeAuth p).map fun active => (active.serviceId, active.sessionKey)

/-- Agreement on everything but the activity times and counters. -/
structure SameAuth (a a' : SecureLinkAuthorizer) : Prop where
  moduleSerial : a'.moduleSerial = a.moduleSerial
  ingressKeys : a'.ingressKeys = a.ingressKeys
  pendingChallenges : a'.pendingChallenges = a.pendingChallenges
  credentials : a'.credentials = a.credentials

theorem sameAuth_refl : SameAuth a a := ⟨rfl, rfl, rfl, rfl⟩

theorem SameAuth.trans {a a' a'' : SecureLinkAuthorizer} (h : SameAuth a a')
    (h' : SameAuth a' a'') : SameAuth a a'' :=
  ⟨h'.moduleSerial.trans h.moduleSerial, h'.ingressKeys.trans h.ingressKeys,
    h'.pendingChallenges.trans h.pendingChallenges, h'.credentials.trans h.credentials⟩

def revokedOn (a : SecureLinkAuthorizer) (p : Port) : SecureLinkAuthorizer :=
  { a with
    activeAuth := Function.update a.activeAuth p none
    revokeTotal := a.revokeTotal + 1 }

theorem revokeActiveAuth_eq {x : ActiveAuth} (h : a.activeAuth p = some x) (r : UInt32) :
    a.revokeActiveAuth_ p r true = (a.revokedOn p, [.authRevokedOut ⟨p, x.serviceId, r⟩]) := by
  simp [revokeActiveAuth_, h, revokedOn]

theorem sameAuth_touch {x : ActiveAuth} (h : a.activeAuth p = some x) (now : FwTime) :
    SameAuth a { a with
      activeAuth := Function.update a.activeAuth p (some { x with lastActivityTime := now }) } := by
  refine ⟨rfl, rfl, rfl, funext fun q => ?_⟩
  rcases eq_or_ne q p with rfl | hne
  · simp [SecureLinkAuthorizer.credentials, h]
  · simp [SecureLinkAuthorizer.credentials, hne]

theorem authActivityIn_sameAuth (a : SecureLinkAuthorizer) (x : SecureAuthActivity)
    (now : FwTime) : SameAuth a (a.authActivityIn x now) := by
  unfold authActivityIn
  cases hac : a.activeAuth x.ingressPort with
  | none => exact sameAuth_refl
  | some =>
    dsimp only
    split_ifs
    · exact sameAuth_touch hac now
    · exact sameAuth_refl

theorem checkTimeout_cases (a : SecureLinkAuthorizer) (p : Port) (now : FwTime) :
    (∃ a', SameAuth a a' ∧ a.checkTimeout p now = (a', [])) ∨
      ∃ x, a.activeAuth p = some x ∧
        a.checkTimeout p now =
          (a.revokedOn p, [.authRevokedOut ⟨p, x.serviceId, revocationTimeout⟩]) := by
  unfold checkTimeout
  cases hac : a.activeAuth p with
  | none => exact Or.inl ⟨a, sameAuth_refl, rfl⟩
  | some x =>
    dsimp only
    cases computeElapsedTime now x.lastActivityTime with
    | none => exact Or.inl ⟨_, sameAuth_touch hac now, rfl⟩
    | some =>
      dsimp only
      split_ifs
      · exact Or.inr ⟨x, rfl, revokeActiveAuth_eq hac _⟩
      · exact Or.inl ⟨a, sameAuth_refl, rfl⟩

theorem checkTimeout_activeAuth (a : SecureLinkAuthorizer) (p : Port) (now : FwTime) :
    ∃ x, (a.checkTimeout p now).1.activeAuth = Function.update a.activeAuth p x ∧
      ∀ active ∈ a.activeAuth p, x = none ↔ active.TimedOut now := by
  unfold checkTimeout ActiveAuth.TimedOut
  cases hac : a.activeAuth p with
  | none =>
    refine ⟨none, ?_, by simp⟩
    rw [← hac, Function.update_eq_self, hac]
  | some active =>
    dsimp only
    cases he : computeElapsedTime now active.lastActivityTime with
    | none => exact ⟨_, rfl, by simp [he]⟩
    | some =>
      dsimp only
      split_ifs with ht
      · rw [revokeActiveAuth_eq hac]
        exact ⟨none, rfl, by simpa [he] using ht⟩
      · refine ⟨some active, by rw [← hac, Function.update_eq_self], ?_⟩
        simpa [he] using ht

theorem schedIn_activeAuth_iff (a : SecureLinkAuthorizer) (now : FwTime) (p : Port) :
    ∀ active ∈ a.activeAuth p, (a.schedIn now).1.activeAuth p = none ↔ active.TimedOut now := by
  obtain ⟨x, hx, hxt⟩ := a.checkTimeout_activeAuth 0 now
  obtain ⟨y, hy, hyt⟩ := (a.checkTimeout 0 now).1.checkTimeout_activeAuth 1 now
  change ∀ active ∈ a.activeAuth p, ((a.checkTimeout 0 now).1.checkTimeout 1 now).1.activeAuth p = none ↔ _
  rw [hy, hx]
  rw [hx] at hyt
  revert p
  exact Fin.forall_fin_two.mpr ⟨by simpa using hxt, by simpa using hyt⟩

def withoutPending (a : SecureLinkAuthorizer) (p : Port) (serviceId : UInt8) :
    SecureLinkAuthorizer :=
  if (a.pendingChallenges p).map PendingChallenge.serviceId = some serviceId then
    { a with pendingChallenges := Function.update a.pendingChallenges p none }
  else a

@[simp] theorem withoutPending_activeAuth (serviceId : UInt8) :
    (a.withoutPending p serviceId).activeAuth = a.activeAuth := by
  unfold withoutPending
  split_ifs <;> rfl

@[simp] theorem withoutPending_ingressKeys (serviceId : UInt8) :
    (a.withoutPending p serviceId).ingressKeys = a.ingressKeys := by
  unfold withoutPending
  split_ifs <;> rfl

theorem authInvalidateIn_eq (a : SecureLinkAuthorizer) (r : SecureAuthRevocation) :
    a.authInvalidateIn r =
      if (a.activeAuth r.ingressPort).map ActiveAuth.serviceId = some r.serviceId then
        ((a.withoutPending r.ingressPort r.serviceId).revokedOn r.ingressPort, [.authRevokedOut r])
      else (a.withoutPending r.ingressPort r.serviceId, []) := by
  have heq : a.authInvalidateIn r =
      if ((a.withoutPending r.ingressPort r.serviceId).activeAuth r.ingressPort).map
          ActiveAuth.serviceId = some r.serviceId then
        (a.withoutPending r.ingressPort r.serviceId).revokeActiveAuth_ r.ingressPort r.reason true
      else (a.withoutPending r.ingressPort r.serviceId, []) := rfl
  rw [heq, withoutPending_activeAuth]
  split_ifs with hsr
  · obtain ⟨x, hac, hs⟩ := Option.map_eq_some_iff.mp hsr
    rw [revokeActiveAuth_eq (by rw [withoutPending_activeAuth]; exact hac), hs]
  · rfl

instance unit_preorder : Preorder Unit := PUnit.instLinearOrder.toPartialOrder.toPreorder

/-- The pending challenges as a table of sessions that accept once. -/
def challenges (a : SecureLinkAuthorizer) : Sessions Port Challenge Unit := fun p =>
  (a.pendingChallenges p).map fun pending => ⟨pending.challenge, none⟩

theorem challenged_run (a : SecureLinkAuthorizer) (p : Port) (serviceId : UInt8) (n : RandomNonce) :
    Sessions.Run a.challenges [.opened p (Challenge.ofParts a.moduleSerial n)]
      (a.challenged p serviceId n).challenges := by
  have hnext : (a.challenged p serviceId n).challenges =
      Function.update a.challenges p (some ⟨Challenge.ofParts a.moduleSerial n, none⟩) :=
    Function.eq_update_iff.mpr ⟨by simp [challenges, challenged], fun q hne => by
      simp [challenges, challenged, hne]⟩
  rw [hnext]
  exact Sessions.Run.single (.opened _ _ _)

theorem established_run {c : Challenge} {r s : Digest}
    (h : Establishes hmac a p serviceId c r s) (now : FwTime) :
    Sessions.Run a.challenges [.accepted p c (), .closed p]
      (a.established p serviceId s now).challenges := by
  have hp : a.challenges p = some ⟨c, none⟩ := by simp [challenges, h.pending]
  have hnext : (a.established p serviceId s now).challenges =
      Function.update (Function.update a.challenges p (some ⟨c, some ()⟩)) p none :=
    Function.eq_update_iff.mpr ⟨by simp [challenges, established], fun q hne => by
      simp [challenges, established, hne]⟩
  rw [hnext]
  exact .cons (.accepted hp (by simp)) (.single (.closed _ _))

theorem withoutPending_run (a : SecureLinkAuthorizer) (p : Port) (serviceId : UInt8) :
    ∃ es, Sessions.Run a.challenges es (a.withoutPending p serviceId).challenges ∧
      Sessions.openedKeys es = [] ∧ Sessions.acceptedPairs es = [] := by
  unfold withoutPending
  split_ifs
  · refine ⟨[.closed p], ?_, rfl, rfl⟩
    have hnext : challenges { a with
        pendingChallenges := Function.update a.pendingChallenges p none } =
        Function.update a.challenges p none :=
      Function.eq_update_iff.mpr ⟨by simp [challenges], fun q hne => by simp [challenges, hne]⟩
    rw [hnext]
    exact Sessions.Run.single (.closed _ _)
  · exact ⟨[], Sessions.Run.nil _, rfl, rfl⟩

end SecureLinkAuthorizer

end ObcFlight
