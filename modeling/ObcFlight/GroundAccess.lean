import ObcFlight.GroundStation
import ObcFlight.LinkHistory
import ObcFlight.SessionViews

/-!
# An honest ground station gets in

The packets of the ground library drive the pair of authorizer and command gate from any
reachable state: the request is answered with a challenge, the answer opens a session
under the key that the ground derives, and while that session stands every fresh command
of the ground is handed on, whatever else arrives.
-/

namespace ObcFlight

open WireCodec

namespace SecureLinkAuthorizer

variable {hmac : KeyedHash} {a : SecureLinkAuthorizer} {p : Port} {key : IngressKey}

theorem handshakeUplinkIn_reqAuth (hmac : KeyedHash) (hkey : a.ingressKeys p = some key)
    (n : RandomNonce) (now : FwTime) :
    a.handshakeUplinkIn hmac p (u16.encode fwPacketHand ++ serializeHeader .reqAuth key.serviceId)
        (some n) now =
      (a.challenged p key.serviceId n,
        [.handshakePacketOut p (u16.encode fwPacketHand ++ (serializeHeader .challenge key.serviceId ++
          (Challenge.ofParts a.moduleSerial n).1)),
         .bufferReturnOut p (u16.encode fwPacketHand ++ serializeHeader .reqAuth key.serviceId)]) := by
  have hp := parseSecureHandshakePacket_serialize .reqAuth key.supported [] rfl
  rw [List.append_nil] at hp
  have hbl : buildSecureChallengePacket key.serviceId (Challenge.ofParts a.moduleSerial n) =
      some _ := if_neg (by simp [key.supported])
  unfold handshakeUplinkIn
  simp only [unwrapHandshakePacketPayload_wrapped, hp, handshakeMessage, hkey, Option.map_some,
    issueChallenge_, hbl, Bool.not_true, Bool.false_eq_true, if_false, ne_eq, not_true_eq_false]
  rfl

theorem handshakeUplinkIn_response {c : Challenge} {s r : Digest}
    (hkey : a.ingressKeys p = some key) (hpn : a.pendingChallenges p = some ⟨key.serviceId, c⟩)
    (hdr : deriveSecureSessionKey hmac key.keyBytes key.serviceId c = some s)
    (hr : computeSecureAuthResponse hmac s = some r) (n : Option RandomNonce) (now : FwTime) :
    ∃ o, Quiet o ∧
      a.handshakeUplinkIn hmac p (u16.encode fwPacketHand ++
          (serializeHeader .response key.serviceId ++ r.1)) n now =
        (a.established p key.serviceId s now, .authGrantedOut ⟨p, key.serviceId, s⟩ :: o) := by
  have hp := parseSecureHandshakePacket_serialize .response key.supported r.1
    (by rw [r.2]; rfl)
  have hrt : a.rootKey p = key.keyBytes := by simp [rootKey, hkey]
  have hvr := (verifySecureAuthResponse_iff hmac s r).mpr hr
  refine ⟨emitAuthStatus_ p key.serviceId .authenticated ++ [.bufferReturnOut p
      (u16.encode fwPacketHand ++ (serializeHeader .response key.serviceId ++ r.1))],
    (quiet_emitAuthStatus _ _).append (quiet_bufferReturn _), ?_⟩
  unfold handshakeUplinkIn
  simp only [unwrapHandshakePacketPayload_wrapped, hp, handshakeMessage, hkey, Option.map_some,
    Digest.copy_val, establishAuth_, hpn, hrt, hdr, hvr, Bool.not_true,
    Bool.false_eq_true, if_false, ne_eq, not_true_eq_false]
  rfl

end SecureLinkAuthorizer

def LinkInput.concernsHandshake (p : Port) : LinkInput → Bool
  | .handshakeUplinkIn q _ _ _ => q = p
  | .authInvalidateIn revocation => revocation.ingressPort = p
  | _ => false

/-- The calls on the gate that open or end a session on a port. -/
def GateInput.changesSession (p : Port) : GateInput → Bool
  | .authGrantedIn grant => grant.ingressPort = p
  | .authRevokedIn revocation => revocation.ingressPort = p
  | .reconfigureIngressSource q _ => q = p
  | .revokeIngressSource q _ _ => q = p
  | _ => false

namespace SecureLink

variable {hmac : KeyedHash} {l : SecureLink} {p : Port}

/-- Keys are set at start-up, and only a handshake or an invalidation on the port moves
its pending challenge. -/
theorem step_pending (hmac : KeyedHash) (l : SecureLink) (i : LinkInput) :
    (l.step hmac i).1.authorizer.ingressKeys = l.authorizer.ingressKeys ∧
      (i.concernsHandshake p = false →
        (l.step hmac i).1.authorizer.pendingChallenges p = l.authorizer.pendingChallenges p) := by
  have hs {a : SecureLinkAuthorizer} (h : l.authorizer.SameAuth a) :
      a.ingressKeys = l.authorizer.ingressKeys ∧
        (i.concernsHandshake p = false →
          a.pendingChallenges p = l.authorizer.pendingChallenges p) :=
    ⟨h.ingressKeys, fun _ => congrFun h.pendingChallenges p⟩
  cases i with
  | handshakeUplinkIn q data n now =>
    simp only [step, fromAuthorizer, LinkInput.concernsHandshake, decide_eq_false_iff_not]
    rcases l.authorizer.handshakeUplinkIn_cases hmac q data n now with
      ⟨outputs, -, hr⟩ | ⟨serviceId, nonce, packet, -, -, -, hr⟩ |
        ⟨serviceId, challenge, response, sessionKey, outputs, -, -, hr⟩
    · rw [hr]
      exact ⟨rfl, fun _ => rfl⟩
    · rw [hr]
      exact ⟨rfl, fun hne => Function.update_of_ne (Ne.symm hne) _ _⟩
    · rw [hr]
      exact ⟨rfl, fun hne => Function.update_of_ne (Ne.symm hne) _ _⟩
  | schedIn now =>
    obtain ⟨hk, hp, -, -⟩ := schedIn_quiet l.authorizer now
    exact ⟨hk, fun _ => congrFun hp p⟩
  | authInvalidateIn r =>
    simp only [step, fromAuthorizer, LinkInput.concernsHandshake, decide_eq_false_iff_not]
    have hdr (hne : r.ingressPort ≠ p) :
        (l.authorizer.withoutPending r.ingressPort
          r.serviceId).pendingChallenges p = l.authorizer.pendingChallenges p := by
      unfold SecureLinkAuthorizer.withoutPending
      split_ifs
      · exact Function.update_of_ne (Ne.symm hne) _ _
      · rfl
    rw [SecureLinkAuthorizer.authInvalidateIn_eq]
    split_ifs
    · exact ⟨l.authorizer.withoutPending_ingressKeys _, hdr⟩
    · exact ⟨l.authorizer.withoutPending_ingressKeys _, hdr⟩
  | authActivityIn x now => exact hs (l.authorizer.authActivityIn_sameAuth x now)
  | seqCmdBuffIn _ _ _ _ now =>
    exact hs (notifyAuthorizer_sameAuth now l.authorizer _)
  | _ => exact ⟨rfl, fun _ => rfl⟩

end SecureLink

namespace CommandIngressAuthority

open CommandAuthCrypto (hmacSha256 hmacSha256_eq_hmac)

variable {g : CommandIngressAuthority} {p : Port} {config : AuthorityConfig} {key : Digest}
variable {n context : UInt32}

/-- A session stands on the port under the key, with its mark below n. -/
structure InSession (g : CommandIngressAuthority) (p : Port) (config : AuthorityConfig)
    (key : Digest) (n : UInt32) : Prop where
  coherent : g.Coherent
  config_eq : g.ingressConfigs p = config
  live : ∃ last, g.sessions p = some ⟨key, last⟩ ∧ ∀ m ∈ last, m < n

theorem session_of_live {last : Option UInt32} (h : g.sessions p = some ⟨key, last⟩) :
    (g.activeSessions p).isOpen = true ∧ (g.activeSessions p).secureSessionKey = key ∧
      g.sequenceWindow.lookup (g.currentKey p) = last := by
  unfold sessions at h
  split_ifs at h with ho
  rw [Option.some.injEq, Session.mk.injEq] at h
  exact ⟨ho, h⟩

theorem hmacSha256_digest (key : Digest) (data : Bytes) :
    hmacSha256 key.1 data = some (Sha256.hmac key.1 data) :=
  hmacSha256_eq_hmac key.1 data (List.ne_nil_of_length_pos (by rw [key.2]; decide))

variable {inner : CmdPacket}

theorem Admits.ground_built {data : Bytes} {o : CmdPacket} {a : SecureAdmission} {tag : Digest}
    (h : Admits hmacSha256 g p context o a inner tag)
    (hdes : CmdPacket.deserializeFrom data = some o) (hs : o.opcode = obcSecureCommandV2Opcode) :
    GroundStation.buildSecureCommandV2Packet inner.serialize
      (g.activeSessions p).secureSessionKey.1 a.sequenceNumber.toNat = some data := by
  have hf := h.fits
  obtain ⟨hdt, -⟩ := (CmdPacket.deserializeFrom_eq_some_iff data o).mp hdes
  have htag := h.tag_eq
  rw [hmacSha256_digest, Option.some.injEq] at htag
  have hsz : inner.serialize.length < 65536 := by
    rw [CmdPacket.serialize_length]
    unfold fwCmdArgBufferMaxSize fwComBufferMaxSize at hf
    omega
  rw [GroundStation.buildSecureCommandV2Packet_eq _ _ _ hsz, htag, ← h.layout, ← hs, hdt]

variable {i : GateInput}

theorem changesSession_of_opened {hmac : KeyedHash} {key : Digest}
    (h : .opened p key ∈ g.sessionEvents hmac i) : i.changesSession p = true := by
  cases i with
  | authGrantedIn =>
    simp only [sessionEvents] at h
    split_ifs at h
    · simp only [List.mem_singleton, SessionEvent.opened.injEq] at h
      simp [GateInput.changesSession, h.1]
    · cases h
  | authRevokedIn =>
    simp only [sessionEvents] at h
    split_ifs at h <;> simp at h
  | _ => simp [sessionEvents] at h

theorem changesSession_of_closed {hmac : KeyedHash} (h : .closed p ∈ g.sessionEvents hmac i) :
    i.changesSession p = true := by
  cases i with
  | authGrantedIn =>
    simp only [sessionEvents] at h
    split_ifs at h <;> simp at h
  | authRevokedIn =>
    simp only [sessionEvents] at h
    split_ifs at h
    · simp only [List.mem_singleton, SessionEvent.closed.injEq] at h
      simp [GateInput.changesSession, h]
    · cases h
  | reconfigureIngressSource | revokeIngressSource =>
    simp only [sessionEvents, List.mem_singleton, SessionEvent.closed.injEq] at h
    simp [GateInput.changesSession, h]
  | _ => simp [sessionEvents] at h

theorem ground_built_of_accepted {key : Digest} {m : UInt32}
    (h : .accepted p key m ∈ g.sessionEvents hmacSha256 i) :
    ∃ data context c inner, i = .seqCmdBuffIn p data context c ∧
      GroundStation.buildSecureCommandV2Packet inner
        (g.activeSessions p).secureSessionKey.1 m.toNat = some data := by
  cases i with
  | seqCmdBuffIn q data context c =>
    simp only [sessionEvents, List.mem_map, SessionEvent.accepted.injEq] at h
    obtain ⟨m', hm, rfl, -, rfl⟩ := h
    rcases seqCmdBuffIn_handed hmacSha256 c g q data context with
      ⟨hnone, -⟩ | ⟨outer, a, inner, tag, hdes, hs, had, -, hh, -⟩
    · rw [hnone] at hm
      cases hm
    · rw [hh, List.mem_singleton] at hm
      subst hm
      exact ⟨data, context, c, _, rfl, had.ground_built hdes hs⟩
  | authGrantedIn | authRevokedIn =>
    simp only [sessionEvents] at h
    split_ifs at h <;> simp at h
  | _ => simp [sessionEvents] at h

/-- A standing session survives every input that neither replaces nor ends it, and its
mark stays below the ground's next number. -/
theorem InSession.step (h : InSession g p config key n) (hk : i.changesSession p = false)
    (hf : ∀ data context c, i = .seqCmdBuffIn p data context c →
      ∀ inner m, GroundStation.buildSecureCommandV2Packet inner key.1 m = some data →
        m < n.toNat) : InSession (g.step hmacSha256 i).1 p config key n := by
  have hlv : ∃ last, (g.step hmacSha256 i).1.sessions p = some ⟨key, last⟩ ∧ ∀ m ∈ last, m < n := by
    refine (g.sessions_run hmacSha256 i).live_below (fun key' hmem => ?_) (fun hmem => ?_)
      (fun key' m hmem => ?_) h.live
    · rw [changesSession_of_opened hmem] at hk
      cases hk
    · rw [changesSession_of_closed hmem] at hk
      cases hk
    · obtain ⟨last, hl, -⟩ := h.live
      obtain ⟨data, context, c, inner, rfl, hbl⟩ := ground_built_of_accepted hmem
      rw [(session_of_live hl).2.1] at hbl
      exact UInt32.lt_iff_toNat_lt.mpr (hf data context c rfl inner _ hbl)
  obtain ⟨last, hl, hbw⟩ := hlv
  have hvw := grantView_of_isOpen (session_of_live hl).1
  exact ⟨h.coherent.step hmacSha256 i, (step_grantView hmacSha256 hvw).1.trans h.config_eq,
    last, hl, hbw⟩

/-- The packet of a secure command under a key, as both sides lay it out. -/
def securePacket (key : Digest) (n : UInt32) (inner : CmdPacket) : CmdPacket :=
  ⟨obcSecureCommandV2Opcode, secureArgs n inner.serialize
    (Sha256.hmac key.1 (secureAuthMaterial n inner.serialize))⟩

theorem securePacket_length (key : Digest) (n : UInt32) (inner : CmdPacket) :
    (securePacket key n inner).args.length = inner.args.length + 58 := by
  have htag := (Sha256.hmac key.1 (secureAuthMaterial n inner.serialize)).2
  simp only [securePacket, secureArgs, List.length_append, CmdPacket.serialize_length, htag]
  simp [secureHeader, iso, pair]
  omega

theorem seqCmdBuffIn_secure {hmac : KeyedHash} {c : SequenceControlRequest → SequenceControlResult}
    {outer : CmdPacket} (hvl : (g.ingressConfigs p).valid = true)
    (hf : outer.args.length ≤ fwCmdArgBufferMaxSize) (hs : outer.opcode = obcSecureCommandV2Opcode)
    :
    g.seqCmdBuffIn hmac c p outer.serialize context =
      g.handleSecureCommandV2 hmac c p context outer := by
  have hdes := (CmdPacket.deserializeFrom_eq_some_iff outer.serialize outer).mpr ⟨rfl, hf⟩
  simp [seqCmdBuffIn, hvl, hdes, hs]

theorem InSession.forwards (h : InSession g p config key n)
    (c : SequenceControlRequest → SequenceControlResult) (request : Option SequenceControlRequest)
    (hf : (securePacket key n inner).serialize.length ≤ fwComBufferMaxSize)
    (hal : (evaluateCommandAuthority config inner.opcode).allow = true)
    (hdn : isDeniedDirectOfficialSequencingOpcode inner.opcode = false)
    (hrq : if isGovernedSequenceWrapperOpcode inner.opcode then
        ∃ r, parseSequenceControlRequest inner.opcode inner p config context = some r ∧
          request = some r
      else request = none) :
    (g.seqCmdBuffIn hmacSha256 c p (securePacket key n inner).serialize context).2.filter
        GateOutput.isForward =
      [SecureAdmission.forward ⟨n, inner.opcode, inner.serialize, request⟩ p context] := by
  obtain ⟨last, hls, hbl⟩ := h.live
  obtain ⟨ho, hkey, hlk⟩ := session_of_live hls
  have hmt := h.coherent.matchesConfig p ho
  rw [CmdPacket.serialize_length, securePacket_length] at hf
  have har : (securePacket key n inner).args.length ≤ fwCmdArgBufferMaxSize := by
    rw [securePacket_length]
    unfold fwCmdArgBufferMaxSize
    omega
  have hir : inner.args.length ≤ fwCmdArgBufferMaxSize := by
    unfold fwCmdArgBufferMaxSize
    omega
  have hmr : (secureAuthMaterial n inner.serialize).length ≤ fwComBufferMaxSize := by
    have hl : (ascii "CMD-V2").length = 6 := rfl
    simp only [secureAuthMaterial, List.length_append, hl, u32_encode_length,
      CmdPacket.serialize_length]
    omega
  have hs : secureServiceIdForConfig (g.ingressConfigs p) ≠ 0 := by
    rcases (isCommManagedAuthority_iff _).mp hmt.managed with hin | hr
    · rw [hmt.valid] at hin
      cases hin
    · exact (secureServiceId_ne_zero_iff _).mpr hr
  have had : Admits hmacSha256 g p context (securePacket key n inner)
      ⟨n, inner.opcode, inner.serialize, request⟩ inner
      (Sha256.hmac key.1 (secureAuthMaterial n inner.serialize)) :=
    { layout := rfl, fits := hir, innerOpcode := rfl, innerCommand := rfl
      service_ne_zero := hs, isOpen := ho
      secureAuthenticated := hmt.secureAuthenticated, service := hmt.service
      materialFits := hmr, tag_eq := by rw [hkey, hmacSha256_digest]
      allow := by rw [h.config_eq]; exact hal, not_denied := hdn
      request := by rw [h.config_eq]; exact hrq }
  have hac := h.coherent.windowAnswer_accepted (p := p) (n := n) fun m hm =>
    hbl m (by rw [← hlk, hm]; rfl)
  rw [seqCmdBuffIn_secure hmt.valid har rfl, handleSecureCommandV2_of_admits had hac,
    handOn_forwards]

theorem denied_forwards (hmac : KeyedHash) (c : SequenceControlRequest → SequenceControlResult)
    (hc : isCommManagedAuthority (g.ingressConfigs p) = true)
    (hin : inner.args.length ≤ fwCmdArgBufferMaxSize)
    (hdn : isDeniedDirectOfficialSequencingOpcode inner.opcode = true) :
    (g.seqCmdBuffIn hmac c p (securePacket key n inner).serialize context).2.filter
      GateOutput.isForward = [] := by
  rcases seqCmdBuffIn_cases hmac c g p (securePacket key n inner).serialize context hc with
    ⟨r, hr⟩ | ⟨-, outer, a, inner', tag, hdt, -, -, had, -, -⟩
  · rw [hr, reject_forwards]
  · have hs := had.layout
    rw [← CmdPacket.serialize_injective hdt] at hs
    obtain ⟨-, hsr, -⟩ := secureArgs_injective hin had.fits hs
    have hal := had.not_denied
    rw [← CmdPacket.serialize_injective hsr, hdn] at hal
    cases hal

end CommandIngressAuthority

end ObcFlight
