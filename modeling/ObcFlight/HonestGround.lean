import ObcFlight.GroundAccess

/-!
# The session of an honest ground station, end to end

From any reachable state of the authorizer and the command gate: request, challenge,
answer, session, commands. Two kinds of commands are treated apart by the gate although
the catalog allows them: the framework's own sequencer commands are refused, and the
governed sequence commands leave as a control request instead of their bytes.
-/

namespace ObcFlight

namespace SecureLink

open WireCodec
open CommandAuthCrypto (hmacSha256 hmacSha256_eq_hmac)

variable {l : SecureLink} {p : Port} {key : IngressKey}

def downlinked (p : Port) (outputs : List LinkOutput) : List Bytes :=
  outputs.filterMap fun
    | .authorizer (.handshakePacketOut q packet) => if q = p then some packet else none
    | _ => none

def forwarded (outputs : List LinkOutput) : List GateOutput :=
  (outputs.filterMap LinkOutput.ofGate).filter GateOutput.isForward

/-- The input makes no call on the gate that opens or ends a session on the port. -/
def KeepsSession (hmac : KeyedHash) (p : Port) (l : SecureLink) (i : LinkInput) : Prop :=
  ∀ call ∈ l.gateInputs hmac i, call.changesSession p = false

/-- The ground packets delivered on a port are numbered below n. -/
def NumberedBelow (p : Port) (sessionKey : Digest) (n : UInt32) (inputs : List LinkInput) : Prop :=
  ∀ data context controller now, .seqCmdBuffIn p data context controller now ∈ inputs →
    ∀ inner m, GroundStation.buildSecureCommandV2Packet inner sessionKey.1 m = some data →
      m < n.toNat

theorem forwarded_seqCmdBuffIn (hmac : KeyedHash) (l : SecureLink) (p : Port) (data : Bytes)
    (n : UInt32) (c : SequenceControlRequest → SequenceControlResult) (now : FwTime) :
    forwarded (l.step hmac (.seqCmdBuffIn p data n c now)).2 =
      (l.gate.seqCmdBuffIn hmac c p data n).2.filter GateOutput.isForward := by
  have hg (os : List GateOutput) : (os.map LinkOutput.gate).filterMap LinkOutput.ofGate = os := by
    rw [List.filterMap_map]
    exact List.filterMap_some
  exact congrArg (List.filter GateOutput.isForward) (hg _)

theorem run_pending (hmac : KeyedHash) (l : SecureLink) (is : List LinkInput)
    (h : ∀ i ∈ is, i.concernsHandshake p = false) :
    ((secureLink hmac).run l is).authorizer.ingressKeys = l.authorizer.ingressKeys ∧
      ((secureLink hmac).run l is).authorizer.pendingChallenges p =
        l.authorizer.pendingChallenges p := by
  induction is generalizing l with
  | nil => exact ⟨rfl, rfl⟩
  | cons i _ ih =>
    obtain ⟨hk, hp⟩ := step_pending (p := p) hmac l i
    obtain ⟨hk', hp'⟩ := ih (l.step hmac i).1 fun j hj => h j (List.mem_cons_of_mem _ hj)
    exact ⟨hk'.trans hk, hp'.trans (hp (h i List.mem_cons_self))⟩

theorem run_ingressKeys (hmac : KeyedHash) (l : SecureLink) (is : List LinkInput) :
    ((secureLink hmac).run l is).authorizer.ingressKeys = l.authorizer.ingressKeys :=
  (secureLink hmac).run_invariant (I := fun l' => l'.authorizer.ingressKeys = l.authorizer.ingressKeys)
    (fun l' i h => (step_pending (p := 0) hmac l' i).1.trans h) l rfl is

theorem run_coherent (hmac : KeyedHash) (h : l.gate.Coherent) (is : List LinkInput) :
    ((secureLink hmac).run l is).gate.Coherent :=
  (secureLink hmac).run_invariant (I := fun l => l.gate.Coherent)
    (fun l i hl => (step_gate hmac l i).symm ▸ coherent_run hl hmac _) l h is

theorem coherent_start (m : ModuleSerial) (k : Port → Option IngressKey)
    (i : Port → AuthorityConfig) :
    (initial m k i).gate.Coherent := by
  obtain ⟨hnd, hk, -⟩ := CommandIngressAuthority.coherent_initial
  refine ⟨hnd, fun key hkey => ?_, fun q hq => ?_⟩
  · simp [initial, CommandIngressAuthority.initial, SlotTable.keys_empty] at hkey
  · simp [initial, CommandIngressAuthority.initial] at hq

/-- What the ground and the flight side have in common once the challenge is answered. -/
structure Opened (l : SecureLink) (p : Port) (serviceId : UInt8) (sessionKey : Digest)
    (config : AuthorityConfig) : Prop where
  authenticated : l.authorizer.credentials p = some (serviceId, sessionKey)
  granted : l.gate.grantView p = some (serviceId, sessionKey)
  inSession : ∀ n, l.gate.InSession p config sessionKey n

variable {sessionKey : Digest}

theorem opened_of_answer (hc : l.gate.Coherent) (hkey : l.authorizer.ingressKeys p = some key)
    {c : Challenge} (hp : l.authorizer.pendingChallenges p = some ⟨key.serviceId, c⟩)
    (hs : Serves (l.gate.ingressConfigs p) key.serviceId) (r : Option RandomNonce) (now : FwTime)
    (hss : sessionKey = GroundStation.sessionKeyOf key.keyBytes key.serviceId c) :
    Opened (l.step hmacSha256 (.handshakeUplinkIn p (u16.encode fwPacketHand ++
        (serializeHeader .response key.serviceId ++
          (Sha256.hmac sessionKey.1 GroundStation.authKnownMessage).1)) r now)).1
      p key.serviceId sessionKey (l.gate.ingressConfigs p) := by
  have hrt : key.keyBytes ≠ [] := fun hnil => key.nonempty (by rw [hnil]; rfl)
  have hdr : deriveSecureSessionKey hmacSha256 key.keyBytes key.serviceId c = some sessionKey := by
    rw [deriveSecureSessionKey, if_neg (by simp [key.supported, hrt]),
      hmacSha256_eq_hmac _ _ hrt, hss]
    rfl
  have hrs : computeSecureAuthResponse hmacSha256 sessionKey =
      some (Sha256.hmac sessionKey.1 GroundStation.authKnownMessage) :=
    CommandIngressAuthority.hmacSha256_digest sessionKey _
  obtain ⟨o, hq, hr⟩ := l.authorizer.handshakeUplinkIn_response hkey hp hdr hrs r now
  have hac : l.gate.acceptsGrant ⟨p, key.serviceId, sessionKey⟩ = true :=
    CommandIngressAuthority.acceptsGrant_of_serves hs
  -- the gate sees exactly one call, the grant
  have hg : (l.step hmacSha256 (.handshakeUplinkIn p (u16.encode fwPacketHand ++
      (serializeHeader .response key.serviceId ++
        (Sha256.hmac sessionKey.1 GroundStation.authKnownMessage).1)) r now)).1.gate =
      (l.gate.authGrantedIn ⟨p, key.serviceId, sessionKey⟩).1 := by
    rw [step_gate, gateInputs, hr, List.filterMap_cons]
    simp only [AuthorizerOutput.toGate]
    rw [hq.toGate_eq_nil]
    rfl
  refine ⟨?_, ?_, fun n => ⟨?_, ?_, none, ?_, by simp⟩⟩
  · simp only [step, fromAuthorizer, hr]
    simp [SecureLinkAuthorizer.credentials, SecureLinkAuthorizer.established]
  · rw [hg, CommandIngressAuthority.authGrantedIn_grantView, if_pos hac, Function.update_self]
  · rw [hg]
    exact hc.authGrantedIn _
  · rw [hg, CommandIngressAuthority.authGrantedIn_ingressConfigs]
  · rw [hg, CommandIngressAuthority.authGrantedIn_eq, if_pos hac]
    rw [CommandIngressAuthority.synthesizeSecureSession_sessions, Function.update_self]

theorem step_reqAuth (hmac : KeyedHash) (hkey : l.authorizer.ingressKeys p = some key)
    (n : RandomNonce) (now : FwTime) :
    l.step hmac (.handshakeUplinkIn p
        (u16.encode fwPacketHand ++ serializeHeader .reqAuth key.serviceId) (some n) now) =
      (⟨l.authorizer.challenged p key.serviceId n, l.gate⟩,
        [.authorizer (.handshakePacketOut p (u16.encode fwPacketHand ++
            (serializeHeader .challenge key.serviceId ++
              (Challenge.ofParts l.authorizer.moduleSerial n).1))),
          .authorizer (.bufferReturnOut p
            (u16.encode fwPacketHand ++ serializeHeader .reqAuth key.serviceId))]) := by
  simp only [step, l.authorizer.handshakeUplinkIn_reqAuth hmac hkey n now]
  rfl

/-- The request of the ground is answered with a challenge, and its answer to that
challenge opens a session. -/
theorem handshake_opens (hc : l.gate.Coherent) (hkey : l.authorizer.ingressKeys p = some key)
    (n : RandomNonce) (now : FwTime) :
    ∃ rq c, ∃ sessionKey : Digest, ∃ q,
      GroundStation.buildReqAuthPacket key.serviceId.toNat = some rq ∧
      downlinked p (l.step hmacSha256 (.handshakeUplinkIn p rq (some n) now)).2 = [c] ∧
      GroundStation.answerChallenge key.keyBytes key.serviceId.toNat c = some (sessionKey.1, q) ∧
      ∀ mid l', (∀ i ∈ mid, i.concernsHandshake p = false) →
        (secureLink hmacSha256).run
          (l.step hmacSha256 (.handshakeUplinkIn p rq (some n) now)).1 mid = l' →
        Serves (l'.gate.ingressConfigs p) key.serviceId → ∀ r now',
          Opened (l'.step hmacSha256 (.handshakeUplinkIn p q r now')).1 p
            key.serviceId sessionKey (l'.gate.ingressConfigs p) := by
  refine ⟨_, _, GroundStation.sessionKeyOf key.keyBytes key.serviceId
      (Challenge.ofParts l.authorizer.moduleSerial n), _,
    GroundStation.buildReqAuthPacket_eq key.serviceId, ?_,
    GroundStation.answerChallenge_eq key.keyBytes key.serviceId
      (Challenge.ofParts l.authorizer.moduleSerial n), ?_⟩
  · rw [step_reqAuth hmacSha256 hkey]
    simp [downlinked]
  · rintro mid l' hmid hrun hs r now'
    rw [step_reqAuth hmacSha256 hkey] at hrun
    obtain ⟨hk, hp⟩ := run_pending hmacSha256
      ⟨l.authorizer.challenged p key.serviceId n, l.gate⟩ mid hmid
    have hc' := run_coherent hmacSha256
      (l := ⟨l.authorizer.challenged p key.serviceId n, l.gate⟩) hc mid
    rw [hrun] at hk hp hc'
    refine opened_of_answer hc' ?_ (hp.trans (Function.update_self ..)) hs r now' rfl
    rw [hk]
    exact hkey

theorem seqCmdBuffIn_of_mem_gateInputs {hmac : KeyedHash} {i : LinkInput} {data : Bytes}
    {n : UInt32} {c : SequenceControlRequest → SequenceControlResult}
    (h : .seqCmdBuffIn p data n c ∈ l.gateInputs hmac i) :
    ∃ now, i = .seqCmdBuffIn p data n c now := by
  cases i with
  | handshakeUplinkIn | schedIn | authInvalidateIn =>
    exact absurd h (seqCmdBuffIn_not_mem_toGate _ _ _ _ _)
  | seqCmdBuffIn _ _ _ _ now =>
    simp only [gateInputs, List.mem_singleton, GateInput.seqCmdBuffIn.injEq] at h
    obtain ⟨rfl, rfl, rfl, rfl⟩ := h
    exact ⟨now, rfl⟩
  | _ => simp [gateInputs] at h

theorem gate_run_inSession {g : CommandIngressAuthority} {x : AuthorityConfig} {n : UInt32}
    (h : g.InSession p x sessionKey n) (is : List GateInput)
    (hk : ∀ call ∈ is, call.changesSession p = false)
    (hf : ∀ data k c, .seqCmdBuffIn p data k c ∈ is →
      ∀ i m, GroundStation.buildSecureCommandV2Packet i sessionKey.1 m = some data →
        m < n.toNat) : ((commandGate hmacSha256).run g is).InSession p x sessionKey n := by
  induction is generalizing g with
  | nil => exact h
  | cons call _ ih =>
    refine ih (h.step (hk call List.mem_cons_self) fun data k c heq => ?_)
      (fun c' hmem => hk c' (List.mem_cons_of_mem _ hmem))
      fun data k c hmem => hf data k c (List.mem_cons_of_mem _ hmem)
    exact hf data k c (heq ▸ List.mem_cons_self)

theorem run_inSession {x : AuthorityConfig} {n : UInt32} (h : l.gate.InSession p x sessionKey n)
    (rest : List LinkInput) (hk : (secureLink hmacSha256).Admits (KeepsSession hmacSha256 p) l rest)
    (hf : NumberedBelow p sessionKey n rest) :
    ((secureLink hmacSha256).run l rest).gate.InSession p x sessionKey n := by
  induction rest generalizing l with
  | nil => exact h
  | cons i _ ih =>
    refine ih ?_ hk.2 fun data k c now hmem =>
      hf data k c now (List.mem_cons_of_mem _ hmem)
    refine (step_gate hmacSha256 l i).symm ▸ gate_run_inSession h _ hk.1 fun data k c hmem => ?_
    obtain ⟨now, rfl⟩ := seqCmdBuffIn_of_mem_gateInputs hmem
    exact hf data k c now List.mem_cons_self

theorem securePacket_of_ground {o n : UInt32} {args i b : Bytes}
    (hin : GroundStation.buildInnerCommand o.toNat args = some i)
    (hp : GroundStation.buildSecureCommandV2Packet i sessionKey.1 n.toNat = some b)
    (hf : b.length ≤ fwComBufferMaxSize) : i = CmdPacket.serialize ⟨o, args⟩ ∧
      b = (CommandIngressAuthority.securePacket sessionKey n ⟨o, args⟩).serialize := by
  rw [GroundStation.buildInnerCommand_eq, Option.some.injEq] at hin
  have hs : i.length < 65536 := by
    have hle := GroundStation.length_le_of_buildSecureCommandV2Packet hp
    unfold fwComBufferMaxSize at hf
    omega
  rw [GroundStation.buildSecureCommandV2Packet_eq _ _ _ hs, Option.some.injEq] at hp
  subst hin
  exact ⟨rfl, hp.symm⟩

/-- A ground station that holds the root key of a port is let in from every reachable
state, and while its session stands each of its commands is handed on exactly once: with
its inner bytes, or as the control request that a governed sequence command carries. The
sequencer commands that the gate denies by policy are excepted. -/
theorem honest_ground_gets_in (moduleSerial : ModuleSerial) (ingressKeys : Port → Option IngressKey)
    (ingressConfigs : Port → AuthorityConfig) (pre : List LinkInput)
    (hkey : ingressKeys p = some key) (nonce : RandomNonce) (now : FwTime) (l : SecureLink)
    (hl : (secureLink hmacSha256).run (initial moduleSerial ingressKeys ingressConfigs) pre = l) :
    ∃ request challenge, ∃ sessionKey : Digest, ∃ response,
      GroundStation.buildReqAuthPacket key.serviceId.toNat = some request ∧
      downlinked p (l.step hmacSha256 (.handshakeUplinkIn p request (some nonce) now)).2 =
        [challenge] ∧
      GroundStation.answerChallenge key.keyBytes key.serviceId.toNat challenge =
        some (sessionKey.1, response) ∧
      ∀ mid l', (∀ i ∈ mid, i.concernsHandshake p = false) →
        (secureLink hmacSha256).run
          (l.step hmacSha256 (.handshakeUplinkIn p request (some nonce) now)).1 mid = l' →
        Serves (l'.gate.ingressConfigs p) key.serviceId → ∀ randomNonce now' l'',
        (l'.step hmacSha256 (.handshakeUplinkIn p response randomNonce now')).1 = l'' →
          l''.authorizer.credentials p = some (key.serviceId, sessionKey) ∧
          l''.gate.grantView p = some (key.serviceId, sessionKey) ∧
          ∀ rest n, (secureLink hmacSha256).Admits (KeepsSession hmacSha256 p) l'' rest →
            NumberedBelow p sessionKey n rest → ∀ (opcode : UInt32) args inner packet,
            GroundStation.buildInnerCommand opcode.toNat args = some inner →
            GroundStation.buildSecureCommandV2Packet inner sessionKey.1 n.toNat = some packet →
            packet.length ≤ fwComBufferMaxSize →
            (evaluateCommandAuthority (l'.gate.ingressConfigs p) opcode).allow = true →
            isDeniedDirectOfficialSequencingOpcode opcode = false → ∀ context controller time,
              (isGovernedSequenceWrapperOpcode opcode = false →
                forwarded (((secureLink hmacSha256).run l'' rest).step hmacSha256
                    (.seqCmdBuffIn p packet context controller time)).2 =
                  [.seqCmdBuffOut p inner context]) ∧
              ∀ request, isGovernedSequenceWrapperOpcode opcode = true →
                parseSequenceControlRequest opcode ⟨opcode, args⟩ p (l'.gate.ingressConfigs p)
                  context = some request →
                forwarded (((secureLink hmacSha256).run l'' rest).step hmacSha256
                    (.seqCmdBuffIn p packet context controller time)).2 =
                  [.sequenceControlOut request] := by
  have hcoherent : l.gate.Coherent := by
    rw [← hl]
    exact run_coherent hmacSha256 (coherent_start moduleSerial ingressKeys ingressConfigs) pre
  have hkeys : l.authorizer.ingressKeys p = some key := by
    rw [← hl, run_ingressKeys]
    exact hkey
  obtain ⟨request, challenge, sessionKey, response, hrequest, hchallenge, hanswer, hopens⟩ :=
    handshake_opens hcoherent hkeys nonce now
  refine ⟨request, challenge, sessionKey, response, hrequest, hchallenge, hanswer, ?_⟩
  rintro mid l' hmid hrun hserves randomNonce now' _ rfl
  have hopened := hopens mid l' hmid hrun hserves randomNonce now'
  refine ⟨hopened.authenticated, hopened.granted, ?_⟩
  intro rest n hkeeps hfresh opcode args inner packet hinner hpacket hfits hallow hdenied context
    controller time
  obtain ⟨rfl, rfl⟩ := securePacket_of_ground hinner hpacket hfits
  have hsession := run_inSession (hopened.inSession n) rest hkeeps hfresh
  simp only [forwarded_seqCmdBuffIn]
  constructor
  · intro hplain
    exact hsession.forwards controller none hfits hallow hdenied (by simp [hplain])
  · intro request hgoverned hparse
    exact hsession.forwards controller (some request) hfits hallow hdenied
      (by simpa [hgoverned] using hparse)

theorem step_request_gate (hmac : KeyedHash) (hkey : l.authorizer.ingressKeys p = some key)
    {r : Bytes} (hr : GroundStation.buildReqAuthPacket key.serviceId.toNat = some r)
    (n : RandomNonce) (now : FwTime) :
    (l.step hmac (.handshakeUplinkIn p r (some n) now)).1.gate = l.gate := by
  rw [GroundStation.buildReqAuthPacket_eq, Option.some.injEq] at hr
  subst hr
  rw [step_reqAuth hmac hkey]

def groundKey : IngressKey :=
  ⟨1, (List.range 32).map fun i => UInt8.ofNat (0x10 + i), demoService_supported, by decide, by decide⟩

def groundKeys : Port → Option IngressKey := fun p => if p = 0 then some groundKey else none

def groundConfigs : Port → AuthorityConfig := fun p =>
  if p = 0 then ⟨.sband, .primary, true⟩ else ⟨.uhf, .backup, true⟩

def groundStart : SecureLink := initial demoSerial groundKeys groundConfigs

theorem groundConfigs_serves : Serves (groundConfigs 0) groundKey.serviceId :=
  ⟨by decide, by decide, by decide⟩

theorem ground_packet_exists (sessionKey : Digest) (o : UInt32) :
    ∃ i b, GroundStation.buildInnerCommand o.toNat [] = some i ∧
      GroundStation.buildSecureCommandV2Packet i sessionKey.1 (1 : UInt32).toNat =
        some b ∧ b.length ≤ fwComBufferMaxSize := by
  have hs : (CmdPacket.serialize ⟨o, []⟩).length < 65536 := by simp
  refine ⟨_, _, GroundStation.buildInnerCommand_eq o [],
    GroundStation.buildSecureCommandV2Packet_eq _ _ _ hs, ?_⟩
  have hl := CommandIngressAuthority.securePacket_length sessionKey 1 ⟨o, []⟩
  rw [CmdPacket.serialize_length]
  exact (Nat.add_le_add_right hl.le 6).trans (by simp [fwComBufferMaxSize])

theorem honest_ground_gets_in_demo :
    ∃ request response packet inner,
      forwarded (((secureLink hmacSha256).run groundStart
          [.handshakeUplinkIn 0 request (some demoNonce) demoTime,
           .handshakeUplinkIn 0 response none demoTime]).step hmacSha256
        (.seqCmdBuffIn 0 packet 7 (fun _ => {}) demoTime)).2 = [.seqCmdBuffOut 0 inner 7] := by
  obtain ⟨request, challenge, sessionKey, response, hrequest, -, -, hopens⟩ :=
    honest_ground_gets_in demoSerial groundKeys groundConfigs [] (p := 0) rfl demoNonce demoTime
      groundStart rfl
  have hgate := step_request_gate (l := groundStart) (p := 0) hmacSha256 rfl hrequest demoNonce
    demoTime
  obtain ⟨-, -, hcommands⟩ := hopens [] _ (by simp) rfl
    (by rw [Machine.run_nil, hgate]; exact groundConfigs_serves) none demoTime _ rfl
  obtain ⟨inner, packet, hinner, hpacket, hfits⟩ := ground_packet_exists sessionKey 16777216
  refine ⟨request, response, packet, inner, ?_⟩
  refine (hcommands [] 1 trivial (by simp [NumberedBelow]) 16777216 [] inner packet hinner hpacket
    hfits ?_ (by decide) 7 (fun _ => {}) demoTime).1 (by decide)
  rw [Machine.run_nil, hgate]
  decide +kernel

/-- After the same handshake the primary link may send every catalogued command, yet the
run command of the framework's sequencer is refused and the sequence status command is
passed on as a request. -/
theorem catalogued_sequencing_not_forwarded :
    ∃ request challenge, ∃ sessionKey : Digest, ∃ response l,
      GroundStation.buildReqAuthPacket groundKey.serviceId.toNat = some request ∧
      downlinked 0 (groundStart.step hmacSha256
        (.handshakeUplinkIn 0 request (some demoNonce) demoTime)).2 = [challenge] ∧
      GroundStation.answerChallenge groundKey.keyBytes groundKey.serviceId.toNat challenge =
        some (sessionKey.1, response) ∧
      (secureLink hmacSha256).run groundStart
        [.handshakeUplinkIn 0 request (some demoNonce) demoTime,
         .handshakeUplinkIn 0 response none demoTime] = l ∧
      l.gate.grantView 0 = some (groundKey.serviceId, sessionKey) ∧
      (∃ inner packet,
        GroundStation.buildInnerCommand obcCmdSeqABaseId.toNat [] = some inner ∧
        GroundStation.buildSecureCommandV2Packet inner sessionKey.1 (1 : UInt32).toNat =
          some packet ∧ packet.length ≤ fwComBufferMaxSize ∧
        (evaluateCommandAuthority (l.gate.ingressConfigs 0) obcCmdSeqABaseId).allow = true ∧
        forwarded (l.step hmacSha256 (.seqCmdBuffIn 0 packet 7 (fun _ => {}) demoTime)).2 = []) ∧
      ∃ inner packet control,
        GroundStation.buildInnerCommand obcSeqLogStatusOpcode.toNat [] = some inner ∧
        GroundStation.buildSecureCommandV2Packet inner sessionKey.1 (1 : UInt32).toNat =
          some packet ∧ packet.length ≤ fwComBufferMaxSize ∧
        (evaluateCommandAuthority (l.gate.ingressConfigs 0) obcSeqLogStatusOpcode).allow = true ∧
        forwarded (l.step hmacSha256 (.seqCmdBuffIn 0 packet 7 (fun _ => {}) demoTime)).2 =
          [.sequenceControlOut control] := by
  obtain ⟨request, challenge, sessionKey, response, hrequest, hchallenge, hanswer, hopens⟩ :=
    handshake_opens (l := groundStart) (p := 0) (coherent_start _ _ _) rfl demoNonce demoTime
  have hgate := step_request_gate (l := groundStart) (p := 0) hmacSha256 rfl hrequest demoNonce
    demoTime
  have hopened := hopens [] _ (by simp) rfl
    (by rw [Machine.run_nil, hgate]; exact groundConfigs_serves) none demoTime
  rw [Machine.run_nil, hgate] at hopened
  have hsession := hopened.inSession 1
  have hallow (opcode : UInt32) :=
    congrArg (fun config => (evaluateCommandAuthority config opcode).allow) hsession.config_eq
  refine ⟨request, challenge, sessionKey, response, _, hrequest, hchallenge, hanswer, rfl,
    hopened.granted, ?_, ?_⟩
  · obtain ⟨inner, packet, hinner, hpacket, hfits⟩ := ground_packet_exists sessionKey obcCmdSeqABaseId
    refine ⟨inner, packet, hinner, hpacket, hfits, ?_, ?_⟩
    · exact (hallow _).trans (by decide +kernel)
    · obtain ⟨rfl, rfl⟩ := securePacket_of_ground hinner hpacket hfits
      rw [forwarded_seqCmdBuffIn]
      exact CommandIngressAuthority.denied_forwards _ _
        ((congrArg isCommManagedAuthority hsession.config_eq).trans (by decide)) (by decide)
        (by decide)
  · obtain ⟨inner, packet, hinner, hpacket, hfits⟩ :=
      ground_packet_exists sessionKey obcSeqLogStatusOpcode
    obtain ⟨control, hcontrol⟩ : ∃ control, parseSequenceControlRequest obcSeqLogStatusOpcode
        ⟨obcSeqLogStatusOpcode, []⟩ 0 (groundStart.gate.ingressConfigs 0) 7 = some control :=
      Option.isSome_iff_exists.mp (by decide)
    refine ⟨inner, packet, control, hinner, hpacket, hfits, ?_, ?_⟩
    · exact (hallow _).trans (by decide +kernel)
    · obtain ⟨rfl, rfl⟩ := securePacket_of_ground hinner hpacket hfits
      rw [forwarded_seqCmdBuffIn]
      exact hsession.forwards (fun _ => {}) (some control) hfits (by decide +kernel) (by decide)
        ⟨control, hcontrol, rfl⟩

end SecureLink

end ObcFlight
