import ObcFlight.SecureLink

/-!
# Histories of the secure link

What is written down along a run of the wired pair: the commands handed on, the
challenges issued and answered, and the keyed hashes that the answers and the
commands rest on. Each history is tied to the session tables of the two components.
-/

namespace ObcFlight

structure HandedCommand where
  port : Port
  packet : Bytes
  sequenceNumber : UInt32
  deriving DecidableEq

/-- A challenge that was answered correctly, with the key derived from it. -/
structure Establishment where
  rootKey : Bytes
  serviceId : UInt8
  challenge : Challenge
  sessionKey : Digest

def Establishment.hashed (e : Establishment) : Bytes × Bytes :=
  (e.rootKey, sessionKeyMaterial e.serviceId e.challenge)

def secureInnerCommand (data : Bytes) : Bytes :=
  match CmdPacket.deserializeFrom data with
  | none => []
  | some outer => (parseSecureCommandV2 outer).2

def LinkOutput.issuedChallenge (o : LinkOutput) : Option Challenge :=
  o.ofAuthorizer.bind AuthorizerOutput.issuedChallenge

def LinkOutput.granted (o : LinkOutput) : Option SecureAuthGrant :=
  o.ofAuthorizer.bind AuthorizerOutput.granted

def Challenge.nonce (c : Challenge) : RandomNonce := ⟨c.1.drop 16, by rw [List.length_drop, c.2]⟩

namespace SecureLink

def handed (hmac : KeyedHash) (l : SecureLink) : LinkInput → List HandedCommand
  | .seqCmdBuffIn p data context controller _ =>
    (l.gate.handedSequences hmac p data context controller).map (⟨p, data, ·⟩)
  | _ => []

def handedHashes (hmac : KeyedHash) (l : SecureLink) : LinkInput → List (Bytes × Bytes)
  | .seqCmdBuffIn p data context controller _ =>
    (l.gate.handedSequences hmac p data context controller).map fun n =>
      ((l.gate.activeSessions p).secureSessionKey.1, secureAuthMaterial n (secureInnerCommand data))
  | _ => []

def establishments (hmac : KeyedHash) (l : SecureLink) : LinkInput → List Establishment
  | .handshakeUplinkIn p data randomNonce now =>
    match l.authorizer.pendingChallenges p with
    | none => []
    | some pending =>
      ((l.authorizer.handshakeUplinkIn hmac p data randomNonce now).2.filterMap
        AuthorizerOutput.granted).map fun grant =>
          ⟨l.authorizer.rootKey p, pending.serviceId, pending.challenge, grant.sessionKey⟩
  | _ => []

/-- The keyed hashes that the grants and the handed-on commands of a step rest on. -/
def acceptedHashes (hmac : KeyedHash) (l : SecureLink) (i : LinkInput) : List (Bytes × Bytes) :=
  (l.establishments hmac i).map Establishment.hashed ++ l.handedHashes hmac i

def sessionEvents (hmac : KeyedHash) (l : SecureLink) (i : LinkInput) :
    List (SessionEvent Port Digest UInt32) :=
  ((commandGate hmac).observe (CommandIngressAuthority.sessionEvents hmac)).trace l.gate
    (l.gateInputs hmac i)

variable {hmac : KeyedHash} {l : SecureLink}

theorem gate_sessions_run (hmac : KeyedHash) (g : CommandIngressAuthority) (is : List GateInput) :
    Sessions.Run g.sessions
      (((commandGate hmac).observe (CommandIngressAuthority.sessionEvents hmac)).trace g is)
      ((commandGate hmac).run g is).sessions := by
  induction is generalizing g with
  | nil => exact Sessions.Run.nil _
  | cons i _ ih => exact (g.sessions_run hmac i).append (ih _)

theorem sessions_run (hmac : KeyedHash) (l : SecureLink) (is : List LinkInput) :
    Sessions.Run l.gate.sessions
      (((secureLink hmac).observe (sessionEvents hmac)).trace l is)
      ((secureLink hmac).run l is).gate.sessions := by
  induction is generalizing l with
  | nil => exact Sessions.Run.nil _
  | cons i _ ih =>
    refine Sessions.Run.append ?_ (ih _)
    have hstep := gate_sessions_run hmac l.gate (l.gateInputs hmac i)
    rwa [← step_gate] at hstep

/-- The commands handed on, each with the key of the session that admitted it. -/
def handedKeyed (hmac : KeyedHash) (l : SecureLink) (i : LinkInput) : List (Digest × HandedCommand) :=
  (l.handed hmac i).map fun h => ((l.gate.activeSessions h.port).secureSessionKey, h)

theorem sessionEvents_seqCmdBuffIn (p : Port) (data : Bytes) (n : UInt32)
    (c : SequenceControlRequest → SequenceControlResult) (now : FwTime) :
    l.sessionEvents hmac (.seqCmdBuffIn p data n c now) =
      (l.gate.handedSequences hmac p data n c).map
        (.accepted p (l.gate.activeSessions p).secureSessionKey) :=
  List.append_nil _

theorem not_accepted_of_gate {is : List GateInput}
    (h : ∀ p data c controller, .seqCmdBuffIn p data c controller ∉ is)
    (g : CommandIngressAuthority) (p : Port) (key : Digest) (n : UInt32) :
    .accepted p key n ∉
      ((commandGate hmac).observe (CommandIngressAuthority.sessionEvents hmac)).trace g is := by
  intro hmem
  obtain ⟨pre, i, post, rfl, hi⟩ := Machine.exists_of_mem_trace _ hmem
  have hni : ∀ p data c controller, i ≠ .seqCmdBuffIn p data c controller :=
    fun p data c controller heq => h p data c controller (by simp [heq])
  cases i with
  | seqCmdBuffIn p data c controller => exact hni p data c controller rfl
  | authGrantedIn | authRevokedIn =>
    simp only [Machine.observe_step, CommandIngressAuthority.sessionEvents] at hi
    split_ifs at hi <;> simp at hi
  | _ => simp [CommandIngressAuthority.sessionEvents] at hi

theorem seqCmdBuffIn_not_mem_toGate (os : List AuthorizerOutput) (p : Port) (data : Bytes)
    (n : UInt32) (c : SequenceControlRequest → SequenceControlResult) :
    .seqCmdBuffIn p data n c ∉ os.filterMap AuthorizerOutput.toGate := by
  intro hmem
  obtain ⟨o, -, ho⟩ := List.mem_filterMap.mp hmem
  cases o <;> simp [AuthorizerOutput.toGate] at ho

theorem sessionEvents_cases (hmac : KeyedHash) (l : SecureLink) (i : LinkInput) :
    (∃ p data k c now, i = .seqCmdBuffIn p data k c now) ∨
      l.handed hmac i = [] ∧ ∀ p key n, .accepted p key n ∉ l.sessionEvents hmac i := by
  cases i with
  | seqCmdBuffIn => exact Or.inl ⟨_, _, _, _, _, rfl⟩
  | handshakeUplinkIn | authInvalidateIn =>
    exact Or.inr ⟨rfl, not_accepted_of_gate (seqCmdBuffIn_not_mem_toGate _) _⟩
  | schedIn => exact Or.inr ⟨rfl, not_accepted_of_gate (seqCmdBuffIn_not_mem_toGate _) _⟩
  | _ => exact Or.inr ⟨rfl, not_accepted_of_gate (by simp [gateInputs]) _⟩

theorem acceptedPairs_sessionEvents (hmac : KeyedHash) (l : SecureLink) (i : LinkInput) :
    Sessions.acceptedPairs (l.sessionEvents hmac i) =
      (l.handedKeyed hmac i).map fun h => (h.1, h.2.sequenceNumber) := by
  rcases sessionEvents_cases hmac l i with ⟨p, data, k, c, now, rfl⟩ | ⟨hn, hnot⟩
  · rw [sessionEvents_seqCmdBuffIn]
    simp [Sessions.acceptedPairs, handedKeyed, handed, List.filterMap_map, Function.comp_def]
  · rw [handedKeyed, hn]
    refine List.filterMap_eq_nil_iff.mpr fun e he => ?_
    cases e with
    | accepted p key n => exact absurd he (hnot p key n)
    | _ => rfl

theorem acceptedAt_sessionEvents (hmac : KeyedHash) (l : SecureLink) (i : LinkInput) (p : Port) :
    Sessions.acceptedAt p (l.sessionEvents hmac i) =
      (l.handed hmac i).filterMap fun h => if h.port = p then some h.sequenceNumber else none := by
  rcases sessionEvents_cases hmac l i with ⟨q, data, k, c, now, rfl⟩ | ⟨hn, hnot⟩
  · rw [sessionEvents_seqCmdBuffIn]
    simp [Sessions.acceptedAt, handed, List.filterMap_map]
  · rw [hn]
    refine List.filterMap_eq_nil_iff.mpr fun e he => ?_
    cases e with
    | accepted q key n => exact absurd he (hnot q key n)
    | _ => rfl

theorem opened_sublist_of_toGate (hmac : KeyedHash) (g : CommandIngressAuthority)
    (os : List AuthorizerOutput) :
    (Sessions.openedKeys
      (((commandGate hmac).observe (CommandIngressAuthority.sessionEvents hmac)).trace g
        (os.filterMap AuthorizerOutput.toGate))).Sublist
      ((os.filterMap AuthorizerOutput.granted).map SecureAuthGrant.sessionKey) := by
  induction os generalizing g with
  | nil => exact List.Sublist.refl _
  | cons o _ ih =>
    cases o with
    | authGrantedOut grant =>
      simp only [List.filterMap_cons, AuthorizerOutput.toGate, AuthorizerOutput.granted,
        Machine.trace_cons, Sessions.openedKeys_append, List.map_cons]
      have hh : (Sessions.openedKeys
          (CommandIngressAuthority.sessionEvents hmac g (.authGrantedIn grant))).Sublist
            [grant.sessionKey] := by
        simp only [CommandIngressAuthority.sessionEvents]
        split_ifs
        · exact List.Sublist.refl _
        · exact List.nil_sublist _
      exact hh.append (ih _)
    | authRevokedOut r =>
      simp only [List.filterMap_cons, AuthorizerOutput.toGate, AuthorizerOutput.granted,
        Machine.trace_cons, Sessions.openedKeys_append]
      have hnone : Sessions.openedKeys
          (CommandIngressAuthority.sessionEvents hmac g (.authRevokedIn r)) = [] := by
        simp only [CommandIngressAuthority.sessionEvents]
        split_ifs <;> rfl
      simp only [Machine.observe_step, hnone, List.nil_append]
      exact ih _
    | bufferReturnOut | handshakePacketOut =>
      simpa only [List.filterMap_cons, AuthorizerOutput.toGate, AuthorizerOutput.granted] using ih g

/-- What a step of the pair sends through the authorizer's output ports. -/
def authorizerOutputs (hmac : KeyedHash) (l : SecureLink) : LinkInput → List AuthorizerOutput
  | .handshakeUplinkIn p data randomNonce now =>
    (l.authorizer.handshakeUplinkIn hmac p data randomNonce now).2
  | .schedIn now => (l.authorizer.schedIn now).2
  | .authInvalidateIn revocation => (l.authorizer.authInvalidateIn revocation).2
  | _ => []

theorem step_authorizerOutputs (hmac : KeyedHash) (l : SecureLink) (i : LinkInput) :
    (l.step hmac i).2.filterMap LinkOutput.ofAuthorizer = l.authorizerOutputs hmac i := by
  have hg (os : List GateOutput) :
      (os.map LinkOutput.gate).filterMap LinkOutput.ofAuthorizer = [] := by
    simp [LinkOutput.ofAuthorizer]
  cases i with
  | handshakeUplinkIn | schedIn | authInvalidateIn =>
    exact notifyGate_authorizer _ _ _
  | authActivityIn => rfl
  | reconfigureIngressSource => rfl
  | seqCmdBuffIn | seqCmdStatusIn | sequenceControlStatusIn
  | revokeIngressSource => exact hg _

variable {i : LinkInput}

theorem mem_step_of_mem_authorizerOutputs {o : AuthorizerOutput}
    (h : o ∈ l.authorizerOutputs hmac i) : .authorizer o ∈ (l.step hmac i).2 := by
  rw [← step_authorizerOutputs, List.mem_filterMap] at h
  obtain ⟨x, hx, hxo⟩ := h
  cases x with
  | authorizer =>
    cases hxo
    exact hx
  | gate => cases hxo

theorem mem_authorizerOutputs_of_granted {g : SecureAuthGrant}
    (h : .authGrantedIn g ∈ l.gateInputs hmac i) :
    .authGrantedOut g ∈ l.authorizerOutputs hmac i := by
  have hback (os : List AuthorizerOutput)
      (hmem : .authGrantedIn g ∈ os.filterMap AuthorizerOutput.toGate) :
      .authGrantedOut g ∈ os := by
    obtain ⟨o, ho, heq⟩ := List.mem_filterMap.mp hmem
    cases o <;> simp_all [AuthorizerOutput.toGate]
  cases i with
  | handshakeUplinkIn | schedIn | authInvalidateIn => exact hback _ h
  | _ => simp [gateInputs] at h

theorem exists_grant_of_opened {p : Port} {key : Digest}
    (h : .opened p key ∈ l.sessionEvents hmac i) :
    ∃ g : SecureAuthGrant, g.ingressPort = p ∧
      .authorizer (.authGrantedOut g) ∈ (l.step hmac i).2 := by
  obtain ⟨pre, gi, post, hs, hgi⟩ := Machine.exists_of_mem_trace _ h
  have hmem : gi ∈ l.gateInputs hmac i := by simp [hs]
  rw [Machine.observe_step] at hgi
  cases gi with
  | authGrantedIn g =>
    simp only [CommandIngressAuthority.sessionEvents] at hgi
    split_ifs at hgi
    · simp only [List.mem_singleton, SessionEvent.opened.injEq] at hgi
      exact ⟨g, hgi.1.symm,
        mem_step_of_mem_authorizerOutputs (mem_authorizerOutputs_of_granted hmem)⟩
    · cases hgi
  | authRevokedIn =>
    simp only [CommandIngressAuthority.sessionEvents] at hgi
    split_ifs at hgi <;> simp at hgi
  | _ => simp [CommandIngressAuthority.sessionEvents] at hgi

theorem filterMap_granted (hmac : KeyedHash) (l : SecureLink) (i : LinkInput) :
    (l.step hmac i).2.filterMap LinkOutput.granted =
      (l.authorizerOutputs hmac i).filterMap AuthorizerOutput.granted := by
  rw [← step_authorizerOutputs, List.filterMap_filterMap]
  rfl

theorem filterMap_issuedChallenge (hmac : KeyedHash) (l : SecureLink) (i : LinkInput) :
    (l.step hmac i).2.filterMap LinkOutput.issuedChallenge =
      (l.authorizerOutputs hmac i).filterMap AuthorizerOutput.issuedChallenge := by
  rw [← step_authorizerOutputs, List.filterMap_filterMap]
  rfl

theorem openedKeys_sublist (hmac : KeyedHash) (l : SecureLink) (i : LinkInput) :
    (Sessions.openedKeys (l.sessionEvents hmac i)).Sublist
      (((l.step hmac i).2.filterMap LinkOutput.granted).map SecureAuthGrant.sessionKey) := by
  rw [filterMap_granted]
  cases i with
  | handshakeUplinkIn | schedIn | authInvalidateIn =>
    exact opened_sublist_of_toGate hmac _ _
  | seqCmdBuffIn =>
    rw [sessionEvents_seqCmdBuffIn, Sessions.openedKeys, List.filterMap_map]
    simp
  | _ => exact List.Sublist.refl _

/-- What a step does to the pending challenges, in the terms of the session table:
issued challenges open, answered ones are accepted and closed. -/
def ChallengeRun (a a' : SecureLinkAuthorizer) (issued answered : List Challenge) : Prop :=
  ∃ es, Sessions.Run a.challenges es a'.challenges ∧ Sessions.openedKeys es = issued ∧
    (Sessions.acceptedPairs es).map Prod.fst = answered

theorem challengeRun_of_eq {a a' : SecureLinkAuthorizer}
    (h : a'.pendingChallenges = a.pendingChallenges) : ChallengeRun a a' [] [] := by
  have hs : a'.challenges = a.challenges := by
    funext q
    simp only [SecureLinkAuthorizer.challenges, h]
  refine ⟨[], ?_, rfl, rfl⟩
  rw [hs]
  exact Sessions.Run.nil _

theorem ChallengeRun.trans {a a' a'' : SecureLinkAuthorizer} {id i' b an' :
    List Challenge} (h : ChallengeRun a a' id b)
    (h' : ChallengeRun a' a'' i' an') :
    ChallengeRun a a'' (id ++ i') (b ++ an') := by
  obtain ⟨es, hrun, his, han⟩ := h
  obtain ⟨es', hr', hi', ha'⟩ := h'
  refine ⟨es ++ es', hrun.append hr', ?_, ?_⟩
  · rw [Sessions.openedKeys_append, his, hi']
  · rw [Sessions.acceptedPairs_append, List.map_append, han, ha']

theorem handshake_challengeRun (hmac : KeyedHash) (l : SecureLink) (p : Port) (data : Bytes)
    (r : Option RandomNonce) (now : FwTime) :
    let o := (l.authorizer.handshakeUplinkIn hmac p data r now).2
    let a := l.establishments hmac (.handshakeUplinkIn p data r now)
    ChallengeRun l.authorizer (l.authorizer.handshakeUplinkIn hmac p data r now).1
        (o.filterMap AuthorizerOutput.issuedChallenge) (a.map Establishment.challenge) ∧
      a.map Establishment.sessionKey =
        (o.filterMap AuthorizerOutput.granted).map SecureAuthGrant.sessionKey ∧
      ∀ e ∈ a, hmac e.hashed.1 e.hashed.2 = some e.sessionKey := by
  simp only [establishments]
  rcases l.authorizer.handshakeUplinkIn_cases hmac p data r now with
    ⟨o, ⟨his, hg, -⟩, hr⟩ | ⟨serviceId, nonce, packet, -, -, hbl, hr⟩ |
      ⟨serviceId, challenge, response, sessionKey, o, hest, ⟨his, hg, -⟩, hr⟩
  · simp only [hr, his, hg]
    cases l.authorizer.pendingChallenges p with
    | none | some => exact ⟨challengeRun_of_eq rfl, rfl, by simp⟩
  · have hg : [AuthorizerOutput.handshakePacketOut p packet, .bufferReturnOut p data].filterMap
        AuthorizerOutput.granted = [] := rfl
    have his : [AuthorizerOutput.handshakePacketOut p packet, .bufferReturnOut p data].filterMap
        AuthorizerOutput.issuedChallenge = [Challenge.ofParts l.authorizer.moduleSerial nonce] := by
      simp [AuthorizerOutput.issuedChallenge, challengeOfPacket_challenge hbl]
    have hrun : ChallengeRun l.authorizer (l.authorizer.challenged p serviceId nonce)
        [Challenge.ofParts l.authorizer.moduleSerial nonce] [] :=
      ⟨_, l.authorizer.challenged_run p serviceId nonce, rfl, rfl⟩
    simp only [hr, his, hg]
    cases l.authorizer.pendingChallenges p with
    | none | some => exact ⟨hrun, rfl, by simp⟩
  · have hdr : hmac (l.authorizer.rootKey p) (sessionKeyMaterial serviceId challenge) =
        some sessionKey := by
      have hd := hest.derived
      unfold deriveSecureSessionKey at hd
      split_ifs at hd
      exact hd
    simp only [hr, hest.pending, List.filterMap_cons, AuthorizerOutput.issuedChallenge,
      AuthorizerOutput.granted, his, hg]
    refine ⟨⟨_, SecureLinkAuthorizer.established_run hest now, rfl, rfl⟩, rfl, ?_⟩
    simpa [Establishment.hashed] using hdr

variable (a : SecureLinkAuthorizer)

theorem schedIn_quiet (now : FwTime) :
    (a.schedIn now).1.ingressKeys = a.ingressKeys ∧
      (a.schedIn now).1.pendingChallenges = a.pendingChallenges ∧
      (a.schedIn now).2.filterMap AuthorizerOutput.issuedChallenge = [] ∧
      (a.schedIn now).2.filterMap AuthorizerOutput.granted = [] := by
  have hp (a : SecureLinkAuthorizer) (p : Port) :
      (a.checkTimeout p now).1.ingressKeys = a.ingressKeys ∧
        (a.checkTimeout p now).1.pendingChallenges = a.pendingChallenges ∧
        (a.checkTimeout p now).2.filterMap AuthorizerOutput.issuedChallenge = [] ∧
        (a.checkTimeout p now).2.filterMap AuthorizerOutput.granted = [] := by
    rcases a.checkTimeout_cases p now with ⟨a', hs, hr⟩ | ⟨x, -, hr⟩
    · rw [hr]
      exact ⟨hs.ingressKeys, hs.pendingChallenges, rfl, rfl⟩
    · rw [hr]
      exact ⟨rfl, rfl, rfl, rfl⟩
  obtain ⟨hkeys₀, hpending₀, hissued₀, hgranted₀⟩ := hp a 0
  obtain ⟨hkeys₁, hpending₁, hissued₁, hgranted₁⟩ := hp (a.checkTimeout 0 now).1 1
  refine ⟨hkeys₁.trans hkeys₀, hpending₁.trans hpending₀, ?_, ?_⟩ <;>
    simp only [SecureLinkAuthorizer.schedIn, List.filterMap_append]
  · rw [hissued₀, hissued₁, List.append_nil]
  · rw [hgranted₀, hgranted₁, List.append_nil]

theorem authInvalidateIn_challengeRun (r : SecureAuthRevocation) :
    ChallengeRun a (a.authInvalidateIn r).1 [] [] ∧
      (a.authInvalidateIn r).2.filterMap AuthorizerOutput.issuedChallenge = [] ∧
      (a.authInvalidateIn r).2.filterMap AuthorizerOutput.granted = [] := by
  obtain ⟨es, hrun, ho, hac⟩ := a.withoutPending_run r.ingressPort r.serviceId
  have hdr : ChallengeRun a (a.withoutPending r.ingressPort r.serviceId) [] [] :=
    ⟨es, hrun, ho, by rw [hac]; rfl⟩
  rw [SecureLinkAuthorizer.authInvalidateIn_eq]
  split_ifs
  · exact ⟨hdr, rfl, rfl⟩
  · exact ⟨hdr, rfl, rfl⟩

theorem step_challengeRun (hmac : KeyedHash) (l : SecureLink) (i : LinkInput) :
    ChallengeRun l.authorizer (l.step hmac i).1.authorizer
        ((l.step hmac i).2.filterMap LinkOutput.issuedChallenge)
        ((l.establishments hmac i).map Establishment.challenge) ∧
      (l.establishments hmac i).map Establishment.sessionKey =
        ((l.step hmac i).2.filterMap LinkOutput.granted).map SecureAuthGrant.sessionKey ∧
      ∀ e ∈ l.establishments hmac i, hmac e.hashed.1 e.hashed.2 = some e.sessionKey := by
  rw [filterMap_issuedChallenge, filterMap_granted]
  cases i with
  | handshakeUplinkIn p data _ now => exact handshake_challengeRun hmac l p data _ now
  | schedIn now =>
    obtain ⟨-, hp, his, hg⟩ := schedIn_quiet l.authorizer now
    simp only [authorizerOutputs, his, hg]
    exact ⟨challengeRun_of_eq hp, rfl, by simp [establishments]⟩
  | authInvalidateIn r =>
    obtain ⟨hrun, his, hg⟩ := authInvalidateIn_challengeRun l.authorizer r
    simp only [authorizerOutputs, his, hg]
    exact ⟨hrun, rfl, by simp [establishments]⟩
  | authActivityIn a now =>
    have hs := l.authorizer.authActivityIn_sameAuth a now
    exact ⟨challengeRun_of_eq hs.pendingChallenges, rfl, by simp [establishments]⟩
  | seqCmdBuffIn p data n c now =>
    have hs := notifyAuthorizer_sameAuth now l.authorizer
      (l.gate.seqCmdBuffIn hmac c p data n).2
    exact ⟨challengeRun_of_eq hs.pendingChallenges, rfl, by simp [establishments]⟩
  | _ => exact ⟨challengeRun_of_eq rfl, rfl, by simp [establishments]⟩

end SecureLink

end ObcFlight
