import ObcFlight.AuthorizerSpec
import ObcFlight.GateSessions

/-!
# The authorizer and the command gate, wired

The topology connects the authorizer's grants and revocations to the command gate and
the gate's activity reports back to the authorizer. All these calls are synchronous, so
one input to the pair is one step. Invalidations, reconfigurations and direct
revocations come from the link controller and are inputs here.
-/

namespace ObcFlight

structure SecureLink where
  authorizer : SecureLinkAuthorizer
  gate : CommandIngressAuthority

inductive LinkInput where
  | handshakeUplinkIn (port : Port) (data : Bytes) (randomNonce : Option RandomNonce) (now : FwTime)
  | schedIn (now : FwTime)
  | authActivityIn (activity : SecureAuthActivity) (now : FwTime)
  | authInvalidateIn (revocation : SecureAuthRevocation)
  | seqCmdBuffIn (port : Port) (data : Bytes) (context : UInt32)
      (controller : SequenceControlRequest → SequenceControlResult) (now : FwTime)
  | seqCmdStatusIn (port : Port) (opcode cmdSeq : UInt32) (response : CmdResponse)
  | sequenceControlStatusIn (status : SequenceControlStatus)
  | reconfigureIngressSource (port : Port) (config : AuthorityConfig)
  | revokeIngressSource (port : Port) (reason : UInt32) (notifyObserver : Bool)

inductive LinkOutput where
  | authorizer (o : AuthorizerOutput)
  | gate (o : GateOutput)
  deriving DecidableEq

/-- The call on the command gate that an output of the authorizer makes. -/
def AuthorizerOutput.toGate : AuthorizerOutput → Option GateInput
  | .authGrantedOut grant => some (.authGrantedIn grant)
  | .authRevokedOut revocation => some (.authRevokedIn revocation)
  | .bufferReturnOut _ _ => none
  | .handshakePacketOut _ _ => none

theorem SecureLinkAuthorizer.Quiet.toGate_eq_nil {os : List AuthorizerOutput}
    (h : SecureLinkAuthorizer.Quiet os) : os.filterMap AuthorizerOutput.toGate = [] := by
  obtain ⟨-, hgr, hrv⟩ := h
  rw [List.filterMap_eq_nil_iff] at hgr hrv ⊢
  intro o ho
  have hg := hgr o ho
  have hr := hrv o ho
  cases o <;> simp_all [AuthorizerOutput.toGate, AuthorizerOutput.granted, AuthorizerOutput.revoked]

def LinkOutput.ofAuthorizer : LinkOutput → Option AuthorizerOutput
  | .authorizer o => some o
  | .gate _ => none

def LinkOutput.ofGate : LinkOutput → Option GateOutput
  | .authorizer _ => none
  | .gate o => some o

namespace SecureLink

/-- Deliver the authorizer's outputs in order, with the gate's own calls in between. -/
def notifyGate (hmac : KeyedHash) (g : CommandIngressAuthority) :
    List AuthorizerOutput → CommandIngressAuthority × List LinkOutput
  | [] => (g, [])
  | o :: os =>
    match o.toGate with
    | none =>
      let (g, rest) := notifyGate hmac g os
      (g, .authorizer o :: rest)
    | some i =>
      let (g, replies) := g.step hmac i
      let (g, rest) := notifyGate hmac g os
      (g, .authorizer o :: (replies.map .gate ++ rest))

def notifyAuthorizer (now : FwTime) (a : SecureLinkAuthorizer) :
    List GateOutput → SecureLinkAuthorizer
  | [] => a
  | .authActivityOut activity :: os => notifyAuthorizer now (a.authActivityIn activity now) os
  | _ :: os => notifyAuthorizer now a os

variable (l : SecureLink)

def fromAuthorizer (hmac : KeyedHash) (result : SecureLinkAuthorizer × List AuthorizerOutput) :
    SecureLink × List LinkOutput :=
  (⟨result.1, (notifyGate hmac l.gate result.2).1⟩, (notifyGate hmac l.gate result.2).2)

def fromGate (result : CommandIngressAuthority × List GateOutput) : SecureLink × List LinkOutput :=
  ({ l with gate := result.1 }, result.2.map .gate)

def step (hmac : KeyedHash) (l : SecureLink) : LinkInput → SecureLink × List LinkOutput
  | .handshakeUplinkIn p data randomNonce now =>
    l.fromAuthorizer hmac (l.authorizer.handshakeUplinkIn hmac p data randomNonce now)
  | .schedIn now => l.fromAuthorizer hmac (l.authorizer.schedIn now)
  | .authActivityIn activity now =>
    ({ l with authorizer := l.authorizer.authActivityIn activity now }, [])
  | .authInvalidateIn revocation =>
    l.fromAuthorizer hmac (l.authorizer.authInvalidateIn revocation)
  | .seqCmdBuffIn p data context controller now =>
    let result := l.gate.seqCmdBuffIn hmac controller p data context
    (⟨notifyAuthorizer now l.authorizer result.2, result.1⟩, result.2.map .gate)
  | .seqCmdStatusIn p opcode cmdSeq response =>
    l.fromGate (l.gate.seqCmdStatusIn p opcode cmdSeq response)
  | .sequenceControlStatusIn status => l.fromGate (l.gate.sequenceControlStatusIn status)
  | .reconfigureIngressSource p config =>
    ({ l with gate := l.gate.reconfigureIngressSource p config }, [])
  | .revokeIngressSource p reason notifyObserver =>
    l.fromGate (l.gate.revokeIngressSource p reason notifyObserver)

/-- Start-up: keys and profiles configured, no session, no challenge. -/
def initial (moduleSerial : ModuleSerial) (ingressKeys : Port → Option IngressKey)
    (ingressConfigs : Port → AuthorityConfig) : SecureLink where
  authorizer := SecureLinkAuthorizer.initial moduleSerial ingressKeys
  gate := { CommandIngressAuthority.initial with ingressConfigs := ingressConfigs }

def gateInputs (hmac : KeyedHash) (l : SecureLink) : LinkInput → List GateInput
  | .handshakeUplinkIn p data randomNonce now =>
    (l.authorizer.handshakeUplinkIn hmac p data randomNonce now).2.filterMap AuthorizerOutput.toGate
  | .schedIn now => (l.authorizer.schedIn now).2.filterMap AuthorizerOutput.toGate
  | .authActivityIn _ _ => []
  | .authInvalidateIn revocation =>
    (l.authorizer.authInvalidateIn revocation).2.filterMap AuthorizerOutput.toGate
  | .seqCmdBuffIn p data context controller _ => [.seqCmdBuffIn p data context controller]
  | .seqCmdStatusIn p opcode cmdSeq response => [.seqCmdStatusIn p opcode cmdSeq response]
  | .sequenceControlStatusIn status => [.sequenceControlStatusIn status]
  | .reconfigureIngressSource p config => [.reconfigureIngressSource p config]
  | .revokeIngressSource p reason notifyObserver => [.revokeIngressSource p reason notifyObserver]

end SecureLink

def secureLink (hmac : KeyedHash) : Machine SecureLink LinkInput LinkOutput :=
  ⟨SecureLink.step hmac⟩

namespace SecureLink

variable {hmac : KeyedHash} {l : SecureLink}

theorem notifyGate_state (hmac : KeyedHash) (g : CommandIngressAuthority)
    (os : List AuthorizerOutput) :
    (notifyGate hmac g os).1 = (commandGate hmac).run g (os.filterMap AuthorizerOutput.toGate) := by
  induction os generalizing g with
  | nil => rfl
  | cons o _ ih =>
    cases hg : o.toGate with
    | none => simp [notifyGate, hg, ih]
    | some =>
      simp only [notifyGate, hg, ih, List.filterMap_cons, Machine.run_cons]
      rfl

theorem notifyGate_authorizer (hmac : KeyedHash) (g : CommandIngressAuthority)
    (os : List AuthorizerOutput) :
    (notifyGate hmac g os).2.filterMap LinkOutput.ofAuthorizer = os := by
  induction os generalizing g with
  | nil => rfl
  | cons o _ ih =>
    have hr (replies : List GateOutput) :
        (replies.map LinkOutput.gate).filterMap LinkOutput.ofAuthorizer = [] := by
      simp [LinkOutput.ofAuthorizer]
    cases hg : o.toGate with
    | none => simp [notifyGate, hg, ih, LinkOutput.ofAuthorizer]
    | some => simp [notifyGate, hg, ih, hr, LinkOutput.ofAuthorizer]

theorem step_gate (hmac : KeyedHash) (l : SecureLink) (i : LinkInput) :
    (l.step hmac i).1.gate = (commandGate hmac).run l.gate (l.gateInputs hmac i) := by
  cases i with
  | handshakeUplinkIn | schedIn | authInvalidateIn =>
    exact notifyGate_state _ _ _
  | authActivityIn | seqCmdBuffIn | seqCmdStatusIn
  | sequenceControlStatusIn | reconfigureIngressSource | revokeIngressSource => rfl

theorem notifyAuthorizer_sameAuth (now : FwTime) (a : SecureLinkAuthorizer) (os : List GateOutput) :
    a.SameAuth (notifyAuthorizer now a os) := by
  induction os generalizing a with
  | nil => exact SecureLinkAuthorizer.sameAuth_refl
  | cons o _ ih =>
    cases o with
    | authActivityOut x =>
      exact (a.authActivityIn_sameAuth x now).trans (ih _)
    | _ => exact ih a

theorem coherent_run {g : CommandIngressAuthority} (h : g.Coherent) (hmac : KeyedHash)
    (is : List GateInput) : ((commandGate hmac).run g is).Coherent :=
  (commandGate hmac).run_invariant (fun _ i hg => hg.step hmac i) g h is

/-! A short run for the examples: a handshake on the S-band port, a command, and the
same command again. -/

def demoHash : KeyedHash := fun _ message => some (Digest.copy message.reverse)

theorem demoService_supported : isSupportedSecureServiceId 1 = true := by decide

def demoKey : IngressKey := ⟨1, ascii "root-key", demoService_supported, by decide, by decide⟩

def demoSerial : ModuleSerial := ⟨ascii "FPOBCSAT00000001", by decide⟩

def demoNonce : RandomNonce := ⟨List.replicate 15 7, by decide⟩

def demoStart : SecureLink :=
  initial demoSerial (fun p => if p = 0 then some demoKey else none)
    fun p => if p = 0 then ⟨.sband, .primary, true⟩ else ⟨.uhf, .backup, true⟩

def demoTime : FwTime := ⟨2, 0, 1000, 0⟩

def demoCommand : Bytes :=
  let inner : CmdPacket := ⟨16777216, []⟩
  CmdPacket.serialize ⟨obcSecureCommandV2Opcode, secureArgs 5 inner.serialize
    (Digest.copy (secureAuthMaterial 5 inner.serialize).reverse)⟩

def demoInputs : List LinkInput :=
  [.handshakeUplinkIn 0 (serializeHeader .reqAuth 1) (some demoNonce) demoTime,
   .handshakeUplinkIn 0 (serializeHeader .response 1 ++ List.replicate 32 0xFF) none demoTime,
   .seqCmdBuffIn 0 demoCommand 1 (fun _ => {}) demoTime,
   .seqCmdBuffIn 0 demoCommand 2 (fun _ => {}) demoTime]

end SecureLink

end ObcFlight
