import ObcFlight.SecureLink

/-!
# Complete mediation of the COMM-managed ports

Nothing leaves the command gate for a COMM-managed port unless it is the inner command
of an authentic secure packet that the open session of the port admits and whose opcode
is catalogued for the role of the port.
-/

namespace ObcFlight

namespace CommandIngressAuthority

/-- What is known about a buffer and the gate's state when a call leaves the gate. -/
structure Mediated (hmac : KeyedHash) (g : CommandIngressAuthority) (p : Port) (data : Bytes)
    (context : UInt32) (o : GateOutput) (outer inner : CmdPacket) (sequenceNumber : UInt32)
    (tag : Digest) (entry : CommandAuthorityCatalogEntry) : Prop where
  buffer : CmdPacket.deserializeFrom data = some outer
  opcode : outer.opcode = obcSecureCommandV2Opcode
  layout : outer.args = secureArgs sequenceNumber inner.serialize tag
  valid : (g.ingressConfigs p).valid = true
  sessionOpen : (g.activeSessions p).isOpen = true
  sessionService : (g.activeSessions p).serviceId = secureServiceIdForConfig (g.ingressConfigs p)
  service_ne_zero : secureServiceIdForConfig (g.ingressConfigs p) ≠ 0
  authentic : hmac (g.activeSessions p).secureSessionKey.1
    (secureAuthMaterial sequenceNumber inner.serialize) = some tag
  catalogued : entry ∈ commandAuthorityCatalog
  entry_opcode : entry.opcode = inner.opcode
  role : (g.ingressConfigs p).role = .backup → entry.uhfBackupAllowed = true
  notDenied : isDeniedDirectOfficialSequencingOpcode inner.opcode = false
  forwarded : o = .seqCmdBuffOut p inner.serialize context ∨
    ∃ request, parseSequenceControlRequest inner.opcode inner p (g.ingressConfigs p) context =
      some request ∧ o = .sequenceControlOut request

theorem SecureAdmission.forward_cases {hmac : KeyedHash} {g : CommandIngressAuthority} {p : Port}
    {c : UInt32} {o i : CmdPacket} {a : SecureAdmission} {tag : Digest}
    (h : Admits hmac g p c o a i tag) :
    a.forward p c = .seqCmdBuffOut p i.serialize c ∨
      ∃ request, parseSequenceControlRequest i.opcode i p (g.ingressConfigs p) c =
        some request ∧ a.forward p c = .sequenceControlOut request := by
  have hr := h.request
  split_ifs at hr
  · obtain ⟨request, hp, hs⟩ := hr
    exact Or.inr ⟨request, hp, by rw [SecureAdmission.forward, hs]⟩
  · exact Or.inl (by rw [SecureAdmission.forward, hr, h.innerCommand])

/-- Complete mediation: on a port that is not validly configured or is one of the radio
links, every call that passes a command on is mediated; and the catalog lookup finds
exactly the listed opcodes. -/
theorem seqCmdBuffIn_mediated (hmac : KeyedHash)
    (controller : SequenceControlRequest → SequenceControlResult) (g : CommandIngressAuthority)
    (p : Port) (data : Bytes) (context : UInt32)
    (hport : (g.ingressConfigs p).valid = false ∨ (g.ingressConfigs p).identity = .sband ∨
      (g.ingressConfigs p).identity = .uhf) :
    (∀ o ∈ (g.seqCmdBuffIn hmac controller p data context).2, o.isForward = true →
      ∃ outer inner sequenceNumber tag entry,
        Mediated hmac g p data context o outer inner sequenceNumber tag entry) ∧
    ∀ opcode entry, findCommandAuthorityCatalogEntry opcode = some entry ↔
      entry ∈ commandAuthorityCatalog ∧ entry.opcode = opcode := by
  refine ⟨fun o ho hforward => ?_, findCommandAuthorityCatalogEntry_eq_some_iff⟩
  have hcomm := (isCommManagedAuthority_iff (g.ingressConfigs p)).mpr hport
  have hmem := List.mem_filter.mpr ⟨ho, hforward⟩
  rcases seqCmdBuffIn_cases hmac controller g p data context hcomm with
    ⟨r, hr⟩ | ⟨hvalid, outer, a, inner, tag, hdata, hfits, hsecure, hadmits, -, hresult⟩
  · rw [hr, reject_forwards] at hmem
    cases hmem
  · rw [hresult, handOn_forwards, List.mem_singleton] at hmem
    obtain ⟨entry, hentry, hopcode, hrole⟩ :=
      (evaluateCommandAuthority_allow_iff _ _ hvalid hcomm).mp hadmits.allow
    exact ⟨outer, inner, a.sequenceNumber, tag, entry,
      { buffer := (CmdPacket.deserializeFrom_eq_some_iff _ _).mpr ⟨hdata, hfits⟩
        opcode := hsecure
        layout := hadmits.layout
        valid := hvalid
        sessionOpen := hadmits.isOpen
        sessionService := hadmits.service
        service_ne_zero := hadmits.service_ne_zero
        authentic := hadmits.tag_eq
        catalogued := hentry
        entry_opcode := hopcode
        role := hrole
        notDenied := hadmits.not_denied
        forwarded := hmem ▸ SecureAdmission.forward_cases hadmits }⟩

def demoGate : CommandIngressAuthority :=
  ((secureLink SecureLink.demoHash).run SecureLink.demoStart (SecureLink.demoInputs.take 2)).gate

theorem seqCmdBuffIn_mediated_demo :
    ∃ outer inner sequenceNumber tag entry,
      Mediated SecureLink.demoHash demoGate 0 SecureLink.demoCommand 7
        (.seqCmdBuffOut 0 [0, 0, 1, 0, 0, 0] 7) outer inner sequenceNumber tag entry :=
  (seqCmdBuffIn_mediated SecureLink.demoHash (fun _ => {}) demoGate 0 SecureLink.demoCommand 7
    (by decide +kernel)).1 _ (by decide +kernel) rfl

end CommandIngressAuthority

end ObcFlight
