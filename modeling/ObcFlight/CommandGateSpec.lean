import ObcFlight.CommandGate

/-!
# What the command gate can do

One inversion lemma for the admission of a secure command, one for the command
handler on a COMM-managed port, and the frame of every other handler. Later
modules argue from these and never unfold a handler again.
-/

namespace ObcFlight

def GateOutput.isForward : GateOutput → Bool
  | .seqCmdBuffOut _ _ _ => true
  | .sequenceControlOut _ => true
  | .seqCmdStatusOut _ _ _ _ => false
  | .authActivityOut _ => false
  | .sessionOpened _ _ _ _ _ _ => false
  | .sessionActivity _ _ _ _ => false
  | .sessionRevoked _ _ _ _ _ => false

/-- The sequence number of a secure command buffer, if the buffer is one. -/
def secureSequenceNumber (data : Bytes) : Option UInt32 :=
  match CmdPacket.deserializeFrom data with
  | none => none
  | some outer =>
    if outer.opcode = obcSecureCommandV2Opcode then
      some (parseSecureCommandV2 outer).1.metadata.sequenceNumber
    else none

/-- The profile lets the gate accept grants for the service. -/
structure Serves (config : AuthorityConfig) (serviceId : UInt8) : Prop where
  valid : config.valid = true
  managed : isCommManagedAuthority config = true
  service : secureServiceIdForConfig config = serviceId

namespace CommandIngressAuthority

variable {hmac : KeyedHash} {controller : SequenceControlRequest → SequenceControlResult}
variable {g : CommandIngressAuthority} {p : Port} {context : UInt32}

/-- Everything that has been checked about a secure command when it reaches the window. -/
structure Admits (hmac : KeyedHash) (g : CommandIngressAuthority) (p : Port) (context : UInt32)
    (outer : CmdPacket) (a : SecureAdmission) (inner : CmdPacket) (tag : Digest) : Prop where
  layout : outer.args = secureArgs a.sequenceNumber inner.serialize tag
  fits : inner.args.length ≤ fwCmdArgBufferMaxSize
  innerOpcode : a.innerOpcode = inner.opcode
  innerCommand : a.innerCommand = inner.serialize
  service_ne_zero : secureServiceIdForConfig (g.ingressConfigs p) ≠ 0
  isOpen : (g.activeSessions p).isOpen = true
  secureAuthenticated : (g.activeSessions p).secureAuthenticated = true
  service : (g.activeSessions p).serviceId = secureServiceIdForConfig (g.ingressConfigs p)
  materialFits : (secureAuthMaterial a.sequenceNumber inner.serialize).length ≤ fwComBufferMaxSize
  tag_eq : hmac (g.activeSessions p).secureSessionKey.1
    (secureAuthMaterial a.sequenceNumber inner.serialize) = some tag
  allow : (evaluateCommandAuthority (g.ingressConfigs p) inner.opcode).allow = true
  not_denied : isDeniedDirectOfficialSequencingOpcode inner.opcode = false
  request : if isGovernedSequenceWrapperOpcode inner.opcode then
      ∃ request, parseSequenceControlRequest inner.opcode inner p (g.ingressConfigs p) context =
        some request ∧ a.request = some request
    else a.request = none

theorem admitSecureCommandV2_eq_ok_iff (o : CmdPacket) (a : SecureAdmission) :
    g.admitSecureCommandV2 hmac p context o = .ok a ↔
      ∃ inner tag, Admits hmac g p context o a inner tag := by
  constructor
  · intro h
    by_cases hvl : (parseSecureCommandV2 o).1.valid = true
    · obtain ⟨n, inner, tag, hl, hf, hp⟩ := parseSecureCommandV2_valid hvl
      have hdes : CmdPacket.deserializeFrom inner.serialize = some inner :=
        (CmdPacket.deserializeFrom_eq_some_iff _ _).mpr ⟨rfl, hf⟩
      unfold admitSecureCommandV2 at h
      simp only [hp, hdes, acceptedSecure_metadata] at h
      split_ifs at h with hv hat hs htag hal hdn hg
      all_goals
        simp only [Bool.or_eq_true, decide_eq_true_eq, Bool.not_eq_true', not_or,
          Bool.not_eq_false] at hat
        obtain ⟨hm, htag⟩ :=
          (verifySecureCommandV2Auth_eq_none_iff hmac _ _ _ _ _).mp (not_not.mp htag)
        have had (request : Option SequenceControlRequest)
            (hrq : if isGovernedSequenceWrapperOpcode inner.opcode then
              ∃ r, parseSequenceControlRequest inner.opcode inner p (g.ingressConfigs p) context =
                some r ∧ request = some r
              else request = none) :
            Admits hmac g p context o ⟨n, inner.opcode, inner.serialize, request⟩ inner tag :=
          { layout := hl, fits := hf, innerOpcode := rfl, innerCommand := rfl
            service_ne_zero := hat.1.1, isOpen := hat.1.2, secureAuthenticated := hat.2
            service := not_not.mp hs, materialFits := hm, tag_eq := htag
            allow := by simpa using hal, not_denied := by simpa using hdn
            request := hrq }
      · split at h
        · cases h
        next request hrq =>
          cases h
          exact ⟨inner, tag, had (some request) (by simpa [hg] using hrq)⟩
      · cases h
        exact ⟨inner, tag, had none (by rw [if_neg hg])⟩
    · simp [admitSecureCommandV2, hvl] at h
  · rintro ⟨inner, tag, h⟩
    obtain ⟨n, k, c, request⟩ := a
    obtain ⟨op, args⟩ := o
    obtain rfl : args = secureArgs n inner.serialize tag := h.layout
    obtain rfl : k = inner.opcode := h.innerOpcode
    obtain rfl : c = inner.serialize := h.innerCommand
    have hdes : CmdPacket.deserializeFrom inner.serialize = some inner :=
      (CmdPacket.deserializeFrom_eq_some_iff _ _).mpr ⟨rfl, h.fits⟩
    have hp := parseSecureCommandV2_secureArgs op n inner tag h.fits
    have hvr := (verifySecureCommandV2Auth_eq_none_iff hmac n inner.opcode tag
      (g.activeSessions p).secureSessionKey inner.serialize).mpr ⟨h.materialFits, h.tag_eq⟩
    have hrq := h.request
    unfold admitSecureCommandV2
    simp only [hp, hdes, hvr, h.isOpen, h.secureAuthenticated, h.service,
      acceptedSecure_valid, acceptedSecure_metadata, h.allow, h.not_denied]
    by_cases hgov : isGovernedSequenceWrapperOpcode inner.opcode = true
    · rw [if_pos hgov] at hrq
      obtain ⟨r, hr, hsm⟩ := hrq
      simp_all [h.service_ne_zero]
    · rw [if_neg hgov] at hrq
      simp_all [h.service_ne_zero]

/-- The window key under which the open session of a port is tracked. -/
def currentKey (g : CommandIngressAuthority) (p : Port) : CommandSessionKey :=
  sessionKeyFor p (g.ingressConfigs p) (g.activeSessions p).sessionId

/-- The window's answer to a sequence number of the open session of a port. -/
def windowAnswer (g : CommandIngressAuthority) (p : Port) (n : UInt32) :
    CommandSequenceResult × CommandSequenceWindow :=
  CommandSequenceWindow.evaluateAndAccept g.sequenceWindow (g.currentKey p) n

def withWindow (g : CommandIngressAuthority) (window : CommandSequenceWindow) :
    CommandIngressAuthority := { g with sequenceWindow := window }

theorem handleSecureCommandV2_cases (hmac : KeyedHash)
    (controller : SequenceControlRequest → SequenceControlResult) (g : CommandIngressAuthority)
    (p : Port) (context : UInt32) (o : CmdPacket) :
    (∃ r, g.handleSecureCommandV2 hmac controller p context o = g.reject p context r) ∨
      ∃ a i tag, Admits hmac g p context o a i tag ∧
        (g.windowAnswer p a.sequenceNumber).1 = .accepted ∧
        g.handleSecureCommandV2 hmac controller p context o =
          (g.withWindow (g.windowAnswer p a.sequenceNumber).2).handOn controller p context a := by
  unfold handleSecureCommandV2
  cases had : g.admitSecureCommandV2 hmac p context o with
  | error r => exact Or.inl ⟨r, rfl⟩
  | ok a =>
    obtain ⟨i, tag, h⟩ := (admitSecureCommandV2_eq_ok_iff o a).mp had
    cases han : g.windowAnswer p a.sequenceNumber with
    | mk q =>
      have hm := han
      unfold windowAnswer currentKey at hm
      simp only [hm]
      cases q with
      | accepted => exact Or.inr ⟨a, i, tag, h, by rw [han], by rw [han]; rfl⟩
      | rejectedNotIncreasing | rejectedTableFull => exact Or.inl ⟨_, rfl⟩

theorem handleSecureCommandV2_of_admits {o : CmdPacket} {a : SecureAdmission}
    {i : CmdPacket} {tag : Digest} (h : Admits hmac g p context o a i tag)
    (hac : (g.windowAnswer p a.sequenceNumber).1 = .accepted) :
    g.handleSecureCommandV2 hmac controller p context o =
      (g.withWindow (g.windowAnswer p a.sequenceNumber).2).handOn controller p context a := by
  have had := (admitSecureCommandV2_eq_ok_iff o a).mpr ⟨i, tag, h⟩
  cases han : g.windowAnswer p a.sequenceNumber with
  | mk r =>
    rw [han] at hac
    obtain rfl : r = .accepted := hac
    have hm := han
    unfold windowAnswer currentKey at hm
    simp only [handleSecureCommandV2, had, hm]
    rfl

/-- A command buffer on a COMM-managed port is either refused, touching nothing but
counters, or is an admitted secure command that the window accepts. -/
theorem seqCmdBuffIn_cases (hmac : KeyedHash)
    (controller : SequenceControlRequest → SequenceControlResult) (g : CommandIngressAuthority)
    (p : Port) (data : Bytes) (context : UInt32)
    (hc : isCommManagedAuthority (g.ingressConfigs p) = true) :
    (∃ r, g.seqCmdBuffIn hmac controller p data context = g.reject p context r) ∨
      (g.ingressConfigs p).valid = true ∧
        ∃ o a i tag, data = o.serialize ∧ o.args.length ≤ fwCmdArgBufferMaxSize ∧
          o.opcode = obcSecureCommandV2Opcode ∧ Admits hmac g p context o a i tag ∧
          (g.windowAnswer p a.sequenceNumber).1 = .accepted ∧
          g.seqCmdBuffIn hmac controller p data context =
            (g.withWindow (g.windowAnswer p a.sequenceNumber).2).handOn controller p context a := by
  unfold seqCmdBuffIn
  cases hvl : (g.ingressConfigs p).valid with
  | false => exact Or.inl ⟨_, if_pos (by simp [hvl])⟩
  | true =>
    simp only [hvl, Bool.not_true, Bool.false_eq_true, if_false]
    cases hdt : CmdPacket.deserializeFrom data with
    | none =>
      simp only [requiresAuthenticatedEnvelope, hc, if_true]
      exact Or.inl ⟨_, rfl⟩
    | some o =>
      obtain ⟨hser, hf⟩ := (CmdPacket.deserializeFrom_eq_some_iff data o).mp hdt
      by_cases hs : o.opcode = obcSecureCommandV2Opcode
      · simp only [if_pos hs]
        rcases handleSecureCommandV2_cases hmac controller g p context o with
          ⟨r, hr⟩ | ⟨a, i, tag, had, hac, hrs⟩
        · exact Or.inl ⟨r, hr⟩
        · exact Or.inr ⟨trivial, o, a, i, tag, hser, hf, hs, had, hac, hrs⟩
      · refine Or.inl ?_
        simp only [if_neg hs, requiresAuthenticatedEnvelope, hc, if_true]
        split
        · exact ⟨_, rfl⟩
        · exact ⟨_, rfl⟩

def SecureAdmission.forward (a : SecureAdmission) (p : Port) (context : UInt32) : GateOutput :=
  match a.request with
  | some request => .sequenceControlOut request
  | none => .seqCmdBuffOut p a.innerCommand context

theorem reject_forwards (r : GateRejection) :
    (g.reject p context r).2.filter GateOutput.isForward = [] := by
  cases r <;> rfl

theorem updateAcceptedSessionSequence_forwards (n : UInt32) :
    (g.updateAcceptedSessionSequence p n).2.filter GateOutput.isForward = [] := by
  unfold updateAcceptedSessionSequence
  dsimp only
  split_ifs <;> rfl

theorem handOn_forwards (a : SecureAdmission) :
    (g.handOn controller p context a).2.filter GateOutput.isForward = [a.forward p context] := by
  have hac := updateAcceptedSessionSequence_forwards (g := g) (p := p) a.sequenceNumber
  unfold handOn SecureAdmission.forward
  cases a.request with
  | some =>
    dsimp only
    split_ifs <;> simp [List.filter_cons, hac, GateOutput.isForward]
  | none => simp [List.filter_cons, hac, GateOutput.isForward]

/-- Agreement on everything that decides later verdicts on the sessions. -/
structure SameSessions (g g' : CommandIngressAuthority) : Prop where
  configs : g'.ingressConfigs = g.ingressConfigs
  sessions : ∀ q, ∃ n, g'.activeSessions q = { g.activeSessions q with lastAcceptedSequence := n }
  window : g'.sequenceWindow = g.sequenceWindow

theorem reject_sameSessions (r : GateRejection) : SameSessions g (g.reject p context r).1 :=
  ⟨rfl, fun _ => ⟨_, rfl⟩, rfl⟩

theorem updateAcceptedSessionSequence_sameSessions (n : UInt32) :
    SameSessions g (g.updateAcceptedSessionSequence p n).1 := by
  by_cases ho : (g.activeSessions p).isOpen = true
  · refine ⟨?_, fun q => ?_, ?_⟩
    · simp [updateAcceptedSessionSequence, ho, setSession]
    · rcases eq_or_ne q p with rfl | hne
      · exact ⟨n, by simp [updateAcceptedSessionSequence, ho, setSession]⟩
      · exact ⟨(g.activeSessions q).lastAcceptedSequence,
          by simp [updateAcceptedSessionSequence, ho, setSession, hne]⟩
    · simp [updateAcceptedSessionSequence, ho, setSession]
  · simp only [updateAcceptedSessionSequence, ho, Bool.not_false, if_true]
    exact ⟨rfl, fun _ => ⟨_, rfl⟩, rfl⟩

theorem handOn_sameSessions (a : SecureAdmission) :
    SameSessions g (g.handOn controller p context a).1 := by
  have hu := updateAcceptedSessionSequence_sameSessions (g := g) (p := p) a.sequenceNumber
  unfold handOn
  cases a.request with
  | some r =>
    cases hac : (controller r).accepted with
    | true => simpa only [hac, if_true] using hu
    | false =>
      simp only [hac, Bool.false_eq_true, if_false]
      exact ⟨rfl, fun _ => ⟨_, rfl⟩, rfl⟩
  | none => exact ⟨hu.configs, hu.sessions, hu.window⟩

theorem sameSessions_refl : SameSessions g g := ⟨rfl, fun _ => ⟨_, rfl⟩, rfl⟩

theorem handleDirectCommand_cases (data : Bytes) (c : CmdPacket) :
    (∃ r, g.handleDirectCommand controller p data context c = g.reject p context r) ∨
      (∃ request, parseSequenceControlRequest c.opcode c p (g.ingressConfigs p) context = some request ∧
        g.handleDirectCommand controller p data context c = (g, .sequenceControlOut request ::
          if (controller request).accepted && (controller request).deferred then []
          else [.seqCmdStatusOut p c.opcode context (CmdResponse.ofCode (controller request).cmdResponse)])) ∨
      g.handleDirectCommand controller p data context c =
        (g.rememberPendingDispatch p context, [.seqCmdBuffOut p data context]) := by
  unfold handleDirectCommand
  dsimp only
  split_ifs
  · exact .inl ⟨_, rfl⟩
  · cases parseSequenceControlRequest c.opcode c p (g.ingressConfigs p) context with
    | none => exact .inl ⟨_, rfl⟩
    | some request => exact .inr (.inl ⟨request, rfl, rfl⟩)
  · exact .inr (.inr rfl)
  · exact .inl ⟨_, rfl⟩

theorem handleDirectCommand_sameSessions (data : Bytes) (c : CmdPacket) :
    SameSessions g (g.handleDirectCommand controller p data context c).1 := by
  rcases handleDirectCommand_cases data c with ⟨r, heq⟩ | ⟨request, -, heq⟩ | heq <;> rw [heq]
  · exact reject_sameSessions r
  · exact sameSessions_refl
  · exact ⟨rfl, fun _ => ⟨_, rfl⟩, rfl⟩

theorem seqCmdBuffIn_direct (hmac : KeyedHash)
    (controller : SequenceControlRequest → SequenceControlResult) (g : CommandIngressAuthority)
    (p : Port) (data : Bytes) (context : UInt32)
    (hc : isCommManagedAuthority (g.ingressConfigs p) = false) :
    SameSessions g (g.seqCmdBuffIn hmac controller p data context).1 ∧
      (secureSequenceNumber data ≠ none →
        (g.seqCmdBuffIn hmac controller p data context).2.filter GateOutput.isForward = []) := by
  have hnot : ¬ ((g.ingressConfigs p).valid = false ∨ (g.ingressConfigs p).identity = .sband ∨
      (g.ingressConfigs p).identity = .uhf) := by
    rw [← isCommManagedAuthority_iff, hc]
    exact Bool.false_ne_true
  have hvl : (g.ingressConfigs p).valid = true := by
    rw [← Bool.not_eq_false]
    exact fun hv => hnot (Or.inl hv)
  have hsr : secureServiceIdForConfig (g.ingressConfigs p) = 0 := by
    by_contra hne
    exact hnot (Or.inr ((secureServiceId_ne_zero_iff _).mp hne))
  unfold seqCmdBuffIn secureSequenceNumber
  simp only [hvl, Bool.not_true, Bool.false_eq_true, if_false]
  cases CmdPacket.deserializeFrom data with
  | none =>
    simp only [requiresAuthenticatedEnvelope, hc, Bool.false_eq_true, if_false]
    exact ⟨sameSessions_refl, fun h => absurd rfl h⟩
  | some o =>
    by_cases hs : o.opcode = obcSecureCommandV2Opcode
    · simp only [if_pos hs]
      rcases handleSecureCommandV2_cases hmac controller g p context o with
        ⟨r, hr⟩ | ⟨a, inner, tag, had, -, -⟩
      · rw [hr]
        exact ⟨reject_sameSessions r, fun _ => reject_forwards r⟩
      · exact absurd hsr had.service_ne_zero
    · simp only [if_neg hs, requiresAuthenticatedEnvelope, hc, Bool.false_eq_true, if_false]
      refine ⟨?_, fun h => absurd rfl h⟩
      split_ifs
      · exact reject_sameSessions _
      · exact handleDirectCommand_sameSessions data o

/-- The gate opens a session exactly on grants for the service its port is configured for. -/
def acceptsGrant (g : CommandIngressAuthority) (grant : SecureAuthGrant) : Bool :=
  (g.ingressConfigs grant.ingressPort).valid &&
    isCommManagedAuthority (g.ingressConfigs grant.ingressPort) &&
    secureServiceIdForConfig (g.ingressConfigs grant.ingressPort) = grant.serviceId

theorem acceptsGrant_of_serves {grant : SecureAuthGrant}
    (h : Serves (g.ingressConfigs grant.ingressPort) grant.serviceId) :
    g.acceptsGrant grant = true := by
  simp [acceptsGrant, h.valid, h.managed, h.service]

theorem authGrantedIn_eq (g : CommandIngressAuthority) (grant : SecureAuthGrant) :
    g.authGrantedIn grant =
      if g.acceptsGrant grant then
        g.synthesizeSecureSessionFromAuthGrant grant.ingressPort (g.ingressConfigs grant.ingressPort) grant
      else (g, []) := by
  cases hv : (g.ingressConfigs grant.ingressPort).valid <;>
    cases hc : isCommManagedAuthority (g.ingressConfigs grant.ingressPort) <;>
    by_cases hs : secureServiceIdForConfig (g.ingressConfigs grant.ingressPort) = grant.serviceId <;>
    simp [authGrantedIn, acceptsGrant, hv, hc, hs]

def holdsSession (g : CommandIngressAuthority) (p : Port) (serviceId : UInt8) : Bool :=
  (g.activeSessions p).isOpen && (g.activeSessions p).secureAuthenticated &&
    (g.activeSessions p).serviceId = serviceId

theorem revokeSecureSession_eq (g : CommandIngressAuthority) (p : Port) (s : UInt8)
    (r : UInt32) (n : Bool) :
    g.revokeSecureSession p s r n =
      if g.holdsSession p s then g.closeSession p r n else (g, []) := by
  cases ho : (g.activeSessions p).isOpen <;>
    cases ha : (g.activeSessions p).secureAuthenticated <;>
    by_cases hs : (g.activeSessions p).serviceId = s <;>
    simp [revokeSecureSession, holdsSession, ho, ha, hs]

end CommandIngressAuthority

end ObcFlight
