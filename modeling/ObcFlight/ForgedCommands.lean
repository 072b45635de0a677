import ObcFlight.Mediation

/-!
# Forged commands are invisible

A buffer on a COMM-managed port whose tag does not verify under the open session is
answered with one status reply and changes nothing but reject counters. No handler reads
those counters, so inserting such buffers into a run changes no answer to another input.
-/

namespace ObcFlight

namespace CommandIngressAuthority

/-- The buffer is a secure command whose tag verifies under the session open on p. -/
def tagVerifies (hmac : KeyedHash) (g : CommandIngressAuthority) (p : Port) (data : Bytes) : Bool :=
  match CmdPacket.deserializeFrom data with
  | none => false
  | some outer =>
    outer.opcode = obcSecureCommandV2Opcode && (g.activeSessions p).isOpen &&
      verifySecureCommandV2Auth hmac (parseSecureCommandV2 outer).1 (parseSecureCommandV2 outer).2
        (g.activeSessions p).secureSessionKey = .none

/-- A command buffer on a COMM-managed port that is malformed, plain, in the legacy
envelope, without a session or wrongly tagged. -/
def isForged (hmac : KeyedHash) (g : CommandIngressAuthority) : GateInput → Bool
  | .seqCmdBuffIn p data _ _ =>
    isCommManagedAuthority (g.ingressConfigs p) && !g.tagVerifies hmac p data
  | _ => false

def withCounters (g : CommandIngressAuthority) (c : RejectCounters) : CommandIngressAuthority :=
  { g with counters := c }

variable {hmac : KeyedHash} {controller : SequenceControlRequest → SequenceControlResult}
variable {g : CommandIngressAuthority} {p : Port} {context : UInt32}

theorem tagVerifies_of_admits {data : Bytes} {o i : CmdPacket} {a : SecureAdmission} {tag : Digest}
    (hdt : data = o.serialize) (hf : o.args.length ≤ fwCmdArgBufferMaxSize)
    (hs : o.opcode = obcSecureCommandV2Opcode) (h : Admits hmac g p context o a i tag) :
    g.tagVerifies hmac p data = true := by
  have hdes := (CmdPacket.deserializeFrom_eq_some_iff data o).mpr ⟨hdt, hf⟩
  have hvr := (verifySecureCommandV2Auth_eq_none_iff hmac a.sequenceNumber i.opcode tag
    (g.activeSessions p).secureSessionKey i.serialize).mpr ⟨h.materialFits, h.tag_eq⟩
  simp [tagVerifies, hdes, hs, h.isOpen, h.parse_eq, hvr]

theorem step_of_isForged {i : GateInput} (h : g.isForged hmac i = true) :
    ∃ p data context controller o q c,
      i = .seqCmdBuffIn p data context controller ∧
      g.step hmac i = (g.withCounters c, [.seqCmdStatusOut p o context q]) := by
  cases i with
  | seqCmdBuffIn p data context controller =>
    simp only [isForged, Bool.and_eq_true, Bool.not_eq_true'] at h
    rcases seqCmdBuffIn_cases hmac controller g p data context h.1 with
      ⟨r, hr⟩ | ⟨-, outer, a, inner, tag, hdt, hf, hs, had, -, -⟩
    · cases r with
      | authority | envelope | secure =>
        exact ⟨p, data, context, controller, _, _, _, rfl, hr⟩
    · rw [tagVerifies_of_admits hdt hf hs had] at h
      cases h.2
  | _ => simp [isForged] at h

def CounterBlind (f : CommandIngressAuthority → CommandIngressAuthority × List GateOutput) : Prop :=
  ∀ g c, ∃ c', f (g.withCounters c) = ((f g).1.withCounters c', (f g).2)

theorem counterBlind_reject (p : Port) (context : UInt32) (r : GateRejection) :
    CounterBlind fun g => g.reject p context r := fun _ _ => ⟨_, rfl⟩

theorem updateAcceptedSessionSequence_withCounters (c : RejectCounters) (n : UInt32) :
    (g.withCounters c).updateAcceptedSessionSequence p n =
      ((g.updateAcceptedSessionSequence p n).1.withCounters c,
        (g.updateAcceptedSessionSequence p n).2) := by
  cases ho : (g.activeSessions p).isOpen with
  | true =>
    simp only [updateAcceptedSessionSequence, withCounters, ho, Bool.not_true,
      Bool.false_eq_true, if_false]
    rfl
  | false =>
    simp only [updateAcceptedSessionSequence, withCounters, ho, Bool.not_false, if_true]

theorem handOn_withCounters (c : RejectCounters) (a : SecureAdmission) :
    (g.withCounters c).handOn controller p context a =
      ((g.handOn controller p context a).1.withCounters c,
        (g.handOn controller p context a).2) := by
  have hu := updateAcceptedSessionSequence_withCounters (g := g) (p := p) c a.sequenceNumber
  unfold handOn
  cases a.request with
  | some r =>
    cases hac : (controller r).accepted <;> simp [hu, hac]
  | none =>
    simp only [hu]
    rfl

theorem counterBlind_handleSecureCommandV2 (hmac : KeyedHash)
    (controller : SequenceControlRequest → SequenceControlResult) (p : Port) (context : UInt32)
    (outer : CmdPacket) :
    CounterBlind fun g => g.handleSecureCommandV2 hmac controller p context outer := by
  intro g c
  have had : (g.withCounters c).admitSecureCommandV2 hmac p context outer =
      g.admitSecureCommandV2 hmac p context outer := rfl
  have hw (n : UInt32) : CommandSequenceWindow.evaluateAndAccept
      (g.withCounters c).sequenceWindow (sessionKeyFor p ((g.withCounters c).ingressConfigs p)
        ((g.withCounters c).activeSessions p).sessionId) n = g.windowAnswer p n := rfl
  have hw' (n : UInt32) : CommandSequenceWindow.evaluateAndAccept g.sequenceWindow
      (sessionKeyFor p (g.ingressConfigs p) (g.activeSessions p).sessionId) n =
        g.windowAnswer p n := rfl
  simp only [handleSecureCommandV2, had, hw, hw']
  cases g.admitSecureCommandV2 hmac p context outer with
  | error r => exact counterBlind_reject p context r g c
  | ok a =>
    dsimp only
    cases g.windowAnswer p a.sequenceNumber with
    | mk q w =>
      cases q with
      | accepted => exact ⟨c, handOn_withCounters (g := g.withWindow w) c a⟩
      | rejectedNotIncreasing | rejectedTableFull => exact counterBlind_reject p context _ g c

theorem counterBlind_handleDirectCommand
    (controller : SequenceControlRequest → SequenceControlResult) (p : Port) (data : Bytes)
    (context : UInt32) (cmdPkt : CmdPacket) :
    CounterBlind fun g => g.handleDirectCommand controller p data context cmdPkt := by
  intro g c
  have hc : (g.withCounters c).ingressConfigs = g.ingressConfigs := rfl
  simp only [handleDirectCommand, hc]
  by_cases hdn : isDeniedDirectOfficialSequencingOpcode cmdPkt.opcode = true
  · simp only [if_pos hdn]
    exact counterBlind_reject p context _ g c
  simp only [if_neg hdn]
  by_cases hg : isGovernedSequenceWrapperOpcode cmdPkt.opcode = true
  · simp only [if_pos hg]
    cases parseSequenceControlRequest cmdPkt.opcode cmdPkt p (g.ingressConfigs p) context with
    | none => exact counterBlind_reject p context _ g c
    | some => exact ⟨c, rfl⟩
  simp only [if_neg hg]
  by_cases hal : (evaluateCommandAuthority (g.ingressConfigs p) cmdPkt.opcode).allow = true
  · simp only [if_pos hal]
    exact ⟨c, rfl⟩
  · simp only [if_neg hal]
    exact counterBlind_reject p context _ g c

theorem counterBlind_seqCmdBuffIn (hmac : KeyedHash)
    (controller : SequenceControlRequest → SequenceControlResult) (p : Port) (data : Bytes)
    (context : UInt32) :
    CounterBlind fun g => g.seqCmdBuffIn hmac controller p data context := by
  intro g c
  have hc : (g.withCounters c).ingressConfigs = g.ingressConfigs := rfl
  simp only [seqCmdBuffIn, hc]
  cases hvl : (g.ingressConfigs p).valid with
  | false => exact counterBlind_reject p context _ g c
  | true =>
    simp only [Bool.not_true, Bool.false_eq_true, if_false]
    cases CmdPacket.deserializeFrom data with
    | none =>
      dsimp only
      split_ifs
      · exact counterBlind_reject p context _ g c
      · exact ⟨c, rfl⟩
    | some x =>
      dsimp only
      split_ifs
      · exact counterBlind_handleSecureCommandV2 hmac controller p context x g c
      · exact counterBlind_reject p context _ g c
      · exact counterBlind_reject p context _ g c
      · exact counterBlind_handleDirectCommand controller p data context x g c

theorem counterBlind_authGrantedIn (grant : SecureAuthGrant) :
    CounterBlind fun g => g.authGrantedIn grant := by
  intro g c
  have hac : (g.withCounters c).acceptsGrant grant = g.acceptsGrant grant := rfl
  simp only [authGrantedIn_eq, hac]
  split_ifs
  · refine ⟨c, ?_⟩
    cases ho : (g.activeSessions grant.ingressPort).isOpen <;>
      simp [synthesizeSecureSessionFromAuthGrant, resetOpenSource, nextRuntimeSessionToken_,
        setSession, resetSource, withCounters, ho]
  · exact ⟨c, rfl⟩

theorem counterBlind_step (hmac : KeyedHash) (i : GateInput) :
    CounterBlind fun g => g.step hmac i := by
  cases i with
  | seqCmdBuffIn p data context controller =>
    exact counterBlind_seqCmdBuffIn hmac controller p data context
  | authGrantedIn grant => exact counterBlind_authGrantedIn grant
  | authRevokedIn r =>
    intro g c
    have hh : (g.withCounters c).holdsSession r.ingressPort r.serviceId =
        g.holdsSession r.ingressPort r.serviceId := rfl
    simp only [step, authRevokedIn, revokeSecureSession_eq, hh]
    split_ifs
    · exact ⟨c, rfl⟩
    · exact ⟨c, rfl⟩
  | reconfigureIngressSource p =>
    intro g c
    refine ⟨c, ?_⟩
    cases ho : (g.activeSessions p).isOpen <;>
      simp [step, reconfigureIngressSource, resetOpenSource, clearActiveSession, setSession,
        resetSource, withCounters, ho]
  | revokeIngressSource p =>
    intro g c
    refine ⟨c, ?_⟩
    cases ho : (g.activeSessions p).isOpen <;>
      simp [step, revokeIngressSource, closeSession, clearActiveSession, setSession, resetSource,
        withCounters, ho, notifySessionRevoked]
  | seqCmdStatusIn | sequenceControlStatusIn => exact fun g c => ⟨c, rfl⟩

def SameUpToCounters (g g' : CommandIngressAuthority) : Prop := ∃ c, g = g'.withCounters c

theorem SameUpToCounters.step {g g' : CommandIngressAuthority} (h : SameUpToCounters g g')
    (i : GateInput) : (g.step hmac i).2 = (g'.step hmac i).2 ∧
      SameUpToCounters (g.step hmac i).1 (g'.step hmac i).1 := by
  obtain ⟨c, rfl⟩ := h
  obtain ⟨c', hc'⟩ := counterBlind_step hmac i g' c
  dsimp only at hc'
  rw [hc']
  exact ⟨rfl, c', rfl⟩

/-- The answer to a command buffer is one status reply on its own port. -/
def AnsweredByStatus (i : GateInput) (outputs : List GateOutput) : Prop :=
  ∃ p data context controller opcode response, i = .seqCmdBuffIn p data context controller ∧
    outputs = [.seqCmdStatusOut p opcode context response]

/-- Inserting forged buffers into any run of the gate changes no answer to another input,
the run ends in the same state up to reject counters, and each inserted buffer is
answered by exactly one status reply on its own port. -/
theorem forged_commands_invisible (hmac : KeyedHash) (g : CommandIngressAuthority)
    (xs : List (GateInput ⊕ GateInput))
    (hforged : (commandGate hmac).InsertedAll (fun g i => g.isForged hmac i = true) g xs) :
    (commandGate hmac).originalResponses g xs =
        (commandGate hmac).responses g (Machine.original xs) ∧
      SameUpToCounters ((commandGate hmac).run g (Machine.withInserted xs))
        ((commandGate hmac).run g (Machine.original xs)) ∧
      ∀ r ∈ (commandGate hmac).insertedResponses g xs, AnsweredByStatus r.1 r.2 := by
  have hinserted (s t : CommandIngressAuthority) (i : GateInput) (hi : s.isForged hmac i = true)
      (hst : SameUpToCounters s t) : SameUpToCounters (s.step hmac i).1 t := by
    obtain ⟨_, _, _, _, _, _, c, _, hstep⟩ := step_of_isForged hi
    obtain ⟨c', rfl⟩ := hst
    exact ⟨c, congrArg Prod.fst hstep⟩
  have hanswered (s : CommandIngressAuthority) (i : GateInput) (hi : s.isForged hmac i = true) :
      AnsweredByStatus i (s.step hmac i).2 := by
    obtain ⟨p, data, context, controller, opcode, response, c, heq, hstep⟩ := step_of_isForged hi
    exact ⟨p, data, context, controller, opcode, response, heq, congrArg Prod.snd hstep⟩
  obtain ⟨hanswers, hsame⟩ := (commandGate hmac).originalResponses_eq_of_unwinding
    (fun _ _ i h => SameUpToCounters.step h i) hinserted g g ⟨g.counters, rfl⟩ xs hforged
  exact ⟨hanswers, hsame,
    (commandGate hmac).insertedResponses_of_insertedAll hanswered g xs hforged⟩

/-- Two forged buffers around an authentic command of the demo link. -/
theorem forged_commands_invisible_demo :
    (commandGate SecureLink.demoHash).originalResponses demoGate
        [.inr (.seqCmdBuffIn 0 [1, 2, 3] 8 fun _ => {}),
          .inl (.seqCmdBuffIn 0 SecureLink.demoCommand 7 fun _ => {}),
          .inr (.seqCmdBuffIn 1 SecureLink.demoCommand 9 fun _ => {})] =
      (commandGate SecureLink.demoHash).responses demoGate
        [.seqCmdBuffIn 0 SecureLink.demoCommand 7 fun _ => {}] :=
  (forged_commands_invisible SecureLink.demoHash demoGate
    [.inr (.seqCmdBuffIn 0 [1, 2, 3] 8 fun _ => {}),
      .inl (.seqCmdBuffIn 0 SecureLink.demoCommand 7 fun _ => {}),
      .inr (.seqCmdBuffIn 1 SecureLink.demoCommand 9 fun _ => {})]
    ⟨by decide +kernel, by decide +kernel, trivial⟩).1

end CommandIngressAuthority

end ObcFlight
