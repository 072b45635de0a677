import ObcFlight.CommandGateSpec
import ObcFlight.SequenceAnswers

/-!
# Every command is answered once

The command gate and the sequence admission controller as they are wired: the gate asks the
controller in the middle of its handler, and the controller's statuses come back through the gate.
The dispatcher behind them is represented by the commands it has not answered yet. A command is
known by the port and the context it came with.
-/

namespace ObcFlight

open SequenceAdmissionController

abbrev Origin := Port × UInt32

namespace GateOutput

def answeredOrigin : GateOutput → Option Origin
  | .seqCmdStatusOut port _ context _ => some (port, context)
  | _ => none

def forwardedOrigin : GateOutput → Option Origin
  | .seqCmdBuffOut port _ context => some (port, context)
  | _ => none

def controlRequest : GateOutput → Option SequenceControlRequest
  | .sequenceControlOut request => some request
  | _ => none

end GateOutput

namespace CommandIngressAuthority

variable (hmac : KeyedHash) (controller : SequenceControlRequest → SequenceControlResult)
variable (g : CommandIngressAuthority) (p : Port) (data : Bytes) (context : UInt32)

/-- The origins answered and forwarded, and the requests made, in a list of outputs. -/
def ledger (outputs : List GateOutput) : List Origin × List Origin × List SequenceControlRequest :=
  (outputs.filterMap GateOutput.answeredOrigin, outputs.filterMap GateOutput.forwardedOrigin,
    outputs.filterMap GateOutput.controlRequest)

/-- A request that goes to the controller carries where its answer goes. -/
def Carries (request : SequenceControlRequest) : Prop :=
  request.ingressPort = UInt32.ofNat p.val ∧ request.originalCmdSeq = context

/-- A command is answered at once, forwarded, or turned into a request, whose answer can be put off. -/
def Accounts (outputs : List GateOutput) : Prop :=
  ledger outputs = ([(p, context)], [], []) ∨ ledger outputs = ([], [(p, context)], []) ∨
    ∃ request, Carries p context request ∧ ledger outputs =
      (if (controller request).accepted && (controller request).deferred then [] else [(p, context)],
        [], [request])

theorem parseSequenceControlRequest_carries {o : UInt32} {packet : CmdPacket} {c : AuthorityConfig}
    {request : SequenceControlRequest}
    (h : parseSequenceControlRequest o packet p c context = some request) :
    Carries p context request := by
  unfold parseSequenceControlRequest at h
  dsimp only at h
  split_ifs at h
  all_goals
    repeat' split at h
    all_goals cases h <;> exact ⟨rfl, rfl⟩

theorem accounts_reject (r : GateRejection) : Accounts controller p context (g.reject p context r).2 := by
  cases r <;> exact .inl rfl

theorem ledger_updateAcceptedSessionSequence (n : UInt32) (outputs : List GateOutput) :
    ledger ((g.updateAcceptedSessionSequence p n).2 ++ outputs) = ledger outputs := by
  unfold updateAcceptedSessionSequence
  dsimp only
  split_ifs <;> rfl

theorem accounts_handOn {a : SecureAdmission}
    (ha : ∀ request, a.request = some request → Carries p context request) :
    Accounts controller p context (g.handOn controller p context a).2 := by
  unfold handOn
  cases hr : a.request with
  | none =>
    dsimp only
    unfold Accounts
    rw [ledger_updateAcceptedSessionSequence]
    exact .inr (.inl rfl)
  | some request =>
    refine .inr (.inr ⟨request, ha request hr, ?_⟩)
    have hac (outputs : List GateOutput) :
        ledger (.sequenceControlOut request :: (g.updateAcceptedSessionSequence p a.sequenceNumber).2 ++ outputs) =
          ((ledger outputs).1, (ledger outputs).2.1, request :: (ledger outputs).2.2) := by
      rw [← ledger_updateAcceptedSessionSequence g p a.sequenceNumber outputs]
      rfl
    dsimp only
    cases hap : (controller request).accepted with
    | false => rfl
    | true =>
      rw [if_pos rfl]
      dsimp only
      rw [hac]
      cases (controller request).deferred <;> rfl

theorem accounts_handleDirectCommand (c : CmdPacket) :
    Accounts controller p context (g.handleDirectCommand controller p data context c).2 := by
  rcases handleDirectCommand_cases data c with ⟨r, heq⟩ | ⟨request, hp, heq⟩ | heq <;> rw [heq]
  · exact accounts_reject ..
  · refine .inr (.inr ⟨request, parseSequenceControlRequest_carries p context hp, ?_⟩)
    dsimp only
    cases (controller request).accepted && (controller request).deferred <;> rfl
  · exact .inr (.inl rfl)

theorem accounts_seqCmdBuffIn :
    Accounts controller p context (g.seqCmdBuffIn hmac controller p data context).2 := by
  unfold seqCmdBuffIn
  dsimp only
  split
  · exact accounts_reject ..
  · cases CmdPacket.deserializeFrom data with
    | none =>
      dsimp only
      split_ifs
      · exact accounts_reject ..
      · exact .inr (.inl rfl)
    | some c =>
      dsimp only
      split_ifs
      · rcases handleSecureCommandV2_cases hmac controller g p context c with
          ⟨r, hr⟩ | ⟨a, inner, tag, had, -, hrs⟩
        · rw [hr]
          exact accounts_reject ..
        · rw [hrs]
          refine accounts_handOn _ _ _ _ fun request hrq => ?_
          have hp := had.request
          split_ifs at hp
          · obtain ⟨r', hpr, heq⟩ := hp
            obtain rfl := Option.some.inj (heq.symm.trans hrq)
            exact parseSequenceControlRequest_carries p context hpr
          · exact absurd (hp.symm.trans hrq) (by simp)
      · exact accounts_reject ..
      · exact accounts_reject ..
      · exact accounts_handleDirectCommand ..

end CommandIngressAuthority

/-! ### The system -/

/-- The gate, the controller, and the commands that the dispatcher has not answered yet. -/
structure CommandSystem where
  gate : CommandIngressAuthority
  controller : SequenceAdmissionController
  forwarded : List Origin
  internal : ℕ

inductive CommandSystemInput where
  | seqCmdBuffIn (port : Port) (data : Bytes) (context : UInt32) (reads : AdmissionReads)
  | seqCmdStatusIn (port : Port) (opcode cmdSeq : UInt32) (response : CmdResponse)
  | internalCmdStatusIn (response : CmdResponse)
  | seqStartIn (port : Sequencer) (filename : Bytes)
  | seqDoneIn (port : Sequencer) (response : CmdResponse)
  | authGrantedIn (grant : SecureAuthGrant)
  | authRevokedIn (revocation : SecureAuthRevocation)
  | reconfigureIngressSource (port : Port) (config : AuthorityConfig)
  | revokeIngressSource (port : Port) (reason : UInt32) (notifyObserver : Bool)

/-- Buffers that come in, statuses that go out, requests whose answer is put off, and the statuses
that answer such requests. -/
inductive AnswerEvent where
  | received (origin : Origin)
  | answered (origin : Origin)
  | deferred (ticket : Ticket)
  | handedBack (ticket : Ticket)

def statusOfTicket (ticket : Ticket) (cmdResponse : UInt32) : Option SequenceControlStatus :=
  if h : ticket.ingressPort.toNat < 2 then
    some ⟨⟨ticket.ingressPort.toNat, h⟩, ticket.originalOpcode, ticket.originalCmdSeq, cmdResponse⟩
  else none

namespace CommandSystem

variable (hmac : KeyedHash) (format : SequenceFileFormat) (s : CommandSystem)

def answers (outputs : List GateOutput) : List AnswerEvent :=
  outputs.filterMap fun o => o.answeredOrigin.map .answered

/-- A status that goes out for a request that had been put off. -/
def lateAnswer : GateOutput → List AnswerEvent
  | .seqCmdStatusOut port opcode context _ =>
    [.handedBack ⟨UInt32.ofNat port.val, opcode, context⟩, .answered (port, context)]
  | _ => []

def controlStatus (gate : CommandIngressAuthority) : SequenceOutput → List AnswerEvent
  | .controlStatusOut ingressPort originalOpcode originalCmdSeq cmdResponse =>
    match statusOfTicket ⟨ingressPort, originalOpcode, originalCmdSeq⟩ cmdResponse with
    | some status => (gate.sequenceControlStatusIn status).2.flatMap lateAnswer
    | none => []
  | _ => []

/-- The controller's next state and its outputs as they arrive. -/
def absorb (next : SequenceAdmissionController × List SequenceOutput) : CommandSystem × List AnswerEvent :=
  ({ s with controller := next.1, internal := s.internal + sentCommands next.2 },
    next.2.flatMap (controlStatus s.gate))

/-- A command buffer, with the controller's answer if the gate asks it. -/
def seqCmdBuffIn (port : Port) (data : Bytes) (context : UInt32) (reads : AdmissionReads) :
    CommandSystem × List AnswerEvent :=
  let ask request := s.controller.controlIn format reads request
  let next := s.gate.seqCmdBuffIn hmac (fun request => (ask request).1) port data context
  let s := { s with
    gate := next.1
    forwarded := s.forwarded ++ next.2.filterMap GateOutput.forwardedOrigin }
  let events := .received (port, context) :: answers next.2
  match next.2.filterMap GateOutput.controlRequest with
  | [] => (s, events)
  | request :: _ =>
    let absorbed := s.absorb (ask request).2
    (absorbed.1, events ++ (deferredTickets request (ask request).1).map .deferred ++ absorbed.2)

def step : CommandSystemInput → CommandSystem × List AnswerEvent
  | .seqCmdBuffIn port data context reads => s.seqCmdBuffIn hmac format port data context reads
  | .seqCmdStatusIn port opcode cmdSeq response =>
    -- the dispatcher answers only what it has been given
    if (port, cmdSeq) ∈ s.forwarded then
      let next := s.gate.seqCmdStatusIn port opcode cmdSeq response
      ({ s with gate := next.1, forwarded := s.forwarded.erase (port, cmdSeq) }, answers next.2)
    else (s, [])
  | .internalCmdStatusIn response =>
    if s.internal = 0 then (s, [])
    else { s with internal := s.internal - 1 }.absorb (s.controller.finalizeInternalOperation response)
  | .seqStartIn port filename => s.absorb (s.controller.seqStartIn port filename)
  | .seqDoneIn port response => s.absorb (s.controller.seqDoneIn port response)
  | .authGrantedIn grant =>
    let next := s.gate.authGrantedIn grant
    ({ s with gate := next.1 }, answers next.2)
  | .authRevokedIn revocation =>
    let next := s.gate.authRevokedIn revocation
    ({ s with gate := next.1 }, answers next.2)
  | .reconfigureIngressSource port config =>
    ({ s with gate := s.gate.reconfigureIngressSource port config }, [])
  | .revokeIngressSource port reason notifyObserver =>
    let next := s.gate.revokeIngressSource port reason notifyObserver
    ({ s with gate := next.1 }, answers next.2)

def machine : Machine CommandSystem CommandSystemInput AnswerEvent := ⟨fun s => s.step hmac format⟩

def boot (gate : CommandIngressAuthority) (controller : SequenceAdmissionController) : CommandSystem :=
  ⟨gate, controller, [], 0⟩

end CommandSystem

/-! ### Histories -/

namespace AnswerEvent

def receivedOrigin : AnswerEvent → Option Origin
  | .received origin => some origin
  | _ => none

def answeredOrigin : AnswerEvent → Option Origin
  | .answered origin => some origin
  | _ => none

def deferredTicket : AnswerEvent → Option Ticket
  | .deferred ticket => some ticket
  | _ => none

def handedBackTicket : AnswerEvent → Option Ticket
  | .handedBack ticket => some ticket
  | _ => none

end AnswerEvent

def ticketOrigin (ticket : Ticket) : Origin :=
  (⟨ticket.ingressPort.toNat % 2, Nat.mod_lt _ (by decide)⟩, ticket.originalCmdSeq)

def KnownPort (ticket : Ticket) : Prop := ticket.ingressPort.toNat < 2

namespace CommandSystem

variable (events : List AnswerEvent)

def received : List Origin := events.filterMap AnswerEvent.receivedOrigin

def answered : List Origin := events.filterMap AnswerEvent.answeredOrigin

def deferred : List Ticket := events.filterMap AnswerEvent.deferredTicket

def handedBack : List Ticket := events.filterMap AnswerEvent.handedBackTicket

variable (xs ys : List AnswerEvent)

@[simp] theorem received_append : received (xs ++ ys) = received xs ++ received ys :=
  List.filterMap_append

@[simp] theorem answered_append : answered (xs ++ ys) = answered xs ++ answered ys :=
  List.filterMap_append

@[simp] theorem deferred_append : deferred (xs ++ ys) = deferred xs ++ deferred ys :=
  List.filterMap_append

@[simp] theorem handedBack_append :
    handedBack (xs ++ ys) = handedBack xs ++ handedBack ys := List.filterMap_append

variable (gate : CommandIngressAuthority)

theorem controlStatus_of_known {i p o : UInt32} (h : KnownPort ⟨i, p, o⟩) (c : UInt32) :
    controlStatus gate (.controlStatusOut i p o c) =
      [.handedBack ⟨i, p, o⟩, .answered (ticketOrigin ⟨i, p, o⟩)] := by
  have hlt : i.toNat < 2 := h
  have hs : statusOfTicket ⟨i, p, o⟩ c = some ⟨⟨i.toNat, hlt⟩, p, o, c⟩ := dif_pos hlt
  have hp : ((⟨i.toNat, hlt⟩ : Port), o) = ticketOrigin ⟨i, p, o⟩ :=
    Prod.ext (Fin.ext (Nat.mod_eq_of_lt hlt).symm) rfl
  have he : lateAnswer (.seqCmdStatusOut ⟨i.toNat, hlt⟩ p o
      (CmdResponse.ofCode c)) =
      [.handedBack ⟨i, p, o⟩, .answered (ticketOrigin ⟨i, p, o⟩)] := by
    dsimp only [lateAnswer]
    rw [UInt32.ofNat_toNat, hp]
  dsimp only [controlStatus]
  rw [hs]
  exact (List.append_nil _).trans he

theorem controlStatus_events {os : List SequenceOutput}
    (hp : ∀ tc ∈ answeredTickets os, KnownPort tc) :
    received (os.flatMap (controlStatus gate)) = [] ∧ deferred (os.flatMap (controlStatus gate)) = [] ∧
      handedBack (os.flatMap (controlStatus gate)) = answeredTickets os ∧
      answered (os.flatMap (controlStatus gate)) = (answeredTickets os).map ticketOrigin := by
  induction os with
  | nil => exact ⟨rfl, rfl, rfl, rfl⟩
  | cons o _ ih =>
    rw [List.flatMap_cons]
    cases o with
    | controlStatusOut i p n =>
      obtain ⟨hr, hdf, hb, han⟩ := ih fun t ht => hp t (List.mem_cons_of_mem _ ht)
      have hk : KnownPort ⟨i, p, n⟩ := hp _ List.mem_cons_self
      rw [controlStatus_of_known gate hk, received_append, deferred_append, handedBack_append, answered_append, hr, hdf,
        hb, han]
      exact ⟨rfl, rfl, rfl, rfl⟩
    | internalCmdOut | fileCopied | fileRemoved | contextUpdated => exact ih hp

/-- The account of a history: every command received is answered, with the dispatcher or with the
controller, and the requests put off are handed back in order. -/
structure Account (history : List AnswerEvent) (s : CommandSystem) : Prop where
  serving : s.controller.Serving
  internal : s.internal = s.controller.commandsInFlight
  ports : ∀ ticket ∈ s.controller.owedTickets, KnownPort ticket
  tickets : deferred history = handedBack history ++ s.controller.owedTickets
  origins : (received history).Perm
    (answered history ++ (s.forwarded ++ s.controller.owedTickets.map ticketOrigin))

theorem account_boot {controller : SequenceAdmissionController} (hs : controller.Serving)
    (hid : controller.internalOp.active = false) : Account [] (boot gate controller) := by
  have ho := owedTickets_of_idle hid
  refine ⟨hs, (commandsInFlight_of_idle hid).symm, ?_, ?_, ?_⟩
  · rw [show (boot gate controller).controller.owedTickets = [] from ho]
    simp
  · rw [show (boot gate controller).controller.owedTickets = [] from ho]
    rfl
  · rw [show (boot gate controller).controller.owedTickets = [] from ho]
    exact .nil

variable {history : List AnswerEvent} {s : CommandSystem}

theorem Account.absorb (h : Account history s) (gate : CommandIngressAuthority) (events : List AnswerEvent)
    (forwarded : List Origin) (next : SequenceAdmissionController × List SequenceOutput) {tickets : List Ticket}
    {done : ℕ} (hs : next.1.Serving)
    (hbl : Balanced s.controller next.1 tickets done next.2) (hdn : done ≤ s.internal)
    (hp : ∀ ticket ∈ tickets, KnownPort ticket) (hdf : deferred events = tickets)
    (hback : handedBack events = [])
    (ho : (received events).Perm (answered events ++ (forwarded ++ tickets.map ticketOrigin))) :
    Account (history ++ (events ++ next.2.flatMap (controlStatus gate)))
      { gate, controller := next.1, forwarded := s.forwarded ++ forwarded,
        internal := s.internal - done + sentCommands next.2 } := by
  have hk : ∀ ticket ∈ answeredTickets next.2 ++ next.1.owedTickets, KnownPort ticket := by
    rw [← hbl.tickets]
    exact List.forall_mem_append.mpr ⟨h.ports, hp⟩
  obtain ⟨hr', hd', hb', ha'⟩ :=
    controlStatus_events gate fun ticket ht => hk ticket (List.mem_append_left _ ht)
  refine ⟨hs, ?_, fun ticket ht => hk ticket (List.mem_append_right _ ht), ?_, ?_⟩
  · have hin := h.internal
    have hc := hbl.commands
    dsimp only
    omega
  · rw [deferred_append, deferred_append, handedBack_append, handedBack_append, hdf, hd', hback,
      hb', h.tickets, List.append_nil, List.nil_append, List.append_assoc, hbl.tickets,
      ← List.append_assoc]
  · rw [List.perm_iff_count]
    intro origin
    have hbf := h.origins.count_eq origin
    have he := ho.count_eq origin
    have how := congrArg (fun tickets => (tickets.map ticketOrigin).count origin) hbl.tickets
    simp only [received_append, answered_append, hr', ha', List.map_append, List.count_append,
      List.count_nil] at hbf he how ⊢
    omega

theorem Account.absorb_callback (h : Account history s)
    {next : SequenceAdmissionController × List SequenceOutput}
    (hnext : next.1.Serving ∧ Balanced s.controller next.1 [] 0 next.2) :
    Account (history ++ (s.absorb next).2) (s.absorb next).1 := by
  have hbl := h.absorb s.gate [] [] next hnext.1 hnext.2 (Nat.zero_le _) (by simp) rfl rfl .nil
  rwa [List.append_nil] at hbl

theorem Account.gate_step (h : Account history s) (gate : CommandIngressAuthority) (events : List AnswerEvent)
    (forwarded : List Origin) (hdf : deferred events = []) (hback : handedBack events = [])
    (ho : (received events).Perm (answered events ++ forwarded)) :
    Account (history ++ events) { s with gate, forwarded := s.forwarded ++ forwarded } := by
  have hbl := h.absorb gate events forwarded (s.controller, []) h.serving
    (balanced_of_silent ⟨rfl, rfl⟩ rfl) (Nat.zero_le _) (by simp) hdf hback (by simpa using ho)
  rwa [List.flatMap_nil, List.append_nil] at hbl

theorem answers_events (os : List GateOutput) :
    received (answers os) = [] ∧ deferred (answers os) = [] ∧ handedBack (answers os) = [] ∧
      answered (answers os) = os.filterMap GateOutput.answeredOrigin := by
  induction os with
  | nil => exact ⟨rfl, rfl, rfl, rfl⟩
  | cons o _ ih =>
    cases o with
    | seqCmdStatusOut port _ context =>
      refine ⟨ih.1, ih.2.1, ih.2.2.1, ?_⟩
      exact congrArg ((port, context) :: ·) ih.2.2.2
    | seqCmdBuffOut | sequenceControlOut | authActivityOut | sessionOpened | sessionActivity | sessionRevoked =>
      exact ih

theorem deferrals_events (t : List Ticket) :
    received (t.map .deferred) = [] ∧ deferred (t.map .deferred) = t ∧
      handedBack (t.map .deferred) = [] ∧ answered (t.map .deferred) = [] := by
  induction t with
  | nil => exact ⟨rfl, rfl, rfl, rfl⟩
  | cons tc _ ih =>
    exact ⟨ih.1, congrArg (tc :: ·) ih.2.1, ih.2.2.1, ih.2.2.2⟩

theorem Account.gate_silent (h : Account history s) {next : CommandIngressAuthority × List GateOutput}
    (hs : next.2.filterMap GateOutput.answeredOrigin = []) :
    Account (history ++ answers next.2) { s with gate := next.1 } := by
  obtain ⟨hr, hdf, hback, han⟩ := answers_events next.2
  have hstep := h.gate_step next.1 (answers next.2) [] hdf hback (by rw [hr, han, hs]; exact .nil)
  rwa [List.append_nil] at hstep

variable {request : SequenceControlRequest}

theorem knownPort_of_carries {p : Port} {context : UInt32}
    (h : CommandIngressAuthority.Carries p context request) :
    KnownPort (ticketOf request) ∧ ticketOrigin (ticketOf request) = (p, context) := by
  have hp : (ticketOf request).ingressPort.toNat = p.val := by
    rw [ticketOf, h.1, UInt32.toNat_ofNat', Nat.mod_eq_of_lt (lt_trans p.isLt (by decide))]
  refine ⟨lt_of_eq_of_lt hp p.isLt, Prod.ext (Fin.ext ?_) h.2⟩
  exact (congrArg (· % 2) hp).trans (Nat.mod_eq_of_lt p.isLt)

theorem Account.asked (h : Account history s) (gate : CommandIngressAuthority) {origin : Origin}
    (hk : KnownPort (ticketOf request)) (ho : ticketOrigin (ticketOf request) = origin)
    {answer : SequenceAdmissionController.Answered} (hs : answer.2.1.Serving)
    (hbl : Balanced s.controller answer.2.1 (deferredTickets request answer.1) 0 answer.2.2)
    {events : List AnswerEvent} (hr : received events = [origin])
    (hdf : deferred events = []) (hback : handedBack events = [])
    (han : answered events = if answer.1.accepted && answer.1.deferred then [] else [origin]) :
    Account (history ++ (events ++ (deferredTickets request answer.1).map .deferred ++
        (CommandSystem.absorb { s with gate } answer.2).2)) (CommandSystem.absorb { s with gate } answer.2).1 := by
  obtain ⟨hr', hd', hb', ha'⟩ := deferrals_events (deferredTickets request answer.1)
  have hstep := h.absorb gate (events ++ (deferredTickets request answer.1).map .deferred) [] answer.2 hs
    hbl (Nat.zero_le _)
  rw [List.append_nil] at hstep
  refine hstep ?_ ?_ ?_ ?_
  · intro ticket ht
    unfold deferredTickets at ht
    split_ifs at ht
    · rw [List.mem_singleton.mp ht]
      exact hk
    · cases ht
  · rw [deferred_append, hdf, hd', List.nil_append]
  · rw [handedBack_append, hback, hb', List.nil_append]
  · rw [received_append, answered_append, hr, hr', han, ha', deferredTickets]
    split_ifs
    · exact .of_eq (congrArg (fun o => [o]) ho.symm)
    · exact .refl _

theorem Account.seqCmdBuffIn (h : Account history s) (hmac : KeyedHash) (format : SequenceFileFormat)
    (p : Port) (data : Bytes) (context : UInt32) (r : AdmissionReads) :
    Account (history ++ (s.seqCmdBuffIn hmac format p data context r).2)
      (s.seqCmdBuffIn hmac format p data context r).1 := by
  have hac := CommandIngressAuthority.accounts_seqCmdBuffIn hmac
    (fun request => (s.controller.controlIn format r request).1) s.gate p data context
  unfold CommandSystem.seqCmdBuffIn
  dsimp only
  generalize s.gate.seqCmdBuffIn hmac (fun request => (s.controller.controlIn format r request).1) p data
    context = next at hac ⊢
  obtain ⟨hrc, hdf, hb, han⟩ := answers_events next.2
  have he : received (.received (p, context) :: answers next.2) = [(p, context)] :=
    congrArg ((p, context) :: ·) hrc
  simp only [CommandIngressAuthority.Accounts, CommandIngressAuthority.ledger, Prod.mk.injEq] at hac
  rcases hac with ⟨hs, hf, hr⟩ | ⟨hs, hf, hr⟩ | ⟨request, hc, hs, hf, hr⟩
  · rw [hf, hr]
    refine h.gate_step next.1 _ [] hdf hb ?_
    rw [he, show answered (.received (p, context) :: answers next.2) = _ from han, hs]
    exact .refl _
  · rw [hf, hr]
    refine h.gate_step next.1 _ [(p, context)] hdf hb ?_
    rw [he, show answered (.received (p, context) :: answers next.2) = _ from han, hs]
    exact .refl _
  · obtain ⟨hk, ho⟩ := knownPort_of_carries hc
    rw [hf, hr, List.append_nil]
    obtain ⟨hsr, hbl⟩ := h.serving.requested (s.controller.requested format r request)
    dsimp only
    refine h.asked next.1 hk ho hsr hbl he hdf hb ?_
    exact han.trans hs

theorem Account.seqCmdStatusIn (h : Account history s) {p : Port} {c : UInt32}
    (hmem : (p, c) ∈ s.forwarded) (gate : CommandIngressAuthority) :
    Account (history ++ [.answered (p, c)])
      { s with gate, forwarded := s.forwarded.erase (p, c) } := by
  refine ⟨h.serving, h.internal, h.ports, ?_, ?_⟩
  · rw [deferred_append, handedBack_append]
    exact (List.append_nil _).trans (h.tickets.trans (by rw [show handedBack [.answered (p, c)] = [] from rfl,
      List.append_nil]))
  · rw [List.perm_iff_count]
    intro o
    have hbf := h.origins.count_eq o
    have he := (List.perm_cons_erase hmem).count_eq o
    rw [show (p, c) :: s.forwarded.erase (p, c) =
      [(p, c)] ++ s.forwarded.erase (p, c) from rfl] at he
    simp only [received_append, answered_append, List.count_append,
      show received [.answered (p, c)] = [] from rfl,
      show answered [.answered (p, c)] = [(p, c)] from rfl, List.count_nil] at hbf he ⊢
    omega

theorem Account.internalCmdStatusIn (h : Account history s) (hsm : s.internal ≠ 0) (response : CmdResponse) :
    Account (history ++ (CommandSystem.absorb { s with internal := s.internal - 1 }
        (s.controller.finalizeInternalOperation response)).2)
      (CommandSystem.absorb { s with internal := s.internal - 1 } (s.controller.finalizeInternalOperation response)).1 := by
  obtain ⟨hs, hbl⟩ := h.serving.finalize response
  have hone : s.controller.commandsInFlight = 1 := by
    have hin := h.internal
    unfold commandsInFlight at hin ⊢
    split_ifs at hin ⊢
    · rfl
    · exact absurd hin hsm
  have hstep := h.absorb s.gate [] [] _ hs hbl (le_of_eq h.internal.symm) (by simp) rfl rfl .nil
  rw [hone, List.append_nil] at hstep
  exact hstep

theorem closeSession_silent (p : Port) (r : UInt32) (n : Bool) :
    (gate.closeSession p r n).2.filterMap GateOutput.answeredOrigin = [] := by
  unfold CommandIngressAuthority.closeSession CommandIngressAuthority.notifySessionRevoked
  dsimp only
  split_ifs <;> rfl

theorem Account.step (h : Account history s) (hmac : KeyedHash) (format : SequenceFileFormat)
    (i : CommandSystemInput) :
    Account (history ++ (s.step hmac format i).2) (s.step hmac format i).1 := by
  cases i with
  | seqCmdBuffIn p data context d => exact h.seqCmdBuffIn hmac format p data context d
  | seqCmdStatusIn =>
    dsimp only [CommandSystem.step]
    split_ifs with hmem
    · exact h.seqCmdStatusIn hmem _
    · rwa [List.append_nil]
  | internalCmdStatusIn r =>
    dsimp only [CommandSystem.step]
    split_ifs with hnone
    · rwa [List.append_nil]
    · exact h.internalCmdStatusIn hnone r
  | seqStartIn port f => exact h.absorb_callback (h.serving.started port f)
  | seqDoneIn port r => exact h.absorb_callback (h.serving.done port r)
  | authGrantedIn =>
    refine h.gate_silent ?_
    unfold CommandIngressAuthority.authGrantedIn
    dsimp only
    split_ifs <;> rfl
  | authRevokedIn =>
    refine h.gate_silent ?_
    unfold CommandIngressAuthority.authRevokedIn CommandIngressAuthority.revokeSecureSession
    dsimp only
    split_ifs
    · rfl
    · exact closeSession_silent ..
  | reconfigureIngressSource port c =>
    exact h.gate_silent (show (s.gate.reconfigureIngressSource port c,
      ([] : List GateOutput)).2.filterMap GateOutput.answeredOrigin = [] from rfl)
  | revokeIngressSource =>
    refine h.gate_silent ?_
    unfold CommandIngressAuthority.revokeIngressSource
    split_ifs
    · rfl
    · exact closeSession_silent ..

/-! ### Runs -/

def bufferOrigin : CommandSystemInput → Option Origin
  | .seqCmdBuffIn port _ context _ => some (port, context)
  | _ => none

theorem received_controlStatus (os : List SequenceOutput) :
    received (os.flatMap (controlStatus gate)) = [] := by
  induction os with
  | nil => rfl
  | cons o _ ih =>
    rw [List.flatMap_cons, received_append, ih, List.append_nil]
    cases o with
    | controlStatusOut =>
      dsimp only [controlStatus]
      split <;> rfl
    | internalCmdOut | fileCopied | fileRemoved | contextUpdated => rfl

theorem received_step (hmac : KeyedHash) (format : SequenceFileFormat) (s : CommandSystem)
    (i : CommandSystemInput) :
    received (s.step hmac format i).2 = (bufferOrigin i).toList := by
  cases i with
  | seqCmdBuffIn port _ context =>
    dsimp only [CommandSystem.step, CommandSystem.seqCmdBuffIn]
    have han (outputs : List GateOutput) :
        received (.received (port, context) :: answers outputs) = [(port, context)] :=
      congrArg ((port, context) :: ·) (answers_events outputs).1
    split
    · exact han _
    · rw [received_append, received_append, han, (deferrals_events _).1]
      exact congrArg ((port, context) :: ·) (received_controlStatus _ _)
  | seqCmdStatusIn =>
    dsimp only [CommandSystem.step]
    split_ifs <;> rfl
  | internalCmdStatusIn =>
    dsimp only [CommandSystem.step]
    split_ifs
    · rfl
    · exact received_controlStatus _ _
  | seqStartIn | seqDoneIn => exact received_controlStatus _ _
  | authGrantedIn | authRevokedIn | revokeIngressSource => exact (answers_events _).1
  | reconfigureIngressSource => rfl

theorem received_trace (hmac : KeyedHash) (format : SequenceFileFormat) (s : CommandSystem)
    (i : List CommandSystemInput) :
    received ((machine hmac format).trace s i) = i.filterMap bufferOrigin := by
  induction i generalizing s with
  | nil => rfl
  | cons x _ ih =>
    rw [Machine.trace_cons, received_append, ih, List.filterMap_cons,
      show received ((machine hmac format).step s x).2 = _ from received_step hmac format s x]
    cases bufferOrigin x <;> rfl

/-- In every run, the commands received on a port are those answered on it, those with the dispatcher
and the one that the controller works for; and the requests that were put off are answered in order,
each once and under its own port, opcode and sequence number, but for the one still worked for. -/
theorem commands_answered_once (hmac : KeyedHash) (format : SequenceFileFormat)
    (gate : CommandIngressAuthority) (runtimeRoot admittedRoot admittedCommandPrefix : Bytes) (configured : Bool)
    (inputs : List CommandSystemInput) :
    let start := boot gate (.boot runtimeRoot admittedRoot admittedCommandPrefix configured)
    let s := (machine hmac format).run start inputs
    let events := (machine hmac format).trace start inputs
    (∀ p, (inputs.filterMap bufferOrigin).countP (·.1 = p) = (answered events).countP (·.1 = p) +
      (s.forwarded.countP (·.1 = p) + (s.controller.owedTickets.map ticketOrigin).countP (·.1 = p))) ∧
      (inputs.filterMap bufferOrigin).Perm
        (answered events ++ (s.forwarded ++ s.controller.owedTickets.map ticketOrigin)) ∧
      deferred events = handedBack events ++ s.controller.owedTickets := by
  intro start s events
  have haccount : Account events s := (machine hmac format).history_invariant
    (fun _ _ input h => h.step hmac format input) [] start (account_boot gate (serving_boot ..) rfl) inputs
  have horigins := haccount.origins
  rw [show received events = _ from received_trace hmac format start inputs] at horigins
  refine ⟨fun p => ?_, horigins, haccount.tickets⟩
  rw [horigins.countP_eq, List.countP_append, List.countP_append]

end CommandSystem

end ObcFlight
