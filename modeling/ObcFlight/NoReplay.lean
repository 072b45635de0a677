import ObcFlight.LinkHistory

/-!
# No replay on the secure link

Between two grants on a port the sequence numbers handed on increase. If in addition
no nonce repeats and no two accepted hashes collide, then no packet is handed on twice
in a whole run: equal packets carry equal tags, equal tags come from equal keys, a key
comes from one challenge, and a challenge is answered at most once.
-/

namespace ObcFlight

def CollisionFree (hmac : KeyedHash) (hashed : List (Bytes × Bytes)) : Prop :=
  ∀ q ∈ hashed, ∀ q' ∈ hashed, hmac q.1 q.2 ≠ none → hmac q.1 q.2 = hmac q'.1 q'.2 → q = q'

def issuedNonces (outputs : List LinkOutput) : List RandomNonce :=
  (outputs.filterMap LinkOutput.issuedChallenge).map Challenge.nonce

def sequencesOn (p : Port) (handed : List HandedCommand) : List UInt32 :=
  handed.filterMap fun h => if h.port = p then some h.sequenceNumber else none

namespace SecureLink

def handedTrace (hmac : KeyedHash) (l : SecureLink) (is : List LinkInput) : List HandedCommand :=
  ((secureLink hmac).observe (handed hmac)).trace l is

/-- The keyed hashes that the grants and the handed-on commands of a run rest on. -/
def hashTrace (hmac : KeyedHash) (l : SecureLink) (is : List LinkInput) : List (Bytes × Bytes) :=
  ((secureLink hmac).observe (acceptedHashes hmac)).trace l is

def establishmentTrace (hmac : KeyedHash) (l : SecureLink) (is : List LinkInput) :
    List Establishment :=
  ((secureLink hmac).observe (establishments hmac)).trace l is

def sessionTrace (hmac : KeyedHash) (l : SecureLink) (is : List LinkInput) :
    List (SessionEvent Port Digest UInt32) :=
  ((secureLink hmac).observe (sessionEvents hmac)).trace l is

variable {hmac : KeyedHash} {l : SecureLink} {is : List LinkInput}

theorem acceptedAt_sessionTrace (p : Port) :
    Sessions.acceptedAt p (sessionTrace hmac l is) = sequencesOn p (handedTrace hmac l is) := by
  rw [Sessions.acceptedAt, sequencesOn, sessionTrace, handedTrace, Machine.trace_observe_filterMap,
    Machine.trace_observe_filterMap]
  exact congrFun (congrFun (Machine.trace_observe_congr _
    fun l i => acceptedAt_sessionEvents hmac l i p) l) is

theorem sequencesOn_increasing (p : Port) (hg : ∀ grant : SecureAuthGrant, grant.ingressPort = p →
      .authorizer (.authGrantedOut grant) ∉ (secureLink hmac).trace l is) :
    (sequencesOn p (handedTrace hmac l is)).Pairwise (· < ·) := by
  rw [← acceptedAt_sessionTrace]
  refine ((sessions_run hmac l is).acceptedAt_increasing p fun key ho => ?_).1
  obtain ⟨pre, i, post, rfl, hi⟩ := Machine.exists_of_mem_trace _ ho
  rw [Machine.observe_run] at hi
  obtain ⟨grant, hp, hmem⟩ := exists_grant_of_opened hi
  exact hg grant hp (Machine.mem_trace _ hmem)

theorem challengeRun_trace (hmac : KeyedHash) (l : SecureLink) (is : List LinkInput) :
    ChallengeRun l.authorizer ((secureLink hmac).run l is).authorizer
      (((secureLink hmac).trace l is).filterMap LinkOutput.issuedChallenge)
      ((establishmentTrace hmac l is).map Establishment.challenge) := by
  induction is generalizing l with
  | nil => exact challengeRun_of_eq rfl
  | cons i _ ih =>
    have hstep := (step_challengeRun hmac l i).1.trans (ih _)
    rwa [← List.filterMap_append, ← List.map_append] at hstep

theorem establishmentTrace_keys (hmac : KeyedHash) (l : SecureLink) (is : List LinkInput) :
    (establishmentTrace hmac l is).map Establishment.sessionKey =
      (((secureLink hmac).trace l is).filterMap LinkOutput.granted).map
        SecureAuthGrant.sessionKey := by
  induction is generalizing l with
  | nil => rfl
  | cons i _ ih =>
    have hstep := (step_challengeRun hmac l i).2.1
    simp only [establishmentTrace, Machine.trace_cons, List.map_append, List.filterMap_append]
    exact congrArg₂ (· ++ ·) hstep (ih _)

theorem openedKeys_trace_sublist (hmac : KeyedHash) (l : SecureLink) (is : List LinkInput) :
    (Sessions.openedKeys (sessionTrace hmac l is)).Sublist
      ((establishmentTrace hmac l is).map Establishment.sessionKey) := by
  rw [establishmentTrace_keys]
  induction is generalizing l with
  | nil => exact List.Sublist.refl _
  | cons i _ ih =>
    simp only [sessionTrace, Machine.trace_cons, Sessions.openedKeys_append, List.map_append,
      List.filterMap_append]
    exact (openedKeys_sublist hmac l i).append (ih _)

theorem acceptedPairs_trace (hmac : KeyedHash) (l : SecureLink) (is : List LinkInput) :
    Sessions.acceptedPairs (sessionTrace hmac l is) =
      (((secureLink hmac).observe (handedKeyed hmac)).trace l is).map
        fun h => (h.1, h.2.sequenceNumber) := by
  rw [Sessions.acceptedPairs, sessionTrace, Machine.trace_observe_filterMap,
    Machine.trace_observe_map]
  exact congrFun (congrFun (Machine.trace_observe_congr _
    fun l i => acceptedPairs_sessionEvents hmac l i) l) is

theorem hashed_of_mem_establishmentTrace {e : Establishment}
    (h : e ∈ establishmentTrace hmac l is) :
    e.hashed ∈ hashTrace hmac l is ∧ hmac e.hashed.1 e.hashed.2 = some e.sessionKey := by
  obtain ⟨pre, i, post, rfl, hi⟩ := Machine.exists_of_mem_trace _ h
  rw [Machine.observe_run] at hi
  refine ⟨Machine.mem_trace _ ?_, (step_challengeRun hmac _ i).2.2 e hi⟩
  rw [Machine.observe_run]
  exact List.mem_append_left _ (List.mem_map_of_mem hi)

variable {g : CommandIngressAuthority} {a : SecureLinkAuthorizer}

theorem establishedKeys_nodup (hf : a.challenges = fun _ => none)
    (hnn : (issuedNonces ((secureLink hmac).trace ⟨a, g⟩ is)).Nodup)
    (hcl : CollisionFree hmac (hashTrace hmac ⟨a, g⟩ is)) :
    ((establishmentTrace hmac ⟨a, g⟩ is).map Establishment.sessionKey).Nodup := by
  obtain ⟨es, hrun, his, han⟩ := challengeRun_trace hmac ⟨a, g⟩ is
  change Sessions.Run a.challenges es _ at hrun
  rw [hf] at hrun
  have hc : ((establishmentTrace hmac ⟨a, g⟩ is).map Establishment.challenge).Nodup := by
    rw [← han]
    refine hrun.accepted_keys_nodup ?_
    rw [his]
    exact List.Nodup.of_map _ hnn
  rw [List.Nodup, List.pairwise_map] at hc ⊢
  refine hc.imp_of_mem fun {e e'} he he' hne hkey => hne ?_
  obtain ⟨hmem, hh⟩ := hashed_of_mem_establishmentTrace he
  obtain ⟨hm', hh'⟩ := hashed_of_mem_establishmentTrace he'
  have hs := hcl _ hmem _ hm' (by simp [hh]) (by rw [hh, hh', hkey])
  exact (sessionKeyMaterial_injective (congrArg Prod.snd hs)).2

theorem tagged_of_mem_handedKeyed {key : Digest} {h : HandedCommand}
    (hmem : (key, h) ∈ ((secureLink hmac).observe (handedKeyed hmac)).trace l is) :
    ∃ (ir : CmdPacket) (tag : Digest), ir.args.length ≤ fwCmdArgBufferMaxSize ∧
      h.packet = CmdPacket.serialize
        ⟨obcSecureCommandV2Opcode, secureArgs h.sequenceNumber ir.serialize tag⟩ ∧
      hmac key.1 (secureAuthMaterial h.sequenceNumber ir.serialize) = some tag ∧
      (key.1, secureAuthMaterial h.sequenceNumber ir.serialize) ∈ hashTrace hmac l is := by
  obtain ⟨pre, i, post, rfl, hi⟩ := Machine.exists_of_mem_trace _ hmem
  rw [Machine.observe_run] at hi
  obtain ⟨h', hh', heq⟩ := List.mem_map.mp hi
  obtain ⟨rfl, rfl⟩ : _ = key ∧ h' = h := Prod.mk.injEq .. ▸ heq
  cases i with
  | seqCmdBuffIn p data k c =>
    obtain ⟨n, hn, rfl⟩ := List.mem_map.mp hh'
    rcases CommandIngressAuthority.seqCmdBuffIn_handed hmac c
        ((secureLink hmac).run l pre).gate p data k with
      ⟨hnone, -⟩ | ⟨outer, a, ir, tag, hdes, hs, had, -, hh, -⟩
    · rw [hnone] at hn
      cases hn
    · obtain rfl : n = a.sequenceNumber := by rw [hh] at hn; simpa using hn
      have hin : secureInnerCommand data = ir.serialize := by
        simp [secureInnerCommand, hdes, had.parse_eq]
      refine ⟨ir, tag, had.fits, ?_, had.tag_eq, Machine.mem_trace _ ?_⟩
      · rw [((CmdPacket.deserializeFrom_eq_some_iff _ _).mp hdes).1, ← hs, ← had.layout]
      · rw [Machine.observe_run]
        refine List.mem_append_right _ (List.mem_map.mpr ⟨a.sequenceNumber, hn, ?_⟩)
        rw [hin]
  | _ => simp [handed] at hh'

theorem handedTrace_eq (hmac : KeyedHash) (l : SecureLink) (is : List LinkInput) :
    handedTrace hmac l is =
      (((secureLink hmac).observe (handedKeyed hmac)).trace l is).map Prod.snd := by
  rw [Machine.trace_observe_map]
  refine congrFun (congrFun (Machine.trace_observe_congr _ fun l i => ?_) l) is
  simp [handedKeyed, Function.comp_def]

theorem handedTrace_packets_nodup
    (hch : a.challenges = fun _ => none) (hs : g.sessions = fun _ => none)
    (hnn : (issuedNonces ((secureLink hmac).trace ⟨a, g⟩ is)).Nodup)
    (hc : CollisionFree hmac (hashTrace hmac ⟨a, g⟩ is)) :
    ((handedTrace hmac ⟨a, g⟩ is).map HandedCommand.packet).Nodup := by
  have ho : (Sessions.openedKeys (sessionTrace hmac ⟨a, g⟩ is)).Nodup :=
    (establishedKeys_nodup hch hnn hc).sublist (openedKeys_trace_sublist hmac ⟨a, g⟩ is)
  have hrun : Sessions.Run g.sessions (sessionTrace hmac ⟨a, g⟩ is) _ := sessions_run hmac ⟨a, g⟩ is
  rw [hs] at hrun
  have hin := hrun.acceptedPairs_increasing ho
  rw [acceptedPairs_trace, List.pairwise_map] at hin
  rw [handedTrace_eq, List.map_map, List.Nodup, List.pairwise_map]
  refine hin.imp_of_mem fun {x y} hx hy hlt hp => ?_
  obtain ⟨i, tag, hf, hx_packet, hx_tag, hx_mem⟩ := tagged_of_mem_handedKeyed hx
  obtain ⟨i', tag', hf', hy_packet, hy_tag, hy_mem⟩ := tagged_of_mem_handedKeyed hy
  have har : secureArgs x.2.sequenceNumber i.serialize tag =
      secureArgs y.2.sequenceNumber i'.serialize tag' := by
    have hser := hx_packet.symm.trans (hp.trans hy_packet)
    exact congrArg CmdPacket.args (CmdPacket.serialize_injective hser)
  obtain ⟨hseq, hir, htag⟩ := secureArgs_injective hf hf' har
  rw [← hseq, ← hir, ← htag] at hy_tag
  rw [← hseq, ← hir] at hy_mem
  have hkey := hc _ hx_mem _ hy_mem (by simp [hx_tag]) (by simp [hx_tag, hy_tag])
  have hk : x.1 = y.1 := Subtype.ext (congrArg Prod.fst hkey)
  exact lt_irrefl _ (hseq ▸ hlt hk)

/-- Replay protection over whole runs. Between grants the sequence numbers of a port
increase, from any state; and from start-up, with fresh nonces and no colliding hashes,
no secure command packet is handed on twice, on any port and in any session. -/
theorem secureLink_no_replay (hmac : KeyedHash) (moduleSerial : ModuleSerial)
    (ingressKeys : Port → Option IngressKey) (ingressConfigs : Port → AuthorityConfig) :
    (∀ (l : SecureLink) (is : List LinkInput) (p : Port),
      (∀ grant : SecureAuthGrant, grant.ingressPort = p →
        .authorizer (.authGrantedOut grant) ∉ (secureLink hmac).trace l is) →
      (sequencesOn p (handedTrace hmac l is)).Pairwise (· < ·)) ∧
    ∀ is : List LinkInput,
      (issuedNonces
        ((secureLink hmac).trace (initial moduleSerial ingressKeys ingressConfigs) is)).Nodup →
      CollisionFree hmac (hashTrace hmac (initial moduleSerial ingressKeys ingressConfigs) is) →
      ((handedTrace hmac (initial moduleSerial ingressKeys ingressConfigs) is).map
        HandedCommand.packet).Nodup :=
  ⟨fun _ _ p hgrant => sequencesOn_increasing p hgrant,
    fun _ hnonces hcollision => handedTrace_packets_nodup rfl rfl hnonces hcollision⟩

theorem secureLink_no_replay_demo :
    handedTrace demoHash demoStart demoInputs = [⟨0, demoCommand, 5⟩] ∧
      ((handedTrace demoHash demoStart demoInputs).map HandedCommand.packet).Nodup :=
  ⟨by decide +kernel, (secureLink_no_replay demoHash _ _ _).2 demoInputs (by decide +kernel)
    (by unfold CollisionFree; decide +kernel)⟩

end SecureLink

end ObcFlight
