import ObcFlight.CommandGateSpec
import ObcFlight.SessionLog
import Mathlib.Data.Fintype.Card

/-!
# The command gate as a table of sessions

The gate keeps its sessions in two places: a record per port, and the entries of the
sequence window. Seen from outside it is a session table with one high-water mark per
port, and every handler is a run of that table. The converse, that the window never
refuses a number above the mark for want of a slot, rests on an invariant: the window
holds entries of open sessions only.
-/

namespace ObcFlight.CommandIngressAuthority

variable {hmac : KeyedHash} {controller : SequenceControlRequest → SequenceControlResult}
variable {g g' : CommandIngressAuthority} {p : Port} {context : UInt32}

def sessions (g : CommandIngressAuthority) : Sessions Port Digest UInt32 := fun p =>
  if (g.activeSessions p).isOpen then
    some ⟨(g.activeSessions p).secureSessionKey, g.sequenceWindow.lookup (g.currentKey p)⟩
  else none

/-- The sequence number of a secure command, once for each time it is handed on. -/
def handedSequences (hmac : KeyedHash) (g : CommandIngressAuthority) (p : Port) (data : Bytes)
    (context : UInt32) (controller : SequenceControlRequest → SequenceControlResult) : List UInt32 :=
  match secureSequenceNumber data with
  | none => []
  | some n =>
    ((g.seqCmdBuffIn hmac controller p data context).2.filter GateOutput.isForward).map fun _ => n

def sessionEvents (hmac : KeyedHash) (g : CommandIngressAuthority) :
    GateInput → List (SessionEvent Port Digest UInt32)
  | .seqCmdBuffIn p data context controller =>
    (handedSequences hmac g p data context controller).map
      (.accepted p (g.activeSessions p).secureSessionKey)
  | .authGrantedIn grant =>
    if g.acceptsGrant grant then [.opened grant.ingressPort grant.sessionKey] else []
  | .authRevokedIn revocation =>
    if g.holdsSession revocation.ingressPort revocation.serviceId then
      [.closed revocation.ingressPort]
    else []
  | .reconfigureIngressSource p _ => [.closed p]
  | .revokeIngressSource p _ _ => [.closed p]
  | .seqCmdStatusIn _ _ _ _ => []
  | .sequenceControlStatusIn _ => []

theorem sessions_of_isOpen (ho : (g.activeSessions p).isOpen = true) :
    g.sessions p =
      some ⟨(g.activeSessions p).secureSessionKey, g.sequenceWindow.lookup (g.currentKey p)⟩ :=
  if_pos ho

theorem sessions_of_closed (hc : (g.activeSessions p).isOpen = false) : g.sessions p = none :=
  if_neg (by simp [hc])

theorem SameSessions.sessions_eq (h : SameSessions g g') : g'.sessions = g.sessions := by
  funext q
  obtain ⟨n, hn⟩ := h.sessions q
  simp only [CommandIngressAuthority.sessions, currentKey, h.configs, h.window, hn]

theorem sessions_congr (hc : g'.ingressConfigs p = g.ingressConfigs p)
    (hs : g'.activeSessions p = g.activeSessions p)
    (hl : ∀ key : CommandSessionKey, key.ingressPort = p →
      g'.sequenceWindow.lookup key = g.sequenceWindow.lookup key) :
    g'.sessions p = g.sessions p := by
  simp only [sessions, currentKey, hc, hs]
  rw [hl (sessionKeyFor p (g.ingressConfigs p) (g.activeSessions p).sessionId) rfl]

variable {key : CommandSessionKey}

theorem lookup_resetSource_other (i : AuthorityLinkIdentity) (role : AuthorityLinkRole)
    (hkey : key.ingressPort ≠ p) :
    (g.resetSource p i role).sequenceWindow.lookup key = g.sequenceWindow.lookup key := by
  rw [resetSource, CommandSequenceWindow.lookup_resetSource, if_neg fun h => hkey h.1]

theorem lookup_resetOpenSource_other (hkey : key.ingressPort ≠ p) :
    (g.resetOpenSource p).sequenceWindow.lookup key = g.sequenceWindow.lookup key := by
  unfold resetOpenSource
  dsimp only
  split_ifs
  · exact lookup_resetSource_other _ _ hkey
  · rfl

@[simp] theorem resetOpenSource_ingressConfigs :
    (g.resetOpenSource p).ingressConfigs = g.ingressConfigs := by
  unfold resetOpenSource
  dsimp only
  split_ifs <;> rfl

@[simp] theorem resetOpenSource_activeSessions :
    (g.resetOpenSource p).activeSessions = g.activeSessions := by
  unfold resetOpenSource
  dsimp only
  split_ifs <;> rfl

theorem closeSession_sessions (r : UInt32) (n : Bool) :
    (g.closeSession p r n).1.sessions = Function.update g.sessions p none := by
  refine Function.eq_update_iff.mpr
    ⟨sessions_of_closed (congrArg _ (Function.update_self _ _ _)), fun q hne => ?_⟩
  refine sessions_congr rfl (Function.update_of_ne hne _ _) fun key hkey => ?_
  exact lookup_resetSource_other _ _ (by rwa [hkey])

theorem reconfigureIngressSource_sessions (c : AuthorityConfig) :
    (g.reconfigureIngressSource p c).sessions = Function.update g.sessions p none := by
  refine Function.eq_update_iff.mpr
    ⟨sessions_of_closed (congrArg _ (Function.update_self _ _ _)), fun q hne => ?_⟩
  refine sessions_congr ?_ ?_ fun key hkey => ?_
  · simp [reconfigureIngressSource, clearActiveSession, setSession, hne]
  · simp [reconfigureIngressSource, clearActiveSession, setSession, hne]
  · exact lookup_resetOpenSource_other (by rwa [hkey])

theorem synthesizeSecureSession_sessions (grant : SecureAuthGrant) :
    (g.synthesizeSecureSessionFromAuthGrant p (g.ingressConfigs p) grant).1.sessions =
      Function.update g.sessions p (some ⟨grant.sessionKey, none⟩) := by
  refine Function.eq_update_iff.mpr ⟨?_, fun q hne => ?_⟩
  · -- the window entries of the new session's source have just been erased
    simp [sessions, currentKey, sessionKeyFor, synthesizeSecureSessionFromAuthGrant,
      nextRuntimeSessionToken_, setSession, resetSource, CommandSequenceWindow.lookup_resetSource]
  · refine sessions_congr ?_ ?_ fun key hkey => ?_
    · simp [synthesizeSecureSessionFromAuthGrant, nextRuntimeSessionToken_, setSession, resetSource]
    · simp [synthesizeSecureSessionFromAuthGrant, nextRuntimeSessionToken_, setSession, resetSource,
        hne]
    · have ho : key.ingressPort ≠ p := by rwa [hkey]
      exact (lookup_resetSource_other _ _ ho).trans (lookup_resetOpenSource_other ho)

theorem withWindow_sessions {n : UInt32} (ho : (g.activeSessions p).isOpen = true)
    (hac : (g.windowAnswer p n).1 = .accepted) :
    (g.withWindow (g.windowAnswer p n).2).sessions =
      Function.update g.sessions p (some ⟨(g.activeSessions p).secureSessionKey, some n⟩) := by
  obtain ⟨-, hl, hot, -⟩ := CommandSequenceWindow.evaluateAndAccept_accepted hac
  refine Function.eq_update_iff.mpr ⟨?_, fun q hne => ?_⟩
  · refine (sessions_of_isOpen (g := g.withWindow (g.windowAnswer p n).2) ho).trans ?_
    exact congrArg (fun last => some (Session.mk _ last)) hl
  · refine sessions_congr rfl rfl fun key hkey => hot key fun heq => hne ?_
    rw [← hkey, heq]
    rfl

theorem Admits.parse_eq {o i : CmdPacket} {a : SecureAdmission} {tag : Digest}
    (h : Admits hmac g p context o a i tag) :
    parseSecureCommandV2 o = (acceptedSecure a.sequenceNumber i.opcode tag, i.serialize) := by
  have ho : o = ⟨o.opcode, secureArgs a.sequenceNumber i.serialize tag⟩ := by
    rw [← h.layout]
  rw [ho]
  exact parseSecureCommandV2_secureArgs _ _ _ _ h.fits

theorem Admits.secureSequenceNumber_eq {data : Bytes} {o i : CmdPacket} {a : SecureAdmission}
    {tag : Digest} (h : Admits hmac g p context o a i tag)
    (hdes : CmdPacket.deserializeFrom data = some o) (hs : o.opcode = obcSecureCommandV2Opcode) :
    secureSequenceNumber data = some a.sequenceNumber := by
  simp [secureSequenceNumber, hdes, hs, h.parse_eq]

/-- What one command buffer does to the table: nothing, or one acceptance by an open
session whose key verifies the packet. -/
theorem seqCmdBuffIn_handed (hmac : KeyedHash)
    (controller : SequenceControlRequest → SequenceControlResult) (g : CommandIngressAuthority)
    (p : Port) (data : Bytes) (context : UInt32) :
    (handedSequences hmac g p data context controller = [] ∧
        (g.seqCmdBuffIn hmac controller p data context).1.sessions = g.sessions) ∨
      ∃ o a i tag, CmdPacket.deserializeFrom data = some o ∧
        o.opcode = obcSecureCommandV2Opcode ∧ Admits hmac g p context o a i tag ∧
        (g.windowAnswer p a.sequenceNumber).1 = .accepted ∧
        handedSequences hmac g p data context controller = [a.sequenceNumber] ∧
        (g.seqCmdBuffIn hmac controller p data context).1.sessions =
          Function.update g.sessions p
            (some ⟨(g.activeSessions p).secureSessionKey, some a.sequenceNumber⟩) := by
  cases hc : isCommManagedAuthority (g.ingressConfigs p) with
  | false =>
    obtain ⟨hsm, hfr⟩ := seqCmdBuffIn_direct hmac controller g p data context hc
    refine Or.inl ⟨?_, hsm.sessions_eq⟩
    unfold handedSequences
    cases hseq : secureSequenceNumber data with
    | none => rfl
    | some => simp [hfr (by simp [hseq])]
  | true =>
    rcases seqCmdBuffIn_cases hmac controller g p data context hc with
      ⟨r, hr⟩ | ⟨-, o, a, i, tag, hdt, hf, hs, had, hac, hrs⟩
    · refine Or.inl ⟨?_, by rw [hr]; exact (reject_sameSessions r).sessions_eq⟩
      unfold handedSequences
      cases secureSequenceNumber data with
      | none => rfl
      | some => simp [hr, reject_forwards]
    · have hdes := (CmdPacket.deserializeFrom_eq_some_iff data o).mpr ⟨hdt, hf⟩
      refine Or.inr ⟨o, a, i, tag, hdes, hs, had, hac, ?_, ?_⟩
      · simp [handedSequences, had.secureSequenceNumber_eq hdes hs, hrs, handOn_forwards]
      · rw [hrs, (handOn_sameSessions a).sessions_eq]
        exact withWindow_sessions had.isOpen hac

theorem sessions_run (hmac : KeyedHash) (g : CommandIngressAuthority) (i : GateInput) :
    Sessions.Run g.sessions (g.sessionEvents hmac i) (g.step hmac i).1.sessions := by
  cases i with
  | seqCmdBuffIn p data context controller =>
    simp only [sessionEvents, step]
    rcases seqCmdBuffIn_handed hmac controller g p data context with
      ⟨hnone, hs⟩ | ⟨outer, a, inner, tag, -, -, had, hac, hh, hnext⟩
    · rw [hnone, hs]
      exact Sessions.Run.nil _
    · rw [hh, hnext]
      obtain ⟨hup, -⟩ := CommandSequenceWindow.evaluateAndAccept_accepted hac
      exact Sessions.Run.single (.accepted (sessions_of_isOpen had.isOpen) hup)
  | authGrantedIn =>
    simp only [sessionEvents, step, authGrantedIn_eq]
    split_ifs
    · rw [synthesizeSecureSession_sessions]
      exact Sessions.Run.single (.opened _ _ _)
    · exact Sessions.Run.nil _
  | authRevokedIn =>
    simp only [sessionEvents, step, authRevokedIn, revokeSecureSession_eq]
    split_ifs
    · rw [closeSession_sessions]
      exact Sessions.Run.single (.closed _ _)
    · exact Sessions.Run.nil _
  | reconfigureIngressSource =>
    simp only [sessionEvents, step, reconfigureIngressSource_sessions]
    exact Sessions.Run.single (.closed _ _)
  | revokeIngressSource p r n =>
    simp only [sessionEvents, step]
    have hnext : (g.revokeIngressSource p r n).1.sessions = Function.update g.sessions p none := by
      cases ho : (g.activeSessions p).isOpen with
      | true => simp [revokeIngressSource, ho, closeSession_sessions]
      | false => simp [revokeIngressSource, ho, sessions_of_closed ho]
    rw [hnext]
    exact Sessions.Run.single (.closed _ _)
  | seqCmdStatusIn | sequenceControlStatusIn => exact Sessions.Run.nil _

/-- An open session carries the identity, role and service of its port's configuration. -/
structure MatchesConfig (config : AuthorityConfig) (session : ActiveSessionState) : Prop where
  identity : session.linkIdentity = config.identity
  role : session.linkRole = config.role
  service : session.serviceId = secureServiceIdForConfig config
  secureAuthenticated : session.secureAuthenticated = true
  valid : config.valid = true
  managed : isCommManagedAuthority config = true

/-- Open sessions match their configuration, and the window holds entries of open
sessions only. -/
structure Coherent (g : CommandIngressAuthority) : Prop where
  keys_nodup : g.sequenceWindow.keys.Nodup
  keys_open : ∀ key ∈ g.sequenceWindow.keys,
    (g.activeSessions key.ingressPort).isOpen = true ∧ key = g.currentKey key.ingressPort
  matchesConfig : ∀ p, (g.activeSessions p).isOpen = true →
    MatchesConfig (g.ingressConfigs p) (g.activeSessions p)

theorem coherent_initial : Coherent initial := by
  refine ⟨?_, ?_, ?_⟩ <;> simp [initial, SlotTable.keys_empty]

theorem Coherent.ports_nodup (h : Coherent g) :
    (g.sequenceWindow.keys.map CommandSessionKey.ingressPort).Nodup := by
  refine List.Nodup.map_on (fun key hkey key' hk' heq => ?_) h.keys_nodup
  rw [(h.keys_open key hkey).2, (h.keys_open key' hk').2, heq]

theorem Coherent.keys_length_lt (h : Coherent g) : g.sequenceWindow.keys.length < 16 := by
  have hc := List.Nodup.length_le_card h.ports_nodup
  rw [List.length_map, Fintype.card_fin] at hc
  omega

theorem SameSessions.coherent (hs : SameSessions g g') (h : Coherent g) : Coherent g' := by
  refine ⟨by rw [hs.window]; exact h.keys_nodup, fun key hkey => ?_, fun q hq => ?_⟩
  · rw [hs.window] at hkey
    obtain ⟨n, hn⟩ := hs.sessions key.ingressPort
    simpa only [hn, currentKey, hs.configs] using h.keys_open key hkey
  · obtain ⟨n, hn⟩ := hs.sessions q
    rw [hn] at hq
    obtain ⟨hid, hr, hsr, hat, hvl, hm⟩ := h.matchesConfig q hq
    rw [hn, hs.configs]
    exact ⟨hid, hr, hsr, hat, hvl, hm⟩

theorem Coherent.withWindow (h : Coherent g) {n : UInt32}
    (ho : (g.activeSessions p).isOpen = true) (hac : (g.windowAnswer p n).1 = .accepted) :
    Coherent (g.withWindow (g.windowAnswer p n).2) := by
  obtain ⟨-, -, -, hk, hnd⟩ := CommandSequenceWindow.evaluateAndAccept_accepted hac
  refine ⟨hnd h.keys_nodup, fun key hkey => ?_, h.matchesConfig⟩
  rcases hk key hkey with rfl | hold
  · exact ⟨ho, rfl⟩
  · exact h.keys_open key hold

theorem Coherent.ingressPort_ne_of_mem_resetOpenSource (h : Coherent g)
    (hkey : key ∈ (g.resetOpenSource p).sequenceWindow.keys) :
    key ∈ g.sequenceWindow.keys ∧ key.ingressPort ≠ p := by
  unfold resetOpenSource at hkey
  dsimp only at hkey
  split_ifs at hkey with ho
  · rw [resetSource, CommandSequenceWindow.mem_keys_resetSource] at hkey
    refine ⟨hkey.1, fun hp => hkey.2 ⟨hp, ?_⟩⟩
    subst hp
    have hm := h.matchesConfig key.ingressPort ho
    rw [hm.identity, hm.role, (h.keys_open key hkey.1).2]
    exact ⟨rfl, rfl⟩
  · refine ⟨hkey, fun hp => ho ?_⟩
    subst hp
    exact (h.keys_open key hkey).1

theorem Coherent.replacePort (h : Coherent g)
    (hc : ∀ q, q ≠ p → g'.ingressConfigs q = g.ingressConfigs q)
    (hs : ∀ q, q ≠ p → g'.activeSessions q = g.activeSessions q)
    (hnd : g'.sequenceWindow.keys.Nodup)
    (hk : ∀ key ∈ g'.sequenceWindow.keys, key ∈ g.sequenceWindow.keys ∧ key.ingressPort ≠ p)
    (hp : (g'.activeSessions p).isOpen = true →
      MatchesConfig (g'.ingressConfigs p) (g'.activeSessions p)) : Coherent g' := by
  refine ⟨hnd, fun key hkey => ?_, fun q hq => ?_⟩
  · obtain ⟨hold, hne⟩ := hk key hkey
    rw [hs _ hne, currentKey, hc _ hne, hs _ hne]
    exact h.keys_open key hold
  · rcases eq_or_ne q p with rfl | hne
    · exact hp hq
    · rw [hs q hne] at hq
      rw [hc q hne, hs q hne]
      exact h.matchesConfig q hq

theorem Coherent.nodup_resetOpenSource (h : Coherent g) :
    (g.resetOpenSource p).sequenceWindow.keys.Nodup := by
  unfold resetOpenSource
  dsimp only
  split_ifs
  · exact CommandSequenceWindow.nodup_keys_resetSource _ _ _ h.keys_nodup
  · exact h.keys_nodup

theorem Coherent.closeSession (h : Coherent g) (ho : (g.activeSessions p).isOpen = true)
    (r : UInt32) (n : Bool) :
    Coherent (g.closeSession p r n).1 := by
  have hw : (g.closeSession p r n).1.sequenceWindow = (g.resetOpenSource p).sequenceWindow := by
    simp [CommandIngressAuthority.closeSession, clearActiveSession, setSession, resetOpenSource, ho]
  refine h.replacePort (p := p) (fun q _ => rfl) (fun q hne => Function.update_of_ne hne _ _)
    ?_ ?_ fun hp => ?_
  · rw [hw]
    exact h.nodup_resetOpenSource
  · rw [hw]
    exact fun key hkey => h.ingressPort_ne_of_mem_resetOpenSource hkey
  · simp [CommandIngressAuthority.closeSession, clearActiveSession, setSession] at hp

theorem Coherent.reconfigureIngressSource (h : Coherent g) (c : AuthorityConfig) :
    Coherent (g.reconfigureIngressSource p c) := by
  refine h.replacePort (p := p) (fun q hne => ?_) (fun q hne => ?_) h.nodup_resetOpenSource
    (fun key hkey => h.ingressPort_ne_of_mem_resetOpenSource hkey) fun hp => ?_
  · simp [CommandIngressAuthority.reconfigureIngressSource, clearActiveSession, setSession, hne]
  · simp [CommandIngressAuthority.reconfigureIngressSource, clearActiveSession, setSession, hne]
  · simp [CommandIngressAuthority.reconfigureIngressSource, clearActiveSession, setSession] at hp

theorem Coherent.authGrantedIn (h : Coherent g) (grant : SecureAuthGrant) :
    Coherent (g.authGrantedIn grant).1 := by
  rw [authGrantedIn_eq]
  split_ifs with hac
  · simp only [acceptsGrant, Bool.and_eq_true, decide_eq_true_eq] at hac
    obtain ⟨⟨hvl, hm⟩, hs⟩ := hac
    refine h.replacePort (p := grant.ingressPort) (fun q hne => ?_) (fun q hne => ?_)
      (CommandSequenceWindow.nodup_keys_resetSource _ _ _ h.nodup_resetOpenSource)
      (fun key hkey => ?_) fun _ => ?_
    · simp [synthesizeSecureSessionFromAuthGrant, nextRuntimeSessionToken_, setSession, resetSource]
    · simp [synthesizeSecureSessionFromAuthGrant, nextRuntimeSessionToken_, setSession, resetSource,
        hne]
    · exact h.ingressPort_ne_of_mem_resetOpenSource
        ((CommandSequenceWindow.mem_keys_resetSource _ _ _ _ _).mp hkey).1
    · constructor <;>
        simp [synthesizeSecureSessionFromAuthGrant, nextRuntimeSessionToken_, setSession,
          resetSource, hvl, hm, hs]
  · exact h

theorem Coherent.seqCmdBuffIn (h : Coherent g) (hmac : KeyedHash)
    (controller : SequenceControlRequest → SequenceControlResult) (data : Bytes) :
    Coherent (g.seqCmdBuffIn hmac controller p data context).1 := by
  cases hc : isCommManagedAuthority (g.ingressConfigs p) with
  | false => exact (seqCmdBuffIn_direct hmac controller g p data context hc).1.coherent h
  | true =>
    rcases seqCmdBuffIn_cases hmac controller g p data context hc with
      ⟨r, hr⟩ | ⟨-, outer, a, inner, tag, -, -, -, had, hac, hrs⟩
    · rw [hr]
      exact (reject_sameSessions r).coherent h
    · rw [hrs]
      exact (handOn_sameSessions a).coherent (h.withWindow had.isOpen hac)

theorem Coherent.step (h : Coherent g) (hmac : KeyedHash) (i : GateInput) :
    Coherent (g.step hmac i).1 := by
  cases i with
  | seqCmdBuffIn _ data _ controller => exact h.seqCmdBuffIn hmac controller data
  | authGrantedIn grant => exact h.authGrantedIn grant
  | authRevokedIn =>
    simp only [CommandIngressAuthority.step, authRevokedIn, revokeSecureSession_eq]
    split_ifs with hh
    · simp only [holdsSession, Bool.and_eq_true] at hh
      exact h.closeSession hh.1.1 _ _
    · exact h
  | reconfigureIngressSource _ c => exact h.reconfigureIngressSource c
  | revokeIngressSource =>
    simp only [CommandIngressAuthority.step, revokeIngressSource]
    split_ifs with ho
    · exact h
    · exact h.closeSession (by simpa using ho) _ _
  | seqCmdStatusIn => exact ⟨h.keys_nodup, h.keys_open, h.matchesConfig⟩
  | sequenceControlStatusIn => exact h

theorem Coherent.windowAnswer_accepted (h : Coherent g) {n : UInt32}
    (hup : ∀ last, g.sequenceWindow.lookup (g.currentKey p) = some last → last < n) :
    (g.windowAnswer p n).1 = .accepted :=
  CommandSequenceWindow.evaluateAndAccept_accepted_of hup h.keys_length_lt

/-- In every run of the gate an open session is one of the profile its port has now. -/
theorem sessions_match_profiles (hmac : KeyedHash) (is : List GateInput) (p : Port) :
    let g := (commandGate hmac).run initial is
    (g.activeSessions p).isOpen = false ∨ MatchesConfig (g.ingressConfigs p) (g.activeSessions p) := by
  intro g
  have hg : g.Coherent := (commandGate hmac).run_invariant (fun _ i h => h.step hmac i) _ coherent_initial is
  exact (Bool.eq_false_or_eq_true _).symm.imp_right (hg.matchesConfig p)

end ObcFlight.CommandIngressAuthority
