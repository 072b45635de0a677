import ObcFlight.GateSessions

/-!
# The sequence window and the sessions it belongs to

The window has sixteen slots and the gate two ports. Every path that ends a session forgets
the entries of its source, so an entry always belongs to the session that is open on its port,
and a new session finds a free slot. The record of a session keeps a sequence number of its
own, the last one that was handed on; it never runs ahead of the window.
-/

namespace ObcFlight

/-- The gate with the sources cleared in between: no input clears them. -/
def clearableGate (hmac : KeyedHash) : Machine CommandIngressAuthority (Option GateInput) GateOutput where
  step g
    | none => (g.clearIngressSources, [])
    | some i => g.step hmac i

theorem CommandSequenceWindow.not_tableFull {w : CommandSequenceWindow}
    (h : w.keys.length < 16) (key : CommandSessionKey) (n : UInt32) :
    (evaluateAndAccept w key n).1 ≠ .rejectedTableFull := by
  unfold evaluateAndAccept
  cases w.lookup key with
  | none =>
    cases hin : w.insert key n with
    | none =>
      have hf := (w.insert_eq_none_iff key n).mp hin
      omega
    | some => simp
  | some =>
    dsimp only
    split_ifs <;> simp

namespace CommandIngressAuthority

variable {hmac : KeyedHash} {controller : SequenceControlRequest → SequenceControlResult}
variable {g g' : CommandIngressAuthority} {p : Port} {context : UInt32}

/-- The number in the record of a session is not above its mark in the window; without a mark it
is the initial zero. -/
def Marked (g : CommandIngressAuthority) : Prop :=
  ∀ p s, g.sessions p = some s → (g.activeSessions p).lastAcceptedSequence ≤ s.last.getD 0

theorem Marked.congr (h : Marked g) (hss : g'.sessions = g.sessions)
    (hac : g'.activeSessions = g.activeSessions) : Marked g' := by
  intro p s hs
  rw [hac]
  rw [hss] at hs
  exact h p s hs

theorem Marked.replacePort (h : Marked g) {e : Option (Session Digest UInt32)}
    (hss : g'.sessions = Function.update g.sessions p e)
    (ho : ∀ q, q ≠ p → g'.activeSessions q = g.activeSessions q)
    (hp : (g'.activeSessions p).lastAcceptedSequence = 0) : Marked g' := by
  intro q s hs
  rcases eq_or_ne q p with rfl | hne
  · rw [hp]
    exact UInt32.le_iff_toNat_le.mpr (Nat.zero_le _)
  · rw [hss, Function.update_of_ne hne] at hs
    rw [ho q hne]
    exact h q s hs

theorem Marked.closeSession (h : Marked g) (r : UInt32) (n : Bool) :
    Marked (g.closeSession p r n).1 :=
  h.replacePort (closeSession_sessions r n)
    (fun _ hne => Function.update_of_ne hne _ _)
    (by simp [CommandIngressAuthority.closeSession, clearActiveSession, setSession])

theorem Marked.reconfigureIngressSource (h : Marked g) (c : AuthorityConfig) :
    Marked (g.reconfigureIngressSource p c) := by
  apply h.replacePort (reconfigureIngressSource_sessions c)
  · intro q hne
    simp [CommandIngressAuthority.reconfigureIngressSource, clearActiveSession, setSession, hne]
  · simp [CommandIngressAuthority.reconfigureIngressSource, clearActiveSession, setSession]

theorem Marked.authGrantedIn (h : Marked g) (grant : SecureAuthGrant) :
    Marked (g.authGrantedIn grant).1 := by
  rw [authGrantedIn_eq]
  split_ifs
  · apply h.replacePort (synthesizeSecureSession_sessions grant)
    · intro q hne
      simp [synthesizeSecureSessionFromAuthGrant, nextRuntimeSessionToken_, setSession, resetSource,
        hne]
    · simp [synthesizeSecureSessionFromAuthGrant, nextRuntimeSessionToken_, setSession, resetSource]
  · exact h

theorem updateAcceptedSessionSequence_recorded (n : UInt32) (q : Port) :
    (g.updateAcceptedSessionSequence p n).1.activeSessions q = g.activeSessions q ∨
      q = p ∧ ((g.updateAcceptedSessionSequence p n).1.activeSessions q).lastAcceptedSequence = n := by
  unfold updateAcceptedSessionSequence
  by_cases hc : (!(g.activeSessions p).isOpen) = true
  · rw [if_pos hc]
    exact .inl rfl
  · rw [if_neg hc]
    rcases eq_or_ne q p with rfl | hne
    · exact .inr ⟨rfl, by simp [setSession]⟩
    · exact .inl (Function.update_of_ne hne _ _)

theorem handOn_recorded (g : CommandIngressAuthority)
    (controller : SequenceControlRequest → SequenceControlResult) (p : Port) (context : UInt32)
    (a : SecureAdmission) (q : Port) :
    (g.handOn controller p context a).1.activeSessions q = g.activeSessions q ∨
      q = p ∧ ((g.handOn controller p context a).1.activeSessions q).lastAcceptedSequence =
        a.sequenceNumber := by
  have hu := updateAcceptedSessionSequence_recorded (g := g) (p := p) a.sequenceNumber q
  unfold handOn
  cases a.request with
  | some r =>
    by_cases hac : (controller r).accepted = true
    · simp only [hac, if_true]
      exact hu
    · simp [hac]
  | none => exact hu

theorem handleDirectCommand_activeSessions (data : Bytes) (c : CmdPacket) :
    (g.handleDirectCommand controller p data context c).1.activeSessions = g.activeSessions := by
  rcases handleDirectCommand_cases data c with ⟨r, heq⟩ | ⟨request, -, heq⟩ | heq <;> rw [heq] <;> rfl

theorem seqCmdBuffIn_recorded (hmac : KeyedHash)
    (controller : SequenceControlRequest → SequenceControlResult) (g : CommandIngressAuthority)
    (p : Port) (data : Bytes) (context : UInt32) :
    ((g.seqCmdBuffIn hmac controller p data context).1.activeSessions = g.activeSessions ∧
        SameSessions g (g.seqCmdBuffIn hmac controller p data context).1) ∨
      ∃ o a i tag, Admits hmac g p context o a i tag ∧
        (g.windowAnswer p a.sequenceNumber).1 = .accepted ∧
        g.seqCmdBuffIn hmac controller p data context =
          (g.withWindow (g.windowAnswer p a.sequenceNumber).2).handOn controller p context a := by
  have hrj (r : GateRejection) : (g.reject p context r).1.activeSessions = g.activeSessions ∧
      SameSessions g (g.reject p context r).1 := ⟨rfl, reject_sameSessions r⟩
  unfold seqCmdBuffIn
  dsimp only
  by_cases hin : (!(g.ingressConfigs p).valid) = true
  · rw [if_pos hin]
    exact .inl (hrj _)
  rw [if_neg hin]
  cases CmdPacket.deserializeFrom data with
  | none =>
    dsimp only
    split
    · exact .inl (hrj _)
    · exact .inl ⟨rfl, sameSessions_refl⟩
  | some o =>
    dsimp only
    by_cases hs : o.opcode = obcSecureCommandV2Opcode
    · rw [if_pos hs]
      rcases handleSecureCommandV2_cases hmac controller g p context o with
        ⟨r, hr⟩ | ⟨a, i, tag, had, hac, hrs⟩
      · rw [hr]
        exact .inl (hrj r)
      · exact .inr ⟨o, a, i, tag, had, hac, hrs⟩
    rw [if_neg hs]
    by_cases he : o.opcode = obcCommandEnvelopeV1Opcode
    · rw [if_pos he]
      exact .inl (hrj _)
    rw [if_neg he]
    split
    · exact .inl (hrj _)
    · exact .inl ⟨handleDirectCommand_activeSessions data o,
        handleDirectCommand_sameSessions data o⟩

theorem Marked.accepted (h : Marked g) {a : SecureAdmission}
    (ho : (g.activeSessions p).isOpen = true)
    (hac : (g.windowAnswer p a.sequenceNumber).1 = .accepted) :
    Marked ((g.withWindow (g.windowAnswer p a.sequenceNumber).2).handOn controller p context a).1 := by
  obtain ⟨hup, -⟩ := CommandSequenceWindow.evaluateAndAccept_accepted hac
  have hr : (g.activeSessions p).lastAcceptedSequence ≤ a.sequenceNumber := by
    have hm := h p _ (sessions_of_isOpen ho)
    cases hl : g.sequenceWindow.lookup (g.currentKey p) with
    | none =>
      rw [hl] at hm
      exact UInt32.le_trans hm (UInt32.le_iff_toNat_le.mpr (Nat.zero_le _))
    | some last =>
      rw [hl] at hm
      exact UInt32.le_trans hm (UInt32.le_of_lt (hup last hl))
  intro q s hs
  rw [(handOn_sameSessions a).sessions_eq, withWindow_sessions ho hac] at hs
  rcases handOn_recorded (g.withWindow (g.windowAnswer p a.sequenceNumber).2) controller p context a q
    with hsm | ⟨rfl, hmv⟩
  · rw [hsm]
    rcases eq_or_ne q p with rfl | hne
    · rw [Function.update_self] at hs
      cases hs
      exact hr
    · rw [Function.update_of_ne hne] at hs
      exact h q s hs
  · rw [Function.update_self] at hs
    cases hs
    rw [hmv]
    exact UInt32.le_refl _

theorem Marked.step (h : Marked g) (hmac : KeyedHash) (i : GateInput) : Marked (g.step hmac i).1 := by
  cases i with
  | seqCmdBuffIn p data context controller =>
    simp only [CommandIngressAuthority.step]
    rcases seqCmdBuffIn_recorded hmac controller g p data context with
      ⟨hat, hs⟩ | ⟨outer, a, inner, tag, had, hac, hr⟩
    · exact h.congr hs.sessions_eq hat
    · rw [hr]
      exact h.accepted had.isOpen hac
  | authGrantedIn grant => exact h.authGrantedIn grant
  | authRevokedIn =>
    simp only [CommandIngressAuthority.step, authRevokedIn, revokeSecureSession_eq]
    split_ifs
    · exact h.closeSession _ _
    · exact h
  | reconfigureIngressSource _ c => exact h.reconfigureIngressSource c
  | revokeIngressSource =>
    simp only [CommandIngressAuthority.step, revokeIngressSource]
    split_ifs
    · exact h
    · exact h.closeSession _ _
  | seqCmdStatusIn => exact h.congr rfl rfl
  | sequenceControlStatusIn => exact h

theorem coherent_marked_step (hmac : KeyedHash) (g : CommandIngressAuthority) (i : Option GateInput)
    (h : Coherent g ∧ Marked g) :
    Coherent ((clearableGate hmac).step g i).1 ∧ Marked ((clearableGate hmac).step g i).1 := by
  cases i with
  | some i => exact ⟨h.1.step hmac i, h.2.step hmac i⟩
  | none =>
    constructor
    · refine ⟨?_, ?_, ?_⟩ <;> simp [clearableGate, clearIngressSources, SlotTable.keys_empty]
    · intro p s hs
      cases hs

theorem coherent_marked_run (hmac : KeyedHash) (is : List (Option GateInput)) :
    Coherent ((clearableGate hmac).run initial is) ∧
      Marked ((clearableGate hmac).run initial is) := by
  refine (clearableGate hmac).run_invariant (I := fun g => Coherent g ∧ Marked g)
    (fun g i h => coherent_marked_step hmac g i h) initial ⟨coherent_initial, ?_⟩ is
  intro p s hs
  cases hs

def openKey (g : CommandIngressAuthority) (p : Port) : CommandSessionKey :=
  ⟨p, (g.activeSessions p).linkIdentity, (g.activeSessions p).linkRole, (g.activeSessions p).sessionId⟩

theorem Coherent.openKey_eq (h : Coherent g) (ho : (g.activeSessions p).isOpen = true) :
    g.openKey p = g.currentKey p := by
  have hm := h.matchesConfig p ho
  rw [openKey, hm.identity, hm.role]
  rfl

/-- After any inputs to the gate, clearing of its sources included, every entry of the window is
that of the session open on its port; there is one entry a port at most, no number is refused
because the table is full, and the record of an open session is not above its entry. -/
theorem window_entries_of_open_sessions (hmac : KeyedHash) (inputs : List (Option GateInput)) :
    let g := (clearableGate hmac).run initial inputs
    (∀ key ∈ g.sequenceWindow.keys, (g.activeSessions key.ingressPort).isOpen = true ∧
      key = g.openKey key.ingressPort) ∧
    (g.sequenceWindow.keys.map CommandSessionKey.ingressPort).Nodup ∧
    (∀ key n, (g.sequenceWindow.evaluateAndAccept key n).1 ≠ .rejectedTableFull) ∧
    ∀ p, (g.activeSessions p).isOpen = true →
      (∀ last, g.sequenceWindow.lookup (g.openKey p) = some last →
        (g.activeSessions p).lastAcceptedSequence ≤ last) ∧
      (g.sequenceWindow.lookup (g.openKey p) = none → (g.activeSessions p).lastAcceptedSequence = 0) := by
  intro g
  obtain ⟨hg, hmarked⟩ := coherent_marked_run hmac inputs
  refine ⟨fun key hkey => ?_, hg.ports_nodup, CommandSequenceWindow.not_tableFull hg.keys_length_lt,
    fun p hopen => ?_⟩
  · obtain ⟨hopen, hcurrent⟩ := hg.keys_open key hkey
    exact ⟨hopen, hcurrent.trans (hg.openKey_eq hopen).symm⟩
  · have hmark := hmarked p _ (sessions_of_isOpen hopen)
    rw [hg.openKey_eq hopen]
    constructor
    · intro last hlast
      rw [hlast] at hmark
      exact hmark
    · intro hnone
      rw [hnone] at hmark
      exact UInt32.le_antisymm hmark (UInt32.le_iff_toNat_le.mpr (Nat.zero_le _))

end CommandIngressAuthority

end ObcFlight
