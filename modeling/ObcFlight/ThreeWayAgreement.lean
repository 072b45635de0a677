import ObcFlight.AgreementRuns

/-!
# Three-way session agreement over whole runs

After every operation of every run the authorizer, the command gate and the file gate
agree on each port, and a port whose role has changed has nothing left of its earlier
authentication. A session that stands was therefore granted after the last role change of
its port, and so was every session under which a command is handed on.
-/

namespace ObcFlight.FlightSystem

variable {hmac : KeyedHash} {format : FilePacketFormat} {s t : FlightSystem} {p : Port}

/-- A session that stands after a run was granted in the run, and the profile of its port
has not changed since. -/
theorem exists_grant_of_grantView {s₀ : FlightSystem} (hc : s₀.link.gate.grantView p = none)
    {is : List SystemInput} {view : UInt8 × Digest}
    (h : ((flightSystem hmac format).run s₀ is).link.gate.grantView p = some view) :
    ∃ pre j post, is = pre ++ j :: post ∧
      .link (.authorizer (.authGrantedOut ⟨p, view.1, view.2⟩)) ∈
        ((flightSystem hmac format).step ((flightSystem hmac format).run s₀ pre) j).2 ∧
      ∀ mid rest, post = mid ++ rest →
        ((flightSystem hmac format).run s₀ (pre ++ j :: mid)).link.gate.ingressConfigs p =
          ((flightSystem hmac format).run s₀ is).link.gate.ingressConfigs p := by
  induction is using List.reverseRecOn with
  | nil =>
    rw [Machine.run_nil, hc] at h
    cases h
  | append_singleton is i ih =>
    rw [Machine.run_append] at h
    rcases step_grantView_cases (i := i) h with ⟨hcn, hst⟩ | hg
    · obtain ⟨pre, j, post, rfl, hg, hsm⟩ := ih hst
      refine ⟨pre, j, post ++ [i], by simp, hg, fun mid rest hs => ?_⟩
      rcases List.eq_nil_or_concat rest with rfl | ⟨front, last, rfl⟩
      · rw [List.append_nil] at hs
        rw [← hs, List.append_assoc, List.cons_append]
      · have hp : post = mid ++ front := by
          have hs' : post ++ [i] = (mid ++ front) ++ [last] := by simpa using hs
          exact List.append_inj_left' hs' rfl
        rw [hsm mid front hp, Machine.run_append _ _ _ [i]]
        exact hcn.symm
    · refine ⟨is, i, [], rfl, hg, fun mid rest hs => ?_⟩
      obtain ⟨rfl, -⟩ := List.append_eq_nil_iff.mp hs.symm
      rfl

/-- The gate has a session only with the authorizer's service and key; the file gate
believes exactly what the authorizer knows. -/
structure SessionsAgree (s : FlightSystem) : Prop where
  gate : ∀ p, (s.link.gate.activeSessions p).isOpen = true →
    ∃ active, s.link.authorizer.activeAuth p = some active ∧
      active.serviceId = (s.link.gate.activeSessions p).serviceId ∧
      active.sessionKey = (s.link.gate.activeSessions p).secureSessionKey
  files : ∀ p, (s.files.ingressState p).secureAuthActive = (s.link.authorizer.activeAuth p).isSome

/-- No session, no authentication, no pending challenge. -/
structure PortIdle (s : FlightSystem) (p : Port) : Prop where
  session : (s.link.gate.activeSessions p).isOpen = false
  activeAuth : s.link.authorizer.activeAuth p = none
  pending : s.link.authorizer.pendingChallenges p = none

def role (s : FlightSystem) (p : Port) : AuthorityLinkRole := (s.link.gate.ingressConfigs p).role

theorem Agreement.sessionsAgree (h : Agreement s) : SessionsAgree s := by
  refine ⟨fun p ho => ?_, fun p => ?_⟩
  · rcases h.gate p with hn | hs
    · rw [CommandIngressAuthority.grantView_of_isOpen ho] at hn
      cases hn
    · rw [CommandIngressAuthority.grantView_of_isOpen ho] at hs
      obtain ⟨a, hac, hvw⟩ := Option.map_eq_some_iff.mp hs.symm
      exact ⟨a, hac, congrArg Prod.fst hvw, congrArg Prod.snd hvw⟩
  · have hf := congrArg Option.isSome (h.files p)
    rw [Option.isSome_map, SecureLinkAuthorizer.credentials, Option.isSome_map] at hf
    rw [← hf, FileIngressAuthority.authView]
    cases (s.files.ingressState p).secureAuthActive <;> rfl

theorem Cleared.portIdle (h : Cleared s p) : PortIdle s p := by
  refine ⟨?_, ?_, h.pending⟩
  · cases ho : (s.link.gate.activeSessions p).isOpen with
    | false => rfl
    | true =>
      have hg := h.gate
      rw [CommandIngressAuthority.grantView_of_isOpen ho] at hg
      cases hg
  · exact Option.map_eq_none_iff.mp h.credentials

theorem isOpen_of_forward (format : FilePacketFormat) {data : Bytes} {n : UInt32} {now : FwTime}
    {c : SequenceControlRequest → SequenceControlResult} {o : GateOutput}
    (hm : isCommManagedAuthority (s.link.gate.ingressConfigs p) = true)
    (ho : .link (.gate o) ∈ (action hmac format (.seqCmdBuffIn p data n c now) s).2)
    (hfr : o.isForward = true) : (s.link.gate.activeSessions p).isOpen = true := by
  have hmem : o ∈ (s.link.gate.seqCmdBuffIn hmac c p data n).2 := by
    simpa [action, linkAction, SecureLink.step] using ho
  rcases CommandIngressAuthority.seqCmdBuffIn_cases hmac c s.link.gate p data n
      hm with ⟨r, hr⟩ | ⟨-, outer, a, inner, tag, -, -, -, had, -, -⟩
  · rw [hr] at hmem
    have hf := List.mem_filter.mpr ⟨hmem, hfr⟩
    rw [CommandIngressAuthority.reject_forwards] at hf
    cases hf
  · exact had.isOpen

/-- Along every run from start-up: the three copies agree; an operation that changes the
role of a port ends with the port idle; and every command handed on under COMM management
is handed on under a session granted at a point of the run since which the role of the
port has not changed. -/
theorem three_way_agreement (hmac : KeyedHash) (format : FilePacketFormat) (state : TopologyState)
    (s₀ : FlightSystem) (hsetup : setupTopology hmac state = some s₀) (is : List SystemInput) :
    SessionsAgree ((flightSystem hmac format).run s₀ is) ∧
      (∀ i p, ((flightSystem hmac format).step ((flightSystem hmac format).run s₀ is) i).1.role p ≠
          ((flightSystem hmac format).run s₀ is).role p →
        PortIdle ((flightSystem hmac format).step ((flightSystem hmac format).run s₀ is) i).1 p) ∧
      ∀ p data context controller now o,
        isCommManagedAuthority
          (((flightSystem hmac format).run s₀ is).link.gate.ingressConfigs p) = true →
        .link (.gate o) ∈ ((flightSystem hmac format).step ((flightSystem hmac format).run s₀ is)
          (.seqCmdBuffIn p data context controller now)).2 →
        o.isForward = true →
        (((flightSystem hmac format).run s₀ is).link.gate.activeSessions p).isOpen = true ∧
        ∃ pre j post, is = pre ++ j :: post ∧
          .link (.authorizer (.authGrantedOut ⟨p,
            (((flightSystem hmac format).run s₀ is).link.gate.activeSessions p).serviceId,
            (((flightSystem hmac format).run s₀ is).link.gate.activeSessions p).secureSessionKey⟩)) ∈
              ((flightSystem hmac format).step ((flightSystem hmac format).run s₀ pre) j).2 ∧
          ∀ mid rest, post = mid ++ rest →
            ((flightSystem hmac format).run s₀ (pre ++ j :: mid)).role p =
              ((flightSystem hmac format).run s₀ is).role p := by
  obtain ⟨hagree, hprofiled⟩ := run_agreement format hsetup is
  refine ⟨hagree.sessionsAgree, fun i p hrole => ?_,
    fun p data context controller now o hmanaged ho hforward => ?_⟩
  · refine ((step_kept hagree hprofiled hmac format i).cleared p fun hconfig => hrole ?_).portIdle
    exact congrArg AuthorityConfig.role hconfig
  · have hopen := isOpen_of_forward format hmanaged ho hforward
    have hclosed := ((setupTopology_spec hsetup).2.2 p).gate
    obtain ⟨pre, j, post, hsplit, hgrant, hsame⟩ := exists_grant_of_grantView hclosed
      (CommandIngressAuthority.grantView_of_isOpen hopen)
    exact ⟨hopen, pre, j, post, hsplit, hgrant,
      fun mid rest hmid => congrArg AuthorityConfig.role (hsame mid rest hmid)⟩

def demoTopology : TopologyState where
  sbandCommandAuthorityConfig := ⟨.sband, .primary, true⟩
  uhfCommandAuthorityConfig := ⟨.uhf, .backup, true⟩
  sbandSecureAuthKeyBytes := ascii "sband-root-key"
  uhfSecureAuthKeyBytes := ascii "uhf-root-key"
  commandAuthModuleSerial := SecureLink.demoSerial
  fileIngressPolicy := FileIngressAuthority.demoPolicy
  initialCommBand := .sband

def demoHandshake : List SystemInput :=
  [.handshakeUplinkIn 0 (serializeHeader .reqAuth 1) (some SecureLink.demoNonce)
      SecureLink.demoTime,
    .handshakeUplinkIn 0 (serializeHeader .response 1 ++ List.replicate 32 0xFF) none
      SecureLink.demoTime]

theorem three_way_agreement_demo :
    ∃ s₀ s, setupTopology SecureLink.demoHash demoTopology = some s₀ ∧
      s = (flightSystem SecureLink.demoHash FileIngressAuthority.demoFormat).run s₀ demoHandshake ∧
      (s.link.gate.activeSessions 0).isOpen = true ∧ SessionsAgree s ∧
      PortIdle ((flightSystem SecureLink.demoHash FileIngressAuthority.demoFormat).step s
        (.setActiveBand .uhf true)).1 0 := by
  obtain ⟨s₀, hsetup⟩ : ∃ s₀, setupTopology SecureLink.demoHash demoTopology = some s₀ := ⟨_, rfl⟩
  obtain ⟨hagree, hidle, -⟩ := three_way_agreement SecureLink.demoHash
    FileIngressAuthority.demoFormat demoTopology s₀ hsetup demoHandshake
  have hopen : (setupTopology SecureLink.demoHash demoTopology).map (fun s₀ =>
      (((flightSystem SecureLink.demoHash FileIngressAuthority.demoFormat).run s₀
        demoHandshake).link.gate.activeSessions 0).isOpen) = some true := by decide
  have hroles : (setupTopology SecureLink.demoHash demoTopology).map (fun s₀ =>
      let s := (flightSystem SecureLink.demoHash FileIngressAuthority.demoFormat).run s₀ demoHandshake
      (((flightSystem SecureLink.demoHash FileIngressAuthority.demoFormat).step s
        (.setActiveBand .uhf true)).1.role 0, s.role 0)) = some (.backup, .primary) := by decide
  rw [hsetup, Option.map_some, Option.some.injEq] at hopen hroles
  rw [Prod.mk.injEq] at hroles
  refine ⟨s₀, _, hsetup, rfl, hopen, hagree, hidle _ 0 ?_⟩
  rw [hroles.1, hroles.2]
  decide

/-- A tick of the authorizer ends the authentication of a port, in every run, exactly when it has timed
out. The file gate then no longer counts the port as authenticated, and no session is open on it. -/
theorem silent_ports_closed (hmac : KeyedHash) (format : FilePacketFormat) (state : TopologyState)
    (s₀ : FlightSystem) (hsetup : setupTopology hmac state = some s₀) (is : List SystemInput) (now : FwTime) :
    let s := (flightSystem hmac format).run s₀ is
    let next := ((flightSystem hmac format).step s (.authorizerSchedIn now)).1
    ∀ p, ∀ active ∈ s.link.authorizer.activeAuth p,
      (next.link.authorizer.activeAuth p = none ↔ active.TimedOut now) ∧
        ((next.files.ingressState p).secureAuthActive = false ↔ active.TimedOut now) ∧
        (active.TimedOut now → (next.link.gate.activeSessions p).isOpen = false) := by
  intro s next p active hactive
  have hnext : next = (linkAction hmac (.schedIn now) s).1 := rfl
  have hagree : SessionsAgree next := by
    rw [hnext]
    exact ((run_agreement format hsetup is).1.schedIn now).sessionsAgree
  have htick : next.link.authorizer.activeAuth p = none ↔ active.TimedOut now := by
    rw [hnext, linkAction_eq_delivered (s.link.authorizer.schedIn now) rfl]
    exact s.link.authorizer.schedIn_activeAuth_iff now p active hactive
  refine ⟨htick, ?_, fun ht => ?_⟩
  · rw [hagree.files p, ← htick, Option.isSome_eq_false_iff, Option.isNone_iff_eq_none]
  · by_contra hopen
    obtain ⟨other, hother, -⟩ := hagree.gate p (by simpa using hopen)
    rw [htick.mpr ht] at hother
    cases hother

/-- A session is open after a handshake, is kept by a tick 179 seconds later and closed by one after
180 seconds. -/
theorem silent_port_closed_in_time :
    ∃ s₀ s, setupTopology SecureLink.demoHash demoTopology = some s₀ ∧
      s = (flightSystem SecureLink.demoHash FileIngressAuthority.demoFormat).run s₀ demoHandshake ∧
      (s.link.gate.activeSessions 0).isOpen = true ∧ (s.files.ingressState 0).secureAuthActive = true ∧
      let next := fun seconds => ((flightSystem SecureLink.demoHash FileIngressAuthority.demoFormat).step s
        (.authorizerSchedIn { SecureLink.demoTime with seconds := SecureLink.demoTime.seconds + seconds })).1
      ((next 179).files.ingressState 0).secureAuthActive ≠ false ∧
        ((next 180).files.ingressState 0).secureAuthActive = false ∧
        ((next 180).link.gate.activeSessions 0).isOpen = false := by
  obtain ⟨s₀, hsetup⟩ : ∃ s₀, setupTopology SecureLink.demoHash demoTopology = some s₀ := ⟨_, rfl⟩
  have hstate : (setupTopology SecureLink.demoHash demoTopology).map (fun s₀ =>
      let s := (flightSystem SecureLink.demoHash FileIngressAuthority.demoFormat).run s₀ demoHandshake
      ((s.link.gate.activeSessions 0).isOpen, (s.files.ingressState 0).secureAuthActive,
        (s.link.authorizer.activeAuth 0).map ActiveAuth.lastActivityTime)) =
      some (true, true, some SecureLink.demoTime) := by decide
  rw [hsetup, Option.map_some, Option.some.injEq] at hstate
  simp only [Prod.mk.injEq, Option.map_eq_some_iff] at hstate
  obtain ⟨hopen, hfiles, active, hactive, htime⟩ := hstate
  have htick (now : FwTime) := silent_ports_closed _ FileIngressAuthority.demoFormat _ s₀ hsetup
    demoHandshake now 0 active hactive
  have hclosed : active.TimedOut { SecureLink.demoTime with seconds := SecureLink.demoTime.seconds + 180 } := by
    rw [ActiveAuth.TimedOut, htime]
    exact ⟨_, rfl, by decide⟩
  refine ⟨s₀, _, hsetup, rfl, hopen, hfiles, fun hn => ?_, (htick _).2.1.mpr hclosed, (htick _).2.2 hclosed⟩
  obtain ⟨elapsed, he, hle⟩ := (htick _).2.1.mp hn
  rw [htime] at he
  cases he
  exact absurd hle (by decide)

end ObcFlight.FlightSystem
