import ObcFlight.FileIngressAuthority
import ObcFlight.Latch

/-!
# What the file gate's flags say about its history

Each port keeps three booleans. Read over everything that has happened on the port, the
drop flag is a latch raised by every refusal, revocation and policy denial and released
by an accepted START; the other two are latches of the port's authentication and of its
policy. A packet inside a transfer is forwarded only while the three stand right.
-/

namespace ObcFlight

inductive TransferEvent where
  | startAccepted
  | startRejected
  | packetDropped
  | granted
  | revoked
  | policyAllowed
  | policyDenied
  deriving DecidableEq

/-- What an answer to a buffer means for the transfer on its port. A buffer that holds
no file packet is no part of any transfer. -/
def FileIngressOutput.event : FileIngressOutput → Option TransferEvent
  | .startAccepted _ => some .startAccepted
  | .startRejected _ _ => some .startRejected
  | .packetDropped _ .invalidPacket => none
  | .packetDropped _ _ => some .packetDropped
  | _ => none

/-- The three booleans of a port. -/
structure TransferFlags where
  drop : Bool := false
  auth : Bool := false
  allowed : Bool := false
  deriving DecidableEq

def IngressRuntimeState.flags (state : IngressRuntimeState) : TransferFlags :=
  ⟨state.dropTransfer, state.secureAuthActive, state.fileAllowed⟩

namespace TransferEvent

def apply (t : TransferFlags) : TransferEvent → TransferFlags
  | .startAccepted => { t with drop := false }
  | .startRejected => { t with drop := true }
  | .packetDropped => { t with drop := true }
  | .granted => { t with auth := true }
  | .revoked => { t with auth := false, drop := true }
  | .policyAllowed => { t with allowed := true }
  | .policyDenied => { t with allowed := false, drop := true }

def blocks (e : TransferEvent) : Prop :=
  e = .startRejected ∨ e = .packetDropped ∨ e = .revoked ∨ e = .policyDenied

def dropLatch : Latch TransferEvent where
  raises := blocks
  releases := (· = .startAccepted)
  disjoint := by
    rintro e hblocks rfl
    simp [blocks] at hblocks

def authLatch : Latch TransferEvent where
  raises := (· = .granted)
  releases := (· = .revoked)
  disjoint := by
    rintro e rfl h
    cases h

def policyLatch : Latch TransferEvent where
  raises := (· = .policyAllowed)
  releases := (· = .policyDenied)
  disjoint := by
    rintro e rfl h
    cases h

variable (t : TransferFlags) (e : TransferEvent)

theorem apply_drop : dropLatch.Follows t.drop (apply t e).drop e := by
  cases e with
  | startAccepted => exact .released rfl rfl
  | startRejected => exact .raised (.inl rfl) rfl
  | packetDropped => exact .raised (.inr (.inl rfl)) rfl
  | revoked => exact .raised (.inr (.inr (.inl rfl))) rfl
  | policyDenied => exact .raised (.inr (.inr (.inr rfl))) rfl
  | granted | policyAllowed => exact .kept (by simp [dropLatch, blocks]) (by simp [dropLatch]) rfl

theorem apply_auth : authLatch.Follows t.auth (apply t e).auth e := by
  cases e with
  | granted => exact .raised rfl rfl
  | revoked => exact .released rfl rfl
  | _ => exact .kept (by simp [authLatch]) (by simp [authLatch]) rfl

theorem apply_allowed : policyLatch.Follows t.allowed (apply t e).allowed e := by
  cases e with
  | policyAllowed => exact .raised rfl rfl
  | policyDenied => exact .released rfl rfl
  | _ => exact .kept (by simp [policyLatch]) (by simp [policyLatch]) rfl

end TransferEvent

open TransferEvent

/-- The transfer stands open: every refused START, dropped packet, revocation and policy
denial has been followed by an accepted START, and the port has been granted and allowed
with neither taken back. -/
structure TransferOpen (history : List TransferEvent) : Prop where
  unblocked : ∀ pre e post, history = pre ++ e :: post → e.blocks → .startAccepted ∈ post
  authenticated : ∃ pre post, history = pre ++ .granted :: post ∧ .revoked ∉ post
  allowed : ∃ pre post, history = pre ++ .policyAllowed :: post ∧ .policyDenied ∉ post

theorem transferOpen_of_flags {history : List TransferEvent}
    (h : history.foldl apply {} = ⟨false, true, true⟩) : TransferOpen history := by
  have hdr := Latch.foldl_raised_iff apply_drop (t := {}) rfl history
  have hat := Latch.foldl_raised_iff apply_auth (t := {}) rfl history
  have hal := Latch.foldl_raised_iff apply_allowed (t := {}) rfl history
  rw [h] at hdr hat hal
  constructor
  · have hdw : ¬ dropLatch.Raised history := by simpa using hdr
    intro pre e post hs hb
    obtain ⟨x, hx, rfl⟩ := (Latch.not_raised_iff _).mp hdw pre e post hs hb
    exact hx
  · obtain ⟨pre, e, post, hs, rfl, hk⟩ := hat.mp rfl
    exact ⟨pre, post, hs, fun hmem => hk _ hmem rfl⟩
  · obtain ⟨pre, e, post, hs, rfl, hk⟩ := hal.mp rfl
    exact ⟨pre, post, hs, fun hmem => hk _ hmem rfl⟩

namespace FileIngressAuthority

/-- What one step means for a port. Only a revocation of the authentication that the
port holds counts as one. -/
def eventsAt (format : FilePacketFormat) (p : Port) (f : FileIngressAuthority) :
    FileIngressInput → List TransferEvent
  | .bufferSendIn q buffer lstat =>
    if q = p then (f.bufferSendIn format q buffer lstat).2.filterMap FileIngressOutput.event else []
  | .bufferReturnIn _ => []
  | .authGrantedIn grant => if grant.ingressPort = p then [.granted] else []
  | .authRevokedIn revocation =>
    if revocation.ingressPort = p ∧ f.holdsAuth revocation then [.revoked] else []
  | .filePolicyIn policy =>
    if policy.ingressPort = p then [if policy.fileAllowed then .policyAllowed else .policyDenied]
    else []

def historyAt (format : FilePacketFormat) (p : Port) (f : FileIngressAuthority)
    (is : List FileIngressInput) : List TransferEvent :=
  ((fileGate format).observe (eventsAt format p)).trace f is

variable {f : FileIngressAuthority} {format : FilePacketFormat}

theorem updatePort_ingressState (p q : Port) (s : IngressRuntimeState) :
    (f.updatePort p s).ingressState q = if q = p then s else f.ingressState q := by
  simp [updatePort, Function.update_apply]

@[simp] theorem setDropTransfer_ingressState (p q : Port) (e : Bool) :
    (f.setDropTransfer p e).ingressState q =
      if q = p then { f.ingressState p with dropTransfer := e } else f.ingressState q :=
  updatePort_ingressState p q _

theorem setDropTransfer_of_dropTransfer {p : Port} {e : Bool}
    (h : (f.ingressState p).dropTransfer = e) : f.setDropTransfer p e = f := by
  have hs : { f.ingressState p with dropTransfer := e } = f.ingressState p := by
    rw [← h]
  simp [setDropTransfer, updatePort, hs]

/-- Everything a packet on a port can do to the ports, with the event it leaves. -/
inductive PacketEffect (f f' : FileIngressAuthority) (p : Port) : List TransferEvent → Prop
  | accepted (h : f'.ingressState = (f.setDropTransfer p false).ingressState) :
      PacketEffect f f' p [.startAccepted]
  | refused (h : f'.ingressState = (f.setDropTransfer p true).ingressState) :
      PacketEffect f f' p [.startRejected]
  | dropped (h : f'.ingressState = (f.setDropTransfer p true).ingressState) :
      PacketEffect f f' p [.packetDropped]
  | passed (h : f'.ingressState = f.ingressState) : PacketEffect f f' p []

@[simp] theorem refreshAuthActivity_event (f : FileIngressAuthority) (p : Port) :
    (f.refreshAuthActivity p).filterMap FileIngressOutput.event = [] := by
  simp only [refreshAuthActivity]
  split_ifs <;> rfl

theorem startPacketIn_effect (f : FileIngressAuthority) (format : FilePacketFormat) (l : Lstat)
    (p : Port) (b : FwBuffer) (s : StartPacket) :
    PacketEffect f (f.startPacketIn format l p b s).1 p
      ((f.startPacketIn format l p b s).2.filterMap FileIngressOutput.event) := by
  cases hr : f.startRejection l p s.destinationPath with
  | some =>
    simp only [startPacketIn, hr]
    exact .refused rfl
  | none =>
    simp only [startPacketIn, hr]
    split_ifs
    · exact .refused rfl
    · simp only [forwardBuffer, List.filterMap_cons, List.filterMap_append,
        refreshAuthActivity_event, FileIngressOutput.event]
      exact .accepted rfl

theorem transferPacketIn_effect (f : FileIngressAuthority) (p : Port) (b : FwBuffer)
    (k : FilePacket) :
    PacketEffect f (f.transferPacketIn p b k).1 p
      ((f.transferPacketIn p b k).2.filterMap FileIngressOutput.event) := by
  simp only [transferPacketIn]
  split_ifs with hdr hat hal
  · exact .dropped (by rw [setDropTransfer_of_dropTransfer hdr]; rfl)
  · exact .dropped rfl
  · exact .dropped rfl
  · simp only [forwardBuffer, List.filterMap_append, refreshAuthActivity_event,
      FileIngressOutput.event]
    exact .passed rfl

theorem bufferSendIn_effect (f : FileIngressAuthority) (format : FilePacketFormat) (p : Port)
    (b : FwBuffer) (l : Lstat) :
    PacketEffect f (f.bufferSendIn format p b l).1 p
      ((f.bufferSendIn format p b l).2.filterMap FileIngressOutput.event) := by
  simp only [bufferSendIn]
  split
  · exact .passed rfl
  · exact f.startPacketIn_effect format l p b _
  · exact f.transferPacketIn_effect p b _

theorem PacketEffect.flags {f' : FileIngressAuthority} {p q : Port} {es : List TransferEvent}
    (h : PacketEffect f f' p es) :
    (f'.ingressState q).flags =
      (if p = q then es else []).foldl TransferEvent.apply (f.ingressState q).flags := by
  cases h with
  | _ h =>
    by_cases hpq : p = q
    · subst hpq
      simp [h, IngressRuntimeState.flags, TransferEvent.apply]
    · simp [h, hpq, Ne.symm hpq]

theorem authRevokedIn_flags (r : SecureAuthRevocation) (p : Port) :
    ((f.authRevokedIn r).ingressState p).flags =
      (f.eventsAt format p (.authRevokedIn r)).foldl TransferEvent.apply
        (f.ingressState p).flags := by
  by_cases hh : f.holdsAuth r = true
  · by_cases hp : r.ingressPort = p
    · subst hp
      simp [authRevokedIn, hh, eventsAt, updatePort_ingressState, IngressRuntimeState.flags,
        TransferEvent.apply]
    · simp [authRevokedIn, hh, eventsAt, updatePort_ingressState, hp, Ne.symm hp]
  · simp [authRevokedIn, hh, eventsAt]

theorem step_flags (f : FileIngressAuthority) (i : FileIngressInput) (p : Port) :
    (((fileGate format).step f i).1.ingressState p).flags =
      (f.eventsAt format p i).foldl TransferEvent.apply (f.ingressState p).flags := by
  cases i with
  | bufferSendIn q b l => exact (f.bufferSendIn_effect format q b l).flags
  | bufferReturnIn =>
    simp only [fileGate, step, bufferReturnIn]
    split <;> rfl
  | authGrantedIn g =>
    by_cases hp : g.ingressPort = p
    · subst hp
      simp [fileGate, step, authGrantedIn, eventsAt, updatePort_ingressState,
        IngressRuntimeState.flags, TransferEvent.apply]
    · simp [fileGate, step, authGrantedIn, eventsAt, updatePort_ingressState, hp, Ne.symm hp]
  | authRevokedIn r => exact authRevokedIn_flags r p
  | filePolicyIn x =>
    by_cases hp : x.ingressPort = p
    · subst hp
      cases hal : x.fileAllowed <;>
        simp [fileGate, step, filePolicyIn, eventsAt, updatePort_ingressState,
          IngressRuntimeState.flags, TransferEvent.apply, hal]
    · simp [fileGate, step, filePolicyIn, eventsAt, updatePort_ingressState, hp, Ne.symm hp]

theorem run_flags (q : FileIngressPolicy) (is : List FileIngressInput) (p : Port) :
    (((fileGate format).run (initial q) is).ingressState p).flags =
      (historyAt format p (initial q) is).foldl TransferEvent.apply {} :=
  (fileGate format).run_view_eq_foldl (fun f => (f.ingressState p).flags)
    (fun f i => f.step_flags i p) (initial q) is

theorem transferPacketIn_forwards {p : Port} {buffer out : FwBuffer} {k : FilePacket}
    (h : .bufferSendOut out ∈ (f.transferPacketIn p buffer k).2) :
    out = buffer ∧ (f.ingressState p).flags = ⟨false, true, true⟩ := by
  simp only [transferPacketIn] at h
  split_ifs at h with hdr hat hal
  · simp [dropPacket] at h
  · simp [dropPacket] at h
  · simp [dropPacket] at h
  · have hout : out = buffer := by
      have hr (g : FileIngressAuthority) : .bufferSendOut out ∉ g.refreshAuthActivity p := by
        simp only [refreshAuthActivity]
        split_ifs <;> simp
      simpa [forwardBuffer, hr] using h
    exact ⟨hout, by simp_all [IngressRuntimeState.flags]⟩

/-- Along every run, a DATA, END or CANCEL packet is sent on only where no refused START,
dropped packet, revocation or policy denial has occurred on the port since the last
accepted START, or since start-up when there was none, and the port is authenticated and
allowed at that moment. The packet is sent on as it came. -/
theorem forwarded_transfer_open (format : FilePacketFormat) (policy : FileIngressPolicy)
    (is : List FileIngressInput) (p : Port) (buffer out : FwBuffer) (lstat : Lstat)
    (packet : FilePacket) (hpacket : filePacketOf format buffer.data = .ok packet)
    (hstart : ∀ start, packet ≠ .startPacket start) (hforward : .bufferSendOut out ∈
      (((fileGate format).run (initial policy) is).bufferSendIn format p buffer lstat).2) :
    out = buffer ∧ TransferOpen (historyAt format p (initial policy) is) ∧
      (((fileGate format).run (initial policy) is).ingressState p).secureAuthActive = true ∧
      (((fileGate format).run (initial policy) is).ingressState p).fileAllowed = true := by
  set f := (fileGate format).run (initial policy) is with hf
  have htransfer : f.bufferSendIn format p buffer lstat = f.transferPacketIn p buffer packet := by
    cases packet with
    | startPacket start => exact absurd rfl (hstart start)
    | _ => simp only [bufferSendIn, hpacket]
  rw [htransfer] at hforward
  obtain ⟨hout, hflags⟩ := transferPacketIn_forwards hforward
  have hopen : TransferOpen (historyAt format p (initial policy) is) := by
    apply transferOpen_of_flags
    rw [← run_flags, ← hf, hflags]
  exact ⟨hout, hopen, congrArg TransferFlags.auth hflags, congrArg TransferFlags.allowed hflags⟩

/-! Short runs on the S-band port, over a reader of the framework's packets. -/

def demoReadPath (data : Bytes) : Option (Bytes × Bytes) :=
  match data with
  | [] => none
  | size :: rest =>
    if rest.length < size.toNat then none else some (rest.take size.toNat, rest.drop size.toNat)

def demoFormat : FilePacketFormat where
  fromBuffer data :=
    match data with
    | 0 :: _ :: _ :: _ :: _ :: rest =>
      match WireCodec.u32.decode rest with
      | none => none
      | some (fileSize, rest) =>
        match demoReadPath rest with
        | none => none
        | some (sourcePath, rest) =>
          match demoReadPath rest with
          | none => none
          | some (destinationPath, _) => some (.startPacket ⟨fileSize, sourcePath, destinationPath⟩)
    -- behind the sequence index: offset, size and bytes of DATA, the checksum of END
    | 1 :: _ :: _ :: _ :: _ :: _ :: _ :: _ :: _ :: high :: low :: bytes =>
      if bytes.length = high.toNat * 256 + low.toNat then some .dataPacket else none
    | [2, _, _, _, _, _, _, _, _] => some .endPacket
    | [3, _, _, _, _] => some .cancelPacket
    | _ => none
  toBuffer start bytes :=
    let packet := [0, 0, 0, 0, 0] ++ WireCodec.u32.encode start.fileSize ++
      (UInt8.ofNat start.sourcePath.length :: start.sourcePath) ++
      (UInt8.ofNat start.destinationPath.length :: start.destinationPath)
    if bytes.length < packet.length then (bytes, false)
    else (packet ++ bytes.drop packet.length, true)

def demoPolicy : FileIngressPolicy :=
  ⟨true, ascii ".sequence-staging/", ascii "/run/sequences/staging", ascii ".stg-00000000/"⟩

def demoGranted : List FileIngressInput :=
  [.authGrantedIn ⟨0, 1, Digest.zero⟩, .filePolicyIn ⟨0, .sband, .primary, true⟩]

def demoStart : FileIngressInput :=
  .bufferSendIn 0 ⟨1, [0, 3, 0, 0, 0, 0, 0, 0, 0, 0, 4, 1, 97, 23] ++ ascii ".sequence-staging/a.seq"⟩
    fun _ => .noEntry

def demoEnd : FwBuffer := ⟨2, [0, 3, 2, 0, 0, 0, 2, 0, 0, 0, 0]⟩

def demoData : FwBuffer := ⟨3, [0, 3, 1, 0, 0, 0, 1, 0, 0, 0, 0, 0, 1, 97]⟩

theorem forwarded_transfer_open_demo :
    TransferOpen (historyAt demoFormat 0 (initial demoPolicy) (demoGranted ++ [demoStart])) :=
  (forwarded_transfer_open demoFormat demoPolicy (demoGranted ++ [demoStart]) 0 demoData demoData
    (fun _ => .noEntry) .dataPacket (by decide) (by simp) (by decide)).2.1

/-- A port that is granted and allowed forwards DATA before any START, and forwards it
again after the END of a transfer. -/
theorem forwarded_without_start :
    filePacketOf demoFormat demoData.data = .ok .dataPacket ∧
      filePacketOf demoFormat demoEnd.data = .ok .endPacket ∧
      (historyAt demoFormat 0 (initial demoPolicy) demoGranted = [.granted, .policyAllowed] ∧
        .bufferSendOut demoData ∈ (((fileGate demoFormat).run (initial demoPolicy)
          demoGranted).bufferSendIn demoFormat 0 demoData fun _ => .noEntry).2) ∧
      .bufferSendOut demoData ∈ (((fileGate demoFormat).run (initial demoPolicy)
          (demoGranted ++ [demoStart, .bufferSendIn 0 demoEnd fun _ => .noEntry])).bufferSendIn
            demoFormat 0 demoData fun _ => .noEntry).2 := by
  decide

end FileIngressAuthority

end ObcFlight
