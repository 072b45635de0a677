import ObcFlight.FileIngressAuthority

/-!
# Where an upload can go

The destination of a START packet is checked as a text with a length, and the path that is
forwarded is read up to its first zero byte, so what is confined is the part in front of the
first zero. That part is the name the staging root was asked about: it passed lstat.
-/

namespace ObcFlight

theorem zero_not_mem_cString (text : Bytes) : (0 : UInt8) ∉ cString text := by
  intro hmem
  have hk := List.mem_takeWhile_imp hmem
  simp at hk

theorem mem_of_mem_cString {b : UInt8} {text : Bytes} (h : b ∈ cString text) : b ∈ text :=
  (List.takeWhile_prefix _).subset h

theorem cString_append {f : Bytes} (h : (0 : UInt8) ∉ f) (rest : Bytes) :
    cString (f ++ rest) = f ++ cString rest := by
  apply List.takeWhile_append_of_pos
  intro b hb
  exact decide_eq_true fun heq => h (heq ▸ hb)

def inDirectory (root name : Bytes) : Bytes :=
  if root.getLast? = some slash then root ++ name else root ++ slash :: name

theorem joinPath_eq_inDirectory {root name : Bytes} (hr : root ≠ []) (hnm : name ≠ []) :
    joinPath root name = inDirectory root name := by
  unfold joinPath inDirectory
  rw [if_neg (by simpa using hr), if_neg (by simpa using hnm)]
  split_ifs
  · rfl
  · rw [List.append_assoc, List.singleton_append]

theorem cString_inDirectory {root : Bytes} (hr : (0 : UInt8) ∉ root) (name : Bytes) :
    cString (inDirectory root name) = inDirectory root (cString name) := by
  unfold inDirectory
  split_ifs
  · exact cString_append hr name
  · have hf : (0 : UInt8) ∉ [slash] := by decide
    have hs : cString (slash :: name) = slash :: cString name := cString_append hf name
    rw [cString_append hr, hs]

namespace FileIngressPolicy

def staging (root : Bytes) : FileIngressPolicy where
  configured := true
  logicalPrefix := logicalPrefixConstant
  physicalStagingRoot := root
  runtimePrefix := aliasName root ++ [slash]

theorem zero_not_mem_aliasName (root : Bytes) : (0 : UInt8) ∉ aliasName root := by
  rw [aliasName, List.mem_append, not_or]
  refine ⟨by decide, fun hmem => ?_⟩
  exact absurd (isLowerHexDigit_of_mem_bytesToHex hmem) (by decide)

theorem configure_cases (host : PolicyHost) (r w : Bytes) :
    (configure host r w).configured = false ∨
      ∃ path q, host.realpath path = some q ∧ configure host r w = staging (cString q) := by
  unfold configure
  dsimp only
  generalize joinPath (if r.isEmpty then ascii "runtime" else r)
    physicalStagingSuffix = physicalRoot
  cases if w.isEmpty then host.getcwd.map cString else some w with
  | none => exact .inl rfl
  | some =>
    dsimp only
    by_cases hm : (!host.makeDirectories physicalRoot) = true
    · rw [if_pos hm]
      exact .inl rfl
    rw [if_neg hm]
    cases hrt : host.canonicalizeExistingPath physicalRoot with
    | none => exact .inl rfl
    | some =>
      obtain ⟨q, hr, rfl⟩ := Option.map_eq_some_iff.mp hrt
      dsimp only
      split_ifs
      · exact .inl rfl
      · exact .inr ⟨_, q, hr, rfl⟩

variable {physical : Bytes} {lstat : Lstat}

theorem validateDestinationPath_ok {p : FileIngressPolicy} {destinationPath : Bytes}
    (h : p.validateDestinationPath lstat destinationPath = .ok physical) :
    let leaf := destinationPath.drop p.logicalPrefix.length
    p.configured = true ∧ destinationPath = p.logicalPrefix ++ leaf ∧ leaf ≠ [] ∧
      slash ∉ leaf ∧ backslash ∉ leaf ∧
      lstat (cString (joinPath p.physicalStagingRoot leaf)) ≠ .directory ∧
      lstat (cString (joinPath p.physicalStagingRoot leaf)) ≠ .symbolicLink := by
  intro leaf
  unfold validateDestinationPath at h
  split_ifs at h with hc he hsl hpr hp
  dsimp only at h
  by_cases hnm : (leaf.isEmpty || leaf = ascii "." || leaf = ascii "..") = true
  · rw [if_pos hnm] at h
    cases h
  rw [if_neg hnm] at h
  by_cases hns : (leaf.contains slash || leaf.contains backslash) = true
  · rw [if_pos hns] at h
    cases h
  rw [if_neg hns] at h
  simp only [Bool.or_eq_true, List.contains_iff_mem, not_or] at hns
  simp only [Bool.or_eq_true, List.isEmpty_iff, not_or] at hnm
  have hs : destinationPath = p.logicalPrefix ++ leaf := by
    have hp' : p.logicalPrefix <+: destinationPath := by
      rw [← List.isPrefixOf_iff_prefix]
      simpa using hp
    exact List.prefix_append_drop hp'
  refine ⟨by simpa using hc, hs, hnm.1.1, hns.1, hns.2, ?_, ?_⟩
  · intro hdr
    rw [hdr] at h
    cases h
  · intro hl
    rw [hl] at h
    cases h

def forwardedDestination (policy : FileIngressPolicy) (destinationPath : Bytes) : Bytes :=
  cString (policy.runtimePrefix ++ destinationPath.drop logicalPrefixConstant.length)

/-- The path names one entry of the staging directory, which is neither a directory nor a link. -/
def Confined (policy : FileIngressPolicy) (lstat : Lstat) (path : Bytes) : Prop :=
  ∃ name, path = policy.runtimePrefix ++ name ∧ (0 : UInt8) ∉ name ∧
    name ≠ [] ∧ name ≠ ascii "." ∧ name ≠ ascii ".." ∧ slash ∉ name ∧ backslash ∉ name ∧
    lstat (inDirectory policy.physicalStagingRoot name) ≠ .directory ∧
    lstat (inDirectory policy.physicalStagingRoot name) ≠ .symbolicLink

/-- The root and its own entries for itself and its parent are directories. -/
def ReportsDirectories (lstat : Lstat) (root : Bytes) : Prop :=
  ∀ name ∈ [[], ascii ".", ascii ".."], lstat (inDirectory root name) = .directory

theorem forwardedDestination_length_le {root : Bytes} {d : Bytes}
    (h : (staging root).validateDestinationPath lstat d = .ok physical) :
    ((staging root).forwardedDestination d).length ≤ d.length := by
  obtain ⟨-, hsp, -⟩ := validateDestinationPath_ok h
  have hcut : ((staging root).forwardedDestination d).length ≤
      (aliasName root ++ [slash] ++ d.drop logicalPrefixConstant.length).length :=
    (List.takeWhile_prefix _).length_le
  have hal : (aliasName root).length = 13 := by
    rw [aliasName, List.length_append, bytesToHex_length, WireCodec.u32_encode_length]
    rfl
  have hp : logicalPrefixConstant.length = 18 := by decide
  have hl := congrArg List.length hsp
  rw [List.length_append] at hl
  rw [List.length_append, List.length_append, hal, List.length_singleton] at hcut
  have hs : (staging root).logicalPrefix.length = logicalPrefixConstant.length := rfl
  rw [hs] at hl
  omega

theorem confined_of_validated {root : Bytes} (hne : root ≠ []) (hz : (0 : UInt8) ∉ root)
    (hdr : ReportsDirectories lstat root) {d : Bytes}
    (h : (staging root).validateDestinationPath lstat d = .ok physical) :
    (staging root).Confined lstat ((staging root).forwardedDestination d) := by
  obtain ⟨-, -, hl, hs, hbc, hdc, hln⟩ := validateDestinationPath_ok h
  generalize hdp : d.drop (staging root).logicalPrefix.length = leaf at *
  have hak : cString (joinPath root leaf) = inDirectory root (cString leaf) := by
    rw [joinPath_eq_inDirectory hne hl, cString_inDirectory hz]
  have he : lstat (inDirectory root (cString leaf)) ≠ .directory := by
    rw [← hak]
    exact hdc
  have hnot (name : Bytes) (hnm : name ∈ [[], ascii ".", ascii ".."]) : cString leaf ≠ name := by
    rintro rfl
    exact he (hdr _ hnm)
  have hal : (0 : UInt8) ∉ aliasName root ++ [slash] := by
    rw [List.mem_append, not_or]
    exact ⟨zero_not_mem_aliasName root, by decide⟩
  have hf : (staging root).forwardedDestination d =
      (staging root).runtimePrefix ++ cString leaf := by
    rw [← hdp]
    exact cString_append hal _
  refine ⟨cString leaf, hf, zero_not_mem_cString leaf, hnot _ (by simp), hnot _ (by simp),
    hnot _ (by simp), fun hmem => hs (mem_of_mem_cString hmem),
    fun hmem => hbc (mem_of_mem_cString hmem), he, ?_⟩
  intro heq
  exact hln ((congrArg lstat hak).trans heq)

end FileIngressPolicy

namespace FileIngressAuthority

open FileIngressPolicy

variable (format : FilePacketFormat) (f : FileIngressAuthority)

theorem step_policy (i : FileIngressInput) : (f.step format i).1.policy = f.policy := by
  cases i with
  | bufferSendIn p b lstat =>
    simp only [step, bufferSendIn]
    cases filePacketOf format b.data with
    | error => rfl
    | ok x =>
      cases x with
      | startPacket s =>
        simp only [startPacketIn]
        cases f.startRejection lstat p s.destinationPath with
        | some => rfl
        | none =>
          dsimp only
          split_ifs <;> rfl
      | dataPacket | endPacket | cancelPacket =>
        simp only [transferPacketIn]
        split_ifs <;> rfl
  | bufferReturnIn =>
    simp only [step, bufferReturnIn]
    split <;> rfl
  | authGrantedIn => rfl
  | authRevokedIn =>
    simp only [step, authRevokedIn]
    split_ifs <;> rfl
  | filePolicyIn => rfl

theorem run_policy (is : List FileIngressInput) : ((fileGate format).run f is).policy = f.policy :=
  (fileGate format).run_invariant (I := fun g => g.policy = f.policy)
    (fun g i h => (step_policy format g i).trans h) f rfl is

theorem startPacketIn_forwards {format : FilePacketFormat} {f : FileIngressAuthority} {lstat : Lstat}
    {p : Port} {b out : FwBuffer} {s : StartPacket}
    (h : .bufferSendOut out ∈ (f.startPacketIn format lstat p b s).2) :
    (∃ physical, f.policy.validateDestinationPath lstat s.destinationPath = .ok physical) ∧
      out.data = b.data.take 2 ++ (format.toBuffer
        { fileSize := s.fileSize
          sourcePath := cString s.sourcePath
          destinationPath := f.policy.forwardedDestination s.destinationPath }
        (b.data.drop 2)).1 := by
  unfold startPacketIn at h
  cases hr : f.startRejection lstat p s.destinationPath with
  | some =>
    rw [hr] at h
    simp [rejectStart] at h
  | none =>
    rw [hr] at h
    dsimp only at h
    have hvd : ∃ physical,
        f.policy.validateDestinationPath lstat s.destinationPath = .ok physical := by
      unfold startRejection at hr
      cases hvl : f.policy.validateDestinationPath lstat s.destinationPath with
      | error =>
        rw [hvl] at hr
        cases hr
      | ok physical => exact ⟨physical, rfl⟩
    refine ⟨hvd, ?_⟩
    split_ifs at h
    · simp [rejectStart] at h
    · have hs : .bufferSendOut out ∈ [FileIngressOutput.bufferSendOut (rewriteStartPacket format
          b s (f.policy.runtimePrefix ++
            s.destinationPath.drop logicalPrefixConstant.length)).1] := by
        rcases List.mem_cons.mp h with hap | hrs
        · cases hap
        rcases List.mem_append.mp hrs with hac | hs
        · unfold refreshAuthActivity at hac
          dsimp only at hac
          split_ifs at hac
          · cases hac
          · cases List.mem_singleton.mp hac
        · exact hs
      cases List.mem_singleton.mp hs
      rfl

/-- Whatever destination the configured policy accepts, the path that is forwarded for it names one
entry of the staging directory that is neither a directory nor a link, and it is not longer than the
destination; and in every run a START is forwarded with that path, and only if the policy accepted
its destination. -/
theorem upload_destination_confined (host : PolicyHost) (runtimeRoot workingRoot : Bytes)
    (hrealpath : ∀ path resolved, host.realpath path = some resolved → resolved.head? = some slash)
    (lstat : Lstat) (hdirectories : ReportsDirectories lstat
      (configure host runtimeRoot workingRoot).physicalStagingRoot) :
    let policy := configure host runtimeRoot workingRoot
    (∀ destinationPath physical, policy.validateDestinationPath lstat destinationPath = .ok physical →
      policy.Confined lstat (policy.forwardedDestination destinationPath) ∧
        (policy.forwardedDestination destinationPath).length ≤ destinationPath.length) ∧
    ∀ (format : FilePacketFormat) (inputs : List FileIngressInput) (p : Port)
      (buffer forwarded : FwBuffer) (start : StartPacket),
      filePacketOf format buffer.data = .ok (.startPacket start) →
      .bufferSendOut forwarded ∈ ((fileGate format).step ((fileGate format).run (initial policy) inputs)
        (.bufferSendIn p buffer lstat)).2 →
      (∃ physical, policy.validateDestinationPath lstat start.destinationPath = .ok physical) ∧
        forwarded.data = buffer.data.take 2 ++ (format.toBuffer
          { fileSize := start.fileSize
            sourcePath := cString start.sourcePath
            destinationPath := policy.forwardedDestination start.destinationPath }
          (buffer.data.drop 2)).1 := by
  intro policy
  constructor
  · intro destinationPath physical h
    rcases configure_cases host runtimeRoot workingRoot with hunconfigured | ⟨path, resolved, hresolved, hstaging⟩
    · rw [(validateDestinationPath_ok h).1] at hunconfigured
      cases hunconfigured
    · have hhead := hrealpath path resolved hresolved
      have hroot : cString resolved ≠ [] := by
        cases resolved with
        | nil => cases hhead
        | cons =>
          cases hhead
          simp [cString, slash]
      have hstaged : policy = staging (cString resolved) := hstaging
      rw [hstaging] at hdirectories
      rw [hstaged] at h ⊢
      exact ⟨confined_of_validated hroot (zero_not_mem_cString resolved) hdirectories h,
        forwardedDestination_length_le h⟩
  · intro format inputs p buffer forwarded start hstart hsent
    have hpolicy := run_policy format (initial policy) inputs
    generalize (fileGate format).run (initial policy) inputs = f at hpolicy hsent
    have hforwarded : .bufferSendOut forwarded ∈ (f.startPacketIn format lstat p buffer start).2 := by
      simpa only [fileGate, step, bufferSendIn, hstart] using hsent
    have hresult := startPacketIn_forwards hforwarded
    rw [hpolicy] at hresult
    exact hresult

def freshHost : PolicyHost where
  getcwd := some (ascii "/w")
  makeDirectories _ := true
  realpath _ := some (ascii "/r")
  lstat _ := .noEntry
  readlink _ := none
  unlink _ := false
  pathExists _ := false
  symlink _ _ := true

def emptyRoot : Lstat := fun path =>
  if path = ascii "/r/" ∨ path = ascii "/r/." ∨ path = ascii "/r/.." then .directory else .noEntry

theorem upload_destination_confined_past_zero :
    (configure freshHost [] []).Confined emptyRoot ((configure freshHost [] []).forwardedDestination
      (ascii ".sequence-staging/a.seq" ++ [0, 46, 46])) := by
  refine ((upload_destination_confined freshHost [] [] ?_ emptyRoot ?_).1 _
    (ascii "/r/a.seq" ++ [0, 46, 46]) ?_).1
  · rintro path resolved ⟨⟩
    rfl
  · intro name hname
    simp only [List.mem_cons, List.not_mem_nil, or_false] at hname
    rcases hname with rfl | rfl | rfl <;> decide +kernel
  · rfl

end FileIngressAuthority

end ObcFlight
