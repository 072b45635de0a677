import ObcFlight.BootActivation

/-!
# The trial of an update

Between its activation and its confirmation an update is on trial: it runs in the active
slot, and the last known good slot is what a rollback falls back to. Otherwise the boot
manager is settled and both slots are one. Every command keeps to this, with one exception:
a verify command rewrites the trust fields of the update on trial, so that a confirmation
finds them incoherent and rolls back.
-/

namespace ObcFlight

open BootMetadataStore BootManifestVerifier

namespace BootMetadata

structure Settled (m : BootMetadata) : Prop where
  pending : m.pendingSlot = .none
  active : m.activeSlot = m.lastKnownGoodSlot
  active_ne_none : m.activeSlot ≠ .none

structure OnTrial (m : BootMetadata) : Prop where
  pending : m.pendingSlot = m.activeSlot
  unconfirmed : m.confirmed = false
  fallback : m.activeSlot ≠ m.lastKnownGoodSlot
  active_ne_none : m.activeSlot ≠ .none
  fallback_ne_none : m.lastKnownGoodSlot ≠ .none

def SlotsAgree (m : BootMetadata) : Prop := m.Settled ∨ m.OnTrial

/-- An update on trial can also be confirmed. -/
structure Confirmable (m : BootMetadata) : Prop where
  slots : m.SlotsAgree
  coherent : m.isPendingTrustStateCoherent = true

variable {m m' : BootMetadata}

theorem OnTrial.awaitsConfirm (h : m.OnTrial) : m.AwaitsConfirm :=
  ⟨by rw [h.pending]; exact h.active_ne_none, h.unconfirmed⟩

theorem SlotsAgree.settled (h : m.SlotsAgree) (hid : ¬ m.AwaitsConfirm) : m.Settled :=
  h.resolve_right fun ht => hid ht.awaitsConfirm

theorem SlotsAgree.onTrial (h : m.SlotsAgree) (haw : m.AwaitsConfirm) : m.OnTrial :=
  h.resolve_left fun hs => haw.1 hs.pending

theorem SlotsAgree.congr (h : m.SlotsAgree) (hac : m'.activeSlot = m.activeSlot)
    (hp : m'.pendingSlot = m.pendingSlot) (hg : m'.lastKnownGoodSlot = m.lastKnownGoodSlot)
    (hc : m'.confirmed = m.confirmed) : m'.SlotsAgree := by
  rcases h with h | h
  · exact .inl ⟨by rw [hp, h.pending], by rw [hac, hg, h.active],
      by rw [hac]; exact h.active_ne_none⟩
  · exact .inr ⟨by rw [hp, hac, h.pending], by rw [hc, h.unconfirmed],
      by rw [hac, hg]; exact h.fallback, by rw [hac]; exact h.active_ne_none,
      by rw [hg]; exact h.fallback_ne_none⟩

theorem Settled.confirmable (h : m.Settled) : m.Confirmable :=
  ⟨.inl h, by rw [isPendingTrustStateCoherent, if_pos (.inl h.pending)]⟩

theorem SlotsAgree.fallback_ne_none (h : m.SlotsAgree) : m.lastKnownGoodSlot ≠ .none := by
  rcases h with h | h
  · rw [← h.active]
    exact h.active_ne_none
  · exact h.fallback_ne_none

theorem SlotsAgree.rollback (h : m.SlotsAgree) (r : UInt32) : (m.rollback r).Settled := by
  have ht : m.rollbackTarget = m.lastKnownGoodSlot := if_neg h.fallback_ne_none
  exact ⟨rfl, ht, fun hn => h.fallback_ne_none (ht.symm.trans hn)⟩

theorem OnTrial.confirmUpdate (h : m.OnTrial) : m.confirmUpdate.Settled :=
  ⟨rfl, rfl, h.active_ne_none⟩

theorem Confirmable.settled_of_staged (h : m.Confirmable) (hs : Staged m) : m.Settled := by
  refine h.slots.settled fun haw => ?_
  have hc := h.coherent
  rw [isPendingTrustStateCoherent, if_neg (by simp [haw.1, haw.2])] at hc
  simp only [Bool.and_eq_true, decide_eq_true_eq] at hc
  have hp := hc.1.1.1.1.1.1.2
  rw [hs.trusted] at hp
  exact absurd hp (by decide)

theorem inactiveSlot_ne_activeSlot (m : BootMetadata) : m.inactiveSlot ≠ m.activeSlot := by
  unfold inactiveSlot
  split_ifs with hac
  · rw [hac]
    decide
  · exact fun hs => hac hs.symm

theorem inactiveSlot_ne_none (m : BootMetadata) : m.inactiveSlot ≠ .none := by
  unfold inactiveSlot
  split_ifs <;> decide

theorem Settled.switchSlot (h : m.Settled) (hvr : m.stagedSoftwareVersion ≠ 0)
    (hs : m.signerId ≠ []) (hkey : m.keySlot ≠ 0)
    (hal : m.signatureAlgorithm = ascii "hmac-sha256") (now : UInt32) :
    (m.switchSlot now).Confirmable := by
  refine ⟨.inr ⟨rfl, rfl, ?_, m.inactiveSlot_ne_none, ?_⟩, ?_⟩
  · change m.inactiveSlot ≠ m.lastKnownGoodSlot
    rw [← h.active]
    exact m.inactiveSlot_ne_activeSlot
  · change m.lastKnownGoodSlot ≠ .none
    rw [← h.active]
    exact h.active_ne_none
  · rw [isPendingTrustStateCoherent,
      if_neg (by simp [BootMetadata.switchSlot, m.inactiveSlot_ne_none])]
    simp [BootMetadata.switchSlot, hvr, hs, hkey, hal]

end BootMetadata

open BootMetadata

section Steps

variable {env : BootEnv} {i : BootInput} {m m' : BootMetadata}

theorem accepted_manifest_named {fs : FileSystem}
    (hac : (BootManager.validateStagedTrust env m fs).accepted = true) :
    (BootManager.validateStagedTrust env m fs).manifest.signerId ≠ [] ∧
      (BootManager.validateStagedTrust env m fs).manifest.keySlot ≠ 0 ∧
      (BootManager.validateStagedTrust env m fs).manifest.signatureAlgorithm = ascii "hmac-sha256" := by
  rcases validateStagedTrust_cases env m fs with ⟨hr, -⟩ | ⟨-, hdc⟩
  · rw [hac] at hr
    cases hr
  rw [hdc] at hac ⊢
  obtain ⟨key, hkey, -⟩ := (verifyBootManifestFile_accepts_iff.mp
    (show Accepts (activationDecision env m fs) _ from ⟨hac, rfl⟩)).signature
  simp only [validateConfig, bind, Option.bind_eq_some_iff, Option.guard_eq_some'] at hkey
  obtain ⟨-, ⟨-, hal⟩, -, ⟨hsg, hs⟩, -, ⟨hsl, hk⟩, -⟩ := hkey
  exact ⟨hs ▸ hsg, hk ▸ hsl, hal⟩

/-- A verify command that gets as far as the staged files, under the record in force. -/
def BootInput.LooksAtStage (m : BootMetadata) : BootInput → Prop
  | .verifyStagedImage path _ _ => Examines m path
  | _ => False

theorem Change.confirmable (h : Change env i m m') (hvr : i.LooksAtStage m → ¬ m.AwaitsConfirm)
    (hm : m.Confirmable) : m'.Confirmable := by
  have hs (hid : m.Settled) (hac : m'.activeSlot = m.activeSlot)
      (hp : m'.pendingSlot = m.pendingSlot) (hg : m'.lastKnownGoodSlot = m.lastKnownGoodSlot) :
      m'.Confirmable :=
    Settled.confirmable ⟨by rw [hp, hid.pending], by rw [hac, hg, hid.active],
      by rw [hac]; exact hid.active_ne_none⟩
  cases h with
  | prepared hid => exact hs (hm.slots.settled hid) rfl rfl rfl
  | rejected he | accepted he => exact hs (hm.slots.settled (hvr he)) rfl rfl rfl
  | refused hst => exact hs (hm.settled_of_staged hst) rfl rfl rfl
  | switched hst _ hdc hsg =>
    obtain ⟨hsn, hkey, hal⟩ := accepted_manifest_named hdc
    simp only [BootManager.sameStage, Bool.and_eq_true, decide_eq_true_eq] at hsg
    obtain ⟨⟨⟨-, hs'⟩, hk'⟩, ha'⟩ := hsg
    exact (hm.settled_of_staged hst).switchSlot hst.version (hs' ▸ hsn) (hk' ▸ hkey)
      (ha'.symm.trans hal) _
  | confirmed haw => exact (hm.slots.onTrial haw).confirmUpdate.confirmable
  | incoherent | rolledBack | timedOut => exact (hm.slots.rollback _).confirmable

theorem Restoring.confirmable (h : Restoring i m m') (hm : m.Confirmable) : m'.Confirmable := by
  obtain ⟨-, -, hac, hp, hg, hcn⟩ := h.same
  refine ⟨hm.slots.congr hac hp hg hcn, ?_⟩
  have hc : m'.isPendingTrustStateCoherent = m.isPendingTrustStateCoherent := by
    cases h with
    | recordIntent => rfl
    | acknowledgeStable => rfl
    | countBoot =>
      unfold BootMetadata.countBoot
      split_ifs <;> rfl
  rw [hc]
  exact hm.coherent

/-- The digest is the only text in front of the slots' neighbours that a command sets, and it
is made of digits. -/
theorem Change.digest_one_line (h : Change env i m m') (hm : bootText.newline ∉ m.expectedDigest) :
    bootText.newline ∉ m'.expectedDigest := by
  cases h with
  | prepared _ _ hvl => exact (clean_of_isDigestFormatValid hvl).no_newline
  | _ => exact hm

theorem Fallback.settled {r : LoadResult} (h : Fallback r m)
    (hr : ∀ m, r = .ok m → m.SlotsAgree) : m.Settled := by
  have hdf : ({} : BootMetadata).Settled := ⟨rfl, rfl, by decide⟩
  cases h with
  | absent => exact ⟨rfl, rfl, by decide⟩
  | invalid | ioError => exact SlotsAgree.rollback (.inl hdf) _
  | incoherent => exact (hr _ rfl).rollback _

end Steps

def BootInput.Saved (i : BootInput) : Prop :=
  ∀ io ∈ i.ios, io.loadSave = .written ∧ io.persistSave = .written

structure TrialHeld (c : BootCore) : Prop where
  memory : c.metadata.Confirmable
  digest : bootText.newline ∉ c.metadata.expectedDigest
  file : ∀ m, c.read = some m → m.SlotsAgree

namespace TrialHeld

variable {env : BootEnv} {i : BootInput} {c c' : BootCore} {io : StorageIo}

theorem written {m : BootMetadata} (hm : m.Confirmable) (hdg : bootText.newline ∉ m.expectedDigest)
    (hmt : c.metadata = m) (hf : c.file = some m.text) : TrialHeld c := by
  subst hmt
  refine ⟨hm, hdg, fun m' hr => ?_⟩
  rw [BootCore.read, hf, Option.bind_some] at hr
  obtain ⟨hac, hp, hg, hc⟩ := loadText_text_slots hdg hr
  exact hm.slots.congr hac hp hg hc

theorem loads {ok : Bool} (h : Loads io c c' ok) (hs : io.loadSave = .written) (hc : TrialHeld c) :
    TrialHeld c' := by
  cases h with
  | already => exact hc
  | unreachable => exact hc
  | adopted _ hm hch =>
    have hr := BootCore.read_of_load hm
    exact ⟨⟨hc.file _ hr, hch⟩, (textsAll_iff.mp (BootCore.clean_of_read hr).printable).1, hc.file⟩
  | @replaced m _ hm =>
    have hst : m.Settled := hm.settled fun m' hrs => hc.file m' (BootCore.read_of_load hrs)
    rw [hs]
    exact written hst.confirmable (textsAll_iff.mp (BootCore.printable_of_fallback hm)).1 rfl rfl

theorem body (h : Body env i c c') (hsv : i.io.persistSave = .written)
    (hvr : i.LooksAtStage c.metadata → ¬ c.metadata.AwaitsConfirm) (hc : TrialHeld c) : TrialHeld c' := by
  cases h with
  | kept => exact hc
  | noted =>
    exact ⟨⟨hc.memory.slots.congr rfl rfl rfl rfl, hc.memory.coherent⟩, hc.digest, hc.file⟩
  | cleared _ hi he =>
    subst hi
    have hs := hc.memory.slots.settled (hvr he)
    exact ⟨Settled.confirmable ⟨hs.pending, hs.active, hs.active_ne_none⟩, hc.digest, hc.file⟩
  | stored h =>
    rw [hsv]
    exact written (h.confirmable hvr hc.memory) (h.digest_one_line hc.digest) rfl rfl
  | restored h =>
    rw [hsv]
    exact written (h.confirmable hc.memory) (expectedDigest_of_texts_eq h.same.1 ▸ hc.digest) rfl rfl

/-- No verify command gets as far as the staged files while the record that its load brings
into force is on trial. -/
def Undisturbed (i : BootInput) (c : BootCore) : Prop :=
  ∀ c', Loads i.io c c' true → i.LooksAtStage c'.metadata → ¬ c'.metadata.AwaitsConfirm

theorem powerOn (hc : TrialHeld c) : TrialHeld (.powerOn c.file) := by
  have hs : ({} : BootMetadata).Settled := ⟨rfl, rfl, by decide⟩
  exact ⟨hs.confirmable, List.not_mem_nil, hc.file⟩

theorem unloaded (hc : TrialHeld c) : TrialHeld { c with loaded := false } :=
  ⟨hc.memory, hc.digest, hc.file⟩

theorem transition (h : Transition env i c c') (hs : i.Saved) (hvr : Undisturbed i c)
    (hc : TrialHeld c) : TrialHeld c' := by
  have hio := hs _ i.io_mem_ios
  cases h with
  | idle => exact hc
  | timedOut haw => exact body (.stored (.timedOut haw) : Body env _ c _) hio.2 False.elim hc
  | unloaded hl => exact loads hl hio.1 hc
  | called hl hb => exact body hb hio.2 (hvr _ hl) (loads hl hio.1 hc)
  | restartFailed hcs hcn =>
    exact loads hcn hio.1 (loads hcs (hs _ List.mem_cons_self).1 hc.powerOn).unloaded
  | restarted hcs hcn hb =>
    exact body hb hio.2 False.elim
      (loads hcn hio.1 (loads hcs (hs _ List.mem_cons_self).1 hc.powerOn).unloaded)

end TrialHeld

theorem Body.loaded {env : BootEnv} {i : BootInput} {c c' : BootCore} (h : Body env i c c') :
    c'.loaded = c.loaded := by
  cases h with
  | kept | noted | cleared => rfl
  | stored | restored => cases i.io.persistSave <;> rfl

/-- A record on trial that is not marked as loaded is still the record of the file. -/
def BootCore.TrialKnown (c : BootCore) : Prop :=
  c.metadata.AwaitsConfirm → c.loaded = true ∨ c.read = some c.metadata

theorem Loads.read_of_awaitsConfirm {io : StorageIo} {c c' : BootCore} {ok : Bool} (h : Loads io c c' ok)
    (hu : c.loaded = false) (hk : c.metadata.AwaitsConfirm → c.read = some c.metadata)
    (haw : c'.metadata.AwaitsConfirm) : c'.read = some c'.metadata := by
  cases h with
  | already hl => exact absurd (hu.symm.trans hl) (by decide)
  | unreachable => exact hk haw
  | adopted _ hm => exact BootCore.read_of_load hm
  | replaced _ hm =>
    refine absurd haw (FloorHeld.not_awaitsConfirm_of_confirmed ?_)
    cases io.loadSave <;> exact hm.confirmed

theorem BootCore.TrialKnown.transition {env : BootEnv} {i : BootInput} {c c' : BootCore}
    (h : Transition env i c c') (hc : c.TrialKnown) : c'.TrialKnown := by
  intro haw
  cases h with
  | idle => exact hc haw
  | @timedOut io =>
    refine absurd haw (FloorHeld.not_awaitsConfirm_of_confirmed ?_)
    cases io.persistSave <;> rfl
  | unloaded hl =>
    cases hld : c.loaded with
    | false =>
      refine .inr (hl.read_of_awaitsConfirm hld (fun hm => ?_) haw)
      exact (hc hm).resolve_left (by rw [hld]; decide)
    | true =>
      generalize hok : false = ok at hl
      cases hl with
      | already => cases hok
      | unreachable hu | adopted hu | replaced hu =>
        rw [hu] at hld
        cases hld
  | called hl hbd => exact .inl (hbd.loaded.trans hl.loaded)
  | restartFailed hcs hcn =>
    refine .inr (hcn.read_of_awaitsConfirm rfl (fun hm => ?_) haw)
    exact hcs.read_of_awaitsConfirm rfl
      (fun hdf => absurd hdf (FloorHeld.not_awaitsConfirm_of_confirmed rfl)) hm
  | restarted _ hcn hbd => exact .inl (hbd.loaded.trans hcn.loaded)

/-- What an update can rely on from its activation to its confirmation or rollback. -/
structure UpdateKept (env : BootEnv) (s : BootManager) : Prop where
  coherent : s.metadata.AwaitsConfirm → s.metadata.isPendingTrustStateCoherent = true
  slots : s.metadata.AwaitsConfirm → s.metadata.pendingSlot = s.metadata.activeSlot ∧
    s.metadata.pendingSlot ≠ s.metadata.lastKnownGoodSlot
  confirm : s.metadata.AwaitsConfirm → ∀ io : StorageIo, io.ensureOk = true → io.readOk = true →
    io.persistSave = .written →
      (BootManager.step env s (.confirm io)).2 = [.response .ok] ∧
      (BootManager.step env s (.confirm io)).1.metadata = s.metadata.confirmUpdate
  settled : s.metadata.pendingSlot = .none → s.metadata.activeSlot = s.metadata.lastKnownGoodSlot

namespace BootManager

variable {env : BootEnv} {s t : BootManager} {io : StorageIo}

theorem bootConfirm_eq (hl : s.loadOrInitializeMetadata io = (t, true))
    (haw : t.metadata.AwaitsConfirm) (hc : t.metadata.isPendingTrustStateCoherent = true)
    (hs : io.persistSave = .written) :
    s.bootConfirm io =
      ({ t with
          file := some t.metadata.confirmUpdate.text
          metadata := t.metadata.confirmUpdate
          remainingConfirmSeconds := 0 }, .ok) := by
  rw [bootConfirm, whenLoaded_eq hl, if_neg (not_not.mpr haw), if_neg (not_not.mpr hc),
    persistAndRespond_written hs]

theorem loadOrInitializeMetadata_adopts {m : BootMetadata} (hu : s.loaded = false)
    (hr : s.toBootCore.read = some m) (hc : m.isPendingTrustStateCoherent = true)
    (he : io.ensureOk = true) (hro : io.readOk = true) :
    s.loadOrInitializeMetadata io = (s.adopt m, true) := by
  obtain ⟨n, hf, hcn⟩ := Option.bind_eq_some_iff.mp hr
  have hl : s.load io.readOk = .ok m := by
    rw [BootCore.load, hf, hro]
    dsimp only
    rw [if_pos rfl, hcn]
  rw [loadOrInitializeMetadata, hu, if_neg (by decide), he, if_neg (by decide), hl]
  exact if_pos hc

theorem confirm_of_trial (hh : TrialHeld s.toBootCore) (hk : s.toBootCore.TrialKnown)
    (haw : s.metadata.AwaitsConfirm) (he : io.ensureOk = true) (hr : io.readOk = true)
    (hsv : io.persistSave = .written) :
    (step env s (.confirm io)).2 = [.response .ok] ∧
      (step env s (.confirm io)).1.metadata = s.metadata.confirmUpdate := by
  have hc := hh.memory.coherent
  obtain ⟨t, hld, hs⟩ : ∃ t, s.loadOrInitializeMetadata io = (t, true) ∧ t.metadata = s.metadata := by
    cases hl : s.loaded with
    | true => exact ⟨s, loadOrInitializeMetadata_of_loaded hl, rfl⟩
    | false =>
      have hf := (hk haw).resolve_left (by rw [hl]; decide)
      exact ⟨_, loadOrInitializeMetadata_adopts hl hf hc he hr, rfl⟩
  rw [← hs] at haw hc ⊢
  have hcn := bootConfirm_eq hld haw hc hsv
  exact ⟨by rw [step, hcn], by rw [step, hcn]⟩

theorem trialHeld_powerOn : TrialHeld (powerOn none).toBootCore := by
  have hs : ({} : BootMetadata).Settled := ⟨rfl, rfl, by decide⟩
  exact ⟨hs.confirmable, List.not_mem_nil, fun m hr => by cases hr⟩

/-- From absent metadata on, an update on trial stays confirmable and never takes the
fallback's slot, as long as no verify command looks at files during the trial. -/
theorem pending_update_confirmable (env : BootEnv) (inputs : List BootInput)
    (hsaved : ∀ i ∈ inputs, i.Saved)
    (hverify : (machine env).Admits (fun s i => TrialHeld.Undisturbed i s.toBootCore) (powerOn none) inputs)
    (before after : List BootInput) (hsplit : inputs = before ++ after) :
    UpdateKept env (bootRun env none before) := by
  subst hsplit
  have hadmits := (Machine.Admits.of_append (machine env) hverify).and_forall (machine env)
    fun i hi => hsaved i (List.mem_append_left _ hi)
  have hheld : TrialHeld (bootRun env none before).toBootCore :=
    (machine env).run_invariant_of_admits (I := fun s => TrialHeld s.toBootCore)
      (fun s i hi hs => hs.transition (step_transition env s i) hi.2 hi.1) _ trialHeld_powerOn _ hadmits
  have hknown : (bootRun env none before).toBootCore.TrialKnown :=
    (machine env).run_invariant (I := fun s => s.toBootCore.TrialKnown)
      (fun s i hs => hs.transition (step_transition env s i)) _
      (fun hdefault => absurd hdefault (FloorHeld.not_awaitsConfirm_of_confirmed rfl)) _
  have htrial (hawaits : (bootRun env none before).metadata.AwaitsConfirm) :=
    hheld.memory.slots.onTrial hawaits
  refine ⟨fun _ => hheld.memory.coherent, fun hawaits => ?_, fun hawaits io => ?_, fun hpending => ?_⟩
  · exact ⟨(htrial hawaits).pending, (htrial hawaits).pending ▸ (htrial hawaits).fallback⟩
  · exact confirm_of_trial hheld hknown hawaits
  · exact (hheld.memory.slots.settled fun hawaits => hawaits.1 hpending).active

theorem firstUpdate_saved : ∀ i ∈ firstUpdate, i.Saved := by
  intro i hi
  simp only [firstUpdate, updateCommands, List.mem_cons, List.not_mem_nil, or_false] at hi
  rcases hi with rfl | rfl | rfl <;> simp [BootInput.Saved, BootInput.ios, BootInput.io]

variable {path : Bytes}

theorem updateCommands_undisturbed {fs : FileSystem} {f : StagedFile} {x : BootManifest}
    (hld : s.loadOrInitializeMetadata {} = (t, true)) (hid : ¬ t.metadata.AwaitsConfirm)
    (h : Delivered env t.metadata path fs f x) :
    (machine env).Admits (fun s i => TrialHeld.Undisturbed i s.toBootCore) s
      (updateCommands path fs f) := by
  have hdg := isDigestFormatValid_bytesToHex (Sha256.hash f.bytes)
  have hnr := normalizeDigest_bytesToHex (Sha256.hash f.bytes).1
  have hp := bootPrepareUpdate_eq hld hid h.size_ne_zero (by rw [hnr]; exact hdg) rfl
  refine ⟨fun _ _ => False.elim, fun c hl _ => ?_, fun _ _ => False.elim, trivial⟩
  change Loads _ (s.bootPrepareUpdate _ _ {}).1.toBootCore c true at hl
  rw [hp] at hl
  have ht := s.loadOrInitializeMetadata_loads {}
  rw [hld] at ht
  rw [hl.eq_of_loaded ht.loaded]
  exact hid

theorem firstUpdate_awaitsConfirm : (bootRun {} none firstUpdate).metadata.AwaitsConfirm := by
  rw [run_firstUpdate.2.1]
  exact ⟨show BootSlot.slotB ≠ .none by decide, rfl⟩

theorem pending_first_update_confirmable :
    (bootRun {} none firstUpdate).metadata.AwaitsConfirm ∧ UpdateKept {} (bootRun {} none firstUpdate) :=
  ⟨firstUpdate_awaitsConfirm, pending_update_confirmable {} firstUpdate firstUpdate_saved
    (updateCommands_undisturbed powerOn_none_loads (by decide) firstDelivered) firstUpdate []
    (List.append_nil _).symm⟩

theorem clearStagedTrust_incoherent {m : BootMetadata} (h : m.AwaitsConfirm) :
    m.clearStagedTrust.isPendingTrustStateCoherent = false := by
  rw [isPendingTrustStateCoherent, if_neg (by simp [BootMetadata.clearStagedTrust, h.1, h.2])]
  simp [BootMetadata.clearStagedTrust, BootTrust.statusUnverified, BootTrust.statusPending]

theorem bootConfirm_incoherent (hl : s.loaded = true) (haw : s.metadata.AwaitsConfirm)
    (hin : s.metadata.isPendingTrustStateCoherent = false) :
    s.bootConfirm io = (s.rollback BootError.metadataInvalid).persistAndRefuse io := by
  rw [bootConfirm, whenLoaded_eq (loadOrInitializeMetadata_of_loaded hl),
    if_neg (not_not.mpr haw), if_pos (by rw [hin]; decide)]

theorem verify_missing_breaks_trial (env : BootEnv) (fs : FileSystem) (hl : s.loaded = true)
    (haw : s.metadata.AwaitsConfirm) (he : Examines s.metadata path)
    (hm : fs (env.resolveStagingPath path) = none) :
    (s.bootVerifyStagedImage env path fs {}).1.metadata.AwaitsConfirm ∧
      (s.bootVerifyStagedImage env path fs {}).1.metadata.isPendingTrustStateCoherent = false ∧
      (step env (s.bootVerifyStagedImage env path fs {}).1 (.confirm {})).2 =
        [.response .validationError] ∧
      (step env (s.bootVerifyStagedImage env path fs {}).1 (.confirm {})).1.metadata.activeSlot =
        s.metadata.rollbackTarget := by
  have hvr : s.bootVerifyStagedImage env path fs {} =
      (s.failStage BootError.stagingFile, .executionError) := by
    have hs : fs.getFileSize (env.resolveStagingPath path) = none := by
      rw [FileSystem.getFileSize, hm, Option.map_none]
    rw [bootVerifyStagedImage, whenLoaded_eq (loadOrInitializeMetadata_of_loaded hl)]
    dsimp only
    rw [if_neg (not_or.mpr ⟨he.size, he.digest⟩), if_neg he.path, hs]
  have hin : (s.failStage BootError.stagingFile).metadata.isPendingTrustStateCoherent = false :=
    clearStagedTrust_incoherent haw
  rw [hvr]
  have hc : (s.failStage BootError.stagingFile).bootConfirm {} = _ :=
    bootConfirm_incoherent hl haw hin
  exact ⟨haw, hin, by rw [step, hc]; rfl, by rw [step, hc]; rfl⟩

theorem not_updateKept_of_verify_missing (env : BootEnv) (fs : FileSystem)
    (hl : s.loaded = true) (haw : s.metadata.AwaitsConfirm)
    (he : Examines s.metadata path) (hm : fs (env.resolveStagingPath path) = none) :
    ¬ UpdateKept env ((machine env).run s [.verifyStagedImage path fs {}]) := by
  obtain ⟨hs, hin, -, -⟩ := verify_missing_breaks_trial env fs hl haw he hm
  intro hk
  exact absurd (hin.symm.trans (hk.coherent hs)) (by decide)

theorem verify_during_trial_costs_update :
    (∀ i ∈ firstUpdate ++ [BootInput.verifyStagedImage firstPath (fun _ => none) {}], i.Saved) ∧
      (bootRun {} none firstUpdate).metadata.AwaitsConfirm ∧
      ¬ UpdateKept {}
        (bootRun {} none (firstUpdate ++ [BootInput.verifyStagedImage firstPath (fun _ => none) {}])) := by
  obtain ⟨-, hmetadata, hloaded, -⟩ := run_firstUpdate
  have hexamines : Examines (bootRun {} none firstUpdate).metadata firstPath := by
    rw [hmetadata]
    exact ⟨firstDelivered.size_ne_zero, Delivered.digest_ne_nil _, firstDelivered.path_ne_nil⟩
  refine ⟨fun i hi => ?_, firstUpdate_awaitsConfirm, ?_⟩
  · rcases List.mem_append.mp hi with hi | hi
    · exact firstUpdate_saved i hi
    · rw [List.mem_singleton.mp hi]
      simp [BootInput.Saved, BootInput.ios, BootInput.io]
  · rw [bootRun_append]
    exact not_updateKept_of_verify_missing {} _ hloaded firstUpdate_awaitsConfirm hexamines rfl

end BootManager

end ObcFlight
