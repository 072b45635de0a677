import ObcFlight.CmdPacket
import ObcFlight.CommandAuthCrypto

/-!
# Secure command packets, version 2

The outer command carries a fixed header, the inner command and a 32-byte tag.
Parsing checks the header fields in the order of the source and attributes each
rejection to the inner opcode where one can be read. The keyed hash is a parameter
of the model; the flight code instantiates it with its own HMAC-SHA-256.
-/

namespace ObcFlight

open WireCodec CommandAuthCrypto

def Digest.zero : Digest := ⟨List.replicate 32 0, List.length_replicate⟩

def Digest.copy (bs : Bytes) : Digest := ⟨(bs ++ List.replicate 32 0).take 32, by simp⟩

@[simp] theorem Digest.copy_val (tag : Digest) : Digest.copy tag.1 = tag := by
  apply Subtype.ext
  simp [Digest.copy, tag.2]

def obcSecureCommandV2Opcode : UInt32 := 0x0BC20001

def secureCommandV2Magic : UInt32 := 0x0BC0DE02

def secureCommandV2Version : UInt8 := 2

def secureCommandV2HeaderLength : UInt16 := 20

def secureCommandV2MacLength : UInt16 := 32

def secureCommandV2UnknownOpcode : UInt32 := 0xFFFFFFFF

def minInnerCommandSize : ℕ := 6

inductive SecureCommandV2RejectReason where
  | none
  | badMagic
  | unsupportedVersion
  | nonzeroFlags
  | badHeaderLength
  | nonzeroReserved
  | truncatedHeader
  | truncatedInnerCommand
  | oversizedInnerCommand
  | badMacLength
  | truncatedAuthTag
  | unexpectedTrailingBytes
  | invalidInnerCommand
  | authRequired
  | serviceMismatch
  | badMac
  | sequenceNotIncreasing
  | sequenceWindowFull
  | invalidConfig
  deriving DecidableEq

structure SecureCommandV2Metadata where
  sequenceNumber : UInt32 := 0
  innerOpcode : UInt32 := secureCommandV2UnknownOpcode
  deriving DecidableEq

structure SecureCommandV2ParseResult where
  valid : Bool := false
  reason : SecureCommandV2RejectReason := .none
  metadata : SecureCommandV2Metadata := {}
  responseOpcode : UInt32 := secureCommandV2UnknownOpcode
  authTag : Digest := Digest.zero
  deriving DecidableEq

structure SecureCommandV2Header where
  magic : UInt32
  version : UInt8
  flags : UInt8
  headerLength : UInt16
  sequenceNumber : UInt32
  innerLength : UInt16
  macLength : UInt16
  reserved : UInt32

def secureHeader : WireCodec SecureCommandV2Header :=
  (u32.pair (u8.pair (u8.pair (u16.pair (u32.pair (u16.pair (u16.pair u32))))))).iso
    { toFun := fun (m, v, f, l, s, i, c, r) => ⟨m, v, f, l, s, i, c, r⟩
      invFun := fun h => (h.magic, h.version, h.flags, h.headerLength, h.sequenceNumber,
        h.innerLength, h.macLength, h.reserved)
      left_inv := fun _ => rfl
      right_inv := fun _ => rfl }

def rejectSecure (reason : SecureCommandV2RejectReason) (responseOpcode : UInt32) :
    SecureCommandV2ParseResult :=
  { reason := reason, responseOpcode := responseOpcode }

def tryDecodeInnerOpcode (data : Bytes) : UInt32 :=
  if data.length < minInnerCommandSize then secureCommandV2UnknownOpcode
  else
    match u16.decode data with
    | none => secureCommandV2UnknownOpcode
    | some (descriptor, rest) =>
      if descriptor ≠ fwPacketCommand then secureCommandV2UnknownOpcode
      else
        match u32.decode rest with
        | none => secureCommandV2UnknownOpcode
        | some (opcode, _) => opcode

def decodeInner (innerCommand : Bytes) (sequenceNumber : UInt32) (authTag : Bytes) :
    SecureCommandV2ParseResult :=
  if innerCommand.length > fwComBufferMaxSize then
    rejectSecure .oversizedInnerCommand secureCommandV2UnknownOpcode
  else if innerCommand.length < minInnerCommandSize then
    rejectSecure .truncatedInnerCommand secureCommandV2UnknownOpcode
  else
    match CmdPacket.deserializeFrom innerCommand with
    | none => rejectSecure .invalidInnerCommand (tryDecodeInnerOpcode innerCommand)
    | some innerPacket =>
      { valid := true
        reason := .none
        metadata := { sequenceNumber := sequenceNumber, innerOpcode := innerPacket.opcode }
        responseOpcode := innerPacket.opcode
        authTag := Digest.copy authTag }

/-- The checks made on the header and on the lengths, in the order of the source,
each with the rejection it leads to. -/
def headerChecks (h : SecureCommandV2Header) (left : Bytes) :
    List (Bool × SecureCommandV2ParseResult) :=
  let attributableInnerOpcode := tryDecodeInnerOpcode left
  let innerLength := h.innerLength.toNat
  let macLength := h.macLength.toNat
  [(h.magic ≠ secureCommandV2Magic, rejectSecure .badMagic attributableInnerOpcode),
   (h.version ≠ secureCommandV2Version, rejectSecure .unsupportedVersion attributableInnerOpcode),
   (h.flags ≠ 0, rejectSecure .nonzeroFlags attributableInnerOpcode),
   (h.headerLength ≠ secureCommandV2HeaderLength,
     rejectSecure .badHeaderLength attributableInnerOpcode),
   (h.reserved ≠ 0, rejectSecure .nonzeroReserved attributableInnerOpcode),
   (h.macLength ≠ secureCommandV2MacLength, rejectSecure .badMacLength attributableInnerOpcode),
   (innerLength < minInnerCommandSize, rejectSecure .truncatedInnerCommand attributableInnerOpcode),
   (left.length < innerLength, rejectSecure .truncatedInnerCommand (tryDecodeInnerOpcode left)),
   (left.length < innerLength + macLength,
     rejectSecure .truncatedAuthTag (tryDecodeInnerOpcode (left.take innerLength))),
   (left.length ≠ innerLength + macLength,
     rejectSecure .unexpectedTrailingBytes (tryDecodeInnerOpcode (left.take innerLength))),
   (innerLength > fwComBufferMaxSize,
     rejectSecure .oversizedInnerCommand secureCommandV2UnknownOpcode)]

def headerReject (h : SecureCommandV2Header) (left : Bytes) : Option SecureCommandV2ParseResult :=
  ((headerChecks h left).find? Prod.fst).map Prod.snd

/-- The verdict together with the inner command buffer it fills. -/
def parseSecureCommandV2 (outerPacket : CmdPacket) : SecureCommandV2ParseResult × Bytes :=
  match secureHeader.decode outerPacket.args with
  | none => (rejectSecure .truncatedHeader secureCommandV2UnknownOpcode, [])
  | some (h, left) =>
    match headerReject h left with
    | some rejected => (rejected, [])
    | none =>
      let innerCommand := left.take h.innerLength.toNat
      (decodeInner innerCommand h.sequenceNumber (left.drop h.innerLength.toNat), innerCommand)

/-- What the tag is computed over, when it fits the framework buffer. -/
def secureAuthMaterial (sequenceNumber : UInt32) (innerCommand : Bytes) : Bytes :=
  ascii "CMD-V2" ++ (u32.encode sequenceNumber ++ innerCommand)

def serializeSecureCommandAuthMaterial (metadata : SecureCommandV2Metadata)
    (innerCommand : Bytes) : Option Bytes :=
  let material := secureAuthMaterial metadata.sequenceNumber innerCommand
  if material.length ≤ fwComBufferMaxSize then some material else none

/-- The type of the keyed hash: it may refuse, and otherwise gives 32 bytes. -/
abbrev KeyedHash := Bytes → Bytes → Option Digest

def verifySecureCommandV2Auth (hmac : KeyedHash) (secureCommand : SecureCommandV2ParseResult)
    (innerCommand : Bytes) (sessionKey : Digest) : SecureCommandV2RejectReason :=
  if !secureCommand.valid then .badMac
  else
    match serializeSecureCommandAuthMaterial secureCommand.metadata innerCommand with
    | none => .invalidConfig
    | some material =>
      match hmac sessionKey.1 material with
      | none => .invalidConfig
      | some expectedDigest =>
        if !constantTimeEqual expectedDigest.1 secureCommand.authTag.1 then .badMac else .none

def secureArgs (sequenceNumber : UInt32) (innerCommand : Bytes) (tag : Digest) : Bytes :=
  secureHeader.encode
    { magic := secureCommandV2Magic
      version := secureCommandV2Version
      flags := 0
      headerLength := secureCommandV2HeaderLength
      sequenceNumber := sequenceNumber
      innerLength := UInt16.ofNat innerCommand.length
      macLength := secureCommandV2MacLength
      reserved := 0 } ++ (innerCommand ++ tag.1)

def acceptedSecure (sequenceNumber innerOpcode : UInt32) (tag : Digest) :
    SecureCommandV2ParseResult :=
  { valid := true
    reason := .none
    metadata := { sequenceNumber := sequenceNumber, innerOpcode := innerOpcode }
    responseOpcode := innerOpcode
    authTag := tag }

@[simp] theorem acceptedSecure_valid (n o : UInt32) (tag : Digest) :
    (acceptedSecure n o tag).valid = true := rfl

@[simp] theorem acceptedSecure_metadata (n o : UInt32) (tag : Digest) :
    (acceptedSecure n o tag).metadata = ⟨n, o⟩ := rfl

theorem decodeInner_valid {i a : Bytes} {s : UInt32} (h : (decodeInner i s a).valid = true) :
    ∃ ir : CmdPacket, i = ir.serialize ∧
      ir.args.length ≤ fwCmdArgBufferMaxSize ∧
      decodeInner i s a = acceptedSecure s ir.opcode (Digest.copy a) := by
  unfold decodeInner at h ⊢
  split_ifs at h ⊢ with hl hs
  · simp [rejectSecure] at h
  · simp [rejectSecure] at h
  · split at h
    · simp [rejectSecure] at h
    next ir hin =>
      obtain ⟨hser, har⟩ := (CmdPacket.deserializeFrom_eq_some_iff _ _).mp hin
      exact ⟨ir, hser, har, rfl⟩

theorem headerReject_valid {h : SecureCommandV2Header} {left : Bytes}
    {r : SecureCommandV2ParseResult} (hr : headerReject h left = some r) :
    r.valid = false := by
  obtain ⟨ch, hf, rfl⟩ := Option.map_eq_some_iff.mp hr
  have hall : ∀ c ∈ headerChecks h left, c.2.valid = false := by
    simp only [headerChecks, List.forall_mem_cons]
    simp [rejectSecure]
  exact hall ch (List.mem_of_find?_eq_some hf)

theorem headerReject_eq_none_iff (h : SecureCommandV2Header) (left : Bytes) :
    headerReject h left = none ↔
      h.magic = secureCommandV2Magic ∧ h.version = secureCommandV2Version ∧ h.flags = 0 ∧
        h.headerLength = secureCommandV2HeaderLength ∧ h.reserved = 0 ∧
        h.macLength = secureCommandV2MacLength ∧ minInnerCommandSize ≤ h.innerLength.toNat ∧
        left.length = h.innerLength.toNat + h.macLength.toNat ∧
        h.innerLength.toNat ≤ fwComBufferMaxSize := by
  rw [headerReject, Option.map_eq_none_iff, List.find?_eq_none]
  simp only [headerChecks, List.forall_mem_cons, decide_eq_true_eq, not_not, not_lt, ne_eq]
  constructor
  · rintro ⟨hm, hvr, hf, hln, hr, hmac, hmin, -, -, hl, hcap, -⟩
    exact ⟨hm, hvr, hf, hln, hr, hmac, hmin, hl, hcap⟩
  · rintro ⟨hm, hvr, hf, hln, hr, hmac, hmin, hl, hcap⟩
    exact ⟨hm, hvr, hf, hln, hr, hmac, hmin, by omega, by omega, hl, hcap, by simp⟩

theorem parseSecureCommandV2_valid {o : CmdPacket} (h : (parseSecureCommandV2 o).1.valid = true) :
    ∃ (s : UInt32) (i : CmdPacket) (tag : Digest),
      o.args = secureArgs s i.serialize tag ∧
      i.args.length ≤ fwCmdArgBufferMaxSize ∧
      parseSecureCommandV2 o = (acceptedSecure s i.opcode tag, i.serialize) := by
  cases hh : secureHeader.decode o.args with
  | none => simp [parseSecureCommandV2, hh, rejectSecure] at h
  | some p =>
    obtain ⟨hd, left⟩ := p
    cases hr : headerReject hd left with
    | some =>
      simp [parseSecureCommandV2, hh, hr, headerReject_valid hr] at h
    | none =>
      simp only [parseSecureCommandV2, hh, hr] at h ⊢
      obtain ⟨hm, hvr, hf, hl, hrs, hmac, -, hlf, -⟩ :=
        (headerReject_eq_none_iff hd left).mp hr
      obtain ⟨i, hser, har, hdc⟩ := decodeInner_valid h
      have hin : i.serialize.length = hd.innerLength.toNat := by
        rw [← hser, List.length_take]
        omega
      have hmac32 : hd.macLength.toNat = 32 := by rw [hmac]; rfl
      let tag : Digest := ⟨left.drop hd.innerLength.toNat, by rw [List.length_drop]; omega⟩
      have hc : Digest.copy (left.drop hd.innerLength.toNat) = tag := Digest.copy_val tag
      refine ⟨hd.sequenceNumber, i, tag, ?_, har, by rw [hdc, hc, hser]⟩
      have he : hd = ⟨secureCommandV2Magic, secureCommandV2Version, 0,
          secureCommandV2HeaderLength, hd.sequenceNumber,
          UInt16.ofNat i.serialize.length, secureCommandV2MacLength, 0⟩ := by
        rw [hin, UInt16.ofNat_toNat, ← hm, ← hvr, ← hf, ← hl, ← hmac, ← hrs]
      rw [secureHeader.eq_encode_append hh, secureArgs, ← he, ← hser]
      simp only [tag, List.take_append_drop]

theorem parseSecureCommandV2_secureArgs (o s : UInt32) (inner : CmdPacket)
    (tag : Digest) (har : inner.args.length ≤ fwCmdArgBufferMaxSize) :
    parseSecureCommandV2 ⟨o, secureArgs s inner.serialize tag⟩ =
      (acceptedSecure s inner.opcode tag, inner.serialize) := by
  have hs : inner.serialize.length = inner.args.length + 6 := inner.serialize_length
  have hcap : inner.args.length + 6 ≤ fwComBufferMaxSize := by
    unfold fwCmdArgBufferMaxSize fwComBufferMaxSize at har
    unfold fwComBufferMaxSize
    omega
  have ht : (UInt16.ofNat inner.serialize.length).toNat = inner.serialize.length :=
    UInt16.toNat_ofNat_of_lt' (by unfold fwComBufferMaxSize at hcap; unfold UInt16.size; omega)
  have hr : headerReject ⟨secureCommandV2Magic, secureCommandV2Version, 0,
      secureCommandV2HeaderLength, s, UInt16.ofNat inner.serialize.length,
      secureCommandV2MacLength, 0⟩ (inner.serialize ++ tag.1) = none := by
    rw [headerReject_eq_none_iff]
    refine ⟨rfl, rfl, rfl, rfl, rfl, rfl, ?_, ?_, ?_⟩
    · rw [ht, hs]
      unfold minInnerCommandSize
      omega
    · rw [ht, List.length_append, tag.2]
      rfl
    · rw [ht, hs]
      exact hcap
  have hdes : CmdPacket.deserializeFrom inner.serialize = some inner :=
    (CmdPacket.deserializeFrom_eq_some_iff _ _).mpr ⟨rfl, har⟩
  simp only [parseSecureCommandV2, secureArgs, decode_encode, hr, ht]
  rw [List.take_left' rfl, List.drop_left' rfl, decodeInner, if_neg (by omega),
    if_neg (by unfold minInnerCommandSize; omega), hdes, Digest.copy_val]
  rfl

theorem secureArgs_injective {n n' : UInt32} {i i' : CmdPacket} {tag tag' : Digest}
    (har : i.args.length ≤ fwCmdArgBufferMaxSize) (ha' : i'.args.length ≤ fwCmdArgBufferMaxSize)
    (h : secureArgs n i.serialize tag = secureArgs n' i'.serialize tag') :
    n = n' ∧ i.serialize = i'.serialize ∧ tag = tag' := by
  have hp := parseSecureCommandV2_secureArgs 0 n i tag har
  rw [h, parseSecureCommandV2_secureArgs 0 n' i' tag' ha', Prod.mk.injEq] at hp
  have hm := congrArg SecureCommandV2ParseResult.metadata hp.1
  have htag : tag' = tag := congrArg SecureCommandV2ParseResult.authTag hp.1
  simp only [acceptedSecure_metadata, SecureCommandV2Metadata.mk.injEq] at hm
  exact ⟨hm.1.symm, hp.2.symm, htag.symm⟩

theorem verifySecureCommandV2Auth_eq_none_iff (hmac : KeyedHash) (s io : UInt32)
    (tag key : Digest) (i : Bytes) :
    verifySecureCommandV2Auth hmac (acceptedSecure s io tag) i key = .none ↔
      (secureAuthMaterial s i).length ≤ fwComBufferMaxSize ∧
        hmac key.1 (secureAuthMaterial s i) = some tag := by
  have htag : (acceptedSecure s io tag).authTag = tag := rfl
  by_cases hf : (secureAuthMaterial s i).length ≤ fwComBufferMaxSize
  · have hm : serializeSecureCommandAuthMaterial ⟨s, io⟩ i =
        some (secureAuthMaterial s i) := if_pos hf
    cases hdg : hmac key.1 (secureAuthMaterial s i) with
    | none => simp [verifySecureCommandV2Auth, hm, hdg]
    | some d =>
      have heq := constantTimeEqual_iff d.1 tag.1 (by rw [d.2, tag.2])
      rw [← Subtype.ext_iff] at heq
      simp only [verifySecureCommandV2Auth, acceptedSecure_valid, acceptedSecure_metadata, hm,
        hdg, htag, hf]
      by_cases hs : d = tag
      · subst hs
        simp [heq.mpr rfl]
      · simp [Bool.eq_false_iff.mpr (mt heq.mp hs), hs]
  · have hm : serializeSecureCommandAuthMaterial ⟨s, io⟩ i =
        none := if_neg hf
    simp [verifySecureCommandV2Auth, hm, hf]

end ObcFlight
