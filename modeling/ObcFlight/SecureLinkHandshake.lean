import ObcFlight.SecureCommandV2

/-!
# The secure link handshake packets

Layout of the four handshake messages, the parser of the flight side, and the key
derivation. Both directions carry the same eight-byte header; packets on the downlink
are preceded by the framework's packet descriptor.
-/

namespace ObcFlight

open WireCodec CommandAuthCrypto

def secureLinkHandshakeMagic : UInt32 := 0x0BC0A701

def secureLinkHandshakeVersion : UInt8 := 1

def secureLinkReserved : UInt8 := 0

def secureLinkHandshakeHeaderSize : ℕ := 8

def secureServiceSband : UInt8 := 1

def secureServiceUhf : UInt8 := 2

abbrev ModuleSerial := { bs : Bytes // bs.length = 16 }

abbrev RandomNonce := { bs : Bytes // bs.length = 15 }

abbrev Challenge := { bs : Bytes // bs.length = 31 }

def Challenge.zero : Challenge := ⟨List.replicate 31 0, List.length_replicate⟩

def Challenge.ofParts (serial : ModuleSerial) (nonce : RandomNonce) : Challenge :=
  ⟨serial.1 ++ nonce.1, by rw [List.length_append, serial.2, nonce.2]⟩

def Challenge.copy (bs : Bytes) : Challenge := ⟨(bs ++ List.replicate 31 0).take 31, by simp⟩

inductive SecureHandshakeMessageType where
  | reqAuth
  | challenge
  | response
  | authStatus
  deriving DecidableEq

def SecureHandshakeMessageType.toCode : SecureHandshakeMessageType → UInt8
  | .reqAuth => 1
  | .challenge => 2
  | .response => 3
  | .authStatus => 4

def SecureHandshakeMessageType.ofCode (rawType : UInt8) : Option SecureHandshakeMessageType :=
  if rawType = 1 then some .reqAuth
  else if rawType = 2 then some .challenge
  else if rawType = 3 then some .response
  else if rawType = 4 then some .authStatus
  else none

inductive SecureHandshakeParseReason where
  | none
  | tooShort
  | badMagic
  | badVersion
  | badMessageType
  | badServiceId
  | badLength
  deriving DecidableEq

structure SecureHandshakeMessage where
  type : SecureHandshakeMessageType := .reqAuth
  serviceId : UInt8 := 0
  challenge : Challenge := Challenge.zero
  response : Digest := Digest.zero
  statusCode : UInt32 := 0
  deriving DecidableEq

structure SecureHandshakeParseResult where
  valid : Bool := false
  reason : SecureHandshakeParseReason := .tooShort
  message : SecureHandshakeMessage := {}
  deriving DecidableEq

structure HandshakeHeader where
  magic : UInt32
  version : UInt8
  rawType : UInt8
  serviceId : UInt8
  reserved : UInt8

def handshakeHeader : WireCodec HandshakeHeader :=
  (u32.pair (u8.pair (u8.pair (u8.pair u8)))).iso
    { toFun := fun (m, v, t, s, r) => ⟨m, v, t, s, r⟩
      invFun := fun h => (h.magic, h.version, h.rawType, h.serviceId, h.reserved)
      left_inv := fun _ => rfl
      right_inv := fun _ => rfl }

def isSupportedSecureServiceId (serviceId : UInt8) : Bool :=
  serviceId = secureServiceSband || serviceId = secureServiceUhf

def payloadSizeForType : SecureHandshakeMessageType → ℕ
  | .reqAuth => secureLinkHandshakeHeaderSize
  | .challenge => secureLinkHandshakeHeaderSize + 31
  | .response => secureLinkHandshakeHeaderSize + 32
  | .authStatus => secureLinkHandshakeHeaderSize + 4

/-- The fields that a message of each type fills; the others keep their defaults. -/
def handshakeMessage (type : SecureHandshakeMessageType) (serviceId : UInt8) (payload : Bytes) :
    SecureHandshakeMessage :=
  match type with
  | .reqAuth => { type := type, serviceId := serviceId }
  | .challenge => { type := type, serviceId := serviceId, challenge := Challenge.copy payload }
  | .response => { type := type, serviceId := serviceId, response := Digest.copy payload }
  | .authStatus =>
    { type := type, serviceId := serviceId
      statusCode := ((u32.decode payload).map Prod.fst).getD 0 }

def parseSecureHandshakePacket (data : Bytes) : SecureHandshakeParseResult :=
  match handshakeHeader.decode data with
  | none => { reason := .tooShort }
  | some (h, payload) =>
    if h.magic ≠ secureLinkHandshakeMagic then { reason := .badMagic }
    else if h.version ≠ secureLinkHandshakeVersion then { reason := .badVersion }
    else if !isSupportedSecureServiceId h.serviceId then { reason := .badServiceId }
    else if h.reserved ≠ secureLinkReserved then { reason := .badLength }
    else
      match SecureHandshakeMessageType.ofCode h.rawType with
      | none => { reason := .badMessageType }
      | some type =>
        if data.length ≠ payloadSizeForType type then { reason := .badLength }
        else { valid := true, reason := .none, message := handshakeMessage type h.serviceId payload }

/-- Strip the framework's packet descriptor where it announces a handshake packet. -/
def unwrapHandshakePacketPayload (data : Bytes) : Bytes :=
  match u16.decode data with
  | none => data
  | some (descriptor, rest) => if descriptor ≠ fwPacketHand then data else rest

def serializeHeader (type : SecureHandshakeMessageType) (serviceId : UInt8) : Bytes :=
  handshakeHeader.encode
    { magic := secureLinkHandshakeMagic
      version := secureLinkHandshakeVersion
      rawType := type.toCode
      serviceId := serviceId
      reserved := secureLinkReserved }

def buildSecureChallengePacket (serviceId : UInt8) (challenge : Challenge) : Option Bytes :=
  if !isSupportedSecureServiceId serviceId then none
  else some (u16.encode fwPacketHand ++ (serializeHeader .challenge serviceId ++ challenge.1))

def buildSecureAuthStatusPacket (serviceId : UInt8) (statusCode : UInt32) : Option Bytes :=
  if !isSupportedSecureServiceId serviceId then none
  else
    some (u16.encode fwPacketHand ++
      (serializeHeader .authStatus serviceId ++ u32.encode statusCode))

def sessionKeyMaterial (serviceId : UInt8) (challenge : Challenge) : Bytes :=
  ascii "AUTH-SKEY-V1" ++ serviceId :: challenge.1

def deriveSecureSessionKey (hmac : KeyedHash) (rootKey : Bytes) (serviceId : UInt8)
    (challenge : Challenge) : Option Digest :=
  if rootKey.length = 0 || !isSupportedSecureServiceId serviceId then none
  else hmac rootKey (sessionKeyMaterial serviceId challenge)

def secureLinkAknownMessage : Bytes := List.replicate 32 0xFF

def computeSecureAuthResponse (hmac : KeyedHash) (sessionKey : Digest) : Option Digest :=
  hmac sessionKey.1 secureLinkAknownMessage

def verifySecureAuthResponse (hmac : KeyedHash) (sessionKey response : Digest) : Bool :=
  match computeSecureAuthResponse hmac sessionKey with
  | none => false
  | some expected => constantTimeEqual expected.1 response.1

theorem sessionKeyMaterial_injective {s s' : UInt8} {c c' : Challenge}
    (h : sessionKeyMaterial s c = sessionKeyMaterial s' c') : s = s' ∧ c = c' := by
  have ht := List.append_cancel_left h
  rw [List.cons.injEq] at ht
  exact ⟨ht.1, Subtype.ext ht.2⟩

theorem verifySecureAuthResponse_iff (hmac : KeyedHash) (s response : Digest) :
    verifySecureAuthResponse hmac s response = true ↔
      computeSecureAuthResponse hmac s = some response := by
  unfold verifySecureAuthResponse
  cases computeSecureAuthResponse hmac s with
  | none => simp
  | some e =>
    have heq := constantTimeEqual_iff e.1 response.1 (by rw [e.2, response.2])
    rw [← Subtype.ext_iff] at heq
    simpa using heq

variable (type : SecureHandshakeMessageType)

theorem serializeHeader_length (s : UInt8) :
    (serializeHeader type s).length = secureLinkHandshakeHeaderSize := by
  simp [serializeHeader, handshakeHeader, iso, pair, secureLinkHandshakeHeaderSize]

theorem parseSecureHandshakePacket_serialize {s : UInt8} (hs : isSupportedSecureServiceId s = true)
    (p : Bytes) (hsz : secureLinkHandshakeHeaderSize + p.length = payloadSizeForType type) :
    parseSecureHandshakePacket (serializeHeader type s ++ p) =
      { valid := true, reason := .none, message := handshakeMessage type s p } := by
  have hc : SecureHandshakeMessageType.ofCode type.toCode = some type := by
    cases type <;> rfl
  have hl : (serializeHeader type s ++ p).length = payloadSizeForType type := by
    rw [List.length_append, serializeHeader_length, hsz]
  unfold parseSecureHandshakePacket
  rw [show handshakeHeader.decode (serializeHeader type s ++ p) = some (_, p) from
    handshakeHeader.decode_encode _ _]
  simp [hs, hc, hl]

end ObcFlight
