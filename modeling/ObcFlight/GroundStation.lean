import ObcFlight.AuthorizerSpec

/-!
# The ground side of the secure link

The functions of secure_link_auth_lib.py that build and read the packets of a session.
Python integers are unbounded, so packing refuses a value too large for its field; none
stands for the exception. The library takes its keyed hash from hashlib, which is
HMAC over SHA-256. The second half shows that both sides write the same bytes.
-/

namespace ObcFlight

namespace GroundStation

def fwPacketCommand : ℕ := 0x0000

def fwPacketHand : ℕ := 0x00FE

def secureLinkHandshakeMagic : ℕ := 0x0BC0A701

def secureLinkHandshakeVersion : ℕ := 1

def secureLinkHandshakeHeaderSize : ℕ := 8

def secureLinkChallengeSize : ℕ := 16 + 15

def secureLinkAuthResponseSize : ℕ := 32

def secureCommandV2Opcode : ℕ := 0x0BC20001

def secureCommandV2Magic : ℕ := 0x0BC0DE02

def secureCommandV2Version : ℕ := 2

def secureCommandV2HeaderLength : ℕ := 20

def secureCommandV2MacLength : ℕ := 32

def authKdfLabel : Bytes := ascii "AUTH-SKEY-V1"

def secureCommandV2AuthLabel : Bytes := ascii "CMD-V2"

def authKnownMessage : Bytes := List.replicate 32 0xFF

inductive HandshakeMessageType where
  | reqAuth
  | challenge
  | response
  | authStatus
  deriving DecidableEq

def HandshakeMessageType.toInt : HandshakeMessageType → ℕ
  | .reqAuth => 1
  | .challenge => 2
  | .response => 3
  | .authStatus => 4

def HandshakeMessageType.ofInt : ℕ → Option HandshakeMessageType
  | 1 => some .reqAuth
  | 2 => some .challenge
  | 3 => some .response
  | 4 => some .authStatus
  | _ => none

structure HandshakeMessage where
  messageType : HandshakeMessageType
  serviceId : ℕ
  challenge : Bytes := []
  response : Bytes := []
  statusCode : ℕ := 0
  deriving DecidableEq

/-- struct.pack with a big-endian format: the width and the value of each field. -/
def structPack : List (ℕ × ℕ) → Option Bytes
  | [] => some []
  | (width, value) :: fields =>
    if value < 256 ^ width then (structPack fields).map (beBytes width value ++ ·) else none

def structUnpackFrom (width offset : ℕ) (payload : Bytes) : ℕ :=
  beValue ((payload.drop offset).take width)

def hmacSha256 (key payload : Bytes) : Bytes := (Sha256.hmac key payload).1

def deriveSessionKey (rootKey : Bytes) (serviceId : ℕ) (challenge : Bytes) : Option Bytes :=
  if challenge.length ≠ secureLinkChallengeSize then none
  else
    (structPack [(1, serviceId)]).map fun service =>
      hmacSha256 rootKey (authKdfLabel ++ service ++ challenge)

def computeAuthResponse (sessionKey : Bytes) : Bytes := hmacSha256 sessionKey authKnownMessage

def buildInnerCommand (opcode : ℕ) (args : Bytes) : Option Bytes :=
  (structPack [(2, fwPacketCommand), (4, opcode)]).map (· ++ args)

def buildSecureCommandV2Packet (innerCommand sessionKey : Bytes) (sequenceNumber : ℕ) :
    Option Bytes := do
  let sequenceBytes ← structPack [(4, sequenceNumber)]
  let authMaterial := secureCommandV2AuthLabel ++ sequenceBytes ++ innerCommand
  let authTag := hmacSha256 sessionKey authMaterial
  let header ← structPack
    [(2, fwPacketCommand), (4, secureCommandV2Opcode), (4, secureCommandV2Magic),
     (1, secureCommandV2Version), (1, 0), (2, secureCommandV2HeaderLength), (4, sequenceNumber),
     (2, innerCommand.length), (2, secureCommandV2MacLength), (4, 0)]
  return header ++ innerCommand ++ authTag

/-- The descriptor and header that both handshake packets of the ground start with. -/
def handshakePacketHeader (messageType : HandshakeMessageType) (serviceId : ℕ) : Option Bytes := do
  let descriptor ← structPack [(2, fwPacketHand)]
  let header ← structPack
    [(4, secureLinkHandshakeMagic), (1, secureLinkHandshakeVersion), (1, messageType.toInt),
     (1, serviceId), (1, 0)]
  return descriptor ++ header

def buildReqAuthPacket (serviceId : ℕ) : Option Bytes := handshakePacketHeader .reqAuth serviceId

def buildResponsePacket (serviceId : ℕ) (response : Bytes) : Option Bytes :=
  if response.length ≠ secureLinkAuthResponseSize then none
  else (handshakePacketHeader .response serviceId).map (· ++ response)

def parseHandshakeMessage (packetPayload : Bytes) : Option HandshakeMessage :=
  if packetPayload.length < 2 + secureLinkHandshakeHeaderSize then none
  else if structUnpackFrom 2 0 packetPayload ≠ fwPacketHand then none
  else
    let magic := structUnpackFrom 4 2 packetPayload
    let version := structUnpackFrom 1 6 packetPayload
    let serviceId := structUnpackFrom 1 8 packetPayload
    let reserved := structUnpackFrom 1 9 packetPayload
    if magic ≠ secureLinkHandshakeMagic ∨ version ≠ secureLinkHandshakeVersion ∨ reserved ≠ 0 then
      none
    else
      let body := packetPayload.drop (2 + secureLinkHandshakeHeaderSize)
      match HandshakeMessageType.ofInt (structUnpackFrom 1 7 packetPayload) with
      | none => none
      | some .challenge =>
        if body.length ≠ secureLinkChallengeSize then none
        else some { messageType := .challenge, serviceId := serviceId, challenge := body }
      | some .response =>
        if body.length ≠ secureLinkAuthResponseSize then none
        else some { messageType := .response, serviceId := serviceId, response := body }
      | some .authStatus =>
        if body.length ≠ 4 then none
        else
          some { messageType := .authStatus, serviceId := serviceId,
                 statusCode := structUnpackFrom 4 0 body }
      | some .reqAuth =>
        if body ≠ [] then none else some { messageType := .reqAuth, serviceId := serviceId }

/-- What a ground station does with a downlinked challenge: derive the session key and
build the packet that answers it. -/
def answerChallenge (rootKey : Bytes) (serviceId : ℕ) (packetPayload : Bytes) :
    Option (Bytes × Bytes) := do
  let message ← parseHandshakeMessage packetPayload
  if message.messageType ≠ .challenge ∨ message.serviceId ≠ serviceId then none
  else
    let sessionKey ← deriveSessionKey rootKey serviceId message.challenge
    let packet ← buildResponsePacket serviceId (computeAuthResponse sessionKey)
    return (sessionKey, packet)

/-! Both sides write the same bytes. -/

section SameBytes

open WireCodec

theorem structPack_cons {w v : ℕ} (h : v < 256 ^ w) (f : List (ℕ × ℕ)) :
    structPack ((w, v) :: f) = (structPack f).map (beBytes w v ++ ·) :=
  if_pos h

def HandshakeMessageType.onBoard : HandshakeMessageType → SecureHandshakeMessageType
  | .reqAuth => .reqAuth
  | .challenge => .challenge
  | .response => .response
  | .authStatus => .authStatus

theorem handshakePacketHeader_eq (m : HandshakeMessageType) (serviceId : UInt8) :
    handshakePacketHeader m serviceId.toNat =
      some (u16.encode ObcFlight.fwPacketHand ++ serializeHeader m.onBoard serviceId) := by
  have hs : serviceId.toNat < 256 ^ 1 := by simpa using serviceId.toNat_lt
  have ht : m.toInt < 256 ^ 1 := by cases m <;> decide
  have hc : m.onBoard.toCode.toNat = m.toInt := by cases m <;> rfl
  have hh : serializeHeader m.onBoard serviceId =
      beBytes 4 secureLinkHandshakeMagic ++ (beBytes 1 secureLinkHandshakeVersion ++
        (beBytes 1 m.onBoard.toCode.toNat ++ (beBytes 1 serviceId.toNat ++ beBytes 1 0))) :=
    rfl
  have hds : structPack [(2, fwPacketHand)] = some (u16.encode ObcFlight.fwPacketHand) := rfl
  rw [handshakePacketHeader, hds, structPack_cons (by decide), structPack_cons (by decide),
    structPack_cons ht, structPack_cons hs, structPack_cons (by decide), hh, hc]
  rfl

variable (serviceId : UInt8)

theorem buildReqAuthPacket_eq : buildReqAuthPacket serviceId.toNat =
      some (u16.encode ObcFlight.fwPacketHand ++ serializeHeader .reqAuth serviceId) :=
  handshakePacketHeader_eq .reqAuth serviceId

theorem buildResponsePacket_eq (r : Digest) :
    buildResponsePacket serviceId.toNat r.1 =
      some (u16.encode ObcFlight.fwPacketHand ++ (serializeHeader .response serviceId ++ r.1)) := by
  rw [buildResponsePacket, if_neg (by rw [r.2]; decide), handshakePacketHeader_eq,
    Option.map_some, List.append_assoc]
  rfl

theorem buildInnerCommand_eq (o : UInt32) (args : Bytes) :
    buildInnerCommand o.toNat args = some (CmdPacket.serialize ⟨o, args⟩) := by
  have ho : o.toNat < 256 ^ 4 := by simpa using o.toNat_lt
  have hser : CmdPacket.serialize ⟨o, args⟩ =
      beBytes 2 fwPacketCommand ++ (beBytes 4 o.toNat ++ args) := rfl
  rw [buildInnerCommand, structPack_cons (by decide), structPack_cons ho, hser]
  simp [structPack]

theorem buildSecureCommandV2Packet_eq (i k : Bytes) (s : UInt32) (hs : i.length < 65536) :
    buildSecureCommandV2Packet i k s.toNat =
      some (CmdPacket.serialize ⟨obcSecureCommandV2Opcode,
        secureArgs s i (Sha256.hmac k (secureAuthMaterial s i))⟩) := by
  have hnm : s.toNat < 256 ^ 4 := by simpa using s.toNat_lt
  have hln : (UInt16.ofNat i.length).toNat = i.length :=
    UInt16.toNat_ofNat_of_lt' (by simpa [UInt16.size] using hs)
  have hm : secureAuthMaterial s i = secureCommandV2AuthLabel ++ (beBytes 4 s.toNat ++ i) := rfl
  have hl (tag : Digest) : CmdPacket.serialize ⟨obcSecureCommandV2Opcode,
      secureArgs s i tag⟩ =
      beBytes 2 fwPacketCommand ++ (beBytes 4 secureCommandV2Opcode ++
        ((beBytes 4 secureCommandV2Magic ++ (beBytes 1 secureCommandV2Version ++ (beBytes 1 0 ++
          (beBytes 2 secureCommandV2HeaderLength ++ (beBytes 4 s.toNat ++
            (beBytes 2 (UInt16.ofNat i.length).toNat ++
              (beBytes 2 secureCommandV2MacLength ++ beBytes 4 0))))))) ++
          (i ++ tag.1))) := rfl
  rw [hl, hln, hm, buildSecureCommandV2Packet, structPack_cons hnm,
    structPack_cons (by decide), structPack_cons (by decide), structPack_cons (by decide),
    structPack_cons (by decide), structPack_cons (by decide), structPack_cons (by decide),
    structPack_cons hnm, structPack_cons (by simpa using hs), structPack_cons (by decide),
    structPack_cons (by decide)]
  simp [structPack, hmacSha256]

theorem length_le_of_buildSecureCommandV2Packet {i k p : Bytes} {s : ℕ}
    (h : buildSecureCommandV2Packet i k s = some p) :
    i.length ≤ p.length := by
  obtain ⟨x, -, h⟩ := Option.bind_eq_some_iff.mp h
  obtain ⟨hd, -, h⟩ := Option.bind_eq_some_iff.mp h
  cases h
  simp only [List.length_append]
  omega

theorem parseHandshakeMessage_challenge (challenge : Challenge) :
    parseHandshakeMessage (u16.encode ObcFlight.fwPacketHand ++
        (serializeHeader .challenge serviceId ++ challenge.1)) =
      some { messageType := .challenge, serviceId := serviceId.toNat, challenge := challenge.1 } := by
  have hby : u16.encode ObcFlight.fwPacketHand ++
      (serializeHeader .challenge serviceId ++ challenge.1) =
      0x00 :: 0xFE :: 0x0B :: 0xC0 :: 0xA7 :: 0x01 :: 1 :: 2 :: serviceId :: 0 :: challenge.1 := by
    simp [serializeHeader, handshakeHeader, iso, pair]
    rfl
  have hl : challenge.1.length = secureLinkChallengeSize := challenge.2
  rw [hby]
  simp [parseHandshakeMessage, structUnpackFrom, secureLinkHandshakeHeaderSize, beValue,
    fwPacketHand, secureLinkHandshakeMagic, secureLinkHandshakeVersion, HandshakeMessageType.ofInt,
    hl]

def sessionKeyOf (rootKey : Bytes) (serviceId : UInt8) (challenge : Challenge) : Digest :=
  Sha256.hmac rootKey (sessionKeyMaterial serviceId challenge)

theorem deriveSessionKey_eq (r : Bytes) (serviceId : UInt8) (c : Challenge) :
    deriveSessionKey r serviceId.toNat c.1 = some (sessionKeyOf r serviceId c).1 := by
  have hs : serviceId.toNat < 256 ^ 1 := by simpa using serviceId.toNat_lt
  have hby : beBytes 1 serviceId.toNat = [serviceId] := u8_encode serviceId
  have hl : c.1.length = secureLinkChallengeSize := c.2
  rw [deriveSessionKey, if_neg (not_not.mpr hl), structPack_cons hs, hby]
  simp [structPack, hmacSha256, sessionKeyOf, sessionKeyMaterial, authKdfLabel]

theorem answerChallenge_eq (r : Bytes) (serviceId : UInt8) (c : Challenge) :
    answerChallenge r serviceId.toNat (u16.encode ObcFlight.fwPacketHand ++
        (serializeHeader .challenge serviceId ++ c.1)) =
      some ((sessionKeyOf r serviceId c).1,
        u16.encode ObcFlight.fwPacketHand ++ (serializeHeader .response serviceId ++
          (Sha256.hmac (sessionKeyOf r serviceId c).1 authKnownMessage).1)) := by
  have hr : computeAuthResponse (sessionKeyOf r serviceId c).1 =
      (Sha256.hmac (sessionKeyOf r serviceId c).1 authKnownMessage).1 := rfl
  simp [answerChallenge, parseHandshakeMessage_challenge, deriveSessionKey_eq, hr,
    buildResponsePacket_eq]

end SameBytes

end GroundStation

end ObcFlight
