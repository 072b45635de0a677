import ObcFlight.AuthorityTypes

/-!
# Framework command packets and argument fields

The flight components read commands through the framework's serialization layer,
which is big-endian and bounds-checked. A command packet is a U16 descriptor, a
U32 opcode and an argument block of bounded size; a string argument is a U16
length and that many bytes, refused when longer than its capacity.
-/

namespace ObcFlight

open WireCodec

def fwComBufferMaxSize : ℕ := 512

def fwCmdArgBufferMaxSize : ℕ := fwComBufferMaxSize - 4 - 2

def fwPacketCommand : UInt16 := 0

def fwPacketHand : UInt16 := 0x00FE

structure CmdPacket where
  opcode : UInt32
  args : Bytes
  deriving DecidableEq

namespace CmdPacket

def serialize (packet : CmdPacket) : Bytes :=
  u16.encode fwPacketCommand ++ (u32.encode packet.opcode ++ packet.args)

def deserializeFrom (data : Bytes) : Option CmdPacket :=
  match u16.decode data with
  | none => none
  | some (descriptor, rest) =>
    if descriptor ≠ fwPacketCommand then none
    else
      match u32.decode rest with
      | none => none
      | some (opcode, args) =>
        if args.length ≤ fwCmdArgBufferMaxSize then some ⟨opcode, args⟩ else none

theorem deserializeFrom_eq_some_iff (data : Bytes) (p : CmdPacket) :
    deserializeFrom data = some p ↔ data = p.serialize ∧ p.args.length ≤ fwCmdArgBufferMaxSize := by
  constructor
  · intro h
    unfold deserializeFrom at h
    split at h
    · cases h
    next d rest hds =>
      split at h
      · cases h
      next hc =>
        split at h
        · cases h
        next o args ho =>
          split at h
          next hf =>
            cases h
            have hz : d = fwPacketCommand := not_not.mp hc
            subst hz
            rw [u16.eq_encode_append hds, u32.eq_encode_append ho]
            exact ⟨rfl, hf⟩
          next => cases h
  · rintro ⟨rfl, hf⟩
    simp [deserializeFrom, serialize, hf]

@[simp] theorem serialize_length (p : CmdPacket) : p.serialize.length = p.args.length + 6 := by
  simp [serialize]
  omega

theorem serialize_injective : Function.Injective serialize := by
  rintro ⟨o, a⟩ ⟨o', a'⟩ h
  obtain ⟨-, hr⟩ := u16.encode_append_inj h
  obtain ⟨rfl, rfl⟩ := u32.encode_append_inj hr
  rfl

end CmdPacket

def deserializeString (capacity : ℕ) (args : Bytes) : Option (Bytes × Bytes) :=
  match u16.decode args with
  | none => none
  | some (length, rest) =>
    if length.toNat ≤ rest.length ∧ length.toNat ≤ capacity then
      some (rest.take length.toNat, rest.drop length.toNat)
    else none

/-- The wait flag of a sequence run, an enumeration checked on reading. -/
def deserializeWait (args : Bytes) : Option (UInt32 × Bytes) :=
  match u32.decode args with
  | none => none
  | some (wait, rest) => if wait = 0 ∨ wait = 1 then some (wait, rest) else none

end ObcFlight
