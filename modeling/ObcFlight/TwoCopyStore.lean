import ObcFlight.WireBlocks

/-!
# A snapshot kept in two copies

A store keeps its state as a snapshot with a generation number in one of two files and writes the
next snapshot over the other file. A load takes the valid copy with the higher generation. A
write that is cut short leaves a file that is too short to be a snapshot, so the copy that was
current before is found again. The last part gives such a format to every snapshot that is laid
out as a head, a checksum and a body.
-/

namespace ObcFlight

/-- A format of fixed size that reads back what was written. -/
structure SnapshotFormat (S : Type*) where
  size : ℕ
  encode : S → Bytes
  parse : Bytes → Option S
  generation : S → UInt32
  size_pos : 0 < size
  length_encode : ∀ s, (encode s).length = size
  parse_encode : ∀ s, parse (encode s) = some s
  length_of_parse : ∀ bytes s, parse bytes = some s → bytes.length = size

inductive StoreCopy where
  | none
  | copyA
  | copyB
  deriving DecidableEq, Repr

def StoreCopy.target : StoreCopy → StoreCopy
  | .copyA => .copyB
  | _ => .copyA

/-- The two files, where they exist. -/
structure CopyFiles where
  copyA : Option Bytes := none
  copyB : Option Bytes := none

def CopyFiles.write (files : CopyFiles) (copy : StoreCopy) (bytes : Bytes) : CopyFiles :=
  match copy with
  | .copyA => { files with copyA := some bytes }
  | .copyB => { files with copyB := some bytes }
  | .none => files

/-- How a write ends: all bytes are in the file, or only some of the first ones, or the file could
not be opened and is as it was. -/
inductive WriteOutcome where
  | complete
  | torn (kept : ℕ)
  | refused
  deriving DecidableEq, Repr

namespace SnapshotFormat

variable {S : Type*} (F : SnapshotFormat S)

def parseFile (file : Option Bytes) : Option S := file.bind F.parse

def pick : Option S → Option S → Option S × StoreCopy
  | some a, some b =>
    if F.generation a ≥ F.generation b then (some a, .copyA) else (some b, .copyB)
  | some a, none => (some a, .copyA)
  | none, some b => (some b, .copyB)
  | none, none => (none, .none)

def select (files : CopyFiles) : Option S × StoreCopy :=
  F.pick (F.parseFile files.copyA) (F.parseFile files.copyB)

def store (files : CopyFiles) (copy : StoreCopy) (s : S) : WriteOutcome → CopyFiles
  | .complete => files.write copy (F.encode s)
  | .torn kept => files.write copy ((F.encode s).take (min kept (F.size - 1)))
  | .refused => files

theorem parse_torn (s : S) (kept : ℕ) : F.parse ((F.encode s).take (min kept (F.size - 1))) = none := by
  cases h : F.parse ((F.encode s).take (min kept (F.size - 1))) with
  | none => rfl
  | some =>
    have hlen := F.length_of_parse _ _ h
    have hpos := F.size_pos
    rw [List.length_take, F.length_encode] at hlen
    omega

variable {F} {files : CopyFiles} {current : Option S} {active : StoreCopy}

theorem select_write (files : CopyFiles) (active : StoreCopy) (b : Bytes) :
    F.select (files.write active.target b) =
      if active = .copyA then F.pick (F.parseFile files.copyA) (F.parse b)
      else F.pick (F.parse b) (F.parseFile files.copyB) := by
  cases active <;> rfl

theorem select_write_invalid (h : F.select files = (current, active)) {b : Bytes}
    (hby : F.parse b = none) : F.select (files.write active.target b) = (current, active) := by
  rw [select_write, hby]
  revert h
  unfold select
  cases F.parseFile files.copyA with
  | none => cases F.parseFile files.copyB <;> rintro ⟨⟩ <;> rfl
  | some =>
    cases F.parseFile files.copyB with
    | none => rintro ⟨⟩; rfl
    | some =>
      simp only [pick]
      split <;> rintro ⟨⟩ <;> rfl

theorem pick_of_lt {a s : S} (h : F.generation a < F.generation s) :
    F.pick (some a) (some s) = (some s, .copyB) := by
  simp [pick, h]

theorem pick_of_gt {b s : S} (h : F.generation b < F.generation s) :
    F.pick (some s) (some b) = (some s, .copyA) := by
  simp [pick, UInt32.le_of_lt h]

theorem select_write_newer (h : F.select files = (current, active)) {bytes : Bytes} {s : S}
    (hby : F.parse bytes = some s) (hnw : ∀ t, current = some t → F.generation t < F.generation s) :
    F.select (files.write active.target bytes) = (some s, active.target) := by
  rw [select_write, hby]
  revert h
  unfold select
  cases F.parseFile files.copyA with
  | none =>
    cases F.parseFile files.copyB with
    | none => rintro ⟨⟩; rfl
    | some b => rintro ⟨⟩; exact pick_of_gt (hnw b rfl)
  | some a =>
    cases F.parseFile files.copyB with
    | none => rintro ⟨⟩; exact pick_of_lt (hnw a rfl)
    | some b =>
      simp only [pick]
      split <;> rintro ⟨⟩
      · exact pick_of_lt (hnw a rfl)
      · exact pick_of_gt (hnw b rfl)

/-- What a load finds after any write of a newer snapshot: the new one if the write was completed,
what it would have found before otherwise. -/
theorem select_store (F : SnapshotFormat S) (files : CopyFiles) {s : S}
    (hnw : ∀ t, (F.select files).1 = some t → F.generation t < F.generation s) (o : WriteOutcome) :
    F.select (F.store files (F.select files).2.target s o) =
      if o = .complete then (some s, (F.select files).2.target) else F.select files := by
  cases o with
  | complete => exact select_write_newer rfl (F.parse_encode s) hnw
  | torn kept => exact select_write_invalid rfl (F.parse_torn s kept)
  | refused => rfl

end SnapshotFormat

/-- A snapshot as a head, a word for the checksum and a body, all of fixed size. -/
structure SealedLayout (S H B : Type*) where
  checksum : Bytes → UInt32
  head : WireCodec H
  body : WireCodec B
  headSize : ℕ
  bodySize : ℕ
  head_length : ∀ h, (head.encode h).length = headSize
  body_length : ∀ b, (body.encode b).length = bodySize
  toHead : S → H
  toBody : S → B
  read : H → B → Option S
  read_write : ∀ s, read (toHead s) (toBody s) = some s
  generation : S → UInt32

namespace SealedLayout

open WireCodec

variable {S H B : Type*} (L : SealedLayout S H B)

def size : ℕ := L.headSize + 4 + L.bodySize

def layout : WireCodec (H × UInt32 × B) := L.head.withWord L.body

/-- The checksum is taken over the whole with its own field at zero. -/
def encode (s : S) : Bytes :=
  L.layout.encode (L.toHead s, L.checksum (L.layout.encode (L.toHead s, 0, L.toBody s)), L.toBody s)

def parse (bytes : Bytes) : Option S :=
  if bytes.length ≠ L.size then none
  else match L.layout.decode bytes with
    | none => none
    | some ((h, crc, b), _) => if crc ≠ L.checksum (zeroWord L.headSize bytes) then none else L.read h b

theorem encode_length (s : S) : (L.encode s).length = L.size := by
  simp [encode, layout, withWord, pair, L.head_length, L.body_length, size, Nat.add_assoc]

theorem decode_layout (x : H × UInt32 × B) : L.layout.decode (L.layout.encode x) = some (x, []) := by
  simpa using L.layout.decode_encode x []

theorem zeroWord_layout (h : H) (crc : UInt32) (b : B) :
    zeroWord L.headSize (L.layout.encode (h, crc, b)) = L.layout.encode (h, 0, b) :=
  zeroWord_withWord _ _ _ (L.head_length h) crc b

theorem parse_encode (s : S) : L.parse (L.encode s) = some s := by
  rw [parse, if_neg (not_not.mpr (L.encode_length s)), encode, decode_layout]
  dsimp only
  rw [zeroWord_layout, if_neg (not_not.mpr rfl), L.read_write]

theorem length_of_parse (b : Bytes) (s : S) (h : L.parse b = some s) : b.length = L.size := by
  by_contra hlen
  rw [parse, if_pos hlen] at h
  cases h

def format : SnapshotFormat S where
  size := L.size
  encode := L.encode
  parse := L.parse
  generation := L.generation
  size_pos := by unfold size; omega
  length_encode := L.encode_length
  parse_encode := L.parse_encode
  length_of_parse := L.length_of_parse

end SealedLayout

end ObcFlight
