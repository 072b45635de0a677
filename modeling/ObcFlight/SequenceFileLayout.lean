import ObcFlight.SequenceFile

/-!
# The format of sequence files

A sequence file as data: a time base and a time context, and records that are end markers or
time-tagged commands. The inspector accepts the encodings of such files and nothing else, and
it returns the commands of the file in their order.
-/

namespace ObcFlight

open WireCodec

inductive SequenceRecord where
  | endOfSequence
  | command (descriptor : UInt8) (seconds useconds : UInt32) (packet : CmdPacket)

namespace SequenceRecord

def encode : SequenceRecord → Bytes
  | .endOfSequence => u8.encode SequenceFileInspector.endOfSequence
  | .command descriptor seconds useconds packet =>
    u8.encode descriptor ++ ((u32.pair (u32.pair u32)).encode
      (seconds, useconds, UInt32.ofNat packet.serialize.length) ++ packet.serialize)

/-- A command is absolute or relative, and its packet is one the command buffer can hold. -/
def Legal (format : SequenceFileFormat) : SequenceRecord → Prop
  | .endOfSequence => True
  | .command descriptor _ _ packet =>
    descriptor < SequenceFileInspector.endOfSequence ∧ packet.args.length ≤ fwCmdArgBufferMaxSize ∧
      packet.serialize.length + 2 ≤ format.comBufferSerializedSize

instance (format : SequenceFileFormat) : DecidablePred (Legal format)
  | .endOfSequence => isTrue trivial
  | .command _ _ _ _ => inferInstanceAs (Decidable (_ ∧ _ ∧ _))

def info (recordIndex : UInt32) : SequenceRecord → Option SequenceRecordInfo
  | .endOfSequence => none
  | .command _ _ _ packet => some { recordIndex, opcode := packet.opcode, command := packet.serialize }

/-- The commands among records, each with its position in the file. -/
def infos : UInt32 → List SequenceRecord → List SequenceRecordInfo
  | _, [] => []
  | recordIndex, record :: records =>
    (record.info recordIndex).toList ++ infos (recordIndex + 1) records

theorem encode_length_pos (r : SequenceRecord) : 0 < r.encode.length := by
  cases r with
  | endOfSequence => simp [encode]
  | command => simp [encode]

theorem length_le_flatMap (r : List SequenceRecord) : r.length ≤ (r.flatMap encode).length := by
  induction r with
  | nil => simp
  | cons x =>
    have hpos := x.encode_length_pos
    simp only [List.flatMap_cons, List.length_append, List.length_cons]
    omega

end SequenceRecord

namespace SequenceFileInspector

variable {format : SequenceFileFormat}

theorem serialize_length_lt {p : CmdPacket} (h : p.args.length ≤ fwCmdArgBufferMaxSize) :
    p.serialize.length ≤ fwComBufferMaxSize ∧
      (UInt32.ofNat p.serialize.length).toNat = p.serialize.length := by
  have hl := p.serialize_length
  unfold fwCmdArgBufferMaxSize fwComBufferMaxSize at h
  unfold fwComBufferMaxSize
  refine ⟨by omega, UInt32.toNat_ofNat_of_lt' ?_⟩
  have hs : UInt32.size = 4294967296 := rfl
  omega

theorem inspectRecord_encode {x : SequenceRecord} (h : x.Legal format) (r : UInt32) (rest : Bytes) :
    inspectRecord format r (x.encode ++ rest) = .ok (x.info r, rest) := by
  unfold inspectRecord
  cases x with
  | endOfSequence =>
    rw [SequenceRecord.encode, decode_encode]
    rfl
  | command descriptor _ _ p =>
    obtain ⟨hds, har, hf⟩ := h
    obtain ⟨hbf, hs⟩ := serialize_length_lt har
    have hk : ¬endOfSequence < descriptor := UInt8.not_lt.mpr (UInt8.le_of_lt hds)
    have hm : descriptor ≠ endOfSequence := UInt8.ne_of_lt hds
    have hp := (CmdPacket.deserializeFrom_eq_some_iff _ p).mpr ⟨rfl, har⟩
    rw [SequenceRecord.encode, List.append_assoc, decode_encode]
    dsimp only
    rw [if_neg hk, if_neg hm, List.append_assoc, decode_encode]
    dsimp only
    rw [hs, if_neg (by rw [List.length_append]; omega), List.take_left, hp, List.drop_left]
    rfl

theorem inspectRecord_sound {recordIndex : UInt32} {left rest : Bytes}
    {f : Option SequenceRecordInfo} (h : inspectRecord format recordIndex left = .ok (f, rest)) :
    ∃ x : SequenceRecord, x.Legal format ∧ left = x.encode ++ rest ∧ f = x.info recordIndex := by
  unfold inspectRecord at h
  cases hm : u8.decode left with
  | none =>
    rw [hm] at h
    cases h
  | some read =>
  obtain ⟨d, body⟩ := read
  rw [hm] at h
  dsimp only at h
  by_cases hl : endOfSequence < d
  · rw [if_pos hl] at h
    cases h
  rw [if_neg hl] at h
  by_cases hend : d = endOfSequence
  · rw [if_pos hend] at h
    cases h
    refine ⟨.endOfSequence, trivial, ?_, rfl⟩
    rw [u8.eq_encode_append hm, hend]
    rfl
  rw [if_neg hend] at h
  cases ht : (u32.pair (u32.pair u32)).decode body with
  | none =>
    rw [ht] at h
    cases h
  | some t =>
  obtain ⟨⟨s, u, r⟩, l'⟩ := t
  rw [ht] at h
  dsimp only at h
  by_cases hs : l'.length < r.toNat ∨
      format.comBufferSerializedSize < r.toNat + 2 ∨ fwComBufferMaxSize < r.toNat
  · rw [if_pos hs] at h
    cases h
  rw [if_neg hs] at h
  cases hp : CmdPacket.deserializeFrom (l'.take r.toNat) with
  | none =>
    rw [hp] at h
    cases h
  | some p =>
  rw [hp] at h
  cases h
  obtain ⟨htk, har⟩ := (CmdPacket.deserializeFrom_eq_some_iff _ p).mp hp
  have hln : p.serialize.length = r.toNat := by
    rw [← htk, List.length_take]
    omega
  have hds : d < endOfSequence :=
    UInt8.lt_of_le_of_ne (UInt8.not_lt.mp hl) hend
  refine ⟨.command d s u p, ⟨hds, har, by omega⟩, ?_, ?_⟩
  · rw [SequenceRecord.encode, hln, UInt32.ofNat_toNat, List.append_assoc, List.append_assoc,
      ← htk, List.take_append_drop, ← (u32.pair (u32.pair u32)).eq_encode_append ht,
      ← u8.eq_encode_append hm]
  · rw [SequenceRecord.info, htk]

theorem inspectRecords_encode {l : List SequenceRecord}
    (h : ∀ r ∈ l, r.Legal format) (n : UInt32) (rest : Bytes) :
    inspectRecords format l.length n (l.flatMap SequenceRecord.encode ++ rest) =
      .ok (SequenceRecord.infos n l, rest) := by
  induction l generalizing n with
  | nil => rfl
  | cons r _ ih =>
    have ht := ih (fun x hr => h x (List.mem_cons_of_mem _ hr)) (n + 1)
    rw [List.length_cons, inspectRecords, List.flatMap_cons, List.append_assoc,
      inspectRecord_encode (h r List.mem_cons_self)]
    dsimp only
    rw [ht]
    rfl

theorem inspectRecords_sound {c : ℕ} {r : UInt32} {left rest : Bytes} {f : List SequenceRecordInfo}
    (h : inspectRecords format c r left = .ok (f, rest)) :
    ∃ records : List SequenceRecord, records.length = c ∧
      (∀ x ∈ records, x.Legal format) ∧
      left = records.flatMap SequenceRecord.encode ++ rest ∧
      f = SequenceRecord.infos r records := by
  induction c generalizing r left f with
  | zero =>
    cases h
    exact ⟨[], rfl, by simp, rfl, rfl⟩
  | succ c ih =>
    rw [inspectRecords] at h
    cases hf : inspectRecord format r left with
    | error =>
      rw [hf] at h
      cases h
    | ok x =>
    obtain ⟨first, l'⟩ := x
    rw [hf] at h
    dsimp only at h
    cases ho : inspectRecords format c (r + 1) l' with
    | error =>
      rw [ho] at h
      cases h
    | ok o =>
    obtain ⟨l, left''⟩ := o
    rw [ho] at h
    cases h
    obtain ⟨x, hl, rfl, rfl⟩ := inspectRecord_sound hf
    obtain ⟨records, rfl, hall, rfl, rfl⟩ := ih ho
    refine ⟨x :: records, rfl, List.forall_mem_cons.mpr ⟨hl, hall⟩, ?_, rfl⟩
    rw [List.flatMap_cons, List.append_assoc]

end SequenceFileInspector

structure SequenceFile where
  timeBase : UInt16
  timeContext : UInt8
  records : List SequenceRecord

namespace SequenceFile

open SequenceFileInspector

variable {format : SequenceFileFormat} {validTime : TimeFrame}

def recordBytes (file : SequenceFile) : Bytes := file.records.flatMap SequenceRecord.encode

/-- The codec of the header: payload length, record count, time base and time context. -/
abbrev header : WireCodec (UInt32 × UInt32 × UInt16 × UInt8) := u32.pair (u32.pair (u16.pair u8))

/-- The header and the records; the payload is the records and the checksum. -/
def covered (file : SequenceFile) : Bytes :=
  header.encode (UInt32.ofNat (file.recordBytes.length + 4), UInt32.ofNat file.records.length,
    file.timeBase, file.timeContext) ++ file.recordBytes

def encode (format : SequenceFileFormat) (file : SequenceFile) : Bytes :=
  file.covered ++ u32.encode (computedCrc format file.covered)

/-- A file for the given time: there is a record, every record is legal, the payload length fits
its field, and time base and context match or do not matter. -/
structure Legal (format : SequenceFileFormat) (validTime : TimeFrame) (file : SequenceFile) : Prop where
  records_ne_nil : file.records ≠ []
  records_legal : ∀ record ∈ file.records, record.Legal format
  payload_fits : file.recordBytes.length + 4 < 2 ^ 32
  timeBase : file.timeBase = tbDontCare ∨ file.timeBase = validTime.timeBase
  timeContext : file.timeContext = fwContextDontCare ∨ file.timeContext = validTime.timeContext

@[simp] theorem header_length (f : UInt32 × UInt32 × UInt16 × UInt8) :
    (header.encode f).length = headerSize := by
  obtain ⟨fs, n, tb, t⟩ := f
  simp [header, WireCodec.pair, headerSize]

theorem covered_length (file : SequenceFile) :
    file.covered.length = headerSize + file.recordBytes.length := by
  rw [covered, List.length_append, header_length]

variable {file : SequenceFile}

theorem Legal.sizes (h : file.Legal format validTime) :
    (UInt32.ofNat (file.recordBytes.length + 4)).toNat = file.recordBytes.length + 4 ∧
      (UInt32.ofNat file.records.length).toNat = file.records.length := by
  have hcount : file.records.length ≤ file.recordBytes.length :=
    SequenceRecord.length_le_flatMap file.records
  have hf := h.payload_fits
  have hs : UInt32.size = 2 ^ 32 := rfl
  exact ⟨UInt32.toNat_ofNat_of_lt' (by omega), UInt32.toNat_ofNat_of_lt' (by omega)⟩

theorem inspectBody_encode (h : file.Legal format validTime) :
    inspectBody format (file.encode format) (UInt32.ofNat file.records.length) =
      .ok { crc := computedCrc format file.covered, records := SequenceRecord.infos 0 file.records } := by
  have hs : (file.encode format).length - 4 = file.covered.length := by
    rw [encode, List.length_append]
    simp
  have hr := inspectRecords_encode h.records_legal 0 []
  rw [List.append_nil] at hr
  have hcrc := u32.decode_encode (computedCrc format file.covered) []
  rw [List.append_nil] at hcrc
  have hdr : file.covered.drop headerSize = file.recordBytes := by
    rw [covered, ← header_length, List.drop_left]
  unfold inspectBody
  rw [hs, encode, List.take_left, List.drop_left]
  dsimp only
  rw [hcrc]
  dsimp only
  rw [if_neg (not_not.mpr rfl), h.sizes.2, hdr, recordBytes, hr]
  rfl

theorem inspectBytes_encode (h : file.Legal format validTime)
    (hbs : format.isTimeBase file.timeBase = true) :
    inspectBytes format validTime (file.encode format) =
      .ok { crc := computedCrc format file.covered, records := SequenceRecord.infos 0 file.records } := by
  have hl : (file.encode format).length = headerSize + (file.recordBytes.length + 4) := by
    rw [encode, List.length_append, covered_length]
    simp
    omega
  have hh : header.decode (file.encode format) = some ((UInt32.ofNat (file.recordBytes.length + 4),
      UInt32.ofNat file.records.length, file.timeBase, file.timeContext),
      file.recordBytes ++ u32.encode (computedCrc format file.covered)) := by
    rw [encode, covered, List.append_assoc, decode_encode]
  have hcount : UInt32.ofNat file.records.length ≠ 0 := by
    intro hz
    have hlen := h.sizes.2
    rw [hz] at hlen
    exact h.records_ne_nil (List.length_eq_zero_iff.mp hlen.symm)
  have htb : ¬(file.timeBase ≠ tbDontCare ∧ file.timeBase ≠ validTime.timeBase) := by
    rw [not_and_or, not_not, not_not]
    exact h.timeBase
  have htc : ¬(file.timeContext ≠ fwContextDontCare ∧ file.timeContext ≠ validTime.timeContext) := by
    rw [not_and_or, not_not, not_not]
    exact h.timeContext
  unfold inspectBytes
  rw [if_neg (by omega), hh]
  dsimp only
  rw [hbs, if_neg (by decide), h.sizes.1, if_neg (not_not.mpr hl.symm), if_neg hcount,
    if_neg htb, if_neg htc]
  exact inspectBody_encode h

variable {inspection : SequenceInspection}

/-- The last four bytes hold the checksum of the others, and between header and checksum there
are exactly as many records as the header counts. -/
theorem inspectBody_sound {b : Bytes} {n : UInt32} (hln : 4 ≤ b.length)
    (h : inspectBody format b n = .ok inspection) :
    ∃ (f : Bytes) (records : List SequenceRecord),
      b = f ++ u32.encode (computedCrc format f) ∧
      records.length = n.toNat ∧ (∀ r ∈ records, r.Legal format) ∧
      f.drop headerSize = records.flatMap SequenceRecord.encode ∧
      inspection = { crc := computedCrc format f, records := SequenceRecord.infos 0 records } := by
  unfold inspectBody at h
  dsimp only at h
  cases hs : u32.decode (b.drop (b.length - 4)) with
  | none =>
    rw [hs] at h
    cases h
  | some s =>
  obtain ⟨storedCrc, tail⟩ := s
  rw [hs] at h
  dsimp only at h
  have ht : b.drop (b.length - 4) = u32.encode storedCrc := by
    have hdr := u32.eq_encode_append hs
    have hlen := congrArg List.length hdr
    rw [List.length_drop, List.length_append, u32_encode_length] at hlen
    rw [hdr, List.length_eq_zero_iff.mp (by omega : tail.length = 0), List.append_nil]
  by_cases hcrc : storedCrc = computedCrc format (b.take (b.length - 4))
  swap
  · rw [if_pos hcrc] at h
    cases h
  rw [if_neg (not_not.mpr hcrc)] at h
  cases hr : inspectRecords format n.toNat 0 ((b.take (b.length - 4)).drop headerSize) with
  | error =>
    rw [hr] at h
    cases h
  | ok fn =>
  obtain ⟨i, left⟩ := fn
  rw [hr] at h
  dsimp only at h
  by_cases hl : left = []
  swap
  · rw [if_pos hl] at h
    cases h
  rw [if_neg (not_not.mpr hl)] at h
  cases h
  obtain ⟨records, hc, hlg, hby, rfl⟩ := inspectRecords_sound hr
  rw [hl, List.append_nil] at hby
  refine ⟨b.take (b.length - 4), records, ?_, hc, hlg, hby, by rw [hcrc]⟩
  rw [← hcrc, ← ht, List.take_append_drop]

theorem inspectBytes_sound {b : Bytes} (h : inspectBytes format validTime b = .ok inspection) :
    ∃ file : SequenceFile, file.Legal format validTime ∧ b = file.encode format ∧
      inspection = { crc := computedCrc format file.covered
                     records := SequenceRecord.infos 0 file.records } := by
  unfold inspectBytes at h
  by_cases hs : b.length < headerSize + 4
  · rw [if_pos hs] at h
    cases h
  rw [if_neg hs] at h
  cases hh : header.decode b with
  | none =>
    rw [hh] at h
    cases h
  | some read =>
  obtain ⟨⟨f, n, tb, t⟩, rest⟩ := read
  rw [hh] at h
  dsimp only at h
  by_cases hbs : (!format.isTimeBase tb) = true
  · rw [if_pos hbs] at h
    cases h
  rw [if_neg hbs] at h
  by_cases ht : headerSize + f.toNat = b.length
  swap
  · rw [if_pos ht] at h
    cases h
  rw [if_neg (not_not.mpr ht)] at h
  by_cases hnone : n = 0
  · rw [if_pos hnone] at h
    cases h
  rw [if_neg hnone] at h
  by_cases htb : tb ≠ tbDontCare ∧ tb ≠ validTime.timeBase
  · rw [if_pos htb] at h
    cases h
  rw [if_neg htb] at h
  by_cases htc : t ≠ fwContextDontCare ∧ t ≠ validTime.timeContext
  · rw [if_pos htc] at h
    cases h
  rw [if_neg htc] at h
  obtain ⟨front, records, hby, hn, hl, hdr, rfl⟩ := inspectBody_sound (by omega) h
  -- the header lies in front of the checksum, so it is a part of what the checksum covers
  have hsp := header.eq_encode_append hh
  have hf : headerSize ≤ front.length := by
    rw [hby, List.length_append, u32_encode_length] at hs
    omega
  have hhd : front.take headerSize = header.encode (f, n, tb, t) := by
    have htk := congrArg (List.take headerSize) hsp
    rw [hby, List.take_append_of_le_length hf, ← header_length, List.take_left] at htk
    rwa [← header_length]
  have hp : (records.flatMap SequenceRecord.encode).length + 4 = f.toNat := by
    rw [hby, List.length_append, u32_encode_length] at ht
    rw [← hdr, List.length_drop]
    omega
  have hc : covered ⟨tb, t, records⟩ = front := by
    rw [covered, recordBytes]
    dsimp only
    rw [hp, hn, UInt32.ofNat_toNat, UInt32.ofNat_toNat, ← hhd, ← hdr, List.take_append_drop]
  refine ⟨⟨tb, t, records⟩, ⟨?_, hl, ?_, ?_, ?_⟩, ?_, by rw [hc]⟩
  · rintro rfl
    exact hnone (UInt32.toNat_inj.mp hn.symm)
  · exact hp ▸ f.toNat_lt
  · rwa [not_and_or, not_not, not_not] at htb
  · rwa [not_and_or, not_not, not_not] at htc
  · rw [encode, hc]
    exact hby

/-- The inspector reports a byte string valid exactly if it is the encoding of a legal file, and
then it returns the checksum and the commands of that file. -/
theorem inspect_accepts_exactly (format : SequenceFileFormat) (validTime : TimeFrame)
    (hdontCare : format.isTimeBase tbDontCare = true)
    (hvalid : format.isTimeBase validTime.timeBase = true) (bytes : Bytes)
    (inspection : SequenceInspection) :
    inspect format validTime (.content bytes) = .ok inspection ↔
      ∃ file : SequenceFile, file.Legal format validTime ∧ bytes = file.encode format ∧
        inspection = { crc := computedCrc format file.covered
                       records := SequenceRecord.infos 0 file.records } := by
  constructor
  · exact inspectBytes_sound
  · rintro ⟨file, hlegal, rfl, rfl⟩
    apply inspectBytes_encode hlegal
    rcases hlegal.timeBase with hbase | hbase
    · rw [hbase]
      exact hdontCare
    · rw [hbase]
      exact hvalid

def noOpSequence : SequenceFile := ⟨2, 0, [.command 0 5 0 ⟨0x1, []⟩, .endOfSequence]⟩

theorem inspect_accepts_noOpSequence :
    inspect defaultFormat ⟨2, 0⟩ (.content (noOpSequence.encode defaultFormat)) =
      .ok { crc := computedCrc defaultFormat noOpSequence.covered
            records := [⟨0, 0x1, [0, 0, 0, 0, 0, 1]⟩] } :=
  (inspect_accepts_exactly defaultFormat ⟨2, 0⟩ (by decide) (by decide) _ _).mpr
    ⟨noOpSequence, ⟨by simp [noOpSequence], by decide, by decide, by decide, by decide⟩, rfl, rfl⟩

end SequenceFile

end ObcFlight
