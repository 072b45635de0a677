import Mathlib.Data.List.DropRight
import ObcFlight.WireCodec

/-!
# Sentences from the serial receiver

The receiver's bytes are read one at a time in calls that end with a sentence, with a deadline or
with an error. A line in progress, and the discarding of one that is too long, are carried from call
to call, so that the sentences are those of the stream however the calls divide it.
-/

namespace ObcFlight

/-- What a pass of the reading loop meets. -/
inductive SerialEvent where
  | byte (ch : UInt8)
  | interrupted
  | ended
  deriving DecidableEq

structure SerialGpsSentenceSource where
  buffer : Bytes := []
  discardUntilNewline : Bool := false
  deriving DecidableEq

namespace SerialGpsSentenceSource

def maxSerialBufferLength : ℕ := 192

def newline : UInt8 := 0x0A

def carriageReturn : UInt8 := 0x0D

def normalizeSentence (sentence : Bytes) : Bytes :=
  sentence.rdropWhile fun ch => ch == carriageReturn || ch == newline

/-- One call: the sentence if there is one, and the events that are left for the next call. -/
def nextSentence (s : SerialGpsSentenceSource) :
    List SerialEvent → Option Bytes × SerialGpsSentenceSource × List SerialEvent
  | [] => (none, s, [])
  | .ended :: events => (none, s, events)
  | .interrupted :: events => nextSentence s events
  | .byte ch :: events =>
    if s.discardUntilNewline then nextSentence (if ch = newline then {} else s) events
    else if ch = newline then
      if normalizeSentence s.buffer = [] then nextSentence { s with buffer := [] } events
      else (some (normalizeSentence s.buffer), { s with buffer := [] }, events)
    else if maxSerialBufferLength < (s.buffer ++ [ch]).length then
      (none, { buffer := [], discardUntilNewline := true }, events)
    else nextSentence { s with buffer := s.buffer ++ [ch] } events

/-- The sentences of so many calls in a row. -/
def sentences (s : SerialGpsSentenceSource) : ℕ → List SerialEvent → List Bytes
  | 0, _ => []
  | n + 1, events =>
    let call := s.nextSentence events
    call.1.toList ++ call.2.1.sentences n call.2.2

def stream (events : List SerialEvent) : Bytes :=
  events.filterMap fun
    | .byte ch => some ch
    | _ => none

/-- The lines of a stream that are closed by a newline, the first one begun with the given bytes. -/
def lines (begun : Bytes) : Bytes → List Bytes
  | [] => []
  | ch :: bytes => if ch = newline then begun :: lines [] bytes else lines (begun ++ [ch]) bytes

/-- The sentence of a line, unless the line is too long or empty. -/
def sentenceOf (line : Bytes) : Option Bytes :=
  if maxSerialBufferLength < line.length ∨ normalizeSentence line = [] then none
  else some (normalizeSentence line)

theorem lines_spec (begun bytes : Bytes) (h : newline ∉ begun) :
    (∀ line ∈ lines begun bytes, newline ∉ line) ∧
      ∃ rest, newline ∉ rest ∧ begun ++ bytes = ((lines begun bytes).map (· ++ [newline])).flatten ++ rest := by
  induction bytes generalizing begun with
  | nil => exact ⟨nofun, begun, h, by simp [lines]⟩
  | cons ch _ ih =>
    by_cases hc : ch = newline
    · obtain ⟨hl, rest, hr, he⟩ := ih [] nofun
      rw [lines, if_pos hc]
      refine ⟨List.forall_mem_cons.mpr ⟨h, hl⟩, rest, hr, ?_⟩
      rw [List.nil_append] at he
      rw [hc, List.map_cons, List.flatten_cons, List.append_assoc, ← he, List.append_assoc]
      rfl
    · rw [lines, if_neg hc]
      have hb : newline ∉ begun ++ [ch] := by
        rw [List.mem_append, List.mem_singleton]
        exact not_or.mpr ⟨h, Ne.symm hc⟩
      obtain ⟨hl, rest, hr, he⟩ := ih (begun ++ [ch]) hb
      exact ⟨hl, rest, hr, by rw [← he, List.append_assoc, List.singleton_append]⟩

def kept (begun bytes : Bytes) : List Bytes := (lines begun bytes).filterMap sentenceOf

/-- The state after the bytes of a line in progress. -/
def Holds (s : SerialGpsSentenceSource) (begun : Bytes) : Prop :=
  if maxSerialBufferLength < begun.length then s.discardUntilNewline = true
  else s = { buffer := begun }

/-- A call takes the first of the events and leaves the rest of the sentences to the later ones. -/
def Divides (begun : Bytes) (events : List SerialEvent)
    (call : Option Bytes × SerialGpsSentenceSource × List SerialEvent) : Prop :=
  call.2.2.length ≤ events.length - 1 ∧
    ∃ begun', call.2.1.Holds begun' ∧
      kept begun (stream events) = call.1.toList ++ kept begun' (stream call.2.2)

theorem Divides.cons {begun begun' : Bytes} {event : SerialEvent} {events : List SerialEvent}
    {call : Option Bytes × SerialGpsSentenceSource × List SerialEvent} (h : Divides begun' events call)
    (hk : kept begun (stream (event :: events)) = kept begun' (stream events)) :
    Divides begun (event :: events) call := by
  obtain ⟨hlen, hrest⟩ := h
  refine ⟨?_, ?_⟩
  · rw [List.length_cons]
    omega
  · rwa [hk]

theorem kept_newline (begun bytes : Bytes) :
    kept begun (newline :: bytes) = (sentenceOf begun).toList ++ kept [] bytes := by
  unfold kept
  rw [lines, if_pos rfl]
  cases hs : sentenceOf begun <;> simp [hs]

theorem kept_of_ne {ch : UInt8} (h : ch ≠ newline) (begun bytes : Bytes) :
    kept begun (ch :: bytes) = kept (begun ++ [ch]) bytes := by
  rw [kept, lines, if_neg h, kept]

theorem nextSentence_divides (events : List SerialEvent) {s : SerialGpsSentenceSource} {begun : Bytes}
    (h : s.Holds begun) : Divides begun events (s.nextSentence events) := by
  induction events generalizing s begun with
  | nil => exact ⟨le_rfl, begun, h, rfl⟩
  | cons event events ih =>
    cases event with
    | ended => exact ⟨le_rfl, begun, h, rfl⟩
    | interrupted => exact (ih h).cons rfl
    | byte ch =>
      have hstream : stream (.byte ch :: events) = ch :: stream events := rfl
      have hnil : Holds {} [] := rfl
      unfold nextSentence
      by_cases hlong : maxSerialBufferLength < begun.length
      · have hd : s.discardUntilNewline = true := by
          rwa [Holds, if_pos hlong] at h
        rw [if_pos hd]
        split_ifs with hc
        · refine (ih hnil).cons ?_
          rw [hstream, hc, kept_newline, sentenceOf, if_pos (.inl hlong)]
          rfl
        · have hh : s.Holds (begun ++ [ch]) := by
            rw [Holds, if_pos (by rw [List.length_append]; omega)]
            exact hd
          exact (ih hh).cons (by rw [hstream, kept_of_ne hc])
      · obtain rfl : s = { buffer := begun } := by
          rwa [Holds, if_neg hlong] at h
        rw [if_neg (by simp)]
        split_ifs with hc hn hl
        · refine (ih hnil).cons ?_
          rw [hstream, hc, kept_newline, sentenceOf, if_pos (.inr hn)]
          rfl
        · refine ⟨le_rfl, [], rfl, ?_⟩
          rw [hstream, hc, kept_newline, sentenceOf, if_neg (not_or.mpr ⟨hlong, hn⟩)]
        · refine ⟨le_rfl, begun ++ [ch], ?_, by rw [hstream, kept_of_ne hc]; rfl⟩
          rw [Holds, if_pos hl]
        · have hh : Holds { buffer := begun ++ [ch] } (begun ++ [ch]) := by
            rw [Holds, if_neg hl]
          exact (ih hh).cons (by rw [hstream, kept_of_ne hc])

theorem sentences_eq {n : ℕ} {events : List SerialEvent} (hn : events.length ≤ n)
    {s : SerialGpsSentenceSource} {begun : Bytes} (h : s.Holds begun) :
    s.sentences n events = kept begun (stream events) := by
  induction n generalizing s begun events with
  | zero =>
    obtain rfl := List.length_eq_zero_iff.mp (Nat.le_zero.mp hn)
    rfl
  | succ _ ih =>
    obtain ⟨hlen, begun', hh, hk⟩ := nextSentence_divides events h
    rw [hk, sentences, ih (by omega) hh]

/-- However timeouts and interruptions divide the stream among the calls, they return the sentences
of its lines, in order. -/
theorem sentences_of_lines :
    (∀ (events : List SerialEvent) (n : ℕ), events.length ≤ n →
      sentences {} n events = (lines [] (stream events)).filterMap sentenceOf) ∧
    (∀ (events events' : List SerialEvent) (n n' : ℕ), stream events = stream events' →
      events.length ≤ n → events'.length ≤ n' → sentences {} n events = sentences {} n' events') ∧
    ∀ bytes, (∀ line ∈ lines [] bytes, newline ∉ line) ∧
      ∃ rest, newline ∉ rest ∧ bytes = ((lines [] bytes).map (· ++ [newline])).flatten ++ rest := by
  have hall (events : List SerialEvent) (n : ℕ) (hn : events.length ≤ n) :
      sentences {} n events = kept [] (stream events) := sentences_eq hn rfl
  refine ⟨hall, fun events events' n n' hs hn hn' => ?_, fun bytes => lines_spec [] bytes nofun⟩
  rw [hall events n hn, hall events' n' hn', hs]

end SerialGpsSentenceSource

end ObcFlight
