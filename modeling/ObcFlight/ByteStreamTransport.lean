import Mathlib.Data.List.Basic
import ObcFlight.Machine
import ObcFlight.WireCodec

/-!
# Request and reply over a byte stream

An exchange opens the stream if it is closed, writes a request and reads up to the delimiter. The
peer answers every request that was written with one delimited reply, in order and after any delay,
and what it has answered stays on its way until it is read. A read that times out leaves the stream
open, so that the reply it waited for is met by the next exchange.
-/

namespace ObcFlight

inductive LinkKind where
  | tcp
  | serial
  deriving DecidableEq

inductive ByteStreamStatus where
  | ok
  | timeout
  | ioError
  deriving DecidableEq

/-- How a write or a read fails. -/
inductive LinkFault where
  | timeout
  | ioError
  deriving DecidableEq

def LinkFault.status : LinkFault → ByteStreamStatus
  | .timeout => .timeout
  | .ioError => .ioError

structure ByteStreamStats where
  txBytes : UInt32 := 0
  rxBytes : UInt32 := 0
  txErrors : UInt32 := 0
  rxErrors : UInt32 := 0
  deriving DecidableEq

/-- A transport and the answers of its peer that have not been read. What is on its way over a
closed socket is lost. A serial line goes on, and opening it drops only what has arrived. -/
structure ByteStreamTransport (kind : LinkKind) where
  connected : Bool := false
  stats : ByteStreamStats := {}
  inFlight : Bytes := []
  closed : kind = .tcp → connected = false → inFlight = [] := by simp

/-- An exchange and what happens meanwhile: whether the stream can be opened and how much of what
has arrived is then dropped, whether the write fails, the reply, how many bytes can be read in time,
and how the read fails when that is not enough. -/
structure Exchange (delimiter : UInt8) where
  request : Bytes
  connects : Bool
  flushed : ℕ
  writeFault : Option LinkFault
  reply : Bytes
  arrived : ℕ
  readFault : LinkFault
  delimited : delimiter ∉ reply

def readDelimited (delimiter : UInt8) (fault : LinkFault) :
    ℕ → Bytes → ByteStreamStatus × Bytes × Bytes
  | 0, bytes => (fault.status, [], bytes)
  | _ + 1, [] => (fault.status, [], [])
  | n + 1, ch :: bytes =>
    if ch = delimiter then (.ok, [], bytes)
    else
      let rest := readDelimited delimiter fault n bytes
      (rest.1, ch :: rest.2.1, rest.2.2)

namespace ByteStreamTransport

variable {kind : LinkKind} {delimiter : UInt8}

variable (t : ByteStreamTransport kind)

def connectUnlocked (e : Exchange delimiter) : ByteStreamTransport kind :=
  if t.connected then t
  else if e.connects then
    { connected := true, stats := t.stats, inFlight := t.inFlight.drop e.flushed }
  else { t with stats := { t.stats with txErrors := t.stats.txErrors + 1 } }

def disconnectUnlocked : ByteStreamTransport kind where
  connected := false
  stats := t.stats
  inFlight := if kind = .tcp then [] else t.inFlight
  closed := fun h _ => if_pos h

def countTxError : ByteStreamTransport kind :=
  { t with stats := { t.stats with txErrors := t.stats.txErrors + 1 } }

/-- An open transport after a read. -/
def received (h : t.connected = true) (stats : ByteStreamStats)
    (left : Bytes) : ByteStreamTransport kind where
  connected := t.connected
  stats := stats
  inFlight := left
  closed := by simp [h]

def exchangeDelimited (e : Exchange delimiter) :
    ByteStreamStatus × Bytes × ByteStreamTransport kind :=
  let t := t.connectUnlocked e
  if h : t.connected = true then
    match e.writeFault with
    | some fault => (fault.status, [], t.countTxError.disconnectUnlocked)
    | none =>
      let sent := { t.stats with txBytes := t.stats.txBytes + e.request.length.toUInt32 }
      let read := readDelimited delimiter e.readFault e.arrived (t.inFlight ++ e.reply ++ [delimiter])
      match read.1 with
      | .ok =>
        (.ok, read.2.1, t.received h
          { sent with rxBytes := sent.rxBytes + (read.2.1.length + 1).toUInt32 } read.2.2)
      | .timeout =>
        (.timeout, read.2.1, t.received h { sent with rxErrors := sent.rxErrors + 1 } read.2.2)
      | .ioError =>
        (.ioError, read.2.1,
          (t.received h { sent with rxErrors := sent.rxErrors + 1 } read.2.2).disconnectUnlocked)
  else (.ioError, [], t)

/-- What an exchange returned, next to the reply of the peer to its request. -/
structure Outcome where
  status : ByteStreamStatus
  response : Bytes
  reply : Bytes
  deriving DecidableEq

def machine (kind : LinkKind) (delimiter : UInt8) :
    Machine (ByteStreamTransport kind) (Exchange delimiter) Outcome where
  step t e :=
    let r := t.exchangeDelimited e
    (r.2.2, [⟨r.1, r.2.1, e.reply⟩])

end ByteStreamTransport

inductive RadioTransportStatus where
  | ok
  | timeout
  | transportError
  | invalidResponse
  deriving DecidableEq

/-- The parser of the status line updates the status it is given and tells whether the line was
good. -/
def requestAndParse {ρ : Type*} (parseStatusLine : Bytes → ρ → Bool × ρ) (status : ByteStreamStatus)
    (response : Bytes) (radio : ρ) : RadioTransportStatus × ρ :=
  match status with
  | .timeout => (.timeout, radio)
  | .ioError => (.transportError, radio)
  | .ok =>
    let parsed := parseStatusLine response radio
    (if parsed.1 then .ok else .invalidResponse, parsed.2)

theorem readDelimited_of_lt {delimiter : UInt8} {p : Bytes} (f : LinkFault) {n : ℕ} (rest : Bytes)
    (hp : delimiter ∉ p) (hn : p.length < n) :
    readDelimited delimiter f n (p ++ delimiter :: rest) = (.ok, p, rest) := by
  induction p generalizing n with
  | nil =>
    obtain ⟨m, rfl⟩ := Nat.exists_eq_add_of_lt hn
    simp [readDelimited]
  | cons _ _ ih =>
    obtain ⟨hc, hp⟩ := List.ne_and_not_mem_of_not_mem_cons hp
    cases n with
    | zero => simp at hn
    | succ =>
      rw [List.cons_append, readDelimited, if_neg (Ne.symm hc), ih hp (by simpa using hn)]

theorem readDelimited_of_le {delimiter : UInt8} {p : Bytes} (f : LinkFault) {n : ℕ} (rest : Bytes)
    (hp : delimiter ∉ p) (hn : n ≤ p.length) :
    readDelimited delimiter f n (p ++ delimiter :: rest) =
      (f.status, p.take n, p.drop n ++ delimiter :: rest) := by
  induction p generalizing n with
  | nil =>
    obtain rfl := Nat.le_zero.mp hn
    rfl
  | cons _ _ ih =>
    obtain ⟨hc, hp⟩ := List.ne_and_not_mem_of_not_mem_cons hp
    cases n with
    | zero => rfl
    | succ =>
      rw [List.cons_append, readDelimited, if_neg (Ne.symm hc), ih hp (Nat.le_of_succ_le_succ hn)]
      rfl

theorem readDelimited_ok {delimiter : UInt8} {f : LinkFault} {n : ℕ} {bytes : Bytes}
    (h : (readDelimited delimiter f n bytes).1 = .ok) :
    bytes = (readDelimited delimiter f n bytes).2.1 ++
      delimiter :: (readDelimited delimiter f n bytes).2.2 := by
  induction n generalizing bytes with
  | zero => cases f <;> simp [readDelimited, LinkFault.status] at h
  | succ _ ih =>
    cases bytes with
    | nil => cases f <;> simp [readDelimited, LinkFault.status] at h
    | cons ch =>
      by_cases hc : ch = delimiter
      · simp [readDelimited, hc]
      · rw [readDelimited, if_neg hc] at h ⊢
        rw [List.cons_append, ← ih h]

namespace ByteStreamTransport

variable {kind : LinkKind} {delimiter : UInt8} {t : ByteStreamTransport kind}

theorem connectUnlocked_inFlight (h : t.inFlight = [])
    (e : Exchange delimiter) : (t.connectUnlocked e).inFlight = [] := by
  unfold connectUnlocked
  split
  · exact h
  · split
    · simp [h]
    · exact h

/-- With nothing in flight the only delimiter is the one after the reply. -/
theorem exchangeDelimited_response (h : t.inFlight = [])
    {e : Exchange delimiter} (hok : (t.exchangeDelimited e).1 = .ok) :
    (t.exchangeDelimited e).2.1 = e.reply := by
  have hn := connectUnlocked_inFlight h e
  unfold exchangeDelimited at hok ⊢
  by_cases hc : (t.connectUnlocked e).connected = true
  · rw [dif_pos hc] at hok ⊢
    cases hw : e.writeFault with
    | some fault => cases fault <;> simp [hw, LinkFault.status] at hok
    | none =>
      simp only [hw, hn, List.nil_append] at hok ⊢
      cases hr : (readDelimited delimiter e.readFault e.arrived (e.reply ++ [delimiter])).1 with
      | ok =>
        have he := readDelimited_ok hr
        exact ((List.append_cons_inj_of_notMem e.delimited List.not_mem_nil).mp he).1.symm
      | timeout => simp [hr] at hok
      | ioError => simp [hr] at hok
  · simp [dif_neg hc] at hok

/-- The request is written and the read gives up before the end of the reply, with the rest of it
still to come: the socket stays open, or the line is serial. -/
def Abandons (t : ByteStreamTransport kind) (e : Exchange delimiter) : Prop :=
  (t.connectUnlocked e).connected = true ∧ e.writeFault = none ∧ e.arrived ≤ e.reply.length ∧
    (kind = .tcp → e.readFault = .timeout)

/-- What an exchange that found nothing in flight leaves there. -/
theorem exchangeDelimited_inFlight_iff (h : t.inFlight = []) (e : Exchange delimiter) :
    (t.exchangeDelimited e).2.2.inFlight = [] ↔ ¬ t.Abandons e := by
  have hn := connectUnlocked_inFlight h e
  unfold exchangeDelimited Abandons
  by_cases hc : (t.connectUnlocked e).connected = true
  · rw [dif_pos hc]
    cases hw : e.writeFault with
    | some =>
      refine iff_of_true ?_ (by simp)
      simp [disconnectUnlocked, countTxError, hn]
    | none =>
      simp only [hn, List.nil_append, hc, true_and]
      by_cases ha : e.arrived ≤ e.reply.length
      · rw [readDelimited_of_le e.readFault [] e.delimited ha]
        cases e.readFault with
        | timeout => simp [LinkFault.status, received, ha]
        | ioError => simp [LinkFault.status, received, disconnectUnlocked, ha]
      · rw [readDelimited_of_lt e.readFault [] e.delimited (not_le.mp ha)]
        simp [received, ha]
  · rw [dif_neg hc]
    exact iff_of_true hn fun ha => hc ha.1

/-- The exchange that meets nothing but bytes. -/
def undisturbed (delimiter : UInt8) (reply : Bytes) (arrived : ℕ) (h : delimiter ∉ reply) :
    Exchange delimiter where
  request := []
  connects := true
  flushed := 0
  writeFault := none
  reply := reply
  arrived := arrived
  readFault := .timeout
  delimited := h

theorem exchangeDelimited_undisturbed (t : ByteStreamTransport kind) {r : Bytes}
    (hr : delimiter ∉ r) {p rest : Bytes} (hp : delimiter ∉ p)
    (he : t.inFlight ++ r ++ [delimiter] = p ++ delimiter :: rest) :
    (t.exchangeDelimited (undisturbed delimiter r (p.length + 1) hr)).1 = .ok ∧
      (t.exchangeDelimited (undisturbed delimiter r (p.length + 1) hr)).2.1 = p := by
  have hc : (t.connectUnlocked (undisturbed delimiter r (p.length + 1) hr)).connected = true := by
    unfold connectUnlocked
    split
    · assumption
    · rfl
  have hi : (t.connectUnlocked (undisturbed delimiter r (p.length + 1) hr)).inFlight =
      t.inFlight := by
    unfold connectUnlocked
    split <;> rfl
  have hread := readDelimited_of_lt .timeout rest hp (Nat.lt_succ_self p.length)
  unfold exchangeDelimited
  rw [dif_pos hc]
  simp only [undisturbed] at hi ⊢
  simp only [hi, he, hread, and_self]

/-- Otherwise the bytes in flight come first: they end the read at their own delimiter or are put
before the reply. -/
theorem exists_foreign_response (h : t.inFlight ≠ []) :
    ∃ e : Exchange delimiter, (t.exchangeDelimited e).1 = .ok ∧
      (t.exchangeDelimited e).2.1 ≠ e.reply := by
  by_cases hd : delimiter ∈ t.inFlight
  · obtain ⟨p, rest, he, hp⟩ := List.eq_append_cons_of_mem hd
    have hr : delimiter ∉ p ++ [delimiter + 1] := by
      rw [List.mem_append, List.mem_singleton]
      refine not_or.mpr ⟨hp, fun h => ?_⟩
      simp at h
    have hs : t.inFlight ++ (p ++ [delimiter + 1]) ++ [delimiter] =
        p ++ delimiter :: (rest ++ (p ++ [delimiter + 1]) ++ [delimiter]) := by simp [he]
    obtain ⟨hok, hresp⟩ := t.exchangeDelimited_undisturbed hr hp hs
    refine ⟨_, hok, ?_⟩
    rw [hresp]
    intro h
    have hl := congrArg List.length h
    simp [undisturbed] at hl
  · have hs : t.inFlight ++ [] ++ [delimiter] = t.inFlight ++ delimiter :: [] := by simp
    obtain ⟨hok, hresp⟩ := t.exchangeDelimited_undisturbed List.not_mem_nil hd hs
    exact ⟨_, hok, by rw [hresp]; exact h⟩

/-- A state returns only own replies exactly when nothing is in flight. An exchange leaves it so unless
it abandons its reply, and so in a run without such an exchange all replies are own ones. -/
theorem exchange_own_reply_iff (kind : LinkKind) (delimiter : UInt8) :
    (∀ t : ByteStreamTransport kind, (∀ e : Exchange delimiter,
        (t.exchangeDelimited e).1 = .ok → (t.exchangeDelimited e).2.1 = e.reply) ↔
      t.inFlight = []) ∧
    (∀ es : List (Exchange delimiter),
      (machine kind delimiter).Admits (fun t _ => t.inFlight = []) {} es →
      ∀ o ∈ (machine kind delimiter).trace {} es,
        (o.status = .ok → o.response = o.reply) ∧
        ∀ (ρ : Type) (parseStatusLine : Bytes → ρ → Bool × ρ) (radio : ρ),
          (requestAndParse parseStatusLine o.status o.response radio).1 = .ok →
          parseStatusLine o.reply radio =
            (true, (requestAndParse parseStatusLine o.status o.response radio).2)) ∧
    (∀ (t : ByteStreamTransport kind) (e : Exchange delimiter), t.inFlight = [] →
      ((t.exchangeDelimited e).2.2.inFlight = [] ↔ ¬ t.Abandons e)) ∧
    ∀ es : List (Exchange delimiter),
      (machine kind delimiter).Admits (fun t e => ¬ t.Abandons e) {} es →
      (machine kind delimiter).Admits (fun t _ => t.inFlight = []) {} es := by
  refine ⟨fun t => ⟨fun h => ?_, fun h e => exchangeDelimited_response h⟩, fun es ha o ho => ?_,
    fun t e h => exchangeDelimited_inFlight_iff h e,
    fun es ha => ha.invariant _ (fun t e hk h => (exchangeDelimited_inFlight_iff h e).mpr hk) rfl⟩
  · by_contra hn
    obtain ⟨e, hok, hne⟩ : ∃ e : Exchange delimiter, _ := exists_foreign_response hn
    exact hne (h e hok)
  · obtain ⟨pre, e, post, rfl, he⟩ := (machine kind delimiter).exists_of_mem_trace ho
    have hs := ha.after.1
    obtain rfl := List.mem_singleton.mp he
    have hown := fun hok => exchangeDelimited_response (e := e) hs hok
    refine ⟨hown, fun ρ parse radio hp => ?_⟩
    dsimp only at hown hp ⊢
    generalize exchangeDelimited _ e = r at hown hp ⊢
    cases hst : r.1 with
    | timeout | ioError => simp [requestAndParse, hst] at hp
    | ok =>
      simp only [requestAndParse, hst, hown hst] at hp ⊢
      split at hp
      · rename_i hb
        rw [← hb]
      · simp at hp

theorem two_exchanges_own_replies :
    let es := [undisturbed 0x0A [0x31] 2 (by decide), undisturbed 0x0A [0x32] 2 (by decide)]
    (machine .tcp 0x0A).trace {} es = [⟨.ok, [0x31], [0x31]⟩, ⟨.ok, [0x32], [0x32]⟩] ∧
      ∀ o ∈ (machine .tcp 0x0A).trace {} es, o.status = .ok → o.response = o.reply := by
  intro es
  have hkept : (machine .tcp 0x0A).Admits (fun t e => ¬ t.Abandons e) {} es :=
    ⟨fun h => absurd h.2.2.1 (by decide), fun h => absurd h.2.2.1 (by decide), trivial⟩
  have hrun := exchange_own_reply_iff .tcp 0x0A
  exact ⟨by decide, fun o ho => (hrun.2.1 es (hrun.2.2.2 es hkept) o ho).1⟩

/-- The first reply comes after the read has given up, and the second exchange returns it. -/
theorem late_reply_answers_next_request :
    ((machine .tcp 0x0A).trace {} [undisturbed 0x0A [0x31] 0 (by decide),
      undisturbed 0x0A [0x32] 2 (by decide)]) = [⟨.timeout, [], [0x31]⟩, ⟨.ok, [0x31], [0x32]⟩] ∧
    ((machine .serial 0x0A).trace {} [undisturbed 0x0A [0x31] 0 (by decide),
      undisturbed 0x0A [0x32] 2 (by decide)]) =
        [⟨.timeout, [], [0x31]⟩, ⟨.ok, [0x31], [0x32]⟩] := by
  decide

end ByteStreamTransport

end ObcFlight
