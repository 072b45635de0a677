import ObcFlight.CmdPacket
import ObcFlight.Machine
import ObcFlight.SlotTable

/-!
# The multiplexer of the command ports

Commands of both ingress ports go to one dispatcher under contexts of the multiplexer's own, and the
statuses of the dispatcher find their way back through a table of the commands under way. The
exchanges of a run, read from the start, say which commands are under way; the table holds these.
-/

namespace ObcFlight

structure CommandIngressMux.PendingDispatch where
  dispatchContext : UInt32
  originalContext : UInt32
  ingressPort : Port
  deriving DecidableEq

structure CommandIngressMux where
  pendingDispatches : List (Option CommandIngressMux.PendingDispatch) := List.replicate 8 none
  nextDispatchContext : UInt32 := 1

inductive MuxInput where
  | command (port : Port) (data : Bytes) (context : UInt32)
  | status (opCode cmdSeq : UInt32) (response : CmdResponse)
  deriving DecidableEq

inductive MuxOutput where
  | commandOut (data : Bytes) (context : UInt32)
  | commandStatusOut (port : Port) (opCode cmdSeq : UInt32) (response : CmdResponse)
  deriving DecidableEq

namespace CommandIngressMux

def allocateDispatchContext (next : UInt32) : UInt32 := if next + 1 = 0 then 1 else next + 1

variable (s : CommandIngressMux)

def rememberPendingDispatch (ingressPort : Port) (originalContext : UInt32) :
    Option CommandIngressMux :=
  (fillFirst ⟨s.nextDispatchContext, originalContext, ingressPort⟩ s.pendingDispatches).map fun slots =>
    { pendingDispatches := slots, nextDispatchContext := allocateDispatchContext s.nextDispatchContext }

def consumePendingDispatch (dispatchContext : UInt32) :
    Option (PendingDispatch × CommandIngressMux) :=
  (takeFirst (fun pending => pending.dispatchContext == dispatchContext) s.pendingDispatches).map fun r =>
    (r.1, { s with pendingDispatches := r.2 })

def commandOpcode (data : Bytes) : UInt32 := ((CmdPacket.deserializeFrom data).map (·.opcode)).getD 0

/-- A status that belongs to no command in the table goes to the first port as it is. -/
def handle : MuxInput → CommandIngressMux × List MuxOutput
  | .command port data context =>
    match s.rememberPendingDispatch port context with
    | none => (s, [.commandStatusOut port (commandOpcode data) context .executionError])
    | some s' => (s', [.commandOut data s.nextDispatchContext])
  | .status opCode cmdSeq response =>
    match s.consumePendingDispatch cmdSeq with
    | none => (s, [.commandStatusOut 0 opCode cmdSeq response])
    | some (pending, s') =>
      (s', [.commandStatusOut pending.ingressPort opCode pending.originalContext response])

def machine : Machine CommandIngressMux MuxInput MuxOutput := ⟨handle⟩

/-! ### Exchanges -/

abbrev Exchange := MuxInput × List MuxOutput

def exchange (i : MuxInput) : Exchange := (i, (s.handle i).2)

def exchanges : List MuxInput → List Exchange := (machine.observe fun s i => [s.exchange i]).trace {}

def dispatchOf : Exchange → Option PendingDispatch
  | (.command port _ context, [.commandOut _ dispatch]) => some ⟨dispatch, context, port⟩
  | _ => none

def dispatches (es : List Exchange) : List PendingDispatch := es.filterMap dispatchOf

/-- The commands under way after one more exchange. -/
def note (l : List PendingDispatch) : Exchange → List PendingDispatch
  | (.status _ cmdSeq _, _) => l.filter (·.dispatchContext ≠ cmdSeq)
  | e => (dispatchOf e).toList ++ l

/-- The commands that have been dispatched and have had no status since. -/
def outstanding (es : List Exchange) : List PendingDispatch := es.foldl note []

/-- What the multiplexer answers to an input, by what is under way. -/
inductive Answered (l : List PendingDispatch) : Exchange → Prop
  | returned (opCode response pending) (hp : pending ∈ l) :
      Answered l (.status opCode pending.dispatchContext response,
        [.commandStatusOut pending.ingressPort opCode pending.originalContext response])
  | unmatched (opCode cmdSeq response) (hn : ∀ pending ∈ l, pending.dispatchContext ≠ cmdSeq) :
      Answered l (.status opCode cmdSeq response, [.commandStatusOut 0 opCode cmdSeq response])
  | dispatched (port data context dispatch) (hr : l.length < 8) :
      Answered l (.command port data context, [.commandOut data dispatch])
  | refused (port data context) (hf : l.length = 8) :
      Answered l (.command port data context,
        [.commandStatusOut port (commandOpcode data) context .executionError])

/-- The table against the exchanges so far. -/
structure Tracks (es : List Exchange) (s : CommandIngressMux) : Prop where
  slots : s.pendingDispatches.length = 8
  table : s.pendingDispatches.reduceOption.Perm (outstanding es)
  next : (dispatches es).length + 1 < 2 ^ 32 → s.nextDispatchContext = UInt32.ofNat ((dispatches es).length + 1)
  numbered : (dispatches es).map (·.dispatchContext) =
    (List.range (dispatches es).length).map fun i => UInt32.ofNat (i + 1)
  latest : (outstanding es).Sublist (dispatches es).reverse

variable {es : List Exchange} {s : CommandIngressMux} {e : Exchange}

theorem outstanding_concat (es : List Exchange) (e : Exchange) :
    outstanding (es ++ [e]) = note (outstanding es) e := by
  rw [outstanding, List.foldl_append]
  rfl

theorem dispatches_concat (es : List Exchange) (e : Exchange) :
    dispatches (es ++ [e]) = dispatches es ++ (dispatchOf e).toList := by
  rw [dispatches, List.filterMap_append]
  cases hd : dispatchOf e <;> simp [hd, dispatches]

theorem Tracks.nodup (ht : Tracks es s) (hk : (dispatches es).length < 2 ^ 32) :
    ((outstanding es).map (·.dispatchContext)).Nodup := by
  have hd : ((dispatches es).map (·.dispatchContext)).Nodup := by
    rw [ht.numbered]
    refine List.Nodup.map_on (fun i hi j hj hij => ?_) List.nodup_range
    rw [List.mem_range] at hi hj
    have hn := congrArg UInt32.toNat hij
    rw [UInt32.toNat_ofNat_of_lt' (by simp [UInt32.size]; omega),
      UInt32.toNat_ofNat_of_lt' (by simp [UInt32.size]; omega)] at hn
    omega
  refine ((ht.latest.map _).nodup ?_)
  rw [List.map_reverse]
  exact List.nodup_reverse.mpr hd

theorem Tracks.of_quiet (ht : Tracks es s) (hd : dispatchOf e = none)
    (ho : outstanding (es ++ [e]) = outstanding es) : Tracks (es ++ [e]) s := by
  have hq : dispatches (es ++ [e]) = dispatches es := by
    rw [dispatches_concat, hd, Option.toList_none, List.append_nil]
  refine ⟨ht.slots, ?_, ?_, ?_, ?_⟩
  · rw [ho]
    exact ht.table
  · rw [hq]
    exact ht.next
  · rw [hq]
    exact ht.numbered
  · rw [ho, hq]
    exact ht.latest

theorem allocateDispatchContext_ofNat {next : UInt32} {n : ℕ} (hn : next = UInt32.ofNat n)
    (hlt : n + 1 < 2 ^ 32) : allocateDispatchContext next = UInt32.ofNat (n + 1) := by
  have hs : next + 1 = UInt32.ofNat (n + 1) := by
    rw [hn, UInt32.ofNat_add]
    rfl
  rw [allocateDispatchContext, hs, if_neg]
  intro hz
  have hz' := congrArg UInt32.toNat hz
  rw [UInt32.toNat_ofNat_of_lt' (by simpa [UInt32.size] using hlt)] at hz'
  cases hz'

theorem Tracks.command (ht : Tracks es s) (port : Port) (data : Bytes) (c : UInt32)
    (hk : (dispatches (es ++ [s.exchange (.command port data c)])).length < 2 ^ 32) :
    Tracks (es ++ [s.exchange (.command port data c)]) (s.handle (.command port data c)).1 ∧
      Answered (outstanding es) (s.exchange (.command port data c)) := by
  unfold exchange at hk ⊢
  have hl := ht.table.length_eq
  have hle := List.reduceOption_length_le s.pendingDispatches
  have hs := ht.slots
  have hf := fillFirst_eq_none_iff ⟨s.nextDispatchContext, c, port⟩ s.pendingDispatches
  cases hr : fillFirst ⟨s.nextDispatchContext, c, port⟩ s.pendingDispatches with
  | none =>
    have he : s.handle (.command port data c) =
        (s, [.commandStatusOut port (commandOpcode data) c .executionError]) := by
      rw [handle, rememberPendingDispatch, hr]
      rfl
    have hfull := hf.mp hr
    rw [he]
    exact ⟨ht.of_quiet rfl (outstanding_concat ..), .refused port data c (by omega)⟩
  | some l =>
    have he : s.handle (.command port data c) =
        ({ pendingDispatches := l, nextDispatchContext := allocateDispatchContext s.nextDispatchContext },
          [.commandOut data s.nextDispatchContext]) := by
      rw [handle, rememberPendingDispatch, hr]
      rfl
    have hd : dispatches (es ++ [(.command port data c, [.commandOut data s.nextDispatchContext])]) =
        dispatches es ++ [⟨s.nextDispatchContext, c, port⟩] := dispatches_concat ..
    have hroom : ¬s.pendingDispatches.reduceOption.length = s.pendingDispatches.length := by
      rw [← hf, hr]
      simp
    rw [he, hd, List.length_append, List.length_singleton] at hk
    have hnext := ht.next hk
    rw [he]
    refine ⟨⟨(fillFirst_length hr).trans hs, ?_, ?_, ?_, ?_⟩, .dispatched port data c _ (by omega)⟩
    · rw [outstanding_concat]
      exact (fillFirst_reduceOption_perm hr).trans (ht.table.cons _)
    · rw [hd, List.length_append, List.length_singleton]
      intro hlt
      exact allocateDispatchContext_ofNat hnext hlt
    · rw [hd, List.map_append, ht.numbered, List.length_append, List.length_singleton, List.range_succ,
        List.map_append, List.map_singleton, List.map_singleton, hnext]
    · rw [outstanding_concat, hd, List.reverse_append]
      exact ht.latest.cons_cons _

theorem Tracks.status (ht : Tracks es s) (hk : (dispatches es).length < 2 ^ 32) (o cmdSeq : UInt32)
    (y : CmdResponse) :
    Tracks (es ++ [s.exchange (.status o cmdSeq y)]) (s.handle (.status o cmdSeq y)).1 ∧
      Answered (outstanding es) (s.exchange (.status o cmdSeq y)) := by
  unfold exchange
  have hn := ht.nodup hk
  cases hf : takeFirst (fun p => p.dispatchContext == cmdSeq) s.pendingDispatches with
  | none =>
    have he : s.handle (.status o cmdSeq y) = (s, [.commandStatusOut 0 o cmdSeq y]) := by
      rw [handle, consumePendingDispatch, hf]
      rfl
    have hnone : ∀ p ∈ outstanding es, p.dispatchContext ≠ cmdSeq := by
      intro p hp
      simpa using takeFirst_eq_none hf p (ht.table.mem_iff.mpr hp)
    rw [he]
    refine ⟨ht.of_quiet rfl ?_, .unmatched o cmdSeq y hnone⟩
    rw [outstanding_concat]
    exact List.filter_eq_self.mpr (by simpa using hnone)
  | some r =>
    obtain ⟨p, l⟩ := r
    obtain ⟨hp, hr, hlen⟩ := takeFirst_eq_some hf
    obtain rfl : p.dispatchContext = cmdSeq := by simpa using hp
    have he : s.handle (.status o p.dispatchContext y) =
        ({ s with pendingDispatches := l },
          [.commandStatusOut p.ingressPort o p.originalContext y]) := by
      rw [handle, consumePendingDispatch, hf]
      rfl
    have ho := hr.symm.trans ht.table
    have hq : dispatches (es ++ [(.status o p.dispatchContext y,
        [.commandStatusOut p.ingressPort o p.originalContext y])]) = dispatches es := by
      rw [dispatches_concat]
      exact List.append_nil _
    rw [he]
    refine ⟨⟨hlen.trans ht.slots, ?_, ?_, ?_, ?_⟩,
      .returned o y p (ho.mem_iff.mp List.mem_cons_self)⟩
    · -- no other entry has the context, so the rest of the table is what is left
      rw [outstanding_concat]
      have hrest : ∀ q ∈ l.reduceOption, q.dispatchContext ≠ p.dispatchContext := by
        have hd := (ho.map (·.dispatchContext)).nodup_iff.mpr hn
        rw [List.map_cons, List.nodup_cons] at hd
        intro q hq heq
        exact hd.1 (heq ▸ List.mem_map_of_mem hq)
      have hfilter := ho.filter (fun q => q.dispatchContext ≠ p.dispatchContext)
      rw [List.filter_cons_of_neg (by simp), List.filter_eq_self.mpr (by simpa using hrest)] at hfilter
      exact hfilter
    · rw [hq]
      exact ht.next
    · rw [hq]
      exact ht.numbered
    · rw [hq, outstanding_concat]
      exact List.filter_sublist.trans ht.latest

theorem tracks_step (ht : Tracks es s) (i : MuxInput)
    (hk : (dispatches (es ++ [s.exchange i])).length < 2 ^ 32) :
    Tracks (es ++ [s.exchange i]) (s.handle i).1 ∧ Answered (outstanding es) (s.exchange i) := by
  cases i with
  | command port data c => exact ht.command port data c hk
  | status o n r =>
    rw [dispatches_concat, List.length_append] at hk
    exact ht.status (by omega) o n r

theorem exchanges_tracked (is : List MuxInput) (hk : (dispatches (exchanges is)).length < 2 ^ 32) :
    Tracks (exchanges is) (machine.run {} is) ∧
      ∀ b e a, exchanges is = b ++ e :: a →
        ((outstanding b).map (·.dispatchContext)).Nodup ∧ Answered (outstanding b) e := by
  have hrun := (machine.observe fun s i => [s.exchange i]).history_invariant
    (I := fun es s => (dispatches es).length < 2 ^ 32 → Tracks es s ∧ ∀ b e a, es = b ++ e :: a →
      ((outstanding b).map (·.dispatchContext)).Nodup ∧ Answered (outstanding b) e) ?_ [] {} ?_ is
  · rw [Machine.observe_run] at hrun
    exact hrun hk
  · intro es s i hi hk'
    have hk0 : (dispatches es).length < 2 ^ 32 := by
      rw [Machine.observe_step, dispatches_concat, List.length_append] at hk'
      omega
    obtain ⟨ht, hs⟩ := hi hk0
    obtain ⟨ht', ha⟩ := tracks_step ht i hk'
    refine ⟨ht', fun b e a heq => ?_⟩
    rcases List.eq_nil_or_concat' a with rfl | ⟨rest, last, rfl⟩
    · obtain ⟨rfl, hl⟩ := List.append_inj' heq rfl
      obtain rfl := List.singleton_inj.mp hl
      exact ⟨ht.nodup hk0, ha⟩
    · rw [← List.cons_append, ← List.append_assoc] at heq
      exact hs b e rest (List.append_inj' heq rfl).1
  · intro _
    refine ⟨⟨by simp, by simp [List.reduceOption, outstanding], fun _ => rfl, rfl, by simp [outstanding]⟩, fun b e a heq => ?_⟩
    cases b <;> cases heq

/-- Statuses go back to where their commands came from; one that belongs to no command under way is
passed on to the first port. -/
theorem statuses_return (inputs : List MuxInput) (hk : (dispatches (exchanges inputs)).length < 2 ^ 32) :
    ((outstanding (exchanges inputs)).map (·.dispatchContext)).Nodup ∧
      ∀ before e after, exchanges inputs = before ++ e :: after →
        ((outstanding before).map (·.dispatchContext)).Nodup ∧ Answered (outstanding before) e := by
  obtain ⟨ht, hsplit⟩ := exchanges_tracked inputs hk
  exact ⟨ht.nodup hk, hsplit⟩

theorem statuses_return_two_ports :
    let inputs : List MuxInput := [.command 1 [] 9, .command 0 [] 9, .status 7 1 .ok]
    exchanges inputs = [(.command 1 [] 9, [.commandOut [] 1]), (.command 0 [] 9, [.commandOut [] 2]),
      (.status 7 1 .ok, [.commandStatusOut 1 7 9 .ok])] ∧
    ((outstanding (exchanges inputs)).map (·.dispatchContext)).Nodup :=
  ⟨by decide, (statuses_return _ (by decide)).1⟩

/-- A repeated status of a command of the second port reaches the first, where it reads as the
answer to another command. -/
theorem repeated_status_misdirected :
    let inputs : List MuxInput := [.command 1 [] 9, .command 0 [] 1, .status 7 1 .ok, .status 7 1 .ok]
    (exchanges inputs).getLast? = some (.status 7 1 .ok, [.commandStatusOut 0 7 1 .ok]) ∧
      outstanding (exchanges inputs) = [⟨2, 1, 0⟩] := by
  decide

end CommandIngressMux

end ObcFlight
