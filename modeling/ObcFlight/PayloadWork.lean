import ObcFlight.PayloadOpsController

/-!
# Commands, operations and publications of the payload

Of all that the payload controller keeps, little decides which command is answered when: the
manager, the state, the two pending commands, whether a publication is under way and what state
it leads back to, and the latch of the cleanup. Here that part is a state of its own, with what a
tick and a command do to it, and the controller's steps are such steps.
-/

namespace ObcFlight

/-- Opcode and sequence number of a command, and how it was answered. -/
structure PayloadAnswer where
  opCode : UInt32
  cmdSeq : UInt32
  response : CmdResponse
deriving DecidableEq

/-- What the camera side is told and does: operations that are started, and the effects of the
worker. -/
inductive CameraAct where
  | starts (job : CameraJob)
  | does (effect : CameraEffect)

namespace PayloadOutput

def answer? : PayloadOutput → Option PayloadAnswer
  | cmdResponse opCode cmdSeq response => some ⟨opCode, cmdSeq, response⟩
  | _ => none

def act? : PayloadOutput → Option CameraAct
  | started job => some (.starts job)
  | worker effect => some (.does effect)
  | _ => none

end PayloadOutput

def answersOf (outputs : List PayloadOutput) : List PayloadAnswer := outputs.filterMap PayloadOutput.answer?

def actsOf (outputs : List PayloadOutput) : List CameraAct := outputs.filterMap PayloadOutput.act?

@[simp] theorem answersOf_nil : answersOf [] = [] := rfl
@[simp] theorem actsOf_nil : actsOf [] = [] := rfl

@[simp] theorem answersOf_append (xs ys : List PayloadOutput) : answersOf (xs ++ ys) = answersOf xs ++ answersOf ys :=
  List.filterMap_append

@[simp] theorem actsOf_append (xs ys : List PayloadOutput) : actsOf (xs ++ ys) = actsOf xs ++ actsOf ys :=
  List.filterMap_append

variable {outputs : List PayloadOutput}

theorem mem_answersOf {p c : UInt32} {response : CmdResponse} :
    ⟨p, c, response⟩ ∈ answersOf outputs ↔ .cmdResponse p c response ∈ outputs := by
  simp only [answersOf, List.mem_filterMap]
  constructor
  · rintro ⟨o, ho, han⟩
    cases o with
    | cmdResponse => cases han; exact ho
    | started | worker | productSend => cases han
  · exact fun h => ⟨_, h, rfl⟩

theorem mem_actsOf_starts {job : CameraJob} :
    .starts job ∈ actsOf outputs ↔ .started job ∈ outputs := by
  simp only [actsOf, List.mem_filterMap]
  constructor
  · rintro ⟨o, ho, hact⟩
    cases o with
    | started => cases hact; exact ho
    | cmdResponse | worker | productSend => cases hact
  · exact fun h => ⟨_, h, rfl⟩

structure PayloadWork where
  configured : Bool
  manager : PiCameraManager
  state : PayloadState
  activeCommand : PendingCommand
  abortCommand : PendingCommand
  publishing : Option PayloadState
  forcedCleanupActive : Bool

namespace PayloadWork

/-! ### The tick -/

def clearingAnswer (pending : PendingCommand) (response : CmdResponse) : List PayloadAnswer :=
  if pending.responseSent then [] else [⟨pending.opCode, pending.cmdSeq, response⟩]

variable (response : CmdResponse)

def clearActive (w : PayloadWork) : PayloadWork × List PayloadAnswer :=
  if w.activeCommand.active then ({ w with activeCommand := {} }, clearingAnswer w.activeCommand response) else (w, [])

def clearAbort (w : PayloadWork) : PayloadWork × List PayloadAnswer :=
  if w.abortCommand.active then ({ w with abortCommand := {} }, clearingAnswer w.abortCommand response) else (w, [])

def endPublication (w : PayloadWork) : PayloadWork × List PayloadAnswer :=
  match w.publishing with
  | none => (w, [])
  | some completionState => { w with state := completionState, publishing := none }.clearActive response

def afterPublication (ended : Option CmdResponse) (w : PayloadWork) : PayloadWork × List PayloadAnswer :=
  match ended with
  | none => (w, [])
  | some response => w.endPublication response

variable (result : PayloadOperationResult)

def answerCompletion (completionResponse : CmdResponse) (w : PayloadWork) :
    PayloadWork × List PayloadAnswer :=
  let response := if w.activeCommand.forcedModeExit then .executionError
    else if w.activeCommand.kind = .capture ∧ completionResponse ≠ .ok then .executionError
    else completionResponse
  let active := w.clearActive response
  let abort := active.1.clearAbort
    (if result.resultCode = .aborted ∨ result.response = .ok then .ok else .executionError)
  ({ abort.1 with forcedCleanupActive := false }, active.2 ++ abort.2)

/-- The end of an operation. A capture that has succeeded goes on with its publication, if that
can be started. -/
def complete (published : Bool) (result : PayloadOperationResult) (w : PayloadWork) :
    PayloadWork × List PayloadAnswer :=
  if result.response = .ok ∧ result.kind = .capture then
    if published then ({ w with state := .publishing, publishing := some .ready }, [])
    else { w with state := if result.prepared then .ready else .off }.answerCompletion result .executionError
  else { w with state := PayloadOpsController.completedState result w.state }.answerCompletion result result.response

/-- The state and the answer after an operation that ends without a publication. -/
def restState (state : PayloadState) : PayloadState :=
  if result.response = .ok ∧ result.kind = .capture then if result.prepared then .ready else .off
  else PayloadOpsController.completedState result state

def restResponse : CmdResponse :=
  if result.response = .ok ∧ result.kind = .capture then .executionError else result.response

def poll (published : Bool) (w : PayloadWork) : PayloadWork × List PayloadAnswer :=
  match w.manager.completion with
  | none => (w, [])
  | some result =>
    { w with manager := { w.manager with busy := false, completion := none } }.complete published result

def cleanup (mode : SatMode) (w : PayloadWork) : PayloadWork × List CameraAct :=
  if !w.configured || decide (mode = .payload) || w.forcedCleanupActive ||
      decide (w.state = .off ∨ w.state = .fault) || w.publishing.isSome then (w, [])
  else if w.manager.busy then
    ({ w with
        forcedCleanupActive := true
        manager := w.manager.requestAbort
        state := .aborting
        activeCommand := { w.activeCommand with forcedModeExit := true } }, [])
  else
    match w.manager.beginShutdown true with
    | some manager => ({ w with forcedCleanupActive := true, manager, state := .aborting }, [.starts (.shutdown true)])
    | none => ({ w with forcedCleanupActive := true, state := .fault }, [])

def tick (mode : SatMode) (published : Bool) (ended : Option CmdResponse) (w : PayloadWork) :
    PayloadWork × List PayloadAnswer × List CameraAct :=
  let cleaned := w.cleanup mode
  let polled := cleaned.1.poll published
  let done := polled.1.afterPublication ended
  (done.1, polled.2 ++ done.2, cleaned.2)

/-! ### Commands -/

/-- No operation, no publication and no command is pending. -/
structure Idle (w : PayloadWork) : Prop where
  busy : w.manager.busy = false
  active : w.activeCommand.active = false
  abort : w.abortCommand.active = false
  publishing : w.publishing = none

/-- What a command can do: it is answered and changes nothing, or it starts an operation or a
publication, or it asks the running operation to stop. -/
inductive CommandEffect (mode : SatMode) (cmd : PayloadCommand) (cmdSeq : UInt32) (w : PayloadWork) :
    PayloadWork → List PayloadAnswer → List CameraAct → Prop
  | answered (response : CmdResponse)
      (habort : cmd = .abort → response = .ok →
        w.state = .off ∧ w.manager.busy = false ∧ w.publishing = none) :
      CommandEffect mode cmd cmdSeq w w [⟨cmd.opCode, cmdSeq, response⟩] []
  | prepares (readyKind : PayloadReadyKind) (settings : PayloadCameraSettings) (hcmd : cmd ≠ .abort)
      (hconfigured : w.configured = true) (hmode : mode = .payload) (hidle : w.Idle) (hstate : w.state ≠ .ready) :
      CommandEffect mode cmd cmdSeq w
        { w with
          manager := w.manager.begin (.prepare readyKind settings) false
          activeCommand := PayloadOpsController.markPending cmd.opCode cmdSeq .prepare
          state := .preparing }
        [] [.starts (.prepare readyKind settings)]
  | captures (request : PayloadCaptureMetadata) (settings : PayloadCameraSettings) (hcmd : cmd ≠ .abort)
      (hconfigured : w.configured = true) (hmode : mode = .payload) (hidle : w.Idle)
      (hprepared : w.manager.prepared = true) :
      CommandEffect mode cmd cmdSeq w
        { w with
          manager := w.manager.begin (.capture request settings) false
          activeCommand := { PayloadOpsController.markPending cmd.opCode cmdSeq .capture with responseSent := true }
          state := .capturing }
        [⟨cmd.opCode, cmdSeq, .ok⟩] [.starts (.capture request settings)]
  | aborts (hcmd : cmd = .abort) (hconfigured : w.configured = true) (habort : w.abortCommand.active = false)
      (hbusy : w.manager.busy = true) :
      CommandEffect mode cmd cmdSeq w
        { w with
          manager := w.manager.requestAbort
          abortCommand := PayloadOpsController.markPending cmd.opCode cmdSeq .abort
          state := .aborting }
        [] []
  | abortShutsDown (hcmd : cmd = .abort) (hconfigured : w.configured = true) (habort : w.abortCommand.active = false)
      (hbusy : w.manager.busy = false) (hpublishing : w.publishing = none) :
      CommandEffect mode cmd cmdSeq w
        { w with
          manager := w.manager.begin (.shutdown true) true
          abortCommand := PayloadOpsController.markPending cmd.opCode cmdSeq .abort
          state := .aborting }
        [] [.starts (.shutdown true)]
  | shutsDown (hcmd : cmd ≠ .abort) (hconfigured : w.configured = true) (hidle : w.Idle) :
      CommandEffect mode cmd cmdSeq w
        { w with
          manager := w.manager.begin (.shutdown false) false
          activeCommand := PayloadOpsController.markPending cmd.opCode cmdSeq .shutdown
          state := .aborting }
        [] [.starts (.shutdown false)]
  | publishes (hcmd : cmd ≠ .abort) (hconfigured : w.configured = true) (hidle : w.Idle) :
      CommandEffect mode cmd cmdSeq w
        { w with
          activeCommand := { PayloadOpsController.markPending cmd.opCode cmdSeq .publishCapture with responseSent := true }
          state := .publishing
          publishing := some w.state }
        [⟨cmd.opCode, cmdSeq, .ok⟩] []

/-! ### What always holds -/

/-- Where nothing is going on, the camera is prepared exactly in READY. -/
def Rested (state : PayloadState) (prepared : Bool) : Prop :=
  state = .off ∧ prepared = false ∨ state = .ready ∧ prepared = true ∨ state = .fault ∧ prepared = false

structure Inv (w : PayloadWork) : Prop where
  manager : w.manager.Inv
  configured : w.manager.configured = w.configured
  unconfigured : w.configured = false → w.state = .off
  working : w.manager.busy = true →
    w.publishing = none ∧ (w.state = .preparing ∨ w.state = .capturing ∨ w.state = .aborting)
  publishing : ∀ s, w.publishing = some s → w.state = .publishing ∧ Rested s w.manager.prepared
  resting : w.manager.busy = false → w.publishing = none → Rested w.state w.manager.prepared
  active : w.activeCommand.active = true → w.manager.busy = true ∨ w.publishing.isSome = true
  activeOp : w.activeCommand.active = true → w.activeCommand.opCode ≠ PayloadCommand.abort.opCode
  abortOp : w.abortCommand.active = true →
    w.abortCommand.opCode = PayloadCommand.abort.opCode ∧ w.abortCommand.responseSent = false

variable {w : PayloadWork} {s : PayloadState}

theorem Rested.ne_publishing {p : Bool} (h : Rested s p) : s ≠ .publishing := by
  rintro rfl
  rcases h with ⟨h, -⟩ | ⟨h, -⟩ | ⟨h, -⟩ <;> cases h

theorem Rested.not_prepared {p : Bool} (h : Rested s p) (hs : s ≠ .ready) : p = false := by
  rcases h with ⟨-, h⟩ | ⟨h, -⟩ | ⟨-, h⟩
  · exact h
  · exact absurd h hs
  · exact h

theorem opCode_ne_abort {cmd : PayloadCommand} (h : cmd ≠ .abort) : cmd.opCode ≠ PayloadCommand.abort.opCode := by
  cases cmd <;> first | exact absurd rfl h | (simp only [PayloadCommand.opCode]; decide)

theorem Inv.idle_prepared (h : w.Inv) (hid : w.Idle) : Rested w.state w.manager.prepared :=
  h.resting hid.busy hid.publishing

theorem Inv.starts (h : w.Inv) (hcn : w.configured = true) (hp : w.publishing = none)
    {job : CameraJob} {cancelRequested : Bool} {state : PayloadState} {active abort : PendingCommand}
    (hst : state = .preparing ∨ state = .capturing ∨ state = .aborting)
    (hpr : ∀ k s, job = .prepare k s → w.manager.prepared = false)
    (hc : ∀ r s, job = .capture r s → w.manager.prepared = true)
    (hac : active.active = true → active.opCode ≠ PayloadCommand.abort.opCode)
    (hab : abort.active = true → abort.opCode = PayloadCommand.abort.opCode ∧ abort.responseSent = false) :
    { w with manager := w.manager.begin job cancelRequested, state, activeCommand := active, abortCommand := abort }.Inv where
  manager := h.manager.begin job cancelRequested hpr hc
  configured := h.configured
  unconfigured hnot := by rw [hcn] at hnot; cases hnot
  working _ := ⟨hp, hst⟩
  publishing s hs := by rw [hp] at hs; cases hs
  resting hbs := by cases hbs
  active _ := .inl rfl
  activeOp := hac
  abortOp := hab

theorem Inv.stops (h : w.Inv) (hc : w.configured = true) (hbs : w.manager.busy = true)
    {p a : PendingCommand} {f : Bool}
    (hac : p.active = true → p.opCode ≠ PayloadCommand.abort.opCode)
    (hab : a.active = true → a.opCode = PayloadCommand.abort.opCode ∧ a.responseSent = false) :
    { w with
      manager := w.manager.requestAbort, state := .aborting, activeCommand := p, abortCommand := a
      forcedCleanupActive := f }.Inv := by
  have hm := h.manager.requestAbort
  obtain ⟨c, heq⟩ := PiCameraManager.requestAbort_eq w.manager
  rw [heq] at hm ⊢
  obtain ⟨hp, -⟩ := h.working hbs
  refine ⟨hm, h.configured, fun hnot => ?_, fun _ => ⟨hp, .inr (.inr rfl)⟩, fun s hs => ?_, fun hf => ?_,
    fun _ => .inl hbs, hac, hab⟩
  · rw [hc] at hnot
    cases hnot
  · rw [show w.publishing = some s from hs] at hp
    cases hp
  · rw [show w.manager.busy = false from hf] at hbs
    cases hbs

theorem CommandEffect.inv {mode : SatMode} {cmd : PayloadCommand} {c : UInt32} {w' : PayloadWork}
    {a : List PayloadAnswer} {acts : List CameraAct} (h : CommandEffect mode cmd c w w' a acts)
    (hinv : w.Inv) : w'.Inv := by
  cases h with
  | answered => exact hinv
  | prepares _ _ hcmd hc _ hid hst =>
    refine hinv.starts hc hid.publishing (.inl rfl) (fun k s _ => ?_) (fun r s hjob => ?_)
      (fun _ => opCode_ne_abort hcmd) hinv.abortOp
    · exact (hinv.idle_prepared hid).not_prepared hst
    · cases hjob
  | captures _ _ hcmd hc _ hid hp =>
    refine hinv.starts hc hid.publishing (.inr (.inl rfl)) (fun k s hjob => ?_) (fun _ _ _ => hp)
      (fun _ => opCode_ne_abort hcmd) hinv.abortOp
    cases hjob
  | aborts hcmd hc _ hbs =>
    subst hcmd
    exact hinv.stops hc hbs hinv.activeOp fun _ => ⟨rfl, rfl⟩
  | abortShutsDown hcmd hc _ _ hpb =>
    subst hcmd
    refine hinv.starts hc hpb (.inr (.inr rfl)) (fun k s hjob => ?_) (fun r s hjob => ?_)
      hinv.activeOp fun _ => ⟨rfl, rfl⟩
    · cases hjob
    · cases hjob
  | shutsDown hcmd hc hid =>
    refine hinv.starts hc hid.publishing (.inr (.inr rfl)) (fun k s hjob => ?_) (fun r s hjob => ?_)
      (fun _ => opCode_ne_abort hcmd) hinv.abortOp
    · cases hjob
    · cases hjob
  | publishes hcmd hc hid =>
    have hr := hinv.idle_prepared hid
    refine ⟨hinv.manager, hinv.configured, fun hnot => ?_, fun hbs => ?_, fun s hs => ?_, fun _ hn => ?_,
      fun _ => .inr rfl, fun _ => opCode_ne_abort hcmd, hinv.abortOp⟩
    · exact absurd (hc.symm.trans hnot) (by decide)
    · exact absurd (hid.busy.symm.trans hbs) (by decide)
    · obtain rfl : w.state = s := Option.some.inj hs
      exact ⟨rfl, hr⟩
    · cases hn

/-! ### The tick keeps it -/

variable (response : CmdResponse)

theorem clearActive_fst (w : PayloadWork) :
    ∃ a : PendingCommand, a.active = false ∧ (w.clearActive response).1 = { w with activeCommand := a } := by
  unfold clearActive
  split_ifs with h
  · exact ⟨{}, rfl, rfl⟩
  · exact ⟨w.activeCommand, by simpa using h, rfl⟩

theorem clearAbort_fst (w : PayloadWork) :
    ∃ a : PendingCommand, a.active = false ∧ (w.clearAbort response).1 = { w with abortCommand := a } := by
  unfold clearAbort
  split_ifs with h
  · exact ⟨{}, rfl, rfl⟩
  · exact ⟨w.abortCommand, by simpa using h, rfl⟩

variable (result : PayloadOperationResult)

theorem answerCompletion_fst (c : CmdResponse) (w : PayloadWork) :
    ∃ a abort : PendingCommand, a.active = false ∧ abort.active = false ∧
      (w.answerCompletion result c).1 =
        { w with activeCommand := a, abortCommand := abort, forcedCleanupActive := false } := by
  unfold answerCompletion
  dsimp only
  obtain ⟨a, hac, hf⟩ := clearActive_fst _ w
  obtain ⟨abort, hab, hs⟩ := clearAbort_fst _ _
  refine ⟨a, abort, hac, hab, ?_⟩
  rw [hs, hf]

theorem answerCompletion_of_cleared (hn : w.publishing = none) (b a : PayloadState) :
    ({ ({ w with state := b, publishing := none }.clearActive .executionError).1 with
        state := a }.answerCompletion result .executionError).1 =
      ({ w with state := a }.answerCompletion result .executionError).1 ∧
    ({ w with state := b, publishing := none }.clearActive .executionError).2 ++
        ({ ({ w with state := b, publishing := none }.clearActive .executionError).1 with
          state := a }.answerCompletion result .executionError).2 =
      ({ w with state := a }.answerCompletion result .executionError).2 := by
  cases hac : w.activeCommand.active with
  | true | false => simp [answerCompletion, clearActive, clearAbort, hac, hn]

theorem inv_of_resting (hm : w.manager.Inv) (hc : w.manager.configured = w.configured)
    (hu : w.configured = false → w.state = .off) (hbs : w.manager.busy = false)
    (hp : w.publishing = none) (hr : Rested w.state w.manager.prepared)
    (hac : w.activeCommand.active = false) (hab : w.abortCommand.active = true →
      w.abortCommand.opCode = PayloadCommand.abort.opCode ∧ w.abortCommand.responseSent = false) : w.Inv where
  manager := hm
  configured := hc
  unconfigured := hu
  working h := absurd (hbs.symm.trans h) (by decide)
  publishing s h := absurd (hp.symm.trans h) (by simp)
  resting _ _ := hr
  active h := absurd (hac.symm.trans h) (by decide)
  activeOp h := absurd (hac.symm.trans h) (by decide)
  abortOp := hab

theorem Inv.busy_of_completion (h : w.Inv) (hs : w.manager.completion.isSome = true) : w.manager.busy = true := by
  rw [h.manager.busy, hs, Bool.or_true]

theorem Inv.not_busy (h : w.Inv) (hs : w.publishing = some s) : w.manager.busy = false := by
  by_contra hbs
  have := (h.working (by simpa using hbs)).1
  rw [hs] at this
  cases this

theorem Inv.configured_of_busy (h : w.Inv) (hbs : w.manager.busy = true) : w.configured = true := by
  by_contra hnot
  have hoff := h.unconfigured (by simpa using hnot)
  rcases (h.working hbs).2 with hs | hs | hs <;> rw [hs] at hoff <;> cases hoff

theorem Inv.configured_of_publishing (h : w.Inv) (hs : w.publishing = some s) :
    w.configured = true := by
  by_contra hnot
  have hoff := h.unconfigured (by simpa using hnot)
  rw [(h.publishing s hs).1] at hoff
  cases hoff

theorem Inv.endPublication (h : w.Inv) (response : CmdResponse) : (w.endPublication response).1.Inv := by
  unfold PayloadWork.endPublication
  cases hs : w.publishing with
  | none => exact h
  | some s =>
    dsimp only
    obtain ⟨a, hac, heq⟩ := clearActive_fst response { w with state := s, publishing := none }
    rw [heq]
    exact inv_of_resting h.manager h.configured
      (fun hnot => absurd ((h.configured_of_publishing hs).symm.trans hnot) (by decide)) (h.not_busy hs) rfl
      (h.publishing s hs).2 hac h.abortOp

theorem endPublication_publishing (w : PayloadWork) :
    (w.endPublication response).1.publishing = none := by
  unfold endPublication
  cases hs : w.publishing with
  | none => exact hs
  | some s =>
    dsimp only
    obtain ⟨a, -, heq⟩ := clearActive_fst response { w with state := s, publishing := none }
    rw [heq]

theorem endPublication_of_none {response : CmdResponse} (h : w.publishing = none) :
    w.endPublication response = (w, []) := by
  rw [endPublication, h]

theorem afterPublication_twice (f g : Option CmdResponse) (w : PayloadWork) :
    ∃ e, ((w.afterPublication f).1.afterPublication g).1 = (w.afterPublication e).1 ∧
      (w.afterPublication f).2 ++ ((w.afterPublication f).1.afterPublication g).2 =
        (w.afterPublication e).2 := by
  cases f with
  | none => exact ⟨g, rfl, rfl⟩
  | some response =>
    refine ⟨some response, ?_⟩
    cases g with
    | none => exact ⟨rfl, List.append_nil _⟩
    | some =>
      simp only [afterPublication, endPublication_of_none (endPublication_publishing response w), List.append_nil,
        and_self]

theorem afterPublication_frame (e : Option CmdResponse) (w : PayloadWork) :
    (w.afterPublication e).1.manager = w.manager ∧ (w.afterPublication e).1.abortCommand = w.abortCommand ∧
      (w.afterPublication e).1.forcedCleanupActive = w.forcedCleanupActive := by
  unfold afterPublication endPublication
  cases e with
  | none => exact ⟨rfl, rfl, rfl⟩
  | some response =>
    dsimp only
    cases w.publishing with
    | none => exact ⟨rfl, rfl, rfl⟩
    | some s =>
      dsimp only
      obtain ⟨a, -, heq⟩ := clearActive_fst response { w with state := s, publishing := none }
      rw [heq]
      exact ⟨rfl, rfl, rfl⟩

theorem Inv.afterPublication (h : w.Inv) (e : Option CmdResponse) : (w.afterPublication e).1.Inv := by
  cases e with
  | none => exact h
  | some response => exact h.endPublication response

variable {result : PayloadOperationResult}

theorem completedState_rested (hs : result.Sound) (x : PayloadState)
    (hc : ¬ (result.response = .ok ∧ result.kind = .capture)) :
    Rested (PayloadOpsController.completedState result x) result.prepared := by
  by_cases hok : result.response = .ok
  · rcases hs.kind with hk | hk | hk | hk
    · have hp := hs.prepared.mpr ⟨hok, .inl hk⟩
      simp [PayloadOpsController.completedState, Rested, hok, hk, hp]
    · exact absurd ⟨hok, hk⟩ hc
    all_goals
      have hp : result.prepared = false := by
        rw [← Bool.not_eq_true, hs.prepared]
        simp [hk]
      simp [PayloadOpsController.completedState, Rested, hok, hk, hp]
  · have hp : result.prepared = false := by
      rw [← Bool.not_eq_true, hs.prepared]
      exact fun h => hok h.1
    have hst : PayloadOpsController.completedState result x = .off ∨
        PayloadOpsController.completedState result x = .fault := by
      unfold PayloadOpsController.completedState
      rw [if_neg (fun h => hok h.1), if_neg (fun h => hok h.1)]
      by_cases hab : result.resultCode = .aborted ∨ result.resultCode = .modeExitAborted
      · exact .inl (if_pos hab)
      · rw [if_neg hab, if_neg (by simp [hp])]
        by_cases hsp : result.kind = .shutdown ∨ result.kind = .abort
        · exact .inr (if_pos ⟨hok, hsp⟩)
        · rw [if_neg (fun h => hsp h.2), if_pos ⟨hok, hp⟩]
          exact .inl rfl
    rcases hst with hst | hst <;> simp [Rested, hst, hp]

theorem restState_rested (hs : result.Sound) (x : PayloadState) :
    Rested (restState result x) result.prepared := by
  unfold restState
  by_cases hc : result.response = .ok ∧ result.kind = .capture
  · have hr := hs.prepared.mpr ⟨hc.1, .inr hc.2⟩
    rw [if_pos hc, if_pos hr]
    exact .inr (.inl ⟨rfl, hr⟩)
  · rw [if_neg hc]
    exact completedState_rested hs x hc

theorem poll_cases (p : Bool) (w : PayloadWork) :
    w.manager.completion = none ∧ w.poll p = (w, []) ∨
    (∃ result, w.manager.completion = some result ∧ (result.response = .ok ∧ result.kind = .capture ∧ p = true) ∧
      w.poll p =
        ({ w with
            manager := { w.manager with busy := false, completion := none }
            state := .publishing
            publishing := some .ready }, [])) ∨
    ∃ result, w.manager.completion = some result ∧
      ¬ (result.response = .ok ∧ result.kind = .capture ∧ p = true) ∧
      w.poll p =
        { w with
          manager := { w.manager with busy := false, completion := none }
          state := restState result w.state }.answerCompletion result (restResponse result) := by
  unfold poll
  cases hcm : w.manager.completion with
  | none => exact .inl ⟨rfl, rfl⟩
  | some result =>
    dsimp only [complete]
    split
    next hc =>
      cases p with
      | true => exact .inr (.inl ⟨result, rfl, ⟨hc.1, hc.2, rfl⟩, rfl⟩)
      | false =>
        refine .inr (.inr ⟨result, rfl, by simp, ?_⟩)
        rw [restState, restResponse, if_pos hc, if_pos hc]
        rfl
    next hc =>
      refine .inr (.inr ⟨result, rfl, fun h => hc ⟨h.1, h.2.1⟩, ?_⟩)
      rw [restState, restResponse, if_neg hc, if_neg hc]

theorem Inv.poll (h : w.Inv) (p : Bool) : (w.poll p).1.Inv := by
  rcases poll_cases p w with ⟨-, heq⟩ | ⟨result, hc, hcp, heq⟩ | ⟨result, hc, -, heq⟩
  · rw [heq]
    exact h
  · have hsm : w.manager.completion.isSome = true := by rw [hc]; rfl
    have hcn := h.configured_of_busy (h.busy_of_completion hsm)
    obtain ⟨hsn, hp⟩ := h.manager.completed result hc
    have hr : w.manager.prepared = true := hp ▸ hsn.prepared.mpr ⟨hcp.1, .inr hcp.2.1⟩
    rw [heq]
    refine ⟨h.manager.polled hsm, h.configured, fun hnot => absurd (hcn.symm.trans hnot) (by decide), ?_,
      fun s hs => ?_, ?_, fun _ => .inr rfl, h.activeOp, h.abortOp⟩
    · exact fun hbs => absurd hbs (by simp)
    · obtain rfl : PayloadState.ready = s := Option.some.inj hs
      exact ⟨rfl, .inr (.inl ⟨rfl, hr⟩)⟩
    · exact fun _ hn => absurd hn (by simp)
  · have hsm : w.manager.completion.isSome = true := by rw [hc]; rfl
    have hbs := h.busy_of_completion hsm
    have hcn := h.configured_of_busy hbs
    obtain ⟨hsn, hp⟩ := h.manager.completed result hc
    rw [heq]
    obtain ⟨a, ab, hac, hab, hrs⟩ := answerCompletion_fst result (restResponse result)
      { w with manager := { w.manager with busy := false, completion := none }, state := restState result w.state }
    rw [hrs]
    exact inv_of_resting (h.manager.polled hsm) h.configured
      (fun hnot => absurd (hcn.symm.trans hnot) (by decide)) rfl (h.working hbs).1
      (hp ▸ restState_rested hsn w.state) hac (fun hb => absurd (hab.symm.trans hb) (by decide))

theorem Inv.beginShutdown (h : w.Inv) (hc : w.configured = true) (hbs : w.manager.busy = false)
    (a : Bool) :
    w.manager.beginShutdown a = some (w.manager.begin (.shutdown a) a) := by
  rw [PiCameraManager.beginShutdown, if_neg (by simp [h.configured, hc, hbs])]

theorem Inv.cleanup_cases (h : w.Inv) (mode : SatMode) :
    w.cleanup mode = (w, []) ∧
        (w.configured = false ∨ mode = .payload ∨ w.forcedCleanupActive = true ∨ w.state = .off ∨ w.state = .fault ∨
          w.publishing.isSome = true) ∨
      w.configured = true ∧ mode ≠ .payload ∧ w.manager.busy = true ∧
        w.cleanup mode =
          ({ w with
              forcedCleanupActive := true
              manager := w.manager.requestAbort
              state := .aborting
              activeCommand := { w.activeCommand with forcedModeExit := true } }, []) ∨
      w.configured = true ∧ mode ≠ .payload ∧ w.manager.busy = false ∧ w.publishing = none ∧
        w.cleanup mode =
          ({ w with
              forcedCleanupActive := true
              manager := w.manager.begin (.shutdown true) true
              state := .aborting }, [.starts (.shutdown true)]) := by
  unfold cleanup
  split_ifs with hs hbs
  · refine .inl ⟨rfl, ?_⟩
    simp only [Bool.or_eq_true, Bool.not_eq_true', decide_eq_true_eq] at hs
    tauto
  · simp only [Bool.or_eq_true, Bool.not_eq_true', decide_eq_true_eq, not_or, Bool.not_eq_false] at hs
    exact .inr (.inl ⟨hs.1.1.1.1, hs.1.1.1.2, hbs, rfl⟩)
  · simp only [Bool.or_eq_true, Bool.not_eq_true', decide_eq_true_eq, not_or, Bool.not_eq_false] at hs
    have hf : w.manager.busy = false := by simpa using hbs
    rw [h.beginShutdown hs.1.1.1.1 hf]
    exact .inr (.inr ⟨hs.1.1.1.1, hs.1.1.1.2, hf, by simpa using hs.2, rfl⟩)

theorem Inv.completion_of_not_busy (h : w.Inv) (hbs : w.manager.busy = false) : w.manager.completion = none := by
  have := h.manager.busy
  rw [hbs] at this
  cases hc : w.manager.completion with
  | none => rfl
  | some => simp [hc] at this

theorem Inv.cleanup_completion (h : w.Inv) (mode : SatMode) :
    (w.cleanup mode).1.manager.completion = w.manager.completion := by
  rcases h.cleanup_cases mode with ⟨heq, -⟩ | ⟨-, -, -, heq⟩ | ⟨-, -, hbs, -, heq⟩
  · rw [heq]
  · obtain ⟨c, hab⟩ := PiCameraManager.requestAbort_eq w.manager
    rw [heq]
    change w.manager.requestAbort.completion = w.manager.completion
    rw [hab]
  · rw [heq, h.completion_of_not_busy hbs]
    rfl

theorem Inv.cleanup (h : w.Inv) (mode : SatMode) : (w.cleanup mode).1.Inv := by
  rcases h.cleanup_cases mode with ⟨heq, -⟩ | ⟨hc, -, hbs, heq⟩ | ⟨hc, -, hbs, hp, heq⟩
  · rw [heq]
    exact h
  · rw [heq]
    exact h.stops hc hbs h.activeOp h.abortOp
  · rw [heq]
    have hs : { w with manager := w.manager.begin (.shutdown true) true, state := .aborting }.Inv :=
      h.starts hc hp (.inr (.inr rfl)) (fun k s hjob => by cases hjob) (fun r s hjob => by cases hjob)
        h.activeOp h.abortOp
    exact ⟨hs.manager, hs.configured, hs.unconfigured, hs.working, hs.publishing,
      hs.resting, hs.active, hs.activeOp, hs.abortOp⟩

theorem Inv.tick (h : w.Inv) (mode : SatMode) (p : Bool) (e : Option CmdResponse) :
    (w.tick mode p e).1.Inv :=
  ((h.cleanup mode).poll p).afterPublication e

theorem Inv.workerFinishes (h : w.Inv) (a : WorkerAnswers) :
    { w with manager := (w.manager.workerFinishes a).1 }.Inv := by
  cases hw : w.manager.worker with
  | none =>
    rw [PiCameraManager.workerFinishes_none a hw]
    exact h
  | some =>
    have hm := h.manager.workerFinishes a
    have hbs : w.manager.busy = true := by rw [h.manager.busy, hw]; rfl
    rw [(PiCameraManager.workerFinishes_some a hw).1] at hm ⊢
    exact ⟨hm, h.configured, h.unconfigured, h.working,
      fun s hs => absurd ((h.working hbs).1.symm.trans hs) (by simp),
      fun hf => absurd (hbs.symm.trans hf) (by decide), h.active, h.activeOp, h.abortOp⟩

end PayloadWork

end ObcFlight
