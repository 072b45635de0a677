import Mathlib.Data.List.Basic

/-!
# Actions with outputs and their triples

A handler that calls several components in turn is a sequence of actions on one state,
each with its outputs. Preconditions and postconditions compose along the sequence.
-/

namespace ObcFlight

def Action (σ ο : Type*) := σ → σ × List ο

namespace Action

variable {σ ο : Type*}

def skip : Action σ ο := fun s => (s, [])

def modify (f : σ → σ) : Action σ ο := fun s => (f s, [])

def seq (a b : Action σ ο) : Action σ ο := fun s => ((b (a s).1).1, (a s).2 ++ (b (a s).1).2)

/-- The action where the state meets the condition, nothing elsewhere. -/
def guarded (c : σ → Bool) (a : Action σ ο) : Action σ ο := fun s => if c s then a s else (s, [])

def Triple (P : σ → Prop) (a : Action σ ο) (Q : σ → Prop) : Prop := ∀ s, P s → Q (a s).1

variable {P Q R : σ → Prop} {a b : Action σ ο}

theorem Triple.seq (ha : Triple P a Q) (hb : Triple Q b R) : Triple P (a.seq b) R :=
  fun s hs => hb _ (ha s hs)

theorem Triple.guarded {c : σ → Bool} (hsk : ∀ s, P s → c s = false → Q s)
    (ha : Triple (fun s => P s ∧ c s = true) a Q) : Triple P (guarded c a) Q := by
  intro s hs
  simp only [Action.guarded]
  cases hc : c s with
  | false => exact hsk s hs hc
  | true => exact ha s ⟨hs, hc⟩

/-- From a state with the precondition, the action emits only allowed outputs. -/
def Emits (P : σ → Prop) (a : Action σ ο) (allowed : ο → Prop) : Prop := ∀ s, P s → ∀ o ∈ (a s).2, allowed o

variable {allowed : ο → Prop}

theorem emits_skip (P : σ → Prop) (allowed : ο → Prop) : Emits P skip allowed := by
  intro s _ o ho
  cases ho

theorem emits_modify (P : σ → Prop) (f : σ → σ) (allowed : ο → Prop) : Emits P (modify f) allowed := by
  intro s _ o ho
  cases ho

theorem Emits.seq (ha : Emits P a allowed) (ht : Triple P a Q) (hb : Emits Q b allowed) :
    Emits P (a.seq b) allowed := by
  intro s hs o ho
  rcases List.mem_append.mp ho with hf | hsc
  · exact ha s hs o hf
  · exact hb _ (ht s hs) o hsc

theorem Emits.seq_of_true (ha : Emits P a allowed) (hb : Emits (fun _ => True) b allowed) :
    Emits P (a.seq b) allowed :=
  ha.seq (fun _ _ => trivial) hb

theorem Emits.guarded {c : σ → Bool} (ha : Emits P a allowed) : Emits P (guarded c a) allowed := by
  intro s hs o ho
  simp only [Action.guarded] at ho
  split at ho
  · exact ha s hs o ho
  · cases ho

end Action

end ObcFlight
