import Mathlib.Data.List.Basic

/-!
# Deterministic machines with outputs, their runs and their histories

A machine consumes one input per step and answers with a finite list of outputs.
The file packages the inductions over whole runs once: invariants of states,
invariants that also speak about everything emitted so far, runs restricted to
admissible inputs, and runs into which extra inputs have been inserted.
-/

namespace ObcFlight

structure Machine (σ ι ο : Type*) where
  step : σ → ι → σ × List ο

namespace Machine

variable {σ ι ο : Type*} (M : Machine σ ι ο)

def run (s : σ) : List ι → σ
  | [] => s
  | i :: is => run (M.step s i).1 is

def responses (s : σ) : List ι → List (List ο)
  | [] => []
  | i :: is => (M.step s i).2 :: responses (M.step s i).1 is

def trace (s : σ) (is : List ι) : List ο := (M.responses s is).flatten

variable (s : σ)

@[simp] theorem run_nil : M.run s [] = s := rfl

@[simp] theorem run_cons (i : ι) (is : List ι) : M.run s (i :: is) = M.run (M.step s i).1 is := rfl

@[simp] theorem responses_cons (i : ι) (is : List ι) :
    M.responses s (i :: is) = (M.step s i).2 :: M.responses (M.step s i).1 is := rfl

@[simp] theorem trace_nil : M.trace s [] = [] := rfl

@[simp] theorem trace_cons (i : ι) (is : List ι) :
    M.trace s (i :: is) = (M.step s i).2 ++ M.trace (M.step s i).1 is := rfl

theorem run_append (is js : List ι) : M.run s (is ++ js) = M.run (M.run s is) js := by
  induction is generalizing s with
  | nil => rfl
  | cons i _ ih => exact ih (M.step s i).1

theorem trace_append (is js : List ι) :
    M.trace s (is ++ js) = M.trace s is ++ M.trace (M.run s is) js := by
  induction is generalizing s with
  | nil => rfl
  | cons _ _ ih =>
    rw [List.cons_append, trace_cons, trace_cons, ih, List.append_assoc]
    rfl

theorem responses_concat (is : List ι) (i : ι) :
    M.responses s (is ++ [i]) = M.responses s is ++ [(M.step (M.run s is) i).2] := by
  induction is generalizing s with
  | nil => rfl
  | cons _ _ ih => rw [List.cons_append, responses_cons, ih, responses_cons, run_cons, List.cons_append]

/-- The same runs with another thing written down at each step. -/
def observe {ε : Type*} (f : σ → ι → List ε) : Machine σ ι ε := ⟨fun s i => ((M.step s i).1, f s i)⟩

variable {ε : Type*}

@[simp] theorem observe_step (f : σ → ι → List ε) (s : σ) (i : ι) :
    (M.observe f).step s i = ((M.step s i).1, f s i) := rfl

@[simp] theorem observe_run (f : σ → ι → List ε) (s : σ) (is : List ι) :
    (M.observe f).run s is = M.run s is := by
  induction is generalizing s with
  | nil => rfl
  | cons i _ ih => exact ih (M.step s i).1

theorem trace_observe_filterMap {ε γ : Type*} (f : σ → ι → List ε) (F : ε → Option γ) (s : σ)
    (is : List ι) :
    ((M.observe f).trace s is).filterMap F =
      (M.observe fun s i => (f s i).filterMap F).trace s is := by
  induction is generalizing s with
  | nil => rfl
  | cons _ _ ih =>
    simp only [trace_cons, List.filterMap_append, observe_step]
    rw [ih]

theorem trace_observe_map {ε γ : Type*} (f : σ → ι → List ε) (F : ε → γ) (s : σ) (is : List ι) :
    ((M.observe f).trace s is).map F = (M.observe fun s i => (f s i).map F).trace s is := by
  simpa only [List.filterMap_eq_map'] using M.trace_observe_filterMap f (fun e => some (F e)) s is

theorem trace_observe_congr {f f' : σ → ι → List ε} (h : ∀ s i, f s i = f' s i) :
    (M.observe f).trace = (M.observe f').trace := by
  rw [show f = f' from funext fun s => funext (h s)]

theorem exists_of_mem_trace {s : σ} {is : List ι} {o : ο} (h : o ∈ M.trace s is) :
    ∃ pre i post, is = pre ++ i :: post ∧ o ∈ (M.step (M.run s pre) i).2 := by
  induction is generalizing s with
  | nil => simp at h
  | cons i is ih =>
    rw [trace_cons, List.mem_append] at h
    rcases h with h | h
    · exact ⟨[], i, is, rfl, h⟩
    · obtain ⟨pre, j, post, rfl, hj⟩ := ih h
      exact ⟨i :: pre, j, post, rfl, hj⟩

theorem mem_trace {s : σ} {pre post : List ι} {i : ι} {o : ο}
    (h : o ∈ (M.step (M.run s pre) i).2) : o ∈ M.trace s (pre ++ i :: post) := by
  rw [trace_append, trace_cons]
  exact List.mem_append_right _ (List.mem_append_left _ h)

theorem run_invariant {I : σ → Prop} (ht : ∀ s i, I s → I (M.step s i).1)
    (s : σ) (hs : I s) (is : List ι) : I (M.run s is) := by
  induction is generalizing s with
  | nil => exact hs
  | cons i _ ih => exact ih (M.step s i).1 (ht s i hs)

theorem run_invariant_of_forall {I : σ → Prop} {is : List ι}
    (ht : ∀ i ∈ is, ∀ s, I s → I (M.step s i).1) (s : σ) (hs : I s) : I (M.run s is) := by
  induction is generalizing s with
  | nil => exact hs
  | cons i _ ih =>
    exact ih (fun j hj => ht j (List.mem_cons_of_mem i hj)) _ (ht i List.mem_cons_self s hs)

theorem history_invariant {I : List ο → σ → Prop}
    (ht : ∀ l s i, I l s → I (l ++ (M.step s i).2) (M.step s i).1)
    (l : List ο) (s : σ) (hs : I l s) (is : List ι) :
    I (l ++ M.trace s is) (M.run s is) := by
  induction is generalizing l s with
  | nil => simpa using hs
  | cons i _ ih =>
    have hi := ih (l ++ (M.step s i).2) (M.step s i).1 (ht l s i hs)
    rwa [List.append_assoc] at hi

/-- A view of the state that every step updates by its events is, after a run, the
view updated by the whole history. -/
theorem run_view_eq_foldl {ε τ : Type*} (view : σ → τ) {e : σ → ι → List ε} {a : τ → ε → τ}
    (hs : ∀ s i, view (M.step s i).1 = (e s i).foldl a (view s)) (s : σ) (is : List ι) :
    view (M.run s is) = ((M.observe e).trace s is).foldl a (view s) := by
  induction is generalizing s with
  | nil => rfl
  | cons _ _ ih =>
    rw [run_cons, ih, hs, trace_cons, List.foldl_append]
    rfl

/-- Every input is admissible in the state in which it arrives. -/
def Admits (P : σ → ι → Prop) (s : σ) : List ι → Prop
  | [] => True
  | i :: is => P s i ∧ Admits P (M.step s i).1 is

theorem Admits.of_append {P : σ → ι → Prop} {s : σ} {is js : List ι} (h : M.Admits P s (is ++ js)) :
    M.Admits P s is := by
  induction is generalizing s with
  | nil => trivial
  | cons _ _ ih => exact ⟨h.1, ih h.2⟩

theorem Admits.after {P : σ → ι → Prop} {s : σ} {is js : List ι} (h : M.Admits P s (is ++ js)) :
    M.Admits P (M.run s is) js := by
  induction is generalizing s with
  | nil => exact h
  | cons _ _ ih => exact ih h.2

theorem Admits.append {P : σ → ι → Prop} {s : σ} {is js : List ι} (h : M.Admits P s is)
    (h' : M.Admits P (M.run s is) js) : M.Admits P s (is ++ js) := by
  induction is generalizing s with
  | nil => exact h'
  | cons _ _ ih => exact ⟨h.1, ih h.2 h'⟩

theorem Admits.and_forall {P : σ → ι → Prop} {Q : ι → Prop} {s : σ} {is : List ι} (h : M.Admits P s is)
    (hq : ∀ i ∈ is, Q i) : M.Admits (fun s i => P s i ∧ Q i) s is := by
  induction is generalizing s with
  | nil => trivial
  | cons i _ ih =>
    exact ⟨⟨h.1, hq i List.mem_cons_self⟩, ih h.2 fun j hj => hq j (List.mem_cons_of_mem i hj)⟩

theorem Admits.and {P Q : σ → ι → Prop} {s : σ} {is : List ι} (h : M.Admits P s is)
    (hq : M.Admits Q s is) : M.Admits (fun s i => P s i ∧ Q s i) s is := by
  induction is generalizing s with
  | nil => trivial
  | cons _ _ ih => exact ⟨⟨h.1, hq.1⟩, ih h.2 hq.2⟩

theorem admits_congr {P Q : σ → ι → Prop} (h : ∀ s i, P s i ↔ Q s i) (s : σ) (is : List ι) :
    M.Admits P s is ↔ M.Admits Q s is := by
  induction is generalizing s with
  | nil => exact Iff.rfl
  | cons i _ ih => exact and_congr (h s i) (ih _)

theorem run_invariant_of_admits {P : σ → ι → Prop} {I : σ → Prop}
    (ht : ∀ s i, P s i → I s → I (M.step s i).1)
    (s : σ) (hs : I s) (is : List ι) (ha : M.Admits P s is) : I (M.run s is) := by
  induction is generalizing s with
  | nil => exact hs
  | cons i _ ih => exact ih (M.step s i).1 (ht s i ha.1 hs) ha.2

/-- An invariant that admissible steps keep holds at every step of an admissible run. -/
theorem Admits.invariant {P : σ → ι → Prop} {I : σ → Prop} (ht : ∀ s i, P s i → I s → I (M.step s i).1)
    {s : σ} (hs : I s) {is : List ι} (ha : M.Admits P s is) : M.Admits (fun s _ => I s) s is := by
  induction is generalizing s with
  | nil => trivial
  | cons i _ ih => exact ⟨hs, ih (ht s i ha.1 hs) ha.2⟩

theorem observed_invariant_of_admits {f : σ → ι → List ε} {P : σ → ι → Prop}
    {I : List ε → σ → Prop} (ht : ∀ l s i, P s i → I l s → I (l ++ f s i) (M.step s i).1)
    (l : List ε) (s : σ) (hs : I l s) (is : List ι) (ha : M.Admits P s is) :
    I (l ++ (M.observe f).trace s is) (M.run s is) := by
  induction is generalizing l s with
  | nil => simpa using hs
  | cons i _ ih =>
    have hi := ih (l ++ f s i) (M.step s i).1 (ht l s i ha.1 hs) ha.2
    rwa [List.append_assoc] at hi

section Insertion

/-! Runs with inserted inputs: inl marks an input of the original run, inr one
that was inserted. -/

def original (xs : List (ι ⊕ ι)) : List ι := xs.filterMap Sum.getLeft?

def withInserted (xs : List (ι ⊕ ι)) : List ι := xs.map (Sum.elim id id)

/-- The answers to the original inputs in the run that contains the inserted ones. -/
def originalResponses (s : σ) : List (ι ⊕ ι) → List (List ο)
  | [] => []
  | .inl i :: xs => (M.step s i).2 :: originalResponses (M.step s i).1 xs
  | .inr i :: xs => originalResponses (M.step s i).1 xs

/-- Every inserted input satisfies P in the state in which it arrives. -/
def InsertedAll (P : σ → ι → Prop) (s : σ) : List (ι ⊕ ι) → Prop
  | [] => True
  | .inl i :: xs => InsertedAll P (M.step s i).1 xs
  | .inr i :: xs => P s i ∧ InsertedAll P (M.step s i).1 xs

def insertedResponses (s : σ) : List (ι ⊕ ι) → List (ι × List ο)
  | [] => []
  | .inl i :: xs => insertedResponses (M.step s i).1 xs
  | .inr i :: xs => (i, (M.step s i).2) :: insertedResponses (M.step s i).1 xs

theorem insertedResponses_of_insertedAll {P : σ → ι → Prop} {Q : ι → List ο → Prop}
    (h : ∀ s i, P s i → Q i (M.step s i).2) (s : σ) (xs : List (ι ⊕ ι))
    (hxs : M.InsertedAll P s xs) : ∀ r ∈ M.insertedResponses s xs, Q r.1 r.2 := by
  induction xs generalizing s with
  | nil => simp [insertedResponses]
  | cons x _ ih =>
    cases x with
    | inl => exact ih _ hxs
    | inr i =>
      intro r hr
      rcases List.mem_cons.mp hr with rfl | hr
      · exact h s i hxs.1
      · exact ih _ hxs.2 r hr

/-- Unwinding. If related states answer alike and stay related, and an inserted
input keeps its state related to the other side, then no answer to an original
input changes. -/
theorem originalResponses_eq_of_unwinding {R : σ → σ → Prop} {P : σ → ι → Prop}
    (hs : ∀ s t i, R s t → (M.step s i).2 = (M.step t i).2 ∧ R (M.step s i).1 (M.step t i).1)
    (hins : ∀ s t i, P s i → R s t → R (M.step s i).1 t)
    (s t : σ) (hst : R s t) (xs : List (ι ⊕ ι)) (hxs : M.InsertedAll P s xs) :
    M.originalResponses s xs = M.responses t (original xs) ∧
      R (M.run s (withInserted xs)) (M.run t (original xs)) := by
  induction xs generalizing s t with
  | nil => exact ⟨rfl, hst⟩
  | cons x _ ih =>
    cases x with
    | inl i =>
      obtain ⟨hout, hn⟩ := hs s t i hst
      obtain ⟨hres, hrun⟩ := ih _ _ hn hxs
      exact ⟨by simpa [originalResponses, original, hout] using hres, hrun⟩
    | inr i => exact ih _ _ (hins s t i hxs.1 hst) hxs.2

end Insertion

end Machine

end ObcFlight
