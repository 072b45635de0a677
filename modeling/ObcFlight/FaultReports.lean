import ObcFlight.Machine

/-!
# Fault reports with a beginning and an end

A detector runs in cycles. What a cycle finds either releases a reported fault, or raises one,
or leaves things as they are; a fault is submitted when nothing is open and cleared by the next
cycle that releases it. The calls of such a detector alternate, and both ends of a report are
determined by the findings.
-/

namespace ObcFlight

inductive SinkCall (κ : Type*) where
  | submit (kind : κ) (failureCount : UInt32)
  | clear (kind : κ) (failureCount : UInt32)
  deriving DecidableEq, Repr

inductive Finding (κ : Type*) where
  | released
  | alarm (kind : κ) (failureCount : UInt32)
  | quiet
  deriving DecidableEq, Repr

variable {κ σ ι : Type*}

def SinkCall.leavesOpen : SinkCall κ → Option κ
  | .submit k _ => some k
  | .clear _ _ => none

/-- The fault reported by the last call, if that was a submission. -/
def openFault (calls : List (SinkCall κ)) : Option κ := calls.getLast?.bind SinkCall.leavesOpen

/-- Submissions and clears alternate, and a clear names the kind that was submitted. -/
inductive Bracketed : Option κ → List (SinkCall κ) → Option κ → Prop
  | nil (o : Option κ) : Bracketed o [] o
  | submit {k : κ} {n : UInt32} {calls : List (SinkCall κ)} {o : Option κ}
      (h : Bracketed (some k) calls o) : Bracketed none (.submit k n :: calls) o
  | clear {k : κ} {n : UInt32} {calls : List (SinkCall κ)} {o : Option κ}
      (h : Bracketed none calls o) : Bracketed (some k) (.clear k n :: calls) o

theorem Bracketed.append {a b c : Option κ} {xs ys : List (SinkCall κ)} (h : Bracketed a xs b)
    (h' : Bracketed b ys c) : Bracketed a (xs ++ ys) c := by
  induction h with
  | nil => exact h'
  | submit _ ih => exact (ih h').submit
  | clear _ ih => exact (ih h').clear

theorem Bracketed.getLast?_leavesOpen {a b : Option κ} {calls : List (SinkCall κ)}
    (h : Bracketed a calls b) : (calls.getLast?.map SinkCall.leavesOpen).getD a = b := by
  induction h with
  | nil => rfl
  | submit _ ih | clear _ ih =>
    rw [List.getLast?_cons]
    rw [← ih]
    cases (_ : List (SinkCall κ)).getLast? <;> rfl

theorem Bracketed.openFault_eq {calls : List (SinkCall κ)} {o : Option κ}
    (h : Bracketed none calls o) : openFault calls = o := by
  rw [← h.getLast?_leavesOpen, openFault]
  cases calls.getLast? <;> rfl

/-- What one cycle does with what it finds. -/
inductive Reports : Option κ → Finding κ → List (SinkCall κ) → Option κ → Prop
  | submitted (k : κ) (n : UInt32) : Reports none (.alarm k n) [.submit k n] (some k)
  | cleared (k : κ) (n : UInt32) : Reports (some k) .released [.clear k n] none
  | standing {k : κ} {f : Finding κ} (h : f ≠ .released) : Reports (some k) f [] (some k)
  | nothing {f : Finding κ} (h : ∀ k n, f ≠ .alarm k n) : Reports none f [] none

namespace Reports

variable {a b : Option κ} {f : Finding κ} {calls : List (SinkCall κ)}

theorem quiet (a : Option κ) : Reports a .quiet [] a := by
  cases a with
  | none => exact .nothing (by simp)
  | some => exact .standing (by simp)

theorem bracketed (h : Reports a f calls b) : Bracketed a calls b := by
  cases h with
  | submitted => exact (Bracketed.nil _).submit
  | cleared => exact (Bracketed.nil _).clear
  | standing => exact .nil _
  | nothing => exact .nil _

theorem submit_mem (h : Reports a f calls b) {k : κ} {n : UInt32} (hmem : .submit k n ∈ calls) :
    a = none ∧ f = .alarm k n := by
  cases h with
  | submitted k' n' =>
    obtain ⟨rfl, rfl⟩ : k = k' ∧ n = n' := by simpa using hmem
    exact ⟨rfl, rfl⟩
  | cleared => simp at hmem
  | standing | nothing => cases hmem

theorem clear_mem_iff (h : Reports a f calls b) {k : κ} :
    (∃ n, .clear k n ∈ calls) ↔ a = some k ∧ f = .released := by
  cases h with
  | submitted => simp
  | cleared => simp [eq_comm]
  | standing h => simp [h]
  | nothing => simp

end Reports

namespace Machine

variable (M : Machine σ ι (SinkCall κ)) {latched : σ → Option κ} {finding : σ → ι → Finding κ}

/-- Every call of every run: the calls alternate, a submission is the answer to an alarm, and
a fault that stands open is cleared exactly by a cycle that releases it. -/
def ReportsFaults (finding : σ → ι → Finding κ) (s : σ) : Prop :=
  ∀ is i,
    Bracketed none (M.trace s is) (openFault (M.trace s is)) ∧
    (∀ k n, .submit k n ∈ (M.step (M.run s is) i).2 →
      openFault (M.trace s is) = none ∧ finding (M.run s is) i = .alarm k n) ∧
    ∀ k, (∃ n, .clear k n ∈ (M.step (M.run s is) i).2) ↔
      openFault (M.trace s is) = some k ∧ finding (M.run s is) i = .released

variable {I : σ → Prop} (hinv : ∀ s i, I s → I (M.step s i).1)
  (hstep : ∀ s i, I s → Reports (latched s) (finding s i) (M.step s i).2 (latched (M.step s i).1))
include hinv hstep

theorem bracketed_trace (s : σ) (hs : I s) (is : List ι) :
    Bracketed (latched s) (M.trace s is) (latched (M.run s is)) := by
  induction is generalizing s with
  | nil => exact .nil _
  | cons i _ ih => exact (hstep s i hs).bracketed.append (ih _ (hinv s i hs))

theorem reportsFaults {s : σ} (hs : I s) (hn : latched s = none) : M.ReportsFaults finding s := by
  intro is i
  have hrun : I (M.run s is) := M.run_invariant hinv s hs is
  have ht : Bracketed none (M.trace s is) (latched (M.run s is)) := by
    rw [← hn]
    exact M.bracketed_trace hinv hstep s hs is
  have ho : openFault (M.trace s is) = latched (M.run s is) := ht.openFault_eq
  rw [ho]
  exact ⟨ht, fun k n hmem => (hstep _ i hrun).submit_mem hmem,
    fun k => (hstep _ i hrun).clear_mem_iff⟩

end Machine

end ObcFlight
