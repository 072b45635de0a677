import Mathlib.Data.List.Basic
import Mathlib.Data.List.Pairwise
import Mathlib.Logic.Function.Basic
import Mathlib.Order.Basic

/-!
# Sessions with a high-water mark

Every endpoint holds at most one keyed session, and a session only accepts numbers
above the last one it accepted. The file relates a run of such a table to the list
of its events: what is accepted at one endpoint increases until the endpoint opens
its next session, and if no key is opened twice then what is accepted under one key
increases over the whole run, whatever the endpoint.
-/

namespace ObcFlight

structure Session (κ ν : Type*) where
  key : κ
  last : Option ν

abbrev Sessions (ι κ ν : Type*) := ι → Option (Session κ ν)

inductive SessionEvent (ι κ ν : Type*) where
  | opened (i : ι) (key : κ)
  | closed (i : ι)
  | accepted (i : ι) (key : κ) (n : ν)

namespace Sessions

variable {ι κ ν : Type*}

def acceptedAt [DecidableEq ι] (i : ι) (es : List (SessionEvent ι κ ν)) : List ν :=
  es.filterMap fun
    | .accepted j _ n => if j = i then some n else none
    | _ => none

def acceptedPairs (es : List (SessionEvent ι κ ν)) : List (κ × ν) :=
  es.filterMap fun
    | .accepted _ key n => some (key, n)
    | _ => none

def openedKeys (es : List (SessionEvent ι κ ν)) : List κ :=
  es.filterMap fun
    | .opened _ key => some key
    | _ => none

theorem openedKeys_append (es fs : List (SessionEvent ι κ ν)) :
    openedKeys (es ++ fs) = openedKeys es ++ openedKeys fs := List.filterMap_append

theorem acceptedPairs_append (es fs : List (SessionEvent ι κ ν)) :
    acceptedPairs (es ++ fs) = acceptedPairs es ++ acceptedPairs fs := List.filterMap_append

variable [DecidableEq ι] [Preorder ν]

inductive Step : Sessions ι κ ν → SessionEvent ι κ ν → Sessions ι κ ν → Prop
  | opened (s : Sessions ι κ ν) (i : ι) (key : κ) :
      Step s (.opened i key) (Function.update s i (some ⟨key, none⟩))
  | closed (s : Sessions ι κ ν) (i : ι) : Step s (.closed i) (Function.update s i none)
  | accepted {s : Sessions ι κ ν} {i : ι} {key : κ} {last : Option ν} {n : ν}
      (hi : s i = some ⟨key, last⟩) (hup : ∀ m ∈ last, m < n) :
      Step s (.accepted i key n) (Function.update s i (some ⟨key, some n⟩))

inductive Run : Sessions ι κ ν → List (SessionEvent ι κ ν) → Sessions ι κ ν → Prop
  | nil (s : Sessions ι κ ν) : Run s [] s
  | cons {s t u : Sessions ι κ ν} {e : SessionEvent ι κ ν} {es : List (SessionEvent ι κ ν)}
      (hstep : Step s e t) (hrun : Run t es u) : Run s (e :: es) u

variable {s t : Sessions ι κ ν} {es : List (SessionEvent ι κ ν)}

theorem Run.append {u : Sessions ι κ ν} {fs : List (SessionEvent ι κ ν)} (h : Run s es t)
    (h' : Run t fs u) : Run s (es ++ fs) u := by
  induction h with
  | nil => exact h'
  | cons hs _ ih => exact Run.cons hs (ih h')

variable {e : SessionEvent ι κ ν}

theorem Run.single (h : Step s e t) : Run s [e] t := Run.cons h (Run.nil t)

theorem Step.other (h : Step s e t) (i : ι) (ho : ∀ key, e ≠ .opened i key)
    (hc : e ≠ .closed i) (hac : ∀ key n, e ≠ .accepted i key n) : t i = s i := by
  cases h with
  | opened _ key => exact Function.update_of_ne (fun heq => ho key (by rw [heq])) _ _
  | closed => exact Function.update_of_ne (fun heq => hc (by rw [heq])) _ _
  | accepted => exact Function.update_of_ne (fun heq => hac _ _ (by rw [heq])) _ _

/-- A session that is neither replaced nor closed stays live, with its mark below any
bound on the numbers it accepts. -/
theorem Run.live_below (h : Run s es t) {i : ι} {key : κ} {n : ν}
    (hop : ∀ key', .opened i key' ∉ es) (hc : .closed i ∉ es)
    (hbl : ∀ key' m, .accepted i key' m ∈ es → m < n)
    (hl : ∃ last, s i = some ⟨key, last⟩ ∧ ∀ m ∈ last, m < n) :
    ∃ last, t i = some ⟨key, last⟩ ∧ ∀ m ∈ last, m < n := by
  induction h with
  | nil => exact hl
  | @cons s t u e es hs _ ih =>
    refine ih (fun key' hmem => hop key' (List.mem_cons_of_mem _ hmem))
      (fun hmem => hc (List.mem_cons_of_mem _ hmem))
      (fun key' m hmem => hbl key' m (List.mem_cons_of_mem _ hmem)) ?_
    have ho := hs.other i (fun key' heq => hop key' (by rw [heq]; exact List.mem_cons_self))
      fun heq => hc (by rw [heq]; exact List.mem_cons_self)
    cases hs with
    | opened => rwa [ho (by simp)]
    | closed => rwa [ho (by simp)]
    | @accepted i' key' last m hi hup =>
      by_cases heq : i' = i
      · subst heq
        obtain ⟨l', hl', -⟩ := hl
        rw [hi, Option.some.injEq, Session.mk.injEq] at hl'
        obtain ⟨rfl, rfl⟩ := hl'
        refine ⟨some m, Function.update_self .., fun k hk => ?_⟩
        rw [Option.mem_some_iff] at hk
        subst hk
        exact hbl key' m List.mem_cons_self
      · rwa [ho (by simp [heq])]

/-- Until an endpoint opens its next session, the numbers it accepts increase, and
they all lie above the mark it started from. -/
theorem Run.acceptedAt_increasing (h : Run s es t) (i : ι) (ho : ∀ key, .opened i key ∉ es) :
    (acceptedAt i es).Pairwise (· < ·) ∧
      ∀ n ∈ acceptedAt i es, ∃ ss, s i = some ss ∧ ∀ m ∈ ss.last, m < n := by
  induction h with
  | nil => exact ⟨List.Pairwise.nil, by simp [acceptedAt]⟩
  | @cons s t u e es ht _ ih =>
    obtain ⟨hinc, hab⟩ := ih fun key hmem => ho key (List.mem_cons_of_mem _ hmem)
    have hot := ht.other i fun key heq => ho key (by rw [heq]; exact List.mem_cons_self)
    cases ht with
    | opened => exact ⟨hinc, fun n hn => by
        rw [← hot (by simp) (by simp)]; exact hab n hn⟩
    | closed i' =>
      refine ⟨hinc, fun n hn => ?_⟩
      obtain ⟨ss, hs, hl⟩ := hab n hn
      by_cases heq : i' = i
      · subst heq
        simp at hs
      · exact ⟨ss, by rwa [Function.update_of_ne (Ne.symm heq)] at hs, hl⟩
    | @accepted i' key last n hi hup =>
      by_cases heq : i' = i
      · subst heq
        have hc : acceptedAt i' (.accepted i' key n :: es) = n :: acceptedAt i' es := by
          simp [acceptedAt]
        have hlr : ∀ m ∈ acceptedAt i' es, n < m := by
          intro m hm
          obtain ⟨ss, hs, hl⟩ := hab m hm
          rw [Function.update_self, Option.some.injEq] at hs
          subst hs
          exact hl n rfl
        rw [hc]
        refine ⟨List.pairwise_cons.mpr ⟨hlr, hinc⟩, fun m hm => ⟨_, hi, fun k hk => ?_⟩⟩
        rcases List.mem_cons.mp hm with rfl | hm
        · exact hup k hk
        · exact (hup k hk).trans (hlr m hm)
      · have hc : acceptedAt i (.accepted i' key n :: es) = acceptedAt i es := by
          simp [acceptedAt, heq]
        rw [hc, ← hot (by simp) (by simp [heq])]
        exact ⟨hinc, hab⟩

/-- What the events so far say about the sessions that are live now, when no key has
been opened twice. -/
structure Consistent (es : List (SessionEvent ι κ ν)) (s : Sessions ι κ ν) : Prop where
  live : ∀ i session, s i = some session → session.key ∈ openedKeys es
  distinct : ∀ i j session session', s i = some session → s j = some session' →
    session.key = session'.key → i = j
  marked : ∀ i session n, s i = some session → (session.key, n) ∈ acceptedPairs es →
    ∃ m ∈ session.last, n ≤ m
  origin : ∀ a ∈ acceptedPairs es, a.1 ∈ openedKeys es
  increasing : (acceptedPairs es).Pairwise fun a b => a.1 = b.1 → a.2 < b.2

theorem Consistent.opened (h : Consistent es s) (i : ι) (key : κ)
    (hnd : (openedKeys (es ++ [SessionEvent.opened i key])).Nodup) :
    Consistent (es ++ [SessionEvent.opened i key]) (Function.update s i (some ⟨key, none⟩)) := by
  have hk : openedKeys (es ++ [SessionEvent.opened i key]) = openedKeys es ++ [key] := openedKeys_append _ _
  have hp : acceptedPairs (es ++ [SessionEvent.opened i key]) = acceptedPairs es := by
    rw [acceptedPairs_append]
    exact List.append_nil _
  have hnew : key ∉ openedKeys es := by
    rw [hk, List.nodup_append] at hnd
    exact fun hmem => hnd.2.2 key hmem key (List.mem_singleton_self key) rfl
  refine ⟨?_, ?_, ?_, ?_, by rw [hp]; exact h.increasing⟩
  · intro j ss hj
    rw [hk, List.mem_append, List.mem_singleton]
    rcases eq_or_ne j i with rfl | hne
    · rw [Function.update_self, Option.some.injEq] at hj
      exact Or.inr (by rw [← hj])
    · rw [Function.update_of_ne hne] at hj
      exact Or.inl (h.live j ss hj)
  · -- the fresh key is not that of any session opened before
    intro j j' ss s' hj hj' hkey
    by_cases hne : j = i <;> by_cases hne' : j' = i
    · rw [hne, hne']
    · rw [hne, Function.update_self, Option.some.injEq] at hj
      rw [Function.update_of_ne hne'] at hj'
      exact absurd (h.live j' s' hj') (by rwa [← hkey, ← hj])
    · rw [Function.update_of_ne hne] at hj
      rw [hne', Function.update_self, Option.some.injEq] at hj'
      exact absurd (h.live j ss hj) (by rwa [hkey, ← hj'])
    · rw [Function.update_of_ne hne] at hj
      rw [Function.update_of_ne hne'] at hj'
      exact h.distinct j j' ss s' hj hj' hkey
  · intro j ss n hj hmem
    rw [hp] at hmem
    rcases eq_or_ne j i with rfl | hne
    · rw [Function.update_self, Option.some.injEq] at hj
      exact absurd (h.origin _ hmem) (by rwa [← hj])
    · rw [Function.update_of_ne hne] at hj
      exact h.marked j ss n hj hmem
  · intro a ha
    rw [hk]
    exact List.mem_append_left _ (h.origin a (by rwa [hp] at ha))

theorem Consistent.closed (h : Consistent es s) (i : ι) :
    Consistent (es ++ [SessionEvent.closed i]) (Function.update s i none) := by
  have hk : openedKeys (es ++ [SessionEvent.closed i]) = openedKeys es := by
    rw [openedKeys_append]
    exact List.append_nil _
  have hp : acceptedPairs (es ++ [SessionEvent.closed i]) = acceptedPairs es := by
    rw [acceptedPairs_append]
    exact List.append_nil _
  have hback {j : ι} {session : Session κ ν}
      (hj : Function.update s i none j = some session) : s j = some session := by
    rcases eq_or_ne j i with rfl | hne
    · simp at hj
    · rwa [Function.update_of_ne hne] at hj
  refine ⟨?_, ?_, ?_, by rw [hk, hp]; exact h.origin, by rw [hp]; exact h.increasing⟩
  · intro j session hj
    rw [hk]
    exact h.live j session (hback hj)
  · intro j j' session s' hj hj'
    exact h.distinct j j' session s' (hback hj) (hback hj')
  · intro j session n hj hmem
    exact h.marked j session n (hback hj) (by rwa [hp] at hmem)

theorem Consistent.accepted (h : Consistent es s) {i : ι} {key : κ} {last : Option ν} {n : ν}
    (hi : s i = some ⟨key, last⟩) (hup : ∀ m ∈ last, m < n) :
    Consistent (es ++ [SessionEvent.accepted i key n]) (Function.update s i (some ⟨key, some n⟩)) := by
  have hky : openedKeys (es ++ [SessionEvent.accepted i key n]) = openedKeys es := by
    rw [openedKeys_append]
    exact List.append_nil _
  have hp : acceptedPairs (es ++ [SessionEvent.accepted i key n]) = acceptedPairs es ++ [(key, n)] :=
    acceptedPairs_append _ _
  -- the session at i keeps its key, so keys can be compared in the old state
  have hback {j : ι} {ss : Session κ ν}
      (hj : Function.update s i (some ⟨key, some n⟩) j = some ss) :
      ∃ l', s j = some ⟨ss.key, l'⟩ := by
    rcases eq_or_ne j i with rfl | hne
    · rw [Function.update_self, Option.some.injEq] at hj
      exact ⟨last, by rw [hi, ← hj]⟩
    · rw [Function.update_of_ne hne] at hj
      exact ⟨ss.last, hj⟩
  have hbl : ∀ m, (key, m) ∈ acceptedPairs es → m < n := by
    intro m hm
    obtain ⟨k, hk, hle⟩ := h.marked i _ m hi hm
    exact hle.trans_lt (hup k hk)
  refine ⟨?_, ?_, ?_, ?_, ?_⟩
  · intro j ss hj
    obtain ⟨l', hold⟩ := hback hj
    rw [hky]
    exact h.live j ⟨ss.key, l'⟩ hold
  · intro j j' ss s' hj hj'
    obtain ⟨last₁, hold⟩ := hback hj
    obtain ⟨last₂, ho'⟩ := hback hj'
    exact h.distinct j j' ⟨ss.key, last₁⟩ ⟨s'.key, last₂⟩ hold ho'
  · intro j ss m hj hmem
    rw [hp, List.mem_append, List.mem_singleton, Prod.mk.injEq] at hmem
    rcases eq_or_ne j i with rfl | hne
    · rw [Function.update_self, Option.some.injEq] at hj
      subst hj
      refine ⟨n, rfl, ?_⟩
      rcases hmem with hmem | ⟨-, rfl⟩
      · exact (hbl m hmem).le
      · exact le_refl m
    · rw [Function.update_of_ne hne] at hj
      rcases hmem with hmem | ⟨hkey, -⟩
      · exact h.marked j ss m hj hmem
      · exact absurd (h.distinct j i ss _ hj hi hkey) hne
  · intro a ha
    rw [hky]
    rw [hp, List.mem_append, List.mem_singleton] at ha
    rcases ha with ha | rfl
    · exact h.origin a ha
    · exact h.live i _ hi
  · rw [hp, List.pairwise_append]
    refine ⟨h.increasing, List.pairwise_singleton _ _, ?_⟩
    intro a ha b hb hkey
    rw [List.mem_singleton] at hb
    subst hb
    exact hbl a.2 (by rwa [show (key, a.2) = a from Prod.ext hkey.symm rfl])

theorem Consistent.step (h : Consistent es s) (hs : Step s e t)
    (hnd : (openedKeys (es ++ [e])).Nodup) : Consistent (es ++ [e]) t := by
  cases hs with
  | opened i key => exact h.opened i key hnd
  | closed i => exact h.closed i
  | accepted hi hup => exact h.accepted hi hup

theorem Consistent.run {fs : List (SessionEvent ι κ ν)} (h : Consistent es s) (hrun : Run s fs t)
    (hnd : (openedKeys (es ++ fs)).Nodup) : Consistent (es ++ fs) t := by
  induction hrun generalizing es with
  | nil => simpa using h
  | @cons s t u e fs hs _ ih =>
    have happ : es ++ e :: fs = (es ++ [e]) ++ fs := by simp
    rw [happ] at hnd ⊢
    refine ih (h.step hs ?_) hnd
    rw [openedKeys_append] at hnd
    exact (List.nodup_append.mp hnd).1

theorem Run.acceptedPairs_increasing (h : Run (fun _ => none) es t) (hnd : (openedKeys es).Nodup) :
    (acceptedPairs es).Pairwise fun a b => a.1 = b.1 → a.2 < b.2 := by
  have he : Consistent ([] : List (SessionEvent ι κ ν)) (fun _ => none) :=
    ⟨by simp, by simp, by simp, by simp [acceptedPairs], by simp [acceptedPairs]⟩
  exact (he.run h hnd).increasing

theorem Run.accepted_keys_nodup [Subsingleton ν] (h : Run (fun _ => none) es t)
    (hnd : (openedKeys es).Nodup) : ((acceptedPairs es).map Prod.fst).Nodup := by
  rw [List.Nodup, List.pairwise_map]
  refine (h.acceptedPairs_increasing hnd).imp fun {a b} hab hkey => ?_
  have hlt := hab hkey
  rw [Subsingleton.elim a.2 b.2] at hlt
  exact lt_irrefl _ hlt

end Sessions

end ObcFlight
