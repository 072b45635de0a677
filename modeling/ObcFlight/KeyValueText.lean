import Mathlib.Data.List.DropRight
import Mathlib.Data.List.Basic

/-!
# Texts of key-value lines

A text is a sequence of lines, each a key, a delimiter and a value. Reading splits the
text at its newlines, trims every line, skips blank ones and divides the others at the
first delimiter; a line without a key or without a delimiter makes the whole text
unreadable. The alphabet and its special symbols are parameters. The second half says
what is read back from a rendered text.
-/

namespace ObcFlight

/-- The special symbols of a text of key-value lines. -/
structure LineFormat (α : Type*) where
  newline : α
  delimiter : α
  isSpace : α → Bool
  newline_space : isSpace newline = true
  delimiter_solid : isSpace delimiter = false

namespace LineFormat

variable {α : Type*} (F : LineFormat α)

def trim (text : List α) : List α := (text.dropWhile F.isSpace).rdropWhile F.isSpace

def renderEntry (entry : List α × List α) : List α := entry.1 ++ F.delimiter :: entry.2

def render (entries : List (List α × List α)) : List α :=
  entries.flatMap fun entry => F.renderEntry entry ++ [F.newline]

/-- A key that survives reading: not empty, without white space and without delimiter. -/
structure Key (key : List α) : Prop where
  ne_nil : key ≠ []
  solid : ∀ a ∈ key, F.isSpace a = false
  no_delimiter : F.delimiter ∉ key

/-- An entry that fills one line. -/
structure Entry (entry : List α × List α) : Prop where
  key : F.Key entry.1
  no_newline : F.newline ∉ entry.2

/-- A value that a line can hold and reading leaves as it is. -/
structure Clean (text : List α) : Prop where
  no_newline : F.newline ∉ text
  trimmed : F.trim text = text

section Reading

variable [DecidableEq α]

/-- The lines of a text; a final newline ends the last line and starts no other. -/
def getLines : List α → List (List α)
  | [] => []
  | a :: text =>
    if a = F.newline then [] :: getLines text
    else
      match getLines text with
      | [] => [[a]]
      | line :: lines => (a :: line) :: lines

def splitEntry (line : List α) : Option (List α × List α) :=
  if F.delimiter ∈ line ∧ line.head? ≠ some F.delimiter then
    some (F.trim (line.takeWhile (· ≠ F.delimiter)), F.trim (line.dropWhile (· ≠ F.delimiter)).tail)
  else none

def entriesOf : List (List α) → Option (List (List α × List α))
  | [] => some []
  | line :: lines =>
    if F.trim line = [] then entriesOf lines
    else
      match F.splitEntry (F.trim line) with
      | none => none
      | some entry => (entriesOf lines).map (entry :: ·)

def parse (text : List α) : Option (List (List α × List α)) := F.entriesOf (F.getLines text)

end Reading

variable {F}

theorem Key.no_newline {key : List α} (h : F.Key key) : F.newline ∉ key := by
  intro hmem
  have hs := h.solid _ hmem
  rw [F.newline_space] at hs
  cases hs

theorem delimiter_ne_newline : F.delimiter ≠ F.newline := by
  intro heq
  have hs := F.delimiter_solid
  rw [heq, F.newline_space] at hs
  cases hs

theorem length_renderEntry (F : LineFormat α) (key v : List α) :
    (F.renderEntry (key, v)).length = key.length + 1 + v.length := by
  simp [renderEntry]
  omega

theorem Entry.renderEntry_no_newline {entry : List α × List α} (h : F.Entry entry) :
    F.newline ∉ F.renderEntry entry := by
  rw [renderEntry, List.mem_append, List.mem_cons]
  rintro (hkey | hdl | hvl)
  · exact h.key.no_newline hkey
  · exact delimiter_ne_newline hdl.symm
  · exact h.no_newline hvl

theorem rdropWhile_solid {a : α} (ha : F.isSpace a = false) (xs ys : List α) :
    (xs ++ a :: ys).rdropWhile F.isSpace = xs ++ a :: ys.rdropWhile F.isSpace := by
  induction ys using List.reverseRecOn with
  | nil => exact List.rdropWhile_concat_neg _ _ _ (by simp [ha])
  | append_singleton _ b ih =>
    rw [← List.cons_append, ← List.append_assoc]
    by_cases hb : F.isSpace b = true
    · rw [List.rdropWhile_concat_pos _ _ _ hb, List.rdropWhile_concat_pos _ _ _ hb, ih]
    · rw [List.rdropWhile_concat_neg _ _ _ hb, List.rdropWhile_concat_neg _ _ _ hb,
        List.append_assoc, List.cons_append]

theorem trim_concat_space {b : α} (hb : F.isSpace b = true) (text : List α) :
    F.trim (text ++ [b]) = F.trim text := by
  rw [trim, trim, List.dropWhile_append]
  split_ifs with he
  · rw [List.isEmpty_iff.mp he, List.dropWhile_cons_of_pos hb]
    rfl
  · exact List.rdropWhile_concat_pos _ _ _ hb

theorem trim_rdropWhile (text : List α) : F.trim (text.rdropWhile F.isSpace) = F.trim text := by
  induction text using List.reverseRecOn with
  | nil => rfl
  | append_singleton _ b ih =>
    by_cases hb : F.isSpace b = true
    · rw [List.rdropWhile_concat_pos _ _ _ hb, ih, trim_concat_space hb]
    · rw [List.rdropWhile_concat_neg _ _ _ hb]

variable {text : List α}

theorem trim_of_solid (h : ∀ a ∈ text, F.isSpace a = false) : F.trim text = text := by
  have hdr (xs : List α) (hxs : ∀ a ∈ xs, F.isSpace a = false) : xs.dropWhile F.isSpace = xs := by
    cases xs with
    | nil => rfl
    | cons a => exact List.dropWhile_cons_of_neg (by simp [hxs a List.mem_cons_self])
  rw [trim, hdr text h, List.rdropWhile, hdr _ fun a ha => h a (List.mem_reverse.mp ha),
    List.reverse_reverse]

theorem trim_renderEntry {key : List α} (h : F.Key key) (v : List α) :
    F.trim (F.renderEntry (key, v)) = F.renderEntry (key, v.rdropWhile F.isSpace) := by
  have hdr : (F.renderEntry (key, v)).dropWhile F.isSpace = F.renderEntry (key, v) := by
    cases key with
    | nil => exact absurd rfl h.ne_nil
    | cons a => exact List.dropWhile_cons_of_neg (by simp [h.solid a List.mem_cons_self])
  rw [trim, hdr, renderEntry, rdropWhile_solid F.delimiter_solid, renderEntry]

theorem mem_of_mem_trim {a : α} (h : a ∈ F.trim text) : a ∈ text :=
  (List.dropWhile_suffix _).subset ((List.rdropWhile_prefix _ _).subset h)

theorem trim_trim (text : List α) : F.trim (F.trim text) = F.trim text := by
  have hh : ((text.dropWhile F.isSpace).rdropWhile F.isSpace).dropWhile F.isSpace =
      (text.dropWhile F.isSpace).rdropWhile F.isSpace := by
    cases hdr : text.dropWhile F.isSpace with
    | nil => rfl
    | cons a rest =>
      have ha : F.isSpace a = false := by
        have := List.head?_dropWhile_not F.isSpace text
        simpa [hdr] using this
      have hs := rdropWhile_solid ha [] rest
      rw [List.nil_append] at hs
      rw [hs]
      exact List.dropWhile_cons_of_neg (by simp [ha])
  have hsl : F.trim (F.trim text) =
      (((text.dropWhile F.isSpace).rdropWhile F.isSpace).dropWhile F.isSpace).rdropWhile F.isSpace := rfl
  rw [hsl, hh, List.rdropWhile_idempotent]
  rfl

theorem rdropWhile_of_trimmed (h : F.trim text = text) : text.rdropWhile F.isSpace = text := by
  conv_lhs => rw [← h, trim, List.rdropWhile_idempotent]
  exact h

theorem rdropWhile_append {xs ys : List α} (hne : ys ≠ []) (hys : ys.rdropWhile F.isSpace = ys) :
    (xs ++ ys).rdropWhile F.isSpace = xs ++ ys := by
  rw [List.rdropWhile_eq_self_iff] at hys ⊢
  intro h
  rw [List.getLast_append_of_ne_nil _ hne]
  exact hys hne

theorem trim_append_solid {xs ys : List α} (hxs : xs.rdropWhile F.isSpace = xs) (hne : ys ≠ [])
    (hys : ∀ a ∈ ys, F.isSpace a = false) : F.trim (xs ++ ys) = F.trim xs ++ ys := by
  have hys' : F.trim ys = ys := trim_of_solid hys
  rw [trim, List.dropWhile_append]
  split_ifs with he
  · have hs : F.trim xs = [] := by rw [trim, List.isEmpty_iff.mp he, List.rdropWhile_nil]
    rw [hs, List.nil_append]
    exact hys'
  · have ht : F.trim xs = xs.dropWhile F.isSpace := by
      have hne' : xs.dropWhile F.isSpace ≠ [] := fun h => he (by simp [h])
      rw [trim, List.rdropWhile_eq_self_iff]
      intro h
      have hl : (xs.dropWhile F.isSpace).getLast h = xs.getLast (fun hnil => by simp [hnil] at h) := by
        obtain ⟨f, hf⟩ := List.dropWhile_suffix (l := xs) F.isSpace
        conv_rhs => rw [List.getLast_congr _ (by simp [h]) hf.symm]
        rw [List.getLast_append_of_ne_nil _ h]
      rw [hl]
      exact List.rdropWhile_eq_self_iff.mp hxs _
    rw [ht]
    exact rdropWhile_append hne (rdropWhile_of_trimmed hys')

section Reading

variable [DecidableEq α] {key line : List α}

theorem getLines_line (hl : F.newline ∉ line) (rest : List α) :
    F.getLines (line ++ F.newline :: rest) = line :: F.getLines rest := by
  induction line with
  | nil => simp [getLines]
  | cons _ _ ih =>
    rw [List.mem_cons, not_or] at hl
    rw [List.cons_append, getLines, if_neg (Ne.symm hl.1), ih hl.2]

theorem getLines_single (hl : F.newline ∉ line) (hne : line ≠ []) : F.getLines line = [line] := by
  induction line with
  | nil => exact absurd rfl hne
  | cons _ line ih =>
    rw [List.mem_cons, not_or] at hl
    rw [getLines, if_neg (Ne.symm hl.1)]
    cases line with
    | nil => rfl
    | cons => rw [ih hl.2 (by simp)]

theorem splitEntry_renderEntry (h : F.Key key) (v : List α) :
    F.splitEntry (F.renderEntry (key, v)) = some (key, F.trim v) := by
  have hmem : F.delimiter ∈ F.renderEntry (key, v) := by simp [renderEntry]
  have hh : (F.renderEntry (key, v)).head? ≠ some F.delimiter := by
    intro hh
    cases key with
    | nil => exact h.ne_nil rfl
    | cons =>
      rw [renderEntry, List.cons_append, List.head?_cons, Option.some.injEq] at hh
      exact h.no_delimiter (by rw [← hh]; exact List.mem_cons_self)
  have hkey : ∀ a ∈ key, decide (a ≠ F.delimiter) = true := by
    intro a ha
    exact decide_eq_true fun heq => h.no_delimiter (by rwa [heq] at ha)
  rw [splitEntry, if_pos ⟨hmem, hh⟩, renderEntry, List.takeWhile_append_of_pos hkey,
    List.dropWhile_append_of_pos hkey, List.takeWhile_cons_of_neg (by simp),
    List.dropWhile_cons_of_neg (by simp), List.append_nil, List.tail_cons, trim_of_solid h.solid]

theorem entriesOf_renderEntry (h : F.Key key) (v : List α) (l : List (List α)) :
    F.entriesOf (F.renderEntry (key, v) :: l) = (F.entriesOf l).map ((key, F.trim v) :: ·) := by
  have hne : F.renderEntry (key, v.rdropWhile F.isSpace) ≠ [] := by simp [renderEntry]
  rw [entriesOf, trim_renderEntry h, if_neg hne, splitEntry_renderEntry h, trim_rdropWhile]

theorem parse_entry {e : List α × List α} (h : F.Entry e) (rest : List α) :
    F.parse (F.renderEntry e ++ F.newline :: rest) =
      (F.parse rest).map ((e.1, F.trim e.2) :: ·) := by
  rw [parse, getLines_line h.renderEntry_no_newline]
  exact entriesOf_renderEntry h.key e.2 _

variable {entries es : List (List α × List α)}

theorem parse_render_append (h : ∀ x ∈ entries, F.Entry x) (rest : List α) :
    F.parse (F.render entries ++ rest) =
      (F.parse rest).map ((entries.map fun x => (x.1, F.trim x.2)) ++ ·) := by
  induction entries with
  | nil => simp [render]
  | cons x entries ih =>
    have hen := h x List.mem_cons_self
    have hr := ih fun e he => h e (List.mem_cons_of_mem _ he)
    have hs : F.render (x :: entries) ++ rest =
        F.renderEntry x ++ F.newline :: (F.render entries ++ rest) := by
      simp [render]
    rw [hs, parse_entry hen, hr, Option.map_map]
    rfl

/-- The value of a key; a missing key reads as the empty value. -/
def value (entries : List (List α × List α)) (key : List α) : List α := (entries.lookup key).getD []

theorem value_cons_self (key v : List α) (entries : List (List α × List α)) :
    value ((key, v) :: entries) key = v := by
  simp [value]

theorem value_cons_of_ne {key' : List α} (h : key ≠ key') (v : List α)
    (entries : List (List α × List α)) : value ((key', v) :: entries) key = value entries key := by
  simp [value, List.lookup_cons, beq_eq_false_iff_ne.mpr h]

theorem value_append_of_mem (hnd : (entries.map Prod.fst).Nodup) {v : List α}
    (hmem : (key, v) ∈ entries) (rest : List (List α × List α)) :
    value ((entries.map fun e => (e.1, F.trim e.2)) ++ rest) key = F.trim v := by
  induction entries with
  | nil => cases hmem
  | cons e _ ih =>
    rw [List.map_cons, List.nodup_cons] at hnd
    rw [List.map_cons, List.cons_append]
    rcases List.mem_cons.mp hmem with rfl | ht
    · exact value_cons_self _ _ _
    · have hne : key ≠ e.1 := by
        rintro rfl
        exact hnd.1 (List.mem_map.mpr ⟨_, ht, rfl⟩)
      rw [value_cons_of_ne hne, ih hnd.2 ht]

theorem mem_getLines_no_newline {text : List α} (h : line ∈ F.getLines text) :
    F.newline ∉ line := by
  induction text generalizing line with
  | nil => cases h
  | cons _ text ih =>
    rw [getLines] at h
    split_ifs at h with ha
    · rcases List.mem_cons.mp h with rfl | ht
      · simp
      · exact ih ht
    · cases hl : F.getLines text with
      | nil =>
        rw [hl, List.mem_singleton] at h
        rw [h, List.mem_singleton]
        exact Ne.symm ha
      | cons =>
        rw [hl] at h ih
        rcases List.mem_cons.mp h with rfl | ht
        · rw [List.mem_cons, not_or]
          exact ⟨Ne.symm ha, ih List.mem_cons_self⟩
        · exact ih (List.mem_cons_of_mem _ ht)

theorem splitEntry_clean (hl : F.newline ∉ line) {e : List α × List α}
    (h : F.splitEntry line = some e) : F.Clean e.2 := by
  rw [splitEntry] at h
  split_ifs at h
  cases h
  refine ⟨fun hmem => hl ?_, trim_trim _⟩
  exact (List.dropWhile_suffix _).subset (List.mem_of_mem_tail (mem_of_mem_trim hmem))

theorem entriesOf_clean {ls : List (List α)} (hln : ∀ line ∈ ls, F.newline ∉ line)
    (h : F.entriesOf ls = some es) : ∀ e ∈ es, F.Clean e.2 := by
  induction ls generalizing es with
  | nil =>
    cases h
    simp
  | cons line _ ih =>
    have ht := fun l hl => hln l (List.mem_cons_of_mem _ hl)
    rw [entriesOf] at h
    split_ifs at h
    · exact ih ht h
    · cases hs : F.splitEntry (F.trim line) with
      | none => simp [hs] at h
      | some =>
        rw [hs] at h
        obtain ⟨rest, hr, rfl⟩ := Option.map_eq_some_iff.mp h
        have hline : F.newline ∉ F.trim line :=
          fun hmem => hln line List.mem_cons_self (mem_of_mem_trim hmem)
        rw [List.forall_mem_cons]
        exact ⟨splitEntry_clean hline hs, ih ht hr⟩

theorem value_clean {text : List α} (h : F.parse text = some es) (key : List α) :
    F.Clean (value es key) := by
  have hall := entriesOf_clean (fun _ => mem_getLines_no_newline) h
  unfold value
  cases hl : es.lookup key with
  | none => exact ⟨by simp, rfl⟩
  | some v =>
    obtain ⟨b, a, rfl, -⟩ := List.lookup_eq_some_iff.mp hl
    exact hall (key, v) (by simp)

end Reading

end LineFormat

end ObcFlight
