import Mathlib.Data.List.Perm.Basic
import Mathlib.Algebra.BigOperators.Group.List.Basic
import ObcFlight.WireCodec

/-!
# Scans of the storage roots

A scan walks a directory tree and adds up the regular files in it, each capped and the sum kept below
2^32. Capping at every step gives the capped sum of all, and a call that fails at any depth spoils
the scan of its root.
-/

namespace ObcFlight

inductive StatAnswer where
  | failed (errno : UInt32)
  | regular (size : ℕ)
  | special

/-- What the system calls answer while a directory is read, in the order of the listing. -/
inductive Listing where
  | unopened (errno : UInt32)
  | finished (errno : UInt32)
  | entry (name : Bytes) (answer : StatAnswer) (rest : Listing)
  | directory (name : Bytes) (child rest : Listing)

inductive QuotaStatus where
  | notConfigured
  | ok
  | overQuota
  | unavailable
  deriving DecidableEq

structure RootStats where
  exists_ : Bool := false
  scanOk : Bool := false
  fileCount : UInt32 := 0
  totalBytes : UInt32 := 0
  errorCode : UInt32 := 0
  quotaBytes : UInt32 := 0
  watermarkBytes : UInt32 := 0
  quotaStatus : QuotaStatus := .notConfigured
  deriving DecidableEq

namespace StorageScanner

def eio : UInt32 := 5

def enoent : UInt32 := 2

def enotdir : UInt32 := 20

def isDotEntry (name : Bytes) : Bool := name = ascii "." || name = ascii ".."

def isMissingErrno (err : UInt32) : Bool := err = enoent || err = enotdir

def setErrorCodeIfUnset (stats : RootStats) (err : UInt32) : RootStats :=
  if stats.errorCode = 0 then { stats with errorCode := if err = 0 then eio else err } else stats

def addSize (totalBytes : UInt32) (size : ℕ) : UInt32 :=
  if 0 < size then UInt32.ofNat (min (totalBytes.toNat + min size 0xFFFFFFFF) 0xFFFFFFFF) else totalBytes

/-- What an entry that is no directory adds, and whether it could be inspected. -/
def countEntry (stats : RootStats) : StatAnswer → RootStats × Bool
  | .failed errno => (setErrorCodeIfUnset stats errno, false)
  | .regular size =>
    ({ stats with fileCount := stats.fileCount + 1, totalBytes := addSize stats.totalBytes size }, true)
  | .special => (stats, true)

def scanDirectoryRecursive : Listing → RootStats → Bool → RootStats × Bool
  | .unopened errno, stats, _ => (setErrorCodeIfUnset stats errno, false)
  | .finished errno, stats, success =>
    if errno ≠ 0 then (setErrorCodeIfUnset stats errno, false) else (stats, success)
  | .entry name answer rest, stats, success =>
    if isDotEntry name then scanDirectoryRecursive rest stats success
    else scanDirectoryRecursive rest (countEntry stats answer).1 (success && (countEntry stats answer).2)
  | .directory name child rest, stats, success =>
    if isDotEntry name then scanDirectoryRecursive rest stats success
    else
      let scanned := scanDirectoryRecursive child stats true
      scanDirectoryRecursive rest scanned.1 (success && scanned.2)

/-- The root is named by the answer for its own path. -/
def scanRoot : StatAnswer ⊕ Listing → RootStats
  | .inl (.failed errno) => setErrorCodeIfUnset { exists_ := !isMissingErrno errno } errno
  | .inl _ => setErrorCodeIfUnset { exists_ := true } enotdir
  | .inr listing =>
    let scanned := scanDirectoryRecursive listing { exists_ := true } true
    { scanned.1 with scanOk := scanned.2 }

def applyPolicy (stats : RootStats) (quotaBytes watermarkBytes : UInt32) : RootStats :=
  { stats with
    quotaBytes
    watermarkBytes
    quotaStatus :=
      if quotaBytes = 0 then .notConfigured
      else if !stats.scanOk then .unavailable
      else if quotaBytes < stats.totalBytes then .overQuota
      else .ok }

end StorageScanner

open StorageScanner

namespace Listing

/-- The sizes of the regular files in the tree. -/
def files : Listing → List ℕ
  | .unopened _ | .finished _ => []
  | .entry name answer rest =>
    match isDotEntry name, answer with
    | false, .regular size => size :: rest.files
    | _, _ => rest.files
  | .directory name child rest => if isDotEntry name then rest.files else child.files ++ rest.files

/-- Every call made for the tree succeeds. -/
def Readable : Listing → Prop
  | .unopened _ => False
  | .finished errno => errno = 0
  | .entry name answer rest => (isDotEntry name = false → ∀ errno, answer ≠ .failed errno) ∧ rest.Readable
  | .directory name child rest => (isDotEntry name = false → child.Readable) ∧ rest.Readable

end Listing

namespace StorageScanner

theorem addSize_toNat (t : UInt32) (size : ℕ) :
    (addSize t size).toNat = min (t.toNat + size) 0xFFFFFFFF := by
  have hlt := t.toNat_lt
  unfold addSize
  split_ifs with hs
  · rw [UInt32.toNat_ofNat_of_lt' (by simp [UInt32.size])]
    omega
  · omega

variable (s : RootStats)

@[simp] theorem setErrorCodeIfUnset_fileCount (err : UInt32) :
    (setErrorCodeIfUnset s err).fileCount = s.fileCount := by
  unfold setErrorCodeIfUnset
  split_ifs <;> rfl

@[simp] theorem setErrorCodeIfUnset_totalBytes (err : UInt32) :
    (setErrorCodeIfUnset s err).totalBytes = s.totalBytes := by
  unfold setErrorCodeIfUnset
  split_ifs <;> rfl

/-- The totals, counted on from what was there. -/
structure Adds (stats stats' : RootStats) (files : List ℕ) : Prop where
  count : stats'.fileCount = stats.fileCount + UInt32.ofNat files.length
  bytes : stats'.totalBytes.toNat = min (stats.totalBytes.toNat + files.sum) 0xFFFFFFFF

theorem Adds.refl {s s' : RootStats} (hc : s'.fileCount = s.fileCount)
    (hb : s'.totalBytes = s.totalBytes) : Adds s s' [] := by
  have hlt := s.totalBytes.toNat_lt
  refine ⟨by simp [hc], ?_⟩
  rw [hb, List.sum_nil]
  omega

theorem Adds.trans {a b c : RootStats} {xs ys : List ℕ} (hab : Adds a b xs) (hbc : Adds b c ys) :
    Adds a c (xs ++ ys) := by
  refine ⟨?_, ?_⟩
  · rw [hbc.count, hab.count, List.length_append, UInt32.ofNat_add, UInt32.add_assoc]
  · rw [hbc.bytes, hab.bytes, List.sum_append]
    omega

theorem countEntry_adds (a : StatAnswer) :
    Adds s (countEntry s a).1 (match a with | .regular size => [size] | _ => []) := by
  cases a with
  | failed => exact .refl (by simp [countEntry]) (by simp [countEntry])
  | special => exact .refl rfl rfl
  | regular =>
    refine ⟨rfl, ?_⟩
    rw [List.sum_singleton]
    exact addSize_toNat ..

theorem scanDirectoryRecursive_adds (l : Listing) (s : RootStats) (b : Bool) :
    Adds s (scanDirectoryRecursive l s b).1 l.files := by
  induction l generalizing s b with
  | unopened => exact .refl (by simp [scanDirectoryRecursive]) (by simp [scanDirectoryRecursive])
  | finished =>
    unfold scanDirectoryRecursive
    split_ifs
    · exact .refl (by simp) (by simp)
    · exact .refl rfl rfl
  | entry name a _ ih =>
    unfold scanDirectoryRecursive Listing.files
    cases hn : isDotEntry name with
    | true => exact ih s b
    | false =>
      have ha := (countEntry_adds s a).trans (ih _ (b && (countEntry s a).2))
      cases a with
      | failed | special | regular => exact ha
  | directory name _ _ ihc ihr =>
    unfold scanDirectoryRecursive Listing.files
    cases hn : isDotEntry name with
    | true => exact ihr s b
    | false => exact (ihc s true).trans (ihr _ _)

theorem scanDirectoryRecursive_success (l : Listing) (r : RootStats) (s : Bool) :
    (scanDirectoryRecursive l r s).2 = true ↔ s = true ∧ l.Readable := by
  induction l generalizing r s with
  | unopened => simp [scanDirectoryRecursive, Listing.Readable]
  | finished =>
    unfold scanDirectoryRecursive Listing.Readable
    split_ifs with he
    · simp [he]
    · simp [not_not.mp he]
  | entry name a _ ih =>
    unfold scanDirectoryRecursive Listing.Readable
    cases hn : isDotEntry name with
    | true => simpa using ih r s
    | false =>
      rw [if_neg (by simp), ih]
      cases a <;> simp [countEntry]
  | directory name _ _ ihc ihr =>
    unfold scanDirectoryRecursive Listing.Readable
    cases hn : isDotEntry name with
    | true => simpa using ihr r s
    | false =>
      rw [if_neg (by simp), ihr, Bool.and_eq_true, ihc]
      simp [and_assoc]

/-- The sizes of the regular files under a root. -/
def rootFiles : StatAnswer ⊕ Listing → List ℕ
  | .inl _ => []
  | .inr listing => listing.files

variable (root : StatAnswer ⊕ Listing)

theorem scanRoot_totals :
    (scanRoot root).fileCount = UInt32.ofNat (rootFiles root).length ∧
      (scanRoot root).totalBytes.toNat = min (rootFiles root).sum 0xFFFFFFFF := by
  cases root with
  | inl a => cases a <;> simp [scanRoot, rootFiles]
  | inr l =>
    have ha := scanDirectoryRecursive_adds l { exists_ := true } true
    have hc := ha.count
    have hb := ha.bytes
    simp only [UInt32.zero_add, UInt32.toNat_zero, Nat.zero_add] at hc hb
    exact ⟨hc, hb⟩

theorem scanRoot_scanOk_of_inl (a : StatAnswer) : (scanRoot (.inl a)).scanOk = false := by
  cases a <;> unfold scanRoot setErrorCodeIfUnset <;> rfl

theorem overQuota_iff {q : UInt32} (h0 : q ≠ 0) (hmax : q.toNat ≤ 2 ^ 32 - 2) (w : UInt32) :
    (applyPolicy (scanRoot root) q w).quotaStatus = .overQuota ↔
      (scanRoot root).scanOk = true ∧ q.toNat < (rootFiles root).sum := by
  have ht := (scanRoot_totals root).2
  have hq : q < (scanRoot root).totalBytes ↔ q.toNat < (rootFiles root).sum := by
    rw [UInt32.lt_iff_toNat_lt, ht]
    omega
  unfold applyPolicy
  dsimp only
  rw [if_neg h0, ← hq]
  cases (scanRoot root).scanOk with
  | false => simp
  | true => by_cases hlt : q < (scanRoot root).totalBytes <;> simp [hlt]

/-- What a scan reports of a tree. -/
theorem scan_totals_exact :
    (∀ listing : Listing, listing.Readable →
      (scanRoot (.inr listing)).scanOk = true ∧
      (scanRoot (.inr listing)).fileCount = UInt32.ofNat listing.files.length ∧
      (scanRoot (.inr listing)).totalBytes.toNat = min (2 ^ 32 - 1) listing.files.sum) ∧
    (∀ listing listing' : Listing, listing.files.Perm listing'.files →
      (scanRoot (.inr listing)).fileCount = (scanRoot (.inr listing')).fileCount ∧
      (scanRoot (.inr listing)).totalBytes = (scanRoot (.inr listing')).totalBytes) ∧
    (∀ listing : Listing, ¬listing.Readable → (scanRoot (.inr listing)).scanOk = false) ∧
    (∀ answer, (scanRoot (.inl answer)).scanOk = false) ∧
    ∀ (root : StatAnswer ⊕ Listing) (quota watermark : UInt32), quota ≠ 0 → quota.toNat ≤ 2 ^ 32 - 2 →
      ((applyPolicy (scanRoot root) quota watermark).quotaStatus = .overQuota ↔
        (scanRoot root).scanOk = true ∧ quota.toNat < (rootFiles root).sum) := by
  refine ⟨fun listing h => ⟨?_, (scanRoot_totals (.inr listing)).1, ?_⟩, fun listing listing' h => ⟨?_, ?_⟩,
    fun listing h => ?_, scanRoot_scanOk_of_inl, fun root quota watermark h0 hmax => overQuota_iff root h0 hmax _⟩
  · exact (scanDirectoryRecursive_success listing _ true).mpr ⟨rfl, h⟩
  · rw [(scanRoot_totals (.inr listing)).2, min_comm]
    rfl
  · rw [(scanRoot_totals _).1, (scanRoot_totals _).1, rootFiles, rootFiles, h.length_eq]
  · rw [← UInt32.toNat_inj, (scanRoot_totals _).2, (scanRoot_totals _).2, rootFiles, rootFiles, h.sum_eq]
  · exact Bool.eq_false_iff.mpr fun hok => h ((scanDirectoryRecursive_success listing _ true).mp hok).2

end StorageScanner

end ObcFlight
