import Cubbies.Lib.CString
import Mathlib.Data.List.Nodup
import Mathlib.Tactic.Common

set_option autoImplicit false

/-! # The SD card (`sdcard.cpp`)

The card as the firmware sees it: folders and files by full path. A `Card` carries that no path is
listed twice and that every file lies in an existing folder, so opening a file for writing is the
only place where a missing folder matters. The order of `files` is the order in which `readdir`
returns them. -/

namespace Cubbies

open CString

/-- The folder a path lies in. -/
def parentDir (path : Bytes) : Bytes := beforeLast 47 path

/-- The last component of a path. -/
def baseName (path : Bytes) : Bytes := (afterLast? 47 path).getD path

structure Card where
  dirs : List Bytes
  files : List (Bytes × Bytes)
  files_nodup : (files.map Prod.fst).Nodup
  files_in_dirs : ∀ f ∈ files, parentDir f.1 ∈ dirs

namespace Card

/-- The content of the file at `path`, if there is one. -/
def content? (c : Card) (path : Bytes) : Option Bytes :=
  (c.files.find? fun f => f.1 = path).map Prod.snd

/-- Whether `fopen(path, "r")` succeeds. -/
def hasFile (c : Card) (path : Bytes) : Prop := (c.content? path).isSome = true

instance (c : Card) (path : Bytes) : Decidable (c.hasFile path) :=
  inferInstanceAs (Decidable (_ = true))

theorem hasFile_iff (c : Card) (path : Bytes) : c.hasFile path ↔ path ∈ c.files.map Prod.fst := by
  rw [hasFile, content?, Option.isSome_map, List.find?_isSome]
  simp

theorem parentDir_mem_of_hasFile {c : Card} {path : Bytes} (h : c.hasFile path) :
    parentDir path ∈ c.dirs := by
  obtain ⟨f, hf, rfl⟩ := List.mem_map.1 ((c.hasFile_iff path).1 h)
  exact c.files_in_dirs f hf

/-! ## Writing, removing, renaming -/

/-- The card with `b` as the content of the file at `path`: a new file comes last. -/
def put (c : Card) (path b : Bytes) (h : parentDir path ∈ c.dirs) : Card :=
  if hmem : path ∈ c.files.map Prod.fst then
    { c with
      files := c.files.map fun f => if f.1 = path then (f.1, b) else f
      files_nodup := by
        have hfst : (c.files.map fun f => if f.1 = path then (f.1, b) else f).map Prod.fst =
            c.files.map Prod.fst := by
          rw [List.map_map]
          exact List.map_congr_left fun f _ => by simp only [Function.comp_apply]; split <;> rfl
        rw [hfst]
        exact c.files_nodup
      files_in_dirs := by
        intro g hg
        obtain ⟨f, hf, rfl⟩ := List.mem_map.1 hg
        split <;> exact c.files_in_dirs f hf }
  else
    { c with
      files := c.files ++ [(path, b)]
      files_nodup := by
        rw [List.map_append, List.map_cons, List.map_nil]
        exact c.files_nodup.append (List.nodup_singleton _)
          (List.disjoint_singleton.2 hmem)
      files_in_dirs := by
        intro f hf
        rcases List.mem_append.1 hf with hf | hf
        · exact c.files_in_dirs f hf
        · rw [List.mem_singleton.1 hf]
          exact h }

/-- The card without the file at `path`. -/
def erase (c : Card) (path : Bytes) : Card :=
  { c with
    files := c.files.filter fun f => f.1 ≠ path
    files_nodup := c.files_nodup.sublist (List.filter_sublist.map _)
    files_in_dirs := fun f hf => c.files_in_dirs f (List.mem_of_mem_filter hf) }

@[simp] theorem put_dirs (c : Card) (path b : Bytes) (h : parentDir path ∈ c.dirs) :
    (c.put path b h).dirs = c.dirs := by
  unfold put
  split <;> rfl

@[simp] theorem erase_dirs (c : Card) (path : Bytes) : (c.erase path).dirs = c.dirs := rfl

theorem content?_put (c : Card) (path b : Bytes) (h : parentDir path ∈ c.dirs) (q : Bytes) :
    (c.put path b h).content? q = if q = path then some b else c.content? q := by
  unfold put
  split
  · next hmem =>
      have hfind : ((fun f : Bytes × Bytes => decide (f.1 = q)) ∘
          fun f => if f.1 = path then (f.1, b) else f) = fun f => decide (f.1 = q) := by
        funext f
        simp only [Function.comp_apply]
        split <;> rfl
      simp only [content?, List.find?_map, hfind]
      cases hq : c.files.find? fun f => decide (f.1 = q) with
      | none =>
          have hne : q ≠ path := by
            rintro rfl
            obtain ⟨f, hf, hfq⟩ := List.mem_map.1 hmem
            exact (List.find?_eq_none.1 hq f hf) (by simpa using hfq)
          rw [if_neg hne]
          rfl
      | some f =>
          have hfq : f.1 = q := by simpa using List.find?_some hq
          simp only [Option.map_some, hfq]
          split <;> rfl
  · next hmem =>
      simp only [content?, List.find?_append]
      by_cases hq : q = path
      · subst hq
        have hnone : (c.files.find? fun f => decide (f.1 = q)) = none := by
          rw [List.find?_eq_none]
          intro f hf hfq
          exact hmem (List.mem_map.2 ⟨f, hf, by simpa using hfq⟩)
        simp [hnone]
      · have hlast : ([(path, b)].find? fun f => decide (f.1 = q)) = none := by
          simp [show ¬ path = q from fun h => hq h.symm]
        rw [hlast, Option.or_none, if_neg hq]

theorem content?_erase (c : Card) (path q : Bytes) :
    (c.erase path).content? q = if q = path then none else c.content? q := by
  simp only [content?, erase, List.find?_filter]
  split
  · next hq =>
      subst hq
      rw [Option.map_eq_none_iff, List.find?_eq_none]
      intro f _
      simp
  · next hq =>
      congr 2
      funext f
      by_cases hf : f.1 = q
      · simp [hf, hq]
      · simp [hf]

theorem hasFile_put (c : Card) (path b : Bytes) (h : parentDir path ∈ c.dirs) (q : Bytes) :
    (c.put path b h).hasFile q ↔ q = path ∨ c.hasFile q := by
  unfold hasFile
  rw [content?_put]
  by_cases hq : q = path <;> simp [hq]

/-- `fopen(path, "w")`: an empty file, or `NULL` when there is no such folder or the path is one. -/
def fopenWrite (c : Card) (path : Bytes) : Option Card :=
  if h : parentDir path ∈ c.dirs then
    if path ∈ c.dirs then none else some (c.put path [] h)
  else none

/-- `fwrite` at the end of the file at `path`. -/
def fwrite (c : Card) (path bytes : Bytes) : Card :=
  match h : c.content? path with
  | none => c
  | some b =>
      c.put path (b ++ bytes) (parentDir_mem_of_hasFile (c := c) (by unfold hasFile; rw [h]; rfl))

/-- `fopen(path, "w")`, one `fprintf` and `fclose`. -/
def writeFile (c : Card) (path bytes : Bytes) : Option Card :=
  (c.fopenWrite path).map fun c => c.fwrite path bytes

/-- A successful `rename(old, new)`. -/
def rename (c : Card) (old new : Bytes) : Card :=
  match c.content? old with
  | none => c
  | some b => if h : parentDir new ∈ (c.erase old).dirs then (c.erase old).put new b h else c

/-- `mkdir(path, mode)`: a new folder, or the error number's name. -/
inductive MkdirResult where
  | ok (c : Card)
  | eexist
  | enoent

def mkdir (c : Card) (path : Bytes) : MkdirResult :=
  if path ∈ c.dirs ∨ c.hasFile path then .eexist
  else if parentDir path ∈ c.dirs then
    .ok { c with
      dirs := c.dirs ++ [path]
      files_in_dirs := fun f hf => List.mem_append_left _ (c.files_in_dirs f hf) }
  else .enoent

/-- What `mkdir` may do. -/
theorem mkdir_cases (c : Card) (path : Bytes) :
    (∃ c', c.mkdir path = .ok c' ∧ c'.dirs = c.dirs ++ [path] ∧ c'.files = c.files ∧
      ¬ c.hasFile path ∧ parentDir path ∈ c.dirs) ∨
    (c.mkdir path = .eexist ∧ (path ∈ c.dirs ∨ c.hasFile path)) ∨
    (c.mkdir path = .enoent ∧ path ∉ c.dirs ∧ ¬ c.hasFile path ∧ parentDir path ∉ c.dirs) := by
  unfold mkdir
  by_cases hentry : path ∈ c.dirs ∨ c.hasFile path
  · exact .inr (.inl ⟨if_pos hentry, hentry⟩)
  · obtain ⟨hdir, hfile⟩ := not_or.1 hentry
    rw [if_neg hentry]
    by_cases hparent : parentDir path ∈ c.dirs
    · exact .inl ⟨_, dif_pos hparent, rfl, rfl, hfile, hparent⟩
    · exact .inr (.inr ⟨dif_neg hparent, hdir, hfile, hparent⟩)

/-- A new folder, and no other change. -/
theorem eq_of_mkdir {c c' : Card} {path : Bytes} (h : c.mkdir path = .ok c') :
    c'.dirs = c.dirs ++ [path] ∧ c'.files = c.files := by
  rcases c.mkdir_cases path with ⟨c'', hmk, hdirs, hfiles, -⟩ | ⟨hmk, -⟩ | ⟨hmk, -⟩
  · obtain rfl := MkdirResult.ok.inj (hmk.symm.trans h)
    exact ⟨hdirs, hfiles⟩
  · cases hmk.symm.trans h
  · cases hmk.symm.trans h

theorem content?_mkdir {c c' : Card} {path : Bytes} (h : c.mkdir path = .ok c') (q : Bytes) :
    c'.content? q = c.content? q := by
  unfold content?
  rw [(eq_of_mkdir h).2]

theorem content?_fwrite (c : Card) (path bytes q : Bytes) :
    (c.fwrite path bytes).content? q =
      if q = path then (c.content? path).map (· ++ bytes) else c.content? q := by
  unfold fwrite
  split
  · next h =>
      by_cases hq : q = path
      · subst hq; simp [h]
      · rw [if_neg hq]
  · next b h => rw [content?_put, h]; rfl

theorem hasFile_fwrite (c : Card) (path bytes q : Bytes) :
    (c.fwrite path bytes).hasFile q ↔ c.hasFile q := by
  unfold hasFile
  rw [content?_fwrite]
  by_cases hq : q = path
  · subst hq; simp
  · rw [if_neg hq]

@[simp] theorem fwrite_dirs (c : Card) (path bytes : Bytes) :
    (c.fwrite path bytes).dirs = c.dirs := by
  unfold fwrite
  split <;> simp

theorem fopenWrite_eq_some {c c' : Card} {path : Bytes} (h : c.fopenWrite path = some c') :
    ∃ hdir : parentDir path ∈ c.dirs, c' = c.put path [] hdir := by
  unfold fopenWrite at h
  split at h
  · next hdir =>
      split at h
      · cases h
      · exact ⟨hdir, (Option.some.inj h).symm⟩
  · cases h

/-- Opening a file for writing empties it, or creates it, and touches no other. -/
theorem content?_fopenWrite {c c' : Card} {path : Bytes} (h : c.fopenWrite path = some c')
    (q : Bytes) : c'.content? q = if q = path then some [] else c.content? q := by
  obtain ⟨hdir, rfl⟩ := fopenWrite_eq_some h
  exact content?_put c path [] hdir q

theorem fopenWrite_dirs {c c' : Card} {path : Bytes} (h : c.fopenWrite path = some c') :
    c'.dirs = c.dirs := by
  obtain ⟨hdir, rfl⟩ := fopenWrite_eq_some h
  exact put_dirs c path [] hdir

/-- Whether a file can be opened for writing depends on the folders only. -/
theorem fopenWrite_isSome_iff (c : Card) (path : Bytes) :
    (c.fopenWrite path).isSome = true ↔ parentDir path ∈ c.dirs ∧ path ∉ c.dirs := by
  unfold fopenWrite
  by_cases hdir : parentDir path ∈ c.dirs
  · by_cases hpath : path ∈ c.dirs <;> simp [hdir, hpath]
  · simp [hdir]

/-- Reading what was written. -/
theorem content?_writeFile {c c' : Card} {path bytes : Bytes} (h : c.writeFile path bytes = some c')
    (q : Bytes) : c'.content? q = if q = path then some bytes else c.content? q := by
  obtain ⟨opened, hopen, rfl⟩ := Option.map_eq_some_iff.1 h
  rw [content?_fwrite, content?_fopenWrite hopen, content?_fopenWrite hopen]
  split <;> simp

/-- A file that can be opened is written. -/
theorem exists_writeFile {c : Card} {path : Bytes} (h : (c.fopenWrite path).isSome = true)
    (bytes : Bytes) : ∃ c', c.writeFile path bytes = some c' ∧ c'.dirs = c.dirs := by
  obtain ⟨opened, hopen⟩ := Option.isSome_iff_exists.1 h
  refine ⟨opened.fwrite path bytes, ?_, (fwrite_dirs _ _ _).trans (fopenWrite_dirs hopen)⟩
  rw [writeFile, hopen]
  rfl

theorem content?_rename {c : Card} {old new b : Bytes} (hold : c.content? old = some b)
    (hdir : parentDir new ∈ c.dirs) (q : Bytes) :
    (c.rename old new).content? q =
      if q = new then some b else if q = old then none else c.content? q := by
  have hdir' : parentDir new ∈ (c.erase old).dirs := hdir
  have hput : c.rename old new = (c.erase old).put new b hdir' := by
    unfold rename
    rw [hold]
    exact dif_pos hdir'
  rw [hput, content?_put, content?_erase]

@[simp] theorem rename_dirs (c : Card) (old new : Bytes) : (c.rename old new).dirs = c.dirs := by
  unfold rename
  split
  · rfl
  · split
    · rw [put_dirs, erase_dirs]
    · rfl

end Card

/-! ## `sdcard.cpp` -/

/-- `SdCard::exist`: the toy's folder can be opened. Without a toy that is the folder of all toys, whose
last slash does not count. -/
def sdCardExist (c : Card) (toy : Bytes) : Bool :=
  str "/sdcard/media/toys/" ++ toy ∈ c.dirs ∨ toy = [] ∧ str "/sdcard/media/toys" ∈ c.dirs

/-- The longest listing, `MAX_FILES`. -/
def maxFiles : ℕ := 100

/-- `SdCard::list_files` of a folder given with its trailing slash: the names of the first 100 regular
files, or `NULL` when the folder cannot be opened. -/
def listFiles (c : Card) (path : Bytes) : Option (List Bytes) :=
  if parentDir path ∈ c.dirs then
    some (((c.files.filter fun f => parentDir f.1 = parentDir path).map
      fun f => baseName f.1).take maxFiles)
  else none

end Cubbies
