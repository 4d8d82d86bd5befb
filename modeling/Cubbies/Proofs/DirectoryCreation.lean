import Cubbies.Lib.WhileLoop
import Cubbies.Downloader

set_option autoImplicit false

/-! # Making a folder with its parents

`create_directory` copies the path into `temp_path` and writes a NUL over each slash in turn, so that
`mkdir` sees one prefix after the other. `createDirectoryRun` is that loop as it works on the array,
with a log of its `mkdir` calls. It makes the calls `createDirectory` makes on the list of the
prefixes (`createDirectoryRun_eq`). An entry that is there already is taken for a folder. Below a
regular file the next `mkdir` fails, so the folder is missing after `ESP_OK` exactly where the path
itself is a regular file (`directoryCreated_iff`). -/

namespace Cubbies

open CString WhileLoop

/-! ## File trees -/

/-- The folders and files form a tree: folders lie in folders, and no path is both. The root is the
parent of the entries with no name before their slash. -/
structure Card.Tree (c : Card) : Prop where
  parents : ∀ q ∈ c.dirs, parentDir q = [] ∨ parentDir q ∈ c.dirs
  disjoint : ∀ q ∈ c.dirs, ¬ c.hasFile q

theorem Card.hasFile_of_files {c c' : Card} (h : c'.files = c.files) (path : Bytes) :
    c'.hasFile path ↔ c.hasFile path := by
  rw [hasFile_iff, hasFile_iff, h]

theorem Card.Tree.mkdir {c c' : Card} {path : Bytes} (h : c.Tree) (hdirs : c'.dirs = c.dirs ++ [path])
    (hfiles : c'.files = c.files) (hfile : ¬ c.hasFile path) (hparent : parentDir path ∈ c.dirs) :
    c'.Tree := by
  constructor
  · intro q hq
    rw [hdirs] at hq ⊢
    rcases List.mem_append.1 hq with hq | hq
    · exact (h.parents q hq).imp_right (List.mem_append_left _)
    · rw [List.mem_singleton.1 hq]
      exact .inr (List.mem_append_left _ hparent)
  · intro q hq
    rw [Card.hasFile_of_files hfiles]
    rw [hdirs] at hq
    rcases List.mem_append.1 hq with hq | hq
    · exact h.disjoint q hq
    · rw [List.mem_singleton.1 hq]
      exact hfile

namespace Downloader

/-! ## Paths -/

/-- An absolute path of 2 to 255 characters without empty components, with or without a slash at the
end. -/
structure AbsolutePath (path : Bytes) : Prop where
  absolute : ∃ rest, path = 47 :: rest
  length : 2 ≤ path.length ∧ path.length ≤ 255
  components : ¬ [47, 47] <:+: path
  no_nul : (0 : UInt8) ∉ path

/-- The path without the slash at its end. -/
def withoutSlash (path : Bytes) : Bytes := if path.getLast? = some 47 then path.dropLast else path

/-- `q` is a folder on the way to `path`. -/
def IsAncestor (q path : Bytes) : Prop := q ≠ [] ∧ ∃ rest, path = q ++ 47 :: rest

theorem mem_slashPrefixes {q : Bytes} (done rest : Bytes) :
    q ∈ slashPrefixes done rest ↔ q ≠ [] ∧ ∃ a b, rest = a ++ 47 :: b ∧ q = done ++ a := by
  induction rest generalizing done with
  | nil => simp [slashPrefixes]
  | cons x rest ih =>
      have hsplit : (∃ a b, x :: rest = a ++ 47 :: b ∧ q = done ++ a) ↔
          (x = 47 ∧ q = done) ∨ ∃ a b, rest = a ++ 47 :: b ∧ q = (done ++ [x]) ++ a := by
        constructor
        · rintro ⟨a, b, hrest, rfl⟩
          cases a with
          | nil =>
              obtain ⟨rfl, -⟩ := List.cons.inj hrest
              exact .inl ⟨rfl, List.append_nil _⟩
          | cons y a =>
              obtain ⟨rfl, htail⟩ := List.cons.inj hrest
              exact .inr ⟨a, b, htail, by simp⟩
        · rintro (⟨rfl, rfl⟩ | ⟨a, b, rfl, rfl⟩)
          · exact ⟨[], rest, rfl, by simp⟩
          · exact ⟨x :: a, b, rfl, by simp⟩
      rw [hsplit]
      unfold slashPrefixes
      split
      · next h =>
          rw [List.mem_cons, ih]
          constructor
          · rintro (rfl | ⟨hq, hrest⟩)
            · exact ⟨h.2, .inl ⟨h.1, rfl⟩⟩
            · exact ⟨hq, .inr hrest⟩
          · rintro ⟨hq, ⟨-, rfl⟩ | hrest⟩
            · exact .inl rfl
            · exact .inr ⟨hq, hrest⟩
      · next h =>
          rw [ih]
          refine and_congr_right fun hq => ⟨.inr, ?_⟩
          rintro (⟨hx, rfl⟩ | hrest)
          · exact absurd ⟨hx, hq⟩ h
          · exact hrest

/-- The folders `create_directory` asks for, in order. -/
def folders (path : Bytes) : List Bytes := slashPrefixes [] path ++ [path]

theorem mem_folders {q path : Bytes} : q ∈ folders path ↔ q = path ∨ IsAncestor q path := by
  rw [folders, List.mem_append, List.mem_singleton, mem_slashPrefixes, or_comm]
  refine or_congr_right (and_congr_right fun _ => ?_)
  constructor
  · rintro ⟨a, b, rfl, rfl⟩
    exact ⟨b, rfl⟩
  · rintro ⟨b, rfl⟩
    exact ⟨q, b, rfl, rfl⟩

/-- Each folder lies in the one before it. -/
abbrev Descends (paths : List Bytes) : Prop := paths.IsChain fun p q => parentDir q = p

/-- The folders on the way; `done` is the part of the path read so far. -/
theorem descends_slashPrefixes {p : Bytes} (done rest : Bytes) (hp : parentDir done = p)
    (hslash : 47 ∈ done) : Descends (p :: (slashPrefixes done rest ++ [done ++ rest])) := by
  induction rest generalizing done p with
  | nil => simpa [slashPrefixes] using hp
  | cons x rest ih =>
      have hsplit : done ++ x :: rest = (done ++ [x]) ++ rest := by simp
      have hslash' : 47 ∈ done ++ [x] := List.mem_append_left _ hslash
      rw [hsplit]
      unfold slashPrefixes
      split
      · next h =>
          obtain rfl := h.1
          rw [List.cons_append]
          refine List.isChain_cons_cons.2 ⟨hp, ?_⟩
          exact ih _ (beforeLast_append_cons 47 done [] (by simp)) hslash'
      · next h =>
          have hne : x ≠ 47 := fun hx => h ⟨hx, List.ne_nil_of_mem hslash⟩
          exact ih _ ((beforeLast_append_of_not_mem hslash (by simpa using hne.symm)).trans hp) hslash'

theorem descends_folders (rest : Bytes) : Descends ([] :: folders (47 :: rest)) :=
  descends_slashPrefixes [47] rest rfl List.mem_cons_self

/-! ## The calls of `mkdir` on the list of the folders -/

/-- The calls `mkdirAll` makes, each with whether it failed with another error than `EEXIST`. -/
def mkdirCalls (c : Card) : List Bytes → List (Bytes × Bool)
  | [] => []
  | path :: paths =>
      match c.mkdir path with
      | .ok c => (path, false) :: mkdirCalls c paths
      | .eexist => (path, false) :: mkdirCalls c paths
      | .enoent => [(path, true)]

theorem mkdirAll_ok {c c' : Card} {path : Bytes} (paths : List Bytes) (h : c.mkdir path = .ok c') :
    mkdirAll c (path :: paths) = mkdirAll c' paths ∧
      mkdirCalls c (path :: paths) = (path, false) :: mkdirCalls c' paths := by
  rw [mkdirAll, mkdirCalls, h]
  exact ⟨rfl, rfl⟩

theorem mkdirAll_eexist {c : Card} {path : Bytes} (paths : List Bytes) (h : c.mkdir path = .eexist) :
    mkdirAll c (path :: paths) = mkdirAll c paths ∧
      mkdirCalls c (path :: paths) = (path, false) :: mkdirCalls c paths := by
  rw [mkdirAll, mkdirCalls, h]
  exact ⟨rfl, rfl⟩

theorem mkdirAll_enoent {c : Card} {path : Bytes} (paths : List Bytes) (h : c.mkdir path = .enoent) :
    mkdirAll c (path :: paths) = (c, false) ∧ mkdirCalls c (path :: paths) = [(path, true)] := by
  rw [mkdirAll, mkdirCalls, h]
  exact ⟨rfl, rfl⟩

theorem mkdirAll_append (c : Card) (paths paths' : List Bytes) :
    mkdirAll c (paths ++ paths') =
        (if (mkdirAll c paths).2 then mkdirAll (mkdirAll c paths).1 paths' else mkdirAll c paths) ∧
      mkdirCalls c (paths ++ paths') =
        mkdirCalls c paths ++
          if (mkdirAll c paths).2 then mkdirCalls (mkdirAll c paths).1 paths' else [] := by
  induction paths generalizing c with
  | nil => exact ⟨rfl, rfl⟩
  | cons path paths ih =>
      rw [List.cons_append]
      rcases c.mkdir_cases path with ⟨c', hmk, -⟩ | ⟨hmk, -⟩ | ⟨hmk, -⟩
      · rw [(mkdirAll_ok _ hmk).1, (mkdirAll_ok _ hmk).2, (mkdirAll_ok _ hmk).1,
          (mkdirAll_ok _ hmk).2, (ih c').1, (ih c').2]
        exact ⟨rfl, rfl⟩
      · rw [(mkdirAll_eexist _ hmk).1, (mkdirAll_eexist _ hmk).2, (mkdirAll_eexist _ hmk).1,
          (mkdirAll_eexist _ hmk).2, (ih c).1, (ih c).2]
        exact ⟨rfl, rfl⟩
      · rw [(mkdirAll_enoent _ hmk).1, (mkdirAll_enoent _ hmk).2, (mkdirAll_enoent _ hmk).1,
          (mkdirAll_enoent _ hmk).2]
        exact ⟨rfl, rfl⟩

/-- A failure is that of the last call. -/
theorem mkdirCalls_failed {c : Card} {paths : List Bytes} (h : (mkdirAll c paths).2 = false) :
    ∃ before q, mkdirCalls c paths = before ++ [(q, true)] ∧ ∀ call ∈ before, call.2 = false := by
  induction paths generalizing c with
  | nil => cases h
  | cons path paths ih =>
      have hmore : ∀ c', (mkdirAll c' paths).2 = false →
          ∃ before q, (path, false) :: mkdirCalls c' paths = before ++ [(q, true)] ∧
            ∀ call ∈ before, call.2 = false := by
        intro c' hfailed
        obtain ⟨before, q, hcalls, hbefore⟩ := ih hfailed
        refine ⟨(path, false) :: before, q, by rw [hcalls]; rfl, ?_⟩
        exact List.forall_mem_cons.2 ⟨rfl, hbefore⟩
      rcases c.mkdir_cases path with ⟨c', hmk, -⟩ | ⟨hmk, -⟩ | ⟨hmk, -⟩
      · obtain ⟨hall, hcalls⟩ := mkdirAll_ok paths hmk
        rw [hcalls]
        exact hmore c' (hall ▸ h)
      · obtain ⟨hall, hcalls⟩ := mkdirAll_eexist paths hmk
        rw [hcalls]
        exact hmore c (hall ▸ h)
      · rw [(mkdirAll_enoent paths hmk).2]
        exact ⟨[], path, rfl, by simp⟩

theorem mkdirAll_dirs (c : Card) (paths : List Bytes) : c.dirs ⊆ (mkdirAll c paths).1.dirs := by
  induction paths generalizing c with
  | nil => exact List.Subset.refl _
  | cons path paths ih =>
      rcases c.mkdir_cases path with ⟨c', hmk, hdirs, -⟩ | ⟨hmk, -⟩ | ⟨hmk, -⟩
      · rw [(mkdirAll_ok paths hmk).1]
        exact fun q hq => ih c' (hdirs ▸ List.mem_append_left _ hq)
      · rw [(mkdirAll_eexist paths hmk).1]
        exact ih c
      · rw [(mkdirAll_enoent paths hmk).1]
        exact List.Subset.refl _

/-- Below a regular file nothing can be made. -/
theorem mkdirAll_below_file {c : Card} {q q' : Bytes} (hc : c.Tree) (hfile : c.hasFile q)
    (hq : q ≠ []) (hparent : parentDir q' = q) (paths : List Bytes) :
    (mkdirAll c (q' :: paths)).2 = false := by
  have hnot : parentDir q' ∉ c.dirs := by
    rw [hparent]
    exact fun hdir => hc.disjoint q hdir hfile
  rcases c.mkdir_cases q' with ⟨c', -, -, -, -, hdir⟩ | ⟨-, hdir | hfile'⟩ | ⟨hmk, -⟩
  · exact absurd hdir hnot
  · rcases hc.parents q' hdir with h | h
    · exact absurd (hparent.symm.trans h) hq
    · exact absurd h hnot
  · exact absurd (Card.parentDir_mem_of_hasFile hfile') hnot
  · rw [(mkdirAll_enoent paths hmk).1]

/-- Where the last path is no regular file, success means that all the folders are there. -/
theorem mkdirAll_created {c : Card} {p : Bytes} {paths : List Bytes} (hc : c.Tree)
    (hchain : Descends (p :: paths)) (hne : ∀ q ∈ paths, q ≠ [])
    (hlast : ∀ q, paths.getLast? = some q → ¬ c.hasFile q) (hok : (mkdirAll c paths).2 = true) :
    ∀ q ∈ paths, q ∈ (mkdirAll c paths).1.dirs := by
  induction paths generalizing c p with
  | nil => simp
  | cons path paths ih =>
      obtain ⟨-, hrest⟩ := List.isChain_cons_cons.1 hchain
      have hne' : ∀ q ∈ paths, q ≠ [] := fun q hq => hne q (List.mem_cons_of_mem _ hq)
      have hlast' : ∀ q, paths.getLast? = some q → ¬ c.hasFile q := by
        intro q hq
        refine hlast q ?_
        rw [List.getLast?_cons, hq]
        rfl
      -- one folder is there and the others follow
      have hgo : ∀ c', c'.Tree → c'.files = c.files → path ∈ c'.dirs →
          (mkdirAll c' paths).2 = true → ∀ q ∈ path :: paths, q ∈ (mkdirAll c' paths).1.dirs := by
        intro c' hc' hfiles hpath hok'
        refine List.forall_mem_cons.2 ⟨mkdirAll_dirs c' paths hpath, ?_⟩
        refine ih hc' hrest hne' (fun q hq => ?_) hok'
        rw [Card.hasFile_of_files hfiles]
        exact hlast' q hq
      rcases c.mkdir_cases path with ⟨c', hmk, hdirs, hfiles, hfile, hparent⟩ | ⟨hmk, hentry⟩ | ⟨hmk, -⟩
      · have hall := (mkdirAll_ok paths hmk).1
        rw [hall] at hok ⊢
        exact hgo c' (hc.mkdir hdirs hfiles hfile hparent) hfiles (by rw [hdirs]; simp) hok
      · have hall := (mkdirAll_eexist paths hmk).1
        rw [hall] at hok ⊢
        rcases hentry with hdir | hfile
        · exact hgo c hc rfl hdir hok
        · cases paths with
          | nil => exact absurd hfile (hlast path rfl)
          | cons path' paths =>
              have hfail := mkdirAll_below_file hc hfile (hne path List.mem_cons_self)
                (List.isChain_cons_cons.1 hrest).1 paths
              rw [hfail] at hok
              cases hok
      · rw [(mkdirAll_enoent paths hmk).1] at hok
        cases hok

/-- Above an entry of the tree all the folders are there. -/
theorem dirs_of_last {c : Card} {p : Bytes} {paths : List Bytes} (hc : c.Tree)
    (hchain : Descends (p :: paths)) (hne : ∀ q ∈ paths, q ≠ [])
    (hlast : ∀ q, paths.getLast? = some q → parentDir q ∈ c.dirs) :
    ∀ q ∈ paths.dropLast, q ∈ c.dirs := by
  induction paths generalizing p with
  | nil => simp
  | cons path paths ih =>
      obtain ⟨-, hrest⟩ := List.isChain_cons_cons.1 hchain
      cases paths with
      | nil => simp
      | cons path' paths =>
          have habove := ih hrest (fun q hq => hne q (List.mem_cons_of_mem _ hq)) (by simpa using hlast)
          have hparent : parentDir path' = path := (List.isChain_cons_cons.1 hrest).1
          rw [List.dropLast_cons_cons]
          refine List.forall_mem_cons.2 ⟨?_, habove⟩
          cases paths with
          | nil => exact hparent ▸ hlast path' rfl
          | cons path'' paths =>
              have hdir : path' ∈ c.dirs := habove path' (by simp)
              rcases hc.parents path' hdir with h | h
              · exact absurd (hparent.symm.trans h) (hne path List.mem_cons_self)
              · exact hparent ▸ h

/-- Where every path is an entry that is there, nothing is made and nothing fails. -/
theorem mkdirAll_entries {c : Card} {paths : List Bytes}
    (h : ∀ q ∈ paths, q ∈ c.dirs ∨ c.hasFile q) : mkdirAll c paths = (c, true) := by
  induction paths with
  | nil => rfl
  | cons path paths ih =>
      have hmk : c.mkdir path = .eexist := if_pos (h path List.mem_cons_self)
      rw [(mkdirAll_eexist paths hmk).1]
      exact ih fun q hq => h q (List.mem_cons_of_mem _ hq)

/-! ## The loop on the array -/

/-- The state of `create_directory`: the card, `temp_path` up to its last NUL, the pointer `p` into it,
whether it has returned `ESP_FAIL`, and the calls of `mkdir` so far. -/
structure PathLoop where
  card : Card
  tempPath : Bytes
  p : ℕ
  failed : Bool
  calls : List (Bytes × Bool)

namespace PathLoop

/-- `mkdir(temp_path, S_IRWXU)` and the return on an error other than `EEXIST`. -/
def mkdir (s : PathLoop) : PathLoop :=
  let path := text s.tempPath
  match s.card.mkdir path with
  | .ok c => { s with card := c, calls := s.calls ++ [(path, false)] }
  | .eexist => { s with calls := s.calls ++ [(path, false)] }
  | .enoent => { s with failed := true, calls := s.calls ++ [(path, true)] }

/-- One pass of the loop: at a slash `temp_path` is cut there for the call and restored after it. -/
def round (s : PathLoop) : Option PathLoop :=
  if s.failed ∨ s.tempPath.getD s.p 0 = 0 then none
  else if s.tempPath.getD s.p 0 = 47 then
    let s := { s with tempPath := s.tempPath.set s.p 0 }.mkdir
    if s.failed then some s else some { s with tempPath := s.tempPath.set s.p 47, p := s.p + 1 }
  else some { s with p := s.p + 1 }

/-- The state as the loop starts. -/
def start (c : Card) (path : Bytes) : PathLoop where
  card := c
  tempPath :=
    let tempPath := snprintf 256 path
    if tempPath.getLast? = some 47 then tempPath.set (tempPath.length - 1) 0 ++ [0]
    else tempPath ++ [0]
  p := 1
  failed := false
  calls := []

end PathLoop

/-- `Downloader::create_directory`. The pointer moves on with every pass, so the length of the array is
passes enough. -/
def createDirectoryRun (c : Card) (path : Bytes) : PathLoop :=
  let s := run PathLoop.round (PathLoop.start c path).tempPath.length (PathLoop.start c path)
  if s.failed then s else s.mkdir

namespace PathLoop

theorem text_cut {done : Bytes} (rest : Bytes) (h : (0 : UInt8) ∉ done) :
    text (done ++ 0 :: rest) = done := by
  rcases text_append done (0 :: rest) with heq | ⟨-, heq⟩
  · rw [heq, text_of_no_nul h]
  · rw [heq]
    simp [text]

/-- At a slash: the folder read so far is asked for, and the path is as before if that worked. -/
theorem round_slash (c : Card) (done rest : Bytes) (calls : List (Bytes × Bool))
    (h : (0 : UInt8) ∉ done) :
    (∃ c', mkdirAll c [done] = (c', true) ∧ mkdirCalls c [done] = [(done, false)] ∧
      round ⟨c, done ++ 47 :: rest, done.length, false, calls⟩ =
        some ⟨c', done ++ 47 :: rest, done.length + 1, false, calls ++ [(done, false)]⟩) ∨
    (mkdirAll c [done] = (c, false) ∧ mkdirCalls c [done] = [(done, true)] ∧
      round ⟨c, done ++ 47 :: rest, done.length, false, calls⟩ =
        some ⟨c, done ++ 0 :: rest, done.length, true, calls ++ [(done, true)]⟩) := by
  have hget : (done ++ 47 :: rest).getD done.length 0 = 47 := by simp
  have hcut : (done ++ 47 :: rest).set done.length 0 = done ++ 0 :: rest := by simp
  have hback : (done ++ 0 :: rest).set done.length 47 = done ++ 47 :: rest := by simp
  rcases c.mkdir_cases done with ⟨c', hmk, -⟩ | ⟨hmk, -⟩ | ⟨hmk, -⟩
  · obtain ⟨hall, hcalls⟩ := mkdirAll_ok [] hmk
    refine .inl ⟨c', hall, hcalls, ?_⟩
    simp [round, mkdir, hcut, hback, text_cut rest h, hmk]
  · obtain ⟨hall, hcalls⟩ := mkdirAll_eexist [] hmk
    refine .inl ⟨c, hall, hcalls, ?_⟩
    simp [round, mkdir, hcut, hback, text_cut rest h, hmk]
  · obtain ⟨hall, hcalls⟩ := mkdirAll_enoent [] hmk
    refine .inr ⟨hall, hcalls, ?_⟩
    simp [round, mkdir, hcut, text_cut rest h, hmk]

/-- The loop asks for the folders on the way and leaves the path as it was, unless a call failed. -/
theorem loop_ends (c : Card) (done rest tail : Bytes) (calls : List (Bytes × Bool))
    (hdone : done ≠ []) (hnul : (0 : UInt8) ∉ done ++ rest) :
    ∃ t, Ends round ⟨c, done ++ rest ++ 0 :: tail, done.length, false, calls⟩ t ∧
      t.card = (mkdirAll c (slashPrefixes done rest)).1 ∧
      t.failed = !(mkdirAll c (slashPrefixes done rest)).2 ∧
      t.calls = calls ++ mkdirCalls c (slashPrefixes done rest) ∧
      (t.failed = false → text t.tempPath = done ++ rest) := by
  induction rest generalizing c done calls with
  | nil =>
      refine ⟨_, .exit ?_, rfl, rfl, (List.append_nil _).symm, fun _ => text_cut tail hnul⟩
      simp [round]
  | cons x rest ih =>
      have hnul' : (0 : UInt8) ∉ (done ++ [x]) ++ rest := by simpa using hnul
      by_cases hx : x = 47
      · subst hx
        have hprefixes : slashPrefixes done (47 :: rest) =
            [done] ++ slashPrefixes (done ++ [47]) rest := if_pos ⟨rfl, hdone⟩
        have hdone' : (0 : UInt8) ∉ done := fun h => hnul (List.mem_append_left _ h)
        have hassoc : done ++ 47 :: rest ++ 0 :: tail = done ++ 47 :: (rest ++ 0 :: tail) := by simp
        rw [hassoc, hprefixes, (mkdirAll_append c [done] _).1, (mkdirAll_append c [done] _).2]
        rcases round_slash c done (rest ++ 0 :: tail) calls hdone' with
          ⟨c', hall, hcalls, hround⟩ | ⟨hall, hcalls, hround⟩
        · obtain ⟨t, hends, hcard, hfailed, hlog, htext⟩ :=
            ih c' (done ++ [47]) (calls ++ [(done, false)]) (by simp) hnul'
          rw [hall, hcalls]
          refine ⟨t, .pass hround ?_, hcard, hfailed, ?_, fun h => (htext h).trans (by simp)⟩
          · simpa using hends
          · rw [hlog, List.append_assoc]
            rfl
        · rw [hall, hcalls]
          exact ⟨_, .pass hround (.exit (if_pos (.inl rfl))), rfl, rfl, rfl,
            fun h => Bool.noConfusion h⟩
      · have hprefixes : slashPrefixes done (x :: rest) = slashPrefixes (done ++ [x]) rest :=
          if_neg fun h => hx h.1
        have hzero : x ≠ 0 := by
          rintro rfl
          exact hnul (by simp)
        have hround : round ⟨c, done ++ x :: rest ++ 0 :: tail, done.length, false, calls⟩ =
            some ⟨c, (done ++ [x]) ++ rest ++ 0 :: tail, (done ++ [x]).length, false, calls⟩ := by
          simp [round, hx, hzero]
        obtain ⟨t, hends, hcard, hfailed, hlog, htext⟩ := ih c (done ++ [x]) calls (by simp) hnul'
        rw [hprefixes]
        exact ⟨t, .pass hround hends, hcard, hfailed, hlog, fun h => (htext h).trans (by simp)⟩

/-- The call after the loop is one more call of `mkdirAll`. -/
theorem mkdir_spec (s : PathLoop) (hs : s.failed = false) :
    s.mkdir.card = (mkdirAll s.card [text s.tempPath]).1 ∧
      s.mkdir.failed = !(mkdirAll s.card [text s.tempPath]).2 ∧
      s.mkdir.calls = s.calls ++ mkdirCalls s.card [text s.tempPath] := by
  unfold mkdir
  rcases s.card.mkdir_cases (text s.tempPath) with ⟨c', hmk, -⟩ | ⟨hmk, -⟩ | ⟨hmk, -⟩
  · simp [hmk, hs, mkdirAll, mkdirCalls]
  · simp [hmk, hs, mkdirAll, mkdirCalls]
  · simp [hmk, mkdirAll, mkdirCalls]

/-- The passes that are left. -/
def variant (s : PathLoop) : ℕ := if s.failed then 0 else s.tempPath.length - s.p

theorem mkdir_frame (s : PathLoop) : s.mkdir.tempPath = s.tempPath ∧ s.mkdir.p = s.p := by
  unfold mkdir
  dsimp only
  split <;> exact ⟨rfl, rfl⟩

/-- Every pass moves the pointer on, or returns. -/
theorem round_variant {s s' : PathLoop} (h : round s = some s') : s'.variant < s.variant := by
  unfold round at h
  split at h
  · cases h
  · next hgo =>
      obtain ⟨hfailed, hend⟩ := not_or.1 hgo
      have hp : s.p < s.tempPath.length := by
        by_contra hle
        exact hend (by simp [List.getElem?_eq_none (Nat.le_of_not_lt hle)])
      have hvariant : s.variant = s.tempPath.length - s.p := if_neg hfailed
      rw [hvariant]
      split at h
      · obtain ⟨htemp, hptr⟩ := mkdir_frame { s with tempPath := s.tempPath.set s.p 0 }
        dsimp only at h htemp hptr
        generalize ({ s with tempPath := s.tempPath.set s.p 0 } : PathLoop).mkdir = s₁ at h htemp hptr
        split at h
        · next hfail =>
            obtain rfl := Option.some.inj h
            rw [variant, if_pos hfail]
            omega
        · next hfail =>
            obtain rfl := Option.some.inj h
            simp only [variant, if_neg hfail, htemp, hptr, List.length_set]
            omega
      · obtain rfl := Option.some.inj h
        simp only [variant, if_neg hfailed]
        omega

end PathLoop

theorem withoutSlash_cases {path : Bytes} (h : AbsolutePath path) :
    ∃ rest tail, withoutSlash path = 47 :: rest ∧ (0 : UInt8) ∉ 47 :: rest ∧
      ∀ c, PathLoop.start c path = ⟨c, [47] ++ rest ++ 0 :: tail, 1, false, []⟩ := by
  obtain ⟨rest, rfl⟩ := h.absolute
  have hlen := h.length
  have hnul := h.no_nul
  have hcut : snprintf 256 (47 :: rest) = 47 :: rest := snprintf_eq_self (by omega)
  unfold withoutSlash
  by_cases hlast : (47 :: rest).getLast? = some 47
  · -- the slash at the end becomes a second NUL
    have hrest : rest ≠ [] := by
      rintro rfl
      simp at hlen
    obtain ⟨front, x, rfl⟩ := (List.eq_nil_or_concat rest).resolve_left hrest
    obtain rfl : x = 47 := by simpa [List.getLast?_cons] using hlast
    rw [List.concat_eq_append] at hcut hlast hnul ⊢
    have hsplit : (47 :: (front ++ [47]) : Bytes) = (47 :: front) ++ [47] := rfl
    refine ⟨front, [0], ?_, fun hmem => hnul (hsplit ▸ List.mem_append_left _ hmem), fun c => ?_⟩
    · rw [if_pos hlast, hsplit, List.dropLast_concat]
    · simp only [PathLoop.start, hcut, if_pos hlast]
      simp
  · refine ⟨rest, [], if_neg hlast, hnul, fun c => ?_⟩
    simp only [PathLoop.start, hcut, if_neg hlast]
    simp

theorem createDirectory_eq (c : Card) {path : Bytes} (h : AbsolutePath path) :
    createDirectory c path = mkdirAll c (folders (withoutSlash path)) := by
  unfold createDirectory
  rw [snprintf_eq_self (Nat.lt_succ_of_le h.length.2)]
  rfl

/-- **The loop on the array makes the calls of `createDirectory`**, with the same card and the same
result, and it ends. -/
theorem createDirectoryRun_eq (c : Card) {path : Bytes} (h : AbsolutePath path) :
    (createDirectoryRun c path).card = (createDirectory c path).1 ∧
      (createDirectoryRun c path).failed = !(createDirectory c path).2 ∧
      (createDirectoryRun c path).calls = mkdirCalls c (folders (withoutSlash path)) := by
  obtain ⟨rest, tail, hpath, hnul, hstart⟩ := withoutSlash_cases h
  obtain ⟨t, hends, hcard, hfailed, hcalls, htext⟩ :=
    PathLoop.loop_ends c [47] rest tail [] (by simp) hnul
  have hrun : run PathLoop.round (PathLoop.start c path).tempPath.length (PathLoop.start c path) =
      t := by
    refine (ends_run (I := fun _ => True) PathLoop.variant
      (fun _ _ _ hround => ⟨trivial, PathLoop.round_variant hround⟩) trivial ?_).unique ?_
    · rw [hstart]
      exact Nat.sub_le _ _
    · rw [hstart]
      exact hends
  have hfolders : folders (withoutSlash path) = slashPrefixes [47] rest ++ [47 :: rest] := by
    rw [hpath]
    rfl
  rw [createDirectory_eq c h, hfolders, (mkdirAll_append c _ _).1, (mkdirAll_append c _ _).2]
  unfold createDirectoryRun
  dsimp only
  rw [hrun]
  cases hok : (mkdirAll c (slashPrefixes [47] rest)).2 with
  | false =>
      have hreturned : t.failed = true := by rw [hfailed, hok]; rfl
      rw [if_pos hreturned, hcard, hcalls, hreturned]
      simp [hok]
  | true =>
      have hgoes : t.failed = false := by rw [hfailed, hok]; rfl
      have hname : text t.tempPath = 47 :: rest := htext hgoes
      obtain ⟨hcard', hfailed', hcalls'⟩ := PathLoop.mkdir_spec t hgoes
      rw [if_neg (by simp [hgoes]), hcard', hfailed', hcalls', hname, hcard, hcalls]
      simp

/-! ## What the caller may rely on -/

/-- After `ESP_OK` the path and every folder on the way to it are there, and after `ESP_FAIL` the call
that failed was the last one. -/
structure DirectoryCreated (c : Card) (path : Bytes) : Prop where
  created : (createDirectoryRun c path).failed = false →
    ∀ q, q = withoutSlash path ∨ IsAncestor q (withoutSlash path) →
      q ∈ (createDirectoryRun c path).card.dirs
  stopped : (createDirectoryRun c path).failed = true →
    ∃ before q, (createDirectoryRun c path).calls = before ++ [(q, true)] ∧
      ∀ call ∈ before, call.2 = false

theorem getLast?_folders (path : Bytes) : (folders path).getLast? = some path := by simp [folders]

theorem dropLast_folders (path : Bytes) : (folders path).dropLast = slashPrefixes [] path := by
  simp [folders]

theorem ne_nil_of_mem_folders {path : Bytes} (h : path ≠ []) : ∀ q ∈ folders path, q ≠ [] := by
  intro q hq
  rcases mem_folders.1 hq with rfl | hq
  · exact h
  · exact hq.1

/-- Where the path is a regular file, its parents are there, so every call finds an entry. -/
theorem mkdirAll_folders_file {c : Card} {rest : Bytes} (hc : c.Tree) (hfile : c.hasFile (47 :: rest)) :
    mkdirAll c (folders (47 :: rest)) = (c, true) := by
  have hparents := dirs_of_last hc (descends_folders rest)
    (ne_nil_of_mem_folders (List.cons_ne_nil 47 rest)) fun q hq => by
      obtain rfl := Option.some.inj ((getLast?_folders (47 :: rest)).symm.trans hq)
      exact Card.parentDir_mem_of_hasFile hfile
  rw [dropLast_folders] at hparents
  refine mkdirAll_entries fun q hq => ?_
  rcases List.mem_append.1 hq with hq | hq
  · exact .inl (hparents q hq)
  · exact .inr (List.mem_singleton.1 hq ▸ hfile)

/-- **Exactly when the folder can be relied on.** In every file tree and for every absolute path,
`create_directory` keeps its promise if and only if the path is not a regular file. -/
theorem directoryCreated_iff {c : Card} {path : Bytes} (hc : c.Tree) (hpath : AbsolutePath path) :
    DirectoryCreated c path ↔ ¬ c.hasFile (withoutSlash path) := by
  obtain ⟨hcard, hfailed, hcalls⟩ := createDirectoryRun_eq c hpath
  obtain ⟨rest, -, hslash, -⟩ := withoutSlash_cases hpath
  rw [createDirectory_eq c hpath, hslash] at hcard hfailed
  rw [hslash] at hcalls
  constructor
  · intro h hfile
    rw [hslash] at hfile
    rw [mkdirAll_folders_file hc hfile] at hcard hfailed
    have hdir := h.created hfailed _ (.inl rfl)
    rw [hcard, hslash] at hdir
    exact hc.disjoint _ hdir hfile
  · intro hfile
    rw [hslash] at hfile
    constructor
    · intro hok q hq
      rw [hslash] at hq
      rw [hcard]
      refine mkdirAll_created hc (descends_folders rest)
        (ne_nil_of_mem_folders (List.cons_ne_nil 47 rest)) ?_ (by simpa [hok] using hfailed) q
        (mem_folders.2 hq)
      intro q hlast
      obtain rfl := Option.some.inj ((getLast?_folders (47 :: rest)).symm.trans hlast)
      exact hfile
    · intro hfail
      rw [hcalls]
      exact mkdirCalls_failed (by simpa [hfail] using hfailed)

/-- A card with the folder of the toys, and a regular file in it that has the name of a toy. -/
def toyFileCard : Card where
  dirs := [[], str "/sdcard", str "/sdcard/media", str "/sdcard/media/toys"]
  files := [(str "/sdcard/media/toys/04A1B2C3D4E5F680", [])]
  files_nodup := by decide
  files_in_dirs := by decide

theorem toyFileCard_tree : toyFileCard.Tree := ⟨by decide, by decide⟩

def newToyPath : Bytes := str "/sdcard/media/toys/0411223344556677/"

theorem directoryCreated_iff_newToy : DirectoryCreated toyFileCard newToyPath := by
  have hpath : AbsolutePath newToyPath := by
    refine ⟨⟨str "sdcard/media/toys/0411223344556677/", rfl⟩, by decide, ?_, by decide⟩
    decide
  exact (directoryCreated_iff toyFileCard_tree hpath).2 (by decide)

/-- The path of the toy is a regular file: `ESP_OK`, and no folder. -/
theorem directoryCreated_not_file :
    ¬ DirectoryCreated toyFileCard (str "/sdcard/media/toys/04A1B2C3D4E5F680/") := by
  intro h
  have hdir := h.created (by decide +kernel) (str "/sdcard/media/toys/04A1B2C3D4E5F680")
    (.inl (by decide +kernel))
  revert hdir
  decide +kernel

end Downloader

end Cubbies
