import Cubbies.Proofs.VerifyMarker

set_option autoImplicit false

/-! # Which audio files are skipped

`process_audio_files` compares names up to their last dot, the names of `N_server` as well as those of
the listing, and `list_files` lists 100 files. A name without a dot therefore counts as there if one of
the first 100 files has it in front of its last dot, whatever follows; a name with a dot is cut first,
although `download_mp3_file` appends the `.mp3` to the whole of it. `asksForMissing_iff` says for which
names and folders exactly the missing files are downloaded. -/

namespace Cubbies

open CString

namespace Downloader

/-! ## The names downloaded -/

/-- The download loop with the names it calls `download_mp3_file` for. -/
def loggedAll (d : Downloader) (s : ℕ → AudioScript) : List Bytes → List Bytes × Bool × Downloader
  | [] => ([], true, d)
  | name :: names =>
      let r := d.downloadMp3File name (s 0)
      if r.1 then
        let l := r.2.loggedAll (fun i => s (i + 1)) names
        (name :: l.1, l.2)
      else ([name], false, r.2)

/-- `Downloader::process_audio_files` with these names. -/
def loggedAudioFiles (d : Downloader) (s : ℕ → AudioScript) (seconds : ℕ) :
    List Bytes × Bool × Downloader :=
  match listFiles d.card audioPath with
  | none => ([], false, d)
  | some sdFiles =>
      let filesToDownload := d.nServer.filter fun name => ¬ isDuplicate sdFiles name
      let r := d.loggedAll s filesToDownload
      let d := if r.2.1 ∧ filesToDownload ≠ [] then r.2.2.createVerifiedFile seconds else r.2.2
      (r.1, r.2.1, { d with nServer := [] })

theorem loggedAll_snd (d : Downloader) (s : ℕ → AudioScript) (names : List Bytes) :
    (d.loggedAll s names).2 = d.downloadAll s names := by
  induction names generalizing d s with
  | nil => rfl
  | cons name names ih =>
      unfold loggedAll downloadAll
      dsimp only
      split
      · exact ih _ _
      · rfl

/-- The log does not change what is done. -/
theorem loggedAudioFiles_snd (d : Downloader) (s : ℕ → AudioScript) (seconds : ℕ) :
    (d.loggedAudioFiles s seconds).2 = d.processAudioFiles s seconds := by
  unfold loggedAudioFiles processAudioFiles
  cases listFiles d.card audioPath with
  | none => rfl
  | some sdFiles =>
      dsimp only
      rw [← loggedAll_snd]

theorem loggedAll_downloaded {d : Downloader} {s : ℕ → AudioScript} {name : Bytes}
    (h : (d.downloadMp3File name (s 0)).1 = true) (names : List Bytes) :
    d.loggedAll s (name :: names) =
      (name :: ((d.downloadMp3File name (s 0)).2.loggedAll (fun i => s (i + 1)) names).1,
        ((d.downloadMp3File name (s 0)).2.loggedAll (fun i => s (i + 1)) names).2) := by
  rw [loggedAll]
  exact if_pos h

theorem loggedAll_failed {d : Downloader} {s : ℕ → AudioScript} {name : Bytes}
    (h : (d.downloadMp3File name (s 0)).1 = false) (names : List Bytes) :
    d.loggedAll s (name :: names) = ([name], false, (d.downloadMp3File name (s 0)).2) := by
  rw [loggedAll]
  exact if_neg (by simp [h])

theorem loggedAll_prefix (d : Downloader) (s : ℕ → AudioScript) (names : List Bytes) :
    (d.loggedAll s names).1 <+: names := by
  induction names generalizing d s with
  | nil => exact List.prefix_rfl
  | cons name names ih =>
      cases hok : (d.downloadMp3File name (s 0)).1 with
      | true =>
          rw [loggedAll_downloaded hok]
          exact List.cons_prefix_cons.2 ⟨rfl, ih _ _⟩
      | false =>
          rw [loggedAll_failed hok]
          exact List.cons_prefix_cons.2 ⟨rfl, List.nil_prefix⟩

/-! ## The claim about them -/

/-- The names of the regular files in the audio folder. -/
def audioFiles (c : Card) : List Bytes :=
  (c.files.filter fun f => parentDir f.1 = parentDir audioPath).map fun f => baseName f.1

/-- The names of the list whose audio file is not in the folder. -/
def missingFiles (d : Downloader) : List Bytes :=
  d.nServer.filter fun name => name ++ str ".mp3" ∉ audioFiles d.card

/-- The names asked for are those of the list `right` in order, up to the first download that fails. -/
structure Follows (asked : List Bytes) (finished : Bool) (right : List Bytes) : Prop where
  inOrder : asked <+: right
  all : finished = true → asked = right

theorem follows_cons {asked right : List Bytes} {finished : Bool} (name : Bytes) :
    Follows (name :: asked) finished (name :: right) ↔ Follows asked finished right := by
  constructor
  · rintro ⟨hpre, hall⟩
    exact ⟨(List.cons_prefix_cons.1 hpre).2, fun h => (List.cons.inj (hall h)).2⟩
  · rintro ⟨hpre, hall⟩
    exact ⟨List.cons_prefix_cons.2 ⟨rfl, hpre⟩, fun h => by rw [hall h]⟩

/-- Exactly the missing files are downloaded. -/
def AsksForMissing (d : Downloader) (s : ℕ → AudioScript) (seconds : ℕ) : Prop :=
  Follows (d.loggedAudioFiles s seconds).1 (d.loggedAudioFiles s seconds).2.1 d.missingFiles

/-! ## When the comparison is right -/

/-- The comparison with the first 100 of these files is right about `name`: it finds `name.mp3` if that
is there, by itself or through another file of the same stem, and no file of the same stem otherwise. -/
def Told (files : List Bytes) (name : Bytes) : Prop :=
  if name ++ str ".mp3" ∈ files then
    (46 ∉ name ∧ name ++ str ".mp3" ∈ files.take maxFiles) ∨
      ∃ file ∈ files.take maxFiles, file ≠ name ++ str ".mp3" ∧
        beforeLast 46 file = beforeLast 46 name
  else ∀ file ∈ files.take maxFiles, beforeLast 46 file ≠ beforeLast 46 name

instance (files : List Bytes) (name : Bytes) : Decidable (Told files name) :=
  inferInstanceAs (Decidable (if name ++ str ".mp3" ∈ files then
    (46 ∉ name ∧ name ++ str ".mp3" ∈ files.take maxFiles) ∨
      ∃ file ∈ files.take maxFiles, file ≠ name ++ str ".mp3" ∧
        beforeLast 46 file = beforeLast 46 name
  else ∀ file ∈ files.take maxFiles, beforeLast 46 file ≠ beforeLast 46 name))

theorem beforeLast_mp3 (name : Bytes) : beforeLast 46 (name ++ str ".mp3") = name :=
  beforeLast_append_cons 46 name (str "mp3") (by decide)

theorem beforeLast_eq_self_iff (sep : UInt8) (s : Bytes) : beforeLast sep s = s ↔ sep ∉ s := by
  constructor
  · intro h hmem
    obtain ⟨a, b, rfl, hb⟩ := exists_last_sep hmem
    rw [beforeLast_append_cons sep a b hb] at h
    have hlen := congrArg List.length h
    rw [List.length_append, List.length_cons] at hlen
    omega
  · intro h
    exact if_neg h

theorem isDuplicate_iff (sdFiles : List Bytes) (name : Bytes) :
    isDuplicate sdFiles name = true ↔ ∃ file ∈ sdFiles, beforeLast 46 file = beforeLast 46 name := by
  unfold isDuplicate sameStem
  rw [List.any_eq_true]
  exact exists_congr fun file => and_congr_right fun _ => by rw [decide_eq_true_eq, eq_comm]

theorem told_iff (files : List Bytes) (name : Bytes) :
    Told files name ↔
      (isDuplicate (files.take maxFiles) name = true ↔ name ++ str ".mp3" ∈ files) := by
  rw [isDuplicate_iff]
  unfold Told
  split
  · next hthere =>
      rw [iff_true_right hthere]
      constructor
      · rintro (⟨hdot, hlisted⟩ | ⟨file, hfile, -, hstem⟩)
        · refine ⟨_, hlisted, ?_⟩
          rw [beforeLast_mp3]
          exact ((beforeLast_eq_self_iff 46 name).2 hdot).symm
        · exact ⟨file, hfile, hstem⟩
      · rintro ⟨file, hfile, hstem⟩
        by_cases hself : file = name ++ str ".mp3"
        · subst hself
          rw [beforeLast_mp3] at hstem
          exact .inl ⟨(beforeLast_eq_self_iff 46 name).1 hstem.symm, hfile⟩
        · exact .inr ⟨file, hfile, hself, hstem⟩
  · next hmissing =>
      rw [iff_false_right hmissing, not_exists]
      exact forall_congr' fun file => not_and.symm

/-- The names that are looked at before a download fails. -/
def considered (d : Downloader) (s : ℕ → AudioScript) (sdFiles : List Bytes) : List Bytes → List Bytes
  | [] => []
  | name :: names =>
      name ::
        if isDuplicate sdFiles name then d.considered s sdFiles names
        else
          let r := d.downloadMp3File name (s 0)
          if r.1 then r.2.considered (fun i => s (i + 1)) sdFiles names else []

theorem considered_duplicate {sdFiles : List Bytes} {name : Bytes}
    (h : isDuplicate sdFiles name = true) (d : Downloader) (s : ℕ → AudioScript) (names : List Bytes) :
    d.considered s sdFiles (name :: names) = name :: d.considered s sdFiles names := by
  rw [considered, if_pos h]

theorem considered_failed {sdFiles : List Bytes} {name : Bytes} {d : Downloader} {s : ℕ → AudioScript}
    (h : isDuplicate sdFiles name = false) (hfail : (d.downloadMp3File name (s 0)).1 = false)
    (names : List Bytes) : d.considered s sdFiles (name :: names) = [name] := by
  simp only [considered, h, hfail, Bool.false_eq_true, if_false]

theorem considered_downloaded {sdFiles : List Bytes} {name : Bytes} {d : Downloader}
    {s : ℕ → AudioScript} (h : isDuplicate sdFiles name = false)
    (hok : (d.downloadMp3File name (s 0)).1 = true) (names : List Bytes) :
    d.considered s sdFiles (name :: names) =
      name :: (d.downloadMp3File name (s 0)).2.considered (fun i => s (i + 1)) sdFiles names := by
  simp only [considered, h, hok, Bool.false_eq_true, if_false, if_true]

theorem loggedAll_cons (d : Downloader) (s : ℕ → AudioScript) (name : Bytes) (names : List Bytes) :
    ∃ asked, (d.loggedAll s (name :: names)).1 = name :: asked := by
  cases hok : (d.downloadMp3File name (s 0)).1 with
  | true => exact ⟨_, congrArg Prod.fst (loggedAll_downloaded hok names)⟩
  | false => exact ⟨_, congrArg Prod.fst (loggedAll_failed hok names)⟩

/-- What is downloaded of the names that are let through is what is downloaded of the missing ones
exactly if the names looked at are let through if and only if they are missing. -/
theorem loggedAll_follows_iff {sdFiles : List Bytes} {missing : Bytes → Bool} (d : Downloader)
    (s : ℕ → AudioScript) (names : List Bytes) :
    Follows (d.loggedAll s (names.filter fun name => ¬ isDuplicate sdFiles name)).1
        (d.loggedAll s (names.filter fun name => ¬ isDuplicate sdFiles name)).2.1
        (names.filter missing) ↔
      ∀ name ∈ d.considered s sdFiles names,
        isDuplicate sdFiles name = true ↔ missing name = false := by
  induction names generalizing d s with
  | nil =>
      refine iff_of_true ⟨List.prefix_rfl, fun _ => rfl⟩ ?_
      intro name hname
      cases hname
  | cons name names ih =>
      cases hdup : isDuplicate sdFiles name with
      | false =>
          have hthrough : (name :: names).filter (fun name => ¬ isDuplicate sdFiles name) =
              name :: names.filter fun name => ¬ isDuplicate sdFiles name :=
            List.filter_cons_of_pos (by simp [hdup])
          rw [hthrough]
          cases hmiss : missing name with
          | false =>
              -- downloaded although it is there
              refine iff_of_false ?_ ?_
              · rintro ⟨hpre, -⟩
                obtain ⟨asked, hasked⟩ := d.loggedAll_cons s name
                  (names.filter fun name => ¬ isDuplicate sdFiles name)
                rw [hasked] at hpre
                have hmem := hpre.subset List.mem_cons_self
                rw [List.mem_filter, hmiss] at hmem
                exact absurd hmem.2 Bool.false_ne_true
              · intro h
                have hname := (h name List.mem_cons_self).2 hmiss
                rw [hdup] at hname
                cases hname
          | true =>
              rw [List.filter_cons_of_pos hmiss]
              cases hok : (d.downloadMp3File name (s 0)).1 with
              | true =>
                  rw [loggedAll_downloaded hok, considered_downloaded hdup hok, follows_cons, ih,
                    List.forall_mem_cons, hdup, hmiss]
                  simp
              | false =>
                  rw [loggedAll_failed hok, considered_failed hdup hok, List.forall_mem_singleton, hdup,
                    hmiss]
                  exact iff_of_true ⟨List.cons_prefix_cons.2 ⟨rfl, List.nil_prefix⟩, by simp⟩ (by simp)
      | true =>
          have hskipped : (name :: names).filter (fun name => ¬ isDuplicate sdFiles name) =
              names.filter fun name => ¬ isDuplicate sdFiles name :=
            List.filter_cons_of_neg (by simp [hdup])
          rw [hskipped]
          rw [considered_duplicate hdup]
          cases hmiss : missing name with
          | false =>
              rw [List.filter_cons_of_neg (by simp [hmiss]), ih, List.forall_mem_cons, hdup, hmiss]
              simp
          | true =>
              -- skipped although it is missing
              rw [List.filter_cons_of_pos hmiss]
              refine iff_of_false ?_ ?_
              · rintro ⟨hpre, hall⟩
                have hbelow := d.loggedAll_prefix s
                  (names.filter fun name => ¬ isDuplicate sdFiles name)
                cases hnames : names.filter fun name => ¬ isDuplicate sdFiles name with
                | nil =>
                    rw [hnames] at hall
                    cases hall rfl
                | cons next rest =>
                    obtain ⟨asked, hasked⟩ := d.loggedAll_cons s next rest
                    rw [hnames, hasked] at hpre
                    obtain ⟨rfl, -⟩ := List.cons_prefix_cons.1 hpre
                    have hmem : next ∈ names.filter fun name => ¬ isDuplicate sdFiles name :=
                      hnames ▸ List.mem_cons_self
                    have hlet := (List.mem_filter.1 hmem).2
                    simp [hdup] at hlet
              · intro h
                have hname := (h name List.mem_cons_self).1 hdup
                rw [hmiss] at hname
                cases hname

theorem listFiles_eq {c : Card} (h : parentDir audioPath ∈ c.dirs) :
    listFiles c audioPath = some ((audioFiles c).take maxFiles) :=
  if_pos h

/-- **What is skipped is what is there**, exactly if the comparison is right about every name that is
looked at before a download fails. -/
theorem asksForMissing_iff {d : Downloader} (hfolder : parentDir audioPath ∈ d.card.dirs)
    (s : ℕ → AudioScript) (seconds : ℕ) :
    d.AsksForMissing s seconds ↔
      ∀ name ∈ d.considered s ((audioFiles d.card).take maxFiles) d.nServer,
        Told (audioFiles d.card) name := by
  have hasked : (d.loggedAudioFiles s seconds).1 =
        (d.loggedAll s (d.nServer.filter fun name =>
          ¬ isDuplicate ((audioFiles d.card).take maxFiles) name)).1 ∧
      (d.loggedAudioFiles s seconds).2.1 =
        (d.loggedAll s (d.nServer.filter fun name =>
          ¬ isDuplicate ((audioFiles d.card).take maxFiles) name)).2.1 := by
    unfold loggedAudioFiles
    rw [listFiles_eq hfolder]
    exact ⟨rfl, rfl⟩
  unfold AsksForMissing missingFiles
  rw [hasked.1, hasked.2, loggedAll_follows_iff]
  refine forall₂_congr fun name _ => ?_
  rw [told_iff]
  simp

/-! ## A name with a dot -/

/-- The audio folder with one file. -/
def oneAudio : Card where
  dirs := [str "/sdcard/media/audio"]
  files := [(str "/sdcard/media/audio/a.mp3", [])]
  files_nodup := List.nodup_singleton _
  files_in_dirs := by decide

/-- A downloader that is to get these audio files. -/
def wanting (names : List Bytes) : Downloader := { boot oneAudio sampleWifi with nServer := names }

/-- Every download is answered and renamed. -/
def allAnswered : ℕ → AudioScript := fun _ => ⟨fun _ => answered [], true⟩

theorem asksForMissing_plain : (wanting [str "a", str "b"]).AsksForMissing allAnswered 0 :=
  (asksForMissing_iff (by decide) allAnswered 0).2 (by decide +kernel)

/-- `a.mp3` is taken for the missing `a.b.mp3`. -/
theorem asksForMissing_dotted : ¬ (wanting [str "a.b"]).AsksForMissing allAnswered 0 := by
  intro h
  exact absurd (h.all (by decide +kernel)) (by decide +kernel)

end Downloader

end Cubbies
