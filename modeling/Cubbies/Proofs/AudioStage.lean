import Cubbies.Proofs.Stages

set_option autoImplicit false

/-! # What downloading the audio files does

While an audio file is received only its temporary file is written (`Receiving`), so a call of
`download_mp3_file` that succeeds moves that file to its final name and leaves every other path alone
(`downloadMp3File_spec`). `downloadAll_hasFile` adds this up over the names of a list: which files are
there afterwards when all downloads succeeded. -/

namespace Cubbies

open CString

namespace Downloader

/-! ## What downloading leaves alone

The reception writes the open file, fills the buffer and closes the file. A property that looks at none
of the three, and that a read frame keeps, holds behind every download. -/

/-- `P` looks at nothing that the reception of a file changes. -/
def IgnoresReception (P : Downloader → Prop) : Prop :=
  ∀ d card buffer file, P d → P { d with card := card, downloadBuffer := buffer, file := file }

section

variable {P : Downloader → Prop} {d : Downloader}

theorem flushBuffer_induction (hignores : IgnoresReception P) (hd : P d) : P d.flushBuffer := by
  unfold flushBuffer
  split
  · next path _ =>
      split
      · exact hd
      · exact hignores d (d.card.fwrite path d.downloadBuffer) [] d.file hd
  · exact hd

theorem copyLoop_induction (hignores : IgnoresReception P) (fuel : ℕ) (data : Bytes) (hd : P d) :
    P (copyLoop fuel d data) := by
  induction fuel generalizing d data with
  | zero => exact hd
  | succ fuel ih =>
      have hfilled : ∀ buffer, P { d with downloadBuffer := buffer } := by
        intro buffer
        exact hignores d d.card buffer d.file hd
      unfold copyLoop
      split
      · exact hd
      · refine ih _ ?_
        dsimp only
        split
        · exact flushBuffer_induction hignores (hfilled _)
        · exact hfilled _

theorem mp3Callback_induction (hignores : IgnoresReception P) {x : Exchange} (hd : P d)
    (hframe : ∀ d, ∀ uid ∈ x.frames, P d → P (d.frame uid)) :
    P (mp3Callback.perform frame d x).2 := by
  have hclosed : ∀ d : Downloader, P d → P { d with file := none } := by
    intro d hd
    exact hignores d d.card d.downloadBuffer none hd
  refine Callback.perform_induction hd (fun _ _ _ h => h) ?_ ?_ hclosed hframe
  · intro d data h
    dsimp only [mp3Callback]
    split
    · exact copyLoop_induction hignores data.length data h
    · exact h
  · intro d h
    dsimp only [mp3Callback]
    split
    · exact hclosed _ (flushBuffer_induction hignores h)
    · exact h

theorem retryLoop_induction (hignores : IgnoresReception P) (left : ℕ) {attempts : ℕ → Exchange}
    (hd : P d) (hframe : ∀ d i, ∀ uid ∈ (attempts i).frames, P d → P (d.frame uid)) :
    P (retryLoop left d attempts).2 := by
  induction left generalizing d attempts with
  | zero => exact hd
  | succ left ih =>
      have hfirst := mp3Callback_induction hignores (x := attempts 0) hd fun d => hframe d 0
      unfold retryLoop
      dsimp only
      split
      · exact hfirst
      · exact ih hfirst fun d i => hframe d (i + 1)

theorem downloadMp3File_induction (hignores : IgnoresReception P) (name : Bytes) {s : AudioScript}
    (hd : P d) (hopen : ∀ d', d.openTemp name = some d' → P d')
    (hframe : ∀ d i, ∀ uid ∈ (s.attempts i).frames, P d → P (d.frame uid)) :
    P (d.downloadMp3File name s).2 := by
  unfold downloadMp3File
  split
  · exact hignores d d.card d.downloadBuffer none hd
  · next d' h =>
      have hloop := retryLoop_induction hignores maxRetryCount (hopen d' h) hframe
      dsimp only
      split
      · split
        · exact hignores _ _ _ _ hloop
        · exact hloop
      · exact hignores _ _ _ _ hloop

theorem downloadAll_induction (hignores : IgnoresReception P) {s : ℕ → AudioScript}
    {names : List Bytes} (hd : P d)
    (hopen : ∀ d d', ∀ name ∈ names, d.openTemp name = some d' → P d → P d')
    (hframe : ∀ d i k, ∀ uid ∈ ((s i).attempts k).frames, P d → P (d.frame uid)) :
    P (d.downloadAll s names).2 := by
  induction names generalizing d s with
  | nil => exact hd
  | cons name names ih =>
      have hfirst : P (d.downloadMp3File name (s 0)).2 :=
        downloadMp3File_induction hignores name hd
          (fun d' h => hopen d d' name List.mem_cons_self h hd) fun d => hframe d 0
      unfold downloadAll
      dsimp only
      split
      · exact ih hfirst (fun d d' n hn => hopen d d' n (List.mem_cons_of_mem _ hn))
          fun d i => hframe d (i + 1)
      · exact hfirst

end

/-! ## One audio file -/

/-- A state reached from `d₀` while the temporary file `temp` is received. -/
structure Receiving (d₀ : Downloader) (temp : Bytes) (d : Downloader) : Prop where
  kept : d.kept = d₀.kept
  dirs : d.card.dirs = d₀.card.dirs
  content : ∀ q, q ≠ temp → d.card.content? q = d₀.card.content? q
  tempFile : d.card.hasFile temp
  file : d.file = none ∨ d.file = some temp

theorem Receiving.flushBuffer {d₀ d : Downloader} {temp : Bytes} (h : Receiving d₀ temp d) :
    Receiving d₀ temp d.flushBuffer := by
  unfold Downloader.flushBuffer
  split
  · next path hfile =>
      split
      · exact h
      · obtain rfl : path = temp := by
          rcases h.file with hnone | hsome
          · rw [hnone] at hfile; cases hfile
          · rw [hsome] at hfile; exact (Option.some.inj hfile).symm
        refine ⟨h.kept, ?_, fun q hq => ?_, ?_, h.file⟩
        · exact (Card.fwrite_dirs _ _ _).trans h.dirs
        · rw [Card.content?_fwrite, if_neg hq]
          exact h.content q hq
        · exact (Card.hasFile_fwrite _ _ _ _).2 h.tempFile
  · exact h

/-- The receive buffer does not matter here. -/
theorem Receiving.setBuffer {d₀ d : Downloader} {temp : Bytes} (h : Receiving d₀ temp d)
    (buffer : Bytes) : Receiving d₀ temp { d with downloadBuffer := buffer } :=
  ⟨h.kept, h.dirs, h.content, h.tempFile, h.file⟩

theorem Receiving.copyLoop {d₀ d : Downloader} {temp : Bytes} (fuel : ℕ) (data : Bytes)
    (h : Receiving d₀ temp d) : Receiving d₀ temp (Downloader.copyLoop fuel d data) := by
  induction fuel generalizing d data with
  | zero => exact h
  | succ fuel ih =>
      unfold Downloader.copyLoop
      split
      · exact h
      · refine ih _ ?_
        dsimp only
        split
        · exact (h.setBuffer _).flushBuffer
        · exact h.setBuffer _

theorem Receiving.perform {d₀ d : Downloader} {temp : Bytes} (x : Exchange)
    (h : Receiving d₀ temp d) :
    Receiving d₀ temp (mp3Callback.perform Downloader.frame d x).2 := by
  refine Callback.perform_induction h (fun _ _ _ h => h) ?_ ?_ ?_ ?_
  · intro d data h
    dsimp only [mp3Callback]
    split
    · exact h.copyLoop _ _
    · exact h
  · intro d h
    dsimp only [mp3Callback]
    split
    · have hflush := h.flushBuffer
      exact ⟨hflush.kept, hflush.dirs, hflush.content, hflush.tempFile, Or.inl rfl⟩
    · exact h
  · intro d h
    exact ⟨h.kept, h.dirs, h.content, h.tempFile, Or.inl rfl⟩
  · intro d uid _ h
    exact ⟨h.kept, h.dirs, h.content, h.tempFile, h.file⟩

theorem Receiving.retryLoop {d₀ d : Downloader} {temp : Bytes} (left : ℕ) (attempts : ℕ → Exchange)
    (h : Receiving d₀ temp d) : Receiving d₀ temp (Downloader.retryLoop left d attempts).2 := by
  induction left generalizing d attempts with
  | zero => exact h
  | succ left ih =>
      unfold Downloader.retryLoop
      dsimp only
      split
      · exact h.perform _
      · exact ih _ (h.perform _)

/-- The names `name.mp3` and `nametemp.mp3` are in one folder. -/
theorem parentDir_finalFilePath (name : Bytes) :
    parentDir (finalFilePath name) = parentDir (tempFilePath name) := by
  have hsep : (47 : UInt8) ∈ audioPath ++ name := by
    refine List.mem_append_left _ ?_
    decide
  have hcut : ∀ suffix : Bytes, (47 : UInt8) ∉ suffix →
      parentDir (snprintf 256 (audioPath ++ name ++ suffix)) =
        parentDir (if (audioPath ++ name).length < 255 then audioPath ++ name
          else (audioPath ++ name).take 255) := by
    intro suffix hsuffix
    unfold snprintf parentDir
    rw [List.take_append]
    split
    · next h =>
        rw [List.take_of_length_le (by omega)]
        exact beforeLast_append_of_not_mem hsep fun hmem => hsuffix (List.mem_of_mem_take hmem)
    · next h =>
        rw [show 256 - 1 - (audioPath ++ name).length = 0 by omega, List.take_zero, List.append_nil]
  unfold finalFilePath tempFilePath
  rw [hcut _ (by decide), hcut _ (by decide)]

/-- What a successful call of `download_mp3_file` does to the card: the temporary file, with whatever
was received, gets the final name. -/
structure Downloaded (d d' : Downloader) (name : Bytes) : Prop where
  kept : d'.kept = d.kept
  dirs : d'.card.dirs = d.card.dirs
  content : ∃ b, ∀ q, d'.card.content? q =
    if q = finalFilePath name then some b
    else if q = tempFilePath name then none else d.card.content? q

theorem openTemp_receiving {d d' : Downloader} {name : Bytes} (h : d.openTemp name = some d') :
    Receiving d (tempFilePath name) d' := by
  obtain ⟨e, he, rfl⟩ := Option.map_eq_some_iff.1 h
  obtain ⟨c, hc, rfl⟩ := Option.map_eq_some_iff.1 he
  refine ⟨rfl, ?_, fun q hq => ?_, ?_, Or.inr rfl⟩
  · exact (Card.fwrite_dirs _ _ _).trans (Card.fopenWrite_dirs hc)
  · dsimp only
    rw [Card.content?_fwrite, if_neg hq, Card.content?_fopenWrite hc, if_neg hq]
  · dsimp only
    rw [Card.hasFile_fwrite, Card.hasFile, Card.content?_fopenWrite hc, if_pos rfl]
    rfl

theorem downloadMp3File_kept (d : Downloader) (name : Bytes) (s : AudioScript) :
    (d.downloadMp3File name s).2.kept = d.kept ∧
      (d.downloadMp3File name s).2.card.dirs = d.card.dirs := by
  unfold downloadMp3File
  split
  · exact ⟨rfl, rfl⟩
  · next d' h =>
      have hrecv := (openTemp_receiving h).retryLoop maxRetryCount s.attempts
      dsimp only
      split
      · split
        · exact ⟨hrecv.kept, (Card.rename_dirs _ _ _).trans hrecv.dirs⟩
        · exact ⟨hrecv.kept, hrecv.dirs⟩
      · exact ⟨hrecv.kept, hrecv.dirs⟩

theorem downloadMp3File_spec {d : Downloader} {name : Bytes} {s : AudioScript}
    (hret : (d.downloadMp3File name s).1 = true) :
    Downloaded d (d.downloadMp3File name s).2 name := by
  obtain ⟨hkept, hdirs⟩ := downloadMp3File_kept d name s
  refine ⟨hkept, hdirs, ?_⟩
  unfold downloadMp3File at hret ⊢
  split at hret
  · cases hret
  · next d' h =>
      have hrecv := (openTemp_receiving h).retryLoop maxRetryCount s.attempts
      dsimp only at hret ⊢
      split at hret
      · next hok =>
          split at hret
          · next hren =>
              rw [if_pos hok, if_pos hren]
              obtain ⟨b, hb⟩ := Option.isSome_iff_exists.1 hrecv.tempFile
              have hdir : parentDir (finalFilePath name) ∈ _ :=
                parentDir_finalFilePath name ▸ Card.parentDir_mem_of_hasFile hrecv.tempFile
              refine ⟨b, fun q => ?_⟩
              dsimp only
              rw [Card.content?_rename hb hdir]
              by_cases hq : q = tempFilePath name
              · rw [if_pos hq, if_pos hq]
              · rw [if_neg hq, if_neg hq, hrecv.content q hq]
          · cases hret
      · cases hret

theorem Downloaded.hasFile {d d' : Downloader} {name q : Bytes} (h : Downloaded d d' name) :
    d'.card.hasFile q ↔
      q = finalFilePath name ∨ (q ≠ tempFilePath name ∧ d.card.hasFile q) := by
  obtain ⟨b, hb⟩ := h.content
  unfold Card.hasFile
  rw [hb q]
  by_cases hfinal : q = finalFilePath name
  · simp [hfinal]
  · by_cases htemp : q = tempFilePath name <;> simp [hfinal, htemp]

/-! ## A list of names -/

theorem downloadAll_kept (d : Downloader) (s : ℕ → AudioScript) (names : List Bytes) :
    (d.downloadAll s names).2.kept = d.kept ∧
      (d.downloadAll s names).2.card.dirs = d.card.dirs := by
  induction names generalizing d s with
  | nil => exact ⟨rfl, rfl⟩
  | cons name names ih =>
      obtain ⟨hkept, hdirs⟩ := downloadMp3File_kept d name (s 0)
      unfold downloadAll
      dsimp only
      split
      · obtain ⟨hkept', hdirs'⟩ := ih (d.downloadMp3File name (s 0)).2 fun i => s (i + 1)
        exact ⟨hkept'.trans hkept, hdirs'.trans hdirs⟩
      · exact ⟨hkept, hdirs⟩

theorem createVerifiedFile_responseBuffer (d : Downloader) (seconds : ℕ) :
    (d.createVerifiedFile seconds).responseBuffer = d.responseBuffer := by
  unfold createVerifiedFile openWrite
  dsimp only
  cases d.card.fopenWrite (toysPath ++ d.tagUid ++ str "/verify.txt") <;> rfl

theorem processAudioFiles_responseBuffer (d : Downloader) (s : ℕ → AudioScript) (seconds : ℕ) :
    (d.processAudioFiles s seconds).2.responseBuffer = d.responseBuffer := by
  unfold processAudioFiles
  cases listFiles d.card audioPath with
  | none => rfl
  | some sdFiles =>
      have hkept := (downloadAll_kept d s
        (d.nServer.filter fun name => ¬ isDuplicate sdFiles name)).1
      dsimp only
      split
      · exact (createVerifiedFile_responseBuffer _ _).trans (congrArg Kept.responseBuffer hkept)
      · exact congrArg Kept.responseBuffer hkept

/-- What was there and is no name's temporary file is there afterwards. -/
theorem downloadAll_keeps {d : Downloader} {s : ℕ → AudioScript} {names : List Bytes} {q : Bytes}
    (hret : (d.downloadAll s names).1 = true) (hq : d.card.hasFile q)
    (htemp : ∀ name ∈ names, tempFilePath name ≠ q) :
    (d.downloadAll s names).2.card.hasFile q := by
  induction names generalizing d s with
  | nil => exact hq
  | cons name names ih =>
      unfold downloadAll at hret ⊢
      dsimp only at hret ⊢
      split at hret
      · next hok =>
          rw [if_pos hok]
          refine ih hret ?_ fun n hn => htemp n (List.mem_cons_of_mem _ hn)
          exact (downloadMp3File_spec hok).hasFile.2
            (Or.inr ⟨fun h => htemp name List.mem_cons_self h.symm, hq⟩)
      · cases hret

/-- The file of a name is there after all downloads, unless a later one used its path. -/
theorem downloadAll_hasFile {d : Downloader} {s : ℕ → AudioScript} {l r : List Bytes} {name : Bytes}
    (hret : (d.downloadAll s (l ++ name :: r)).1 = true)
    (htemp : ∀ n ∈ r, tempFilePath n ≠ finalFilePath name) :
    (d.downloadAll s (l ++ name :: r)).2.card.hasFile (finalFilePath name) := by
  induction l generalizing d s with
  | nil =>
      rw [List.nil_append] at hret ⊢
      unfold downloadAll at hret ⊢
      dsimp only at hret ⊢
      split at hret
      · next hok =>
          rw [if_pos hok]
          exact downloadAll_keeps hret ((downloadMp3File_spec hok).hasFile.2 (Or.inl rfl)) htemp
      · cases hret
  | cons n l ih =>
      rw [List.cons_append] at hret ⊢
      unfold downloadAll at hret ⊢
      dsimp only at hret ⊢
      split at hret
      · next hok =>
          rw [if_pos hok]
          exact ih hret
      · cases hret

end Downloader

end Cubbies
