import Cubbies.Proofs.AudioFile
import Cubbies.Proofs.DirectionSave

set_option autoImplicit false

/-! # A response with an error status

`downloadToken` looks at the status of its response; `download_file` and `download_mp3_file` take every
response that completes for the file. Its body is saved as the direction file, or behind the header as
the audio file, whatever the status; what still protects the old file is only that the new one cannot be
opened or renamed (`errorStatus_iff`). -/

namespace Cubbies

open CString

namespace Downloader

/-- A response that completes, with a status that is no success. -/
structure ErrorResponse (x : Exchange) : Prop where
  ok : x.ok = true
  status : x.status < 200 ∨ 299 < x.status

/-! ## Direction files -/

/-- The files are as they were. -/
def KeepsFiles (d d' : Downloader) : Prop := ∀ q, d'.card.content? q = d.card.content? q

/-- The file is left alone only if it is not opened, or held the same text before. -/
theorem downloadFile_keeps_iff (d : Downloader) (dirFileName : Bytes) {x : Exchange}
    (hok : x.ok = true) :
    KeepsFiles d (d.downloadFile dirFileName x) ↔
      ∀ direction, directionPart? dirFileName = some direction →
        d.card.fopenWrite (savePath d.toy direction) = none ∨
          d.card.content? (savePath d.toy direction) = some (text (collected x)) := by
  cases hname : directionPart? dirFileName with
  | none =>
      refine iff_of_true (fun q => ?_) (fun direction h => by cases h)
      rw [(untouched_downloadFile_of_none hname x).card]
  | some direction =>
      constructor
      · rintro hkeeps _ ⟨⟩
        by_cases hopen : d.card.fopenWrite (savePath d.toy direction) = none
        · exact .inl hopen
        · have hsaved := (saved_downloadFile hname hok hopen).content (savePath d.toy direction)
          rw [hkeeps, if_pos rfl] at hsaved
          exact .inr hsaved
      · intro h q
        by_cases hopen : d.card.fopenWrite (savePath d.toy direction) = none
        · rw [(untouched_downloadFile hname hok hopen).card]
        · have hsame := (h direction rfl).resolve_left hopen
          rw [(saved_downloadFile hname hok hopen).content q]
          split
          · next hq => rw [hq, hsame]
          · rfl

/-! ## Audio files -/

/-- `/sdcard/media/audio/<name>.mp3`, not cut. -/
def audioFilePath (name : Bytes) : Bytes := audioPath ++ name ++ str ".mp3"

/-- The temporary file is another one: behind the name stands a `t`, a dot, or nothing. -/
theorem audioFilePath_ne_temp (name : Bytes) : audioFilePath name ≠ tempFilePath name := by
  intro h
  have hbehind := congrArg (fun path : Bytes => path[(audioPath ++ name).length]?) h
  dsimp only [audioFilePath, tempFilePath, snprintf] at hbehind
  rw [List.getElem?_append_right (Nat.le_refl _), Nat.sub_self, List.getElem?_take] at hbehind
  split at hbehind
  · rw [List.getElem?_append_right (Nat.le_refl _), Nat.sub_self] at hbehind
    revert hbehind
    decide
  · revert hbehind
    decide

/-- A call that returns false has written to the temporary file only. -/
theorem downloadMp3File_failed {d : Downloader} {name : Bytes} {s : AudioScript}
    (hret : (d.downloadMp3File name s).1 = false) {q : Bytes} (hq : q ≠ tempFilePath name) :
    (d.downloadMp3File name s).2.card.content? q = d.card.content? q := by
  unfold downloadMp3File at hret ⊢
  split at hret
  · rfl
  · next d' hopen =>
      have hrecv := (openTemp_receiving hopen).retryLoop maxRetryCount s.attempts
      dsimp only at hret ⊢
      split at hret
      · next hok =>
          split at hret
          · cases hret
          · next hren =>
              rw [if_pos hok, if_neg hren]
              exact hrecv.content q hq
      · next hok =>
          rw [if_neg hok]
          exact hrecv.content q hq

/-- What makes a call of `download_mp3_file` return true. -/
def Succeeds (d : Downloader) (name : Bytes) (s : AudioScript) : Prop :=
  d.card.fopenWrite (tempFilePath name) ≠ none ∧ s.renames = true ∧
    firstSuccess maxRetryCount s.attempts ≠ none

theorem downloadMp3File_true_iff (d : Downloader) (name : Bytes) (s : AudioScript) :
    (d.downloadMp3File name s).1 = true ↔ d.Succeeds name s := by
  rw [downloadMp3File_ret, Option.isSome_iff_ne_none, Option.isSome_iff_ne_none]
  exact Iff.rfl

/-- The file is left alone and the call returns false only if the temporary file cannot be opened or
renamed. -/
theorem downloadMp3File_keeps_iff (d : Downloader) (name : Bytes) {s : AudioScript} {x : Exchange}
    (hx : firstSuccess maxRetryCount s.attempts = some x) :
    (d.downloadMp3File name s).2.card.content? (audioFilePath name) =
          d.card.content? (audioFilePath name) ∧ (d.downloadMp3File name s).1 = false ↔
      d.card.fopenWrite (tempFilePath name) = none ∨ s.renames = false := by
  have hanswered : firstSuccess maxRetryCount s.attempts ≠ none := by
    rw [hx]
    exact Option.some_ne_none x
  have hfalse : (d.downloadMp3File name s).1 = false ↔
      d.card.fopenWrite (tempFilePath name) = none ∨ s.renames = false := by
    rw [← Bool.not_eq_true, downloadMp3File_true_iff]
    unfold Succeeds
    rw [not_and_or, not_and_or, not_not, Bool.not_eq_true]
    exact or_congr_right ⟨fun h => h.resolve_right (not_not_intro hanswered), .inl⟩
  rw [← hfalse]
  exact ⟨And.right, fun hret => ⟨downloadMp3File_failed hret (audioFilePath_ne_temp name), hret⟩⟩

/-! ## The caller -/

/-- Whether a call succeeds depends on the folders and on what it meets. -/
theorem succeeds_congr {d d' : Downloader} (h : d'.card.dirs = d.card.dirs) (name : Bytes)
    (s : AudioScript) : d'.Succeeds name s ↔ d.Succeeds name s :=
  and_congr_left' (not_congr (fopenWrite_congr h _))

theorem downloadAll_true_iff (d : Downloader) (s : ℕ → AudioScript) (names : List Bytes) :
    (d.downloadAll s names).1 = true ↔
      ∀ i name, names[i]? = some name → d.Succeeds name (s i) := by
  induction names generalizing d s with
  | nil => exact iff_of_true rfl fun i name h => by cases h
  | cons name names ih =>
      have hfirst := downloadMp3File_true_iff d name (s 0)
      unfold downloadAll
      dsimp only
      split
      · next hok =>
          have hdirs := (downloadMp3File_kept d name (s 0)).2
          rw [ih]
          constructor
          · intro h i n hn
            cases i with
            | zero =>
                obtain rfl := Option.some.inj hn
                exact hfirst.1 hok
            | succ i => exact (succeeds_congr hdirs _ _).1 (h i n hn)
          · intro h i n hn
            exact (succeeds_congr hdirs _ _).2 (h (i + 1) n hn)
      · next hfail =>
          refine iff_of_false Bool.false_ne_true fun h => hfail (hfirst.2 (h 0 name rfl))

/-- The names `process_audio_files` downloads. -/
def filesToDownload (d : Downloader) : List Bytes :=
  match listFiles d.card audioPath with
  | none => []
  | some sdFiles => d.nServer.filter fun name => ¬ isDuplicate sdFiles name

theorem processAudioFiles_ret {d : Downloader} (hfiles : d.filesToDownload ≠ []) (s : ℕ → AudioScript)
    (seconds : ℕ) : (d.processAudioFiles s seconds).1 = (d.downloadAll s d.filesToDownload).1 := by
  unfold filesToDownload processAudioFiles at *
  cases hlist : listFiles d.card audioPath with
  | none =>
      rw [hlist] at hfiles
      exact absurd rfl hfiles
  | some sdFiles => rfl

/-- The caller reports a failure only if one of the calls fails. -/
theorem processAudioFiles_false_iff {d : Downloader} (hfiles : d.filesToDownload ≠ [])
    (s : ℕ → AudioScript) (seconds : ℕ) :
    (d.processAudioFiles s seconds).1 = false ↔
      ∃ i name, d.filesToDownload[i]? = some name ∧
        (d.card.fopenWrite (tempFilePath name) = none ∨ (s i).renames = false ∨
          firstSuccess maxRetryCount (s i).attempts = none) := by
  rw [processAudioFiles_ret hfiles, ← Bool.not_eq_true, downloadAll_true_iff, not_forall]
  refine exists_congr fun i => ?_
  rw [not_forall]
  refine exists_congr fun name => ?_
  unfold Succeeds
  rw [Classical.not_imp, not_and_or, not_and_or, not_not, not_not, Bool.not_eq_true]

/-- **What an error response leaves alone.** The direction files stay as they are exactly if the name
has no direction, or its file cannot be opened or holds the text received already; the audio file stays
and the call returns false exactly if the temporary file cannot be opened or renamed; and
`process_audio_files` returns false exactly if one of its calls fails for a reason of its own: its
temporary file cannot be opened or renamed, or none of its attempts completes. -/
theorem errorStatus_iff (d : Downloader) :
    (∀ dirFileName x, ErrorResponse x →
      (KeepsFiles d (d.downloadFile dirFileName x) ↔
        ∀ direction, directionPart? dirFileName = some direction →
          d.card.fopenWrite (savePath d.toy direction) = none ∨
            d.card.content? (savePath d.toy direction) = some (text (collected x)))) ∧
    (∀ name (s : AudioScript) x,
      firstSuccess maxRetryCount s.attempts = some x → ErrorResponse x →
      ((d.downloadMp3File name s).2.card.content? (audioFilePath name) =
          d.card.content? (audioFilePath name) ∧ (d.downloadMp3File name s).1 = false ↔
        d.card.fopenWrite (tempFilePath name) = none ∨ s.renames = false)) ∧
    ∀ (s : ℕ → AudioScript) seconds i name x,
      d.filesToDownload[i]? = some name → firstSuccess maxRetryCount (s i).attempts = some x →
      ErrorResponse x →
      ((d.processAudioFiles s seconds).1 = false ↔
        ∃ j other, d.filesToDownload[j]? = some other ∧
          (d.card.fopenWrite (tempFilePath other) = none ∨ (s j).renames = false ∨
            firstSuccess maxRetryCount (s j).attempts = none)) := by
  refine ⟨?_, ?_, ?_⟩
  · intro dirFileName x hx
    exact d.downloadFile_keeps_iff dirFileName hx.ok
  · intro name s x hfirst _
    exact d.downloadMp3File_keeps_iff name hfirst
  · intro s seconds i name x hname _ _
    refine processAudioFiles_false_iff ?_ s seconds
    intro hnil
    rw [hnil] at hname
    cases hname

/-! ## Not found -/

/-- The server answers with an error page. -/
def notFound : Exchange := { answered [.onData (str "not found")] with status := 404 }

theorem errorResponse_notFound : ErrorResponse notFound := ⟨rfl, .inr (by decide)⟩

/-- A name without a direction, an audio file that cannot be renamed. -/
theorem errorStatus_kept :
    KeepsFiles toyDownloader (toyDownloader.downloadFile (str "list.json") notFound) ∧
      ((boot audioCard sampleWifi).downloadMp3File (str "a") ⟨fun _ => notFound, false⟩).1 = false ∧
      (({ boot audioCard sampleWifi with nServer := [str "a"] } : Downloader).processAudioFiles
        (fun _ => ⟨fun _ => notFound, false⟩) 0).1 = false :=
  ⟨((errorStatus_iff _).1 _ _ errorResponse_notFound).2 (fun direction h => by
      rw [show directionPart? (str "list.json") = none by decide] at h
      cases h),
    (((errorStatus_iff _).2.1 _ ⟨fun _ => notFound, false⟩ notFound rfl errorResponse_notFound).2
      (.inr rfl)).2,
    ((errorStatus_iff _).2.2 (fun _ => ⟨fun _ => notFound, false⟩) 0 0 (str "a") notFound (by decide) rfl
      errorResponse_notFound).2 ⟨0, str "a", by decide, .inr (.inl rfl)⟩⟩

/-- The error page replaces the direction file; it is taken for an audio file, and for success. -/
theorem errorStatus_taken :
    (¬ ∀ (d : Downloader) dirFileName x, ErrorResponse x →
      KeepsFiles d (d.downloadFile dirFileName x)) ∧
    (¬ ∀ (d : Downloader) name (s : AudioScript) x,
      firstSuccess maxRetryCount s.attempts = some x → ErrorResponse x →
        (d.downloadMp3File name s).2.card.content? (audioFilePath name) =
          d.card.content? (audioFilePath name) ∧ (d.downloadMp3File name s).1 = false) ∧
    ¬ ∀ (d : Downloader) (s : ℕ → AudioScript) seconds i name x,
      d.filesToDownload[i]? = some name → firstSuccess maxRetryCount (s i).attempts = some x →
        ErrorResponse x → (d.processAudioFiles s seconds).1 = false := by
  refine ⟨?_, ?_, ?_⟩
  · intro h
    have hkeeps := h toyDownloader (str "list_north.json") notFound errorResponse_notFound
    rw [downloadFile_keeps_iff _ _ errorResponse_notFound.ok] at hkeeps
    have hnorth := hkeeps (str "north") (by decide)
    revert hnorth
    decide +kernel
  · intro h
    have hfalse := (h (boot audioCard sampleWifi) (str "a") ⟨fun _ => notFound, true⟩ notFound rfl
      errorResponse_notFound).2
    rw [← Bool.not_eq_true, downloadMp3File_true_iff] at hfalse
    exact hfalse ⟨by decide +kernel, rfl, Option.some_ne_none _⟩
  · intro h
    have hfalse := h { boot audioCard sampleWifi with nServer := [str "a"] }
      (fun _ => ⟨fun _ => notFound, true⟩) 0 0 (str "a") notFound (by decide) rfl
      errorResponse_notFound
    revert hfalse
    decide +kernel

end Downloader

end Cubbies
