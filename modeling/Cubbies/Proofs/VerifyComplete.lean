import Cubbies.Proofs.VerifyMarker
import Cubbies.System

set_option autoImplicit false

/-! # Which downloads leave a `verify.txt`

`begin` returns `true` when nothing it tried to download failed, but the marker is only written when
there was something to download. `begin_playable_iff` says when a toy can be played after a successful
call: the marker was there before, or a name the call works on had no file. A toy whose audio files are
all on the card already, or whose master JSON could not be had, is sent to the download again. -/

namespace Cubbies

open CString

namespace Downloader

/-! ## The tag during a call -/

theorem openTemp_tagUid {d d' : Downloader} {name : Bytes} (h : d.openTemp name = some d') :
    d'.tagUid = d.tagUid := by
  obtain ⟨e, he, rfl⟩ := Option.map_eq_some_iff.1 h
  have htag := openWrite_tagUid he
  exact htag

theorem downloadAll_tagUid {d : Downloader} {s : ℕ → AudioScript} {names : List Bytes}
    {Q : Bytes → Prop} (hd : Q d.tagUid)
    (hs : ∀ i k, ∀ uid ∈ ((s i).attempts k).frames, Q (uidText uid)) :
    Q (d.downloadAll s names).2.tagUid := by
  refine downloadAll_induction (P := fun d => Q d.tagUid) ?_ hd ?_ ?_
  · exact fun d card buffer file h => h
  · intro d d' name _ hopen h
    rw [openTemp_tagUid hopen]
    exact h
  · intro d i k uid huid _
    exact hs i k uid huid

/-- The tag stays on the box during a call: all frames read meanwhile report it. -/
structure BeginScript.KeepsTag (s : BeginScript) (uid : Uid) : Prop where
  token : ∀ u ∈ s.token.frames, u = uid
  master : ∀ u ∈ s.master.frames, u = uid
  direction : ∀ i, ∀ u ∈ (s.direction i).exchange.frames, u = uid
  audio : ∀ i k, ∀ u ∈ ((s.audio i).attempts k).frames, u = uid

/-! ## The audio stage -/

/-- With nothing to download the card is left as it is, and the stage succeeds. -/
theorem processAudioFiles_of_nil {d : Downloader} {s : ℕ → AudioScript} {seconds : ℕ}
    {sdFiles : List Bytes} (hlist : listFiles d.card audioPath = some sdFiles)
    (hnil : missingNames sdFiles d.nServer = []) :
    d.processAudioFiles s seconds = (true, { d with nServer := [] }) := by
  unfold missingNames at hnil
  unfold processAudioFiles
  rw [hlist]
  dsimp only
  rw [hnil]
  rfl

/-- A stage that succeeded after downloads wrote the marker, on a card with the folders of before. -/
theorem processAudioFiles_of_missing {d : Downloader} {s : ℕ → AudioScript} {seconds : ℕ}
    {sdFiles : List Bytes} (hlist : listFiles d.card audioPath = some sdFiles)
    (hne : missingNames sdFiles d.nServer ≠ [])
    (hret : (d.processAudioFiles s seconds).1 = true) :
    (d.processAudioFiles s seconds).2.card =
      ((d.downloadAll s (missingNames sdFiles d.nServer)).2.createVerifiedFile seconds).card := by
  unfold missingNames at hne ⊢
  unfold processAudioFiles at hret ⊢
  rw [hlist] at hret ⊢
  dsimp only at hret ⊢
  rw [if_pos ⟨hret, hne⟩]

theorem verifyPath_eq (toy : Bytes) : toysPath ++ toy ++ str "/verify.txt" = Box.verifyPath toy := rfl

/-- `create_verified_file` leaves the marker of the tag on the box, if it can be opened. -/
theorem createVerifiedFile_hasFile {d : Downloader} (seconds : ℕ)
    (hopen : (d.createVerifiedFile seconds).card.fopenWrite (Box.verifyPath d.tagUid) ≠ none) :
    (d.createVerifiedFile seconds).card.hasFile (Box.verifyPath d.tagUid) := by
  unfold createVerifiedFile at hopen ⊢
  dsimp only at hopen ⊢
  rw [verifyPath_eq] at hopen ⊢
  split
  · next h =>
      rw [h] at hopen
      unfold openWrite at h
      exact absurd (Option.map_eq_none_iff.1 h) hopen
  · next d' h =>
      obtain ⟨c, hc, rfl⟩ := Option.map_eq_some_iff.1 h
      rw [Card.hasFile_fwrite, Card.hasFile, Card.content?_fopenWrite hc, if_pos rfl]
      rfl

/-! ## A whole call -/

theorem length_uidText (uid : Uid) : (uidText uid).length = 16 := by
  unfold uidText
  rw [List.length_flatMap]
  simp [hexByte, uid.property]

/-- No stage before the audio files writes the marker: it does not end in an `s`. -/
theorem not_toyFile_verifyPath (uid : Uid) : ¬ ToyFile (Box.verifyPath (uidText uid)) := by
  rintro ⟨-, hlast | hlong⟩
  · unfold Box.verifyPath at hlast
    rw [List.getLast?_append_of_ne_nil _ (by decide)] at hlast
    exact absurd hlast (by decide)
  · have hpath : (str "/sdcard/media/toys/").length = 19 := by decide
    have hname : (str "/verify.txt").length = 11 := by decide
    simp only [Box.verifyPath, List.length_append, length_uidText, hpath, hname] at hlong
    omega

/-- The marker of the toy is on the card, and a box that detects the toy with this card does not send
it to the download. -/
def Playable (c : Card) (toy : Bytes) : Prop :=
  c.hasFile (Box.verifyPath toy) ∧
    ∀ b : Box, b.dl.card = c → b.toy = toy → b.checkDownloadStatus toy = 1 ∧
      ∀ now, (b.handleToyDetected now).state ≠ .downloadWifiConn

/-- The path of the marker lies in the toy's folder. -/
theorem parentDir_verifyPath (toy : Bytes) :
    parentDir (Box.verifyPath toy) = str "/sdcard/media/toys/" ++ toy := by
  have hname : str "/verify.txt" = 47 :: str "verify.txt" := by decide
  unfold parentDir Box.verifyPath
  rw [hname]
  exact beforeLast_append_cons 47 _ _ (by decide)

theorem playable_iff (c : Card) (toy : Bytes) :
    Playable c toy ↔ c.hasFile (Box.verifyPath toy) := by
  refine ⟨fun h => h.1, fun hfile => ⟨hfile, ?_⟩⟩
  rintro b rfl rfl
  have hstatus : b.checkDownloadStatus b.toy = 1 := if_pos hfile
  have hfolder : sdCardExist b.dl.card b.toy = true := by
    have hdir := Card.parentDir_mem_of_hasFile hfile
    rw [parentDir_verifyPath] at hdir
    exact decide_eq_true (.inl hdir)
  have hdownloaded : b.downloaded = true := by
    unfold Box.downloaded
    rw [hfolder, hstatus]
    rfl
  refine ⟨hstatus, fun now => ?_⟩
  unfold Box.handleToyDetected
  dsimp only
  rw [if_pos hdownloaded]
  split_ifs <;> simp [Box.setState]

section

variable [CJson]

/-- The tag before the audio files are processed. -/
theorem beforeAudio_tagUid {d : Downloader} {uid : Uid} {s : BeginScript} (toy : Bytes)
    (htag : d.tagUid = uidText uid) (hkeeps : s.KeepsTag uid) :
    (d.beforeAudio toy s).tagUid = uidText uid := by
  have hsame {x : List Uid} (h : ∀ u ∈ x, u = uid) : ∀ u ∈ x, uidText u = uidText uid :=
    fun u hu => congrArg uidText (h u hu)
  refine processDirectionFiles_tagUid (Q := fun tag => tag = uidText uid) ?_
    fun i => hsame (hkeeps.direction i)
  refine downloadMasterJson_tagUid (Q := fun tag => tag = uidText uid) ?_ (hsame hkeeps.master)
  exact requestToken_tagUid (Q := fun tag => tag = uidText uid) htag (hsame hkeeps.token)

/-- A successful call connected, and could list the audio folder. -/
theorem begin_listing {d : Downloader} {toy : Bytes} {s : BeginScript}
    (hret : (d.begin toy s).1 = true) :
    (d.wifi.connect s.connect).1 = 0 ∧ ∃ sdFiles, listFiles d.card audioPath = some sdFiles := by
  by_cases hconn : (d.wifi.connect s.connect).1 = 0
  · refine ⟨hconn, ?_⟩
    rw [processFiles_eq d toy s hconn] at hret
    cases hlist : listFiles d.card audioPath with
    | some sdFiles => exact ⟨sdFiles, rfl⟩
    | none =>
        have hlist' : listFiles (d.beforeAudio toy s).card audioPath = none :=
          (beforeAudio_spec d toy s).1.listing.trans hlist
        unfold processAudioFiles at hret
        rw [hlist'] at hret
        cases hret
  · rw [begin_eq, if_neg hconn] at hret
    cases hret

/-- **When a download leaves a playable toy.** After a call of `begin` that returned `true`, with the
tag left on the box and a card that takes the marker, the toy can be played exactly if its marker was
there before or a name the call worked on had no file. -/
theorem begin_playable_iff {d : Downloader} {uid : Uid} {s : BeginScript}
    (htag : d.tagUid = uidText uid) (hkeeps : s.KeepsTag uid)
    (hret : (d.begin (uidText uid) s).1 = true)
    (hwrites : (d.begin (uidText uid) s).2.card.fopenWrite (Box.verifyPath (uidText uid)) ≠ none) :
    Playable (d.begin (uidText uid) s).2.card (uidText uid) ↔
      d.card.hasFile (Box.verifyPath (uidText uid)) ∨
        ∃ sdFiles, listFiles d.card audioPath = some sdFiles ∧
          missingNames sdFiles (d.workList (uidText uid) s) ≠ [] := by
  rw [playable_iff]
  obtain ⟨hconn, sdFiles, hlist⟩ := begin_listing hret
  obtain ⟨hcard, -⟩ := beforeAudio_spec d (uidText uid) s
  have hnames := beforeAudio_nServer d (uidText uid) s
  have hbefore := beforeAudio_tagUid (uidText uid) htag hkeeps
  rw [processFiles_eq d (uidText uid) s hconn] at hret hwrites ⊢
  generalize d.beforeAudio (uidText uid) s = d' at *
  dsimp only at hret hwrites ⊢
  have hlist' : listFiles d'.card audioPath = some sdFiles := hcard.listing.trans hlist
  by_cases hnil : missingNames sdFiles d'.nServer = []
  · -- nothing to download: what was written before is not the marker
    have hsame : (d'.processAudioFiles s.audio s.seconds).2.card.hasFile
        (Box.verifyPath (uidText uid)) ↔ d.card.hasFile (Box.verifyPath (uidText uid)) := by
      rw [processAudioFiles_of_nil hlist' hnil]
      unfold Card.hasFile
      rw [← hcard.content _ (not_toyFile_verifyPath uid)]
    rw [hsame]
    refine ⟨Or.inl, ?_⟩
    rintro (hfile | ⟨sdFiles', hlist'', hne⟩)
    · exact hfile
    · obtain rfl : sdFiles = sdFiles' := Option.some.inj (hlist.symm.trans hlist'')
      exact absurd (hnames ▸ hnil) hne
  · -- the marker is written, and to this toy's folder
    refine iff_of_true ?_ (.inr ⟨sdFiles, hlist, hnames ▸ hnil⟩)
    have hafter : (d'.downloadAll s.audio (missingNames sdFiles d'.nServer)).2.tagUid =
        uidText uid :=
      downloadAll_tagUid (Q := fun tag => tag = uidText uid) hbefore fun i k u hu =>
        congrArg uidText (hkeeps.audio i k u hu)
    rw [processAudioFiles_of_missing hlist' hnil hret] at hwrites ⊢
    rw [← hafter] at hwrites ⊢
    exact createVerifiedFile_hasFile s.seconds hwrites

/-- A call after which the toy cannot be played, though it returned `true`, its tag stayed on the box
and the card takes the marker. -/
def LeavesUnplayable (d : Downloader) (uid : Uid) (s : BeginScript) : Prop :=
  d.tagUid = uidText uid ∧ s.KeepsTag uid ∧ (d.begin (uidText uid) s).1 = true ∧
    (d.begin (uidText uid) s).2.card.fopenWrite (Box.verifyPath (uidText uid)) ≠ none ∧
      ¬ Playable (d.begin (uidText uid) s).2.card (uidText uid)

/-- How the call ended. -/
theorem LeavesUnplayable.of_ended {d : Downloader} {uid : Uid} {s : BeginScript}
    (htag : d.tagUid = uidText uid) (hkeeps : s.KeepsTag uid)
    (hended : (d.begin (uidText uid) s).1 = true ∧
      (d.begin (uidText uid) s).2.card.fopenWrite (Box.verifyPath (uidText uid)) ≠ none ∧
        ¬ (d.begin (uidText uid) s).2.card.hasFile (Box.verifyPath (uidText uid))) :
    LeavesUnplayable d uid s := by
  obtain ⟨hret, hwrites, hmarker⟩ := hended
  exact ⟨htag, hkeeps, hret, hwrites, fun hplayable => hmarker hplayable.1⟩

end

/-! ## A download and two calls without one -/

theorem keepsTag_sampleScript (uid : Uid) : (sampleScript []).KeepsTag uid where
  token _ hu := absurd hu List.not_mem_nil
  master _ hu := absurd hu List.not_mem_nil
  direction _ _ hu := absurd hu List.not_mem_nil
  audio _ _ _ hu := absurd hu List.not_mem_nil

/-- The first toy's only audio file is downloaded, and the toy can be played. -/
theorem begin_playable_first :
    Playable (@begin sampleParser ((boot sampleCard sampleWifi).frame uidX) (uidText uidX)
      (sampleScript [])).2.card (uidText uidX) := by
  let := sampleParser
  obtain ⟨hret, hwrites⟩ :
      (((boot sampleCard sampleWifi).frame uidX).begin (uidText uidX) (sampleScript [])).1 = true ∧
        (((boot sampleCard sampleWifi).frame uidX).begin (uidText uidX)
          (sampleScript [])).2.card.fopenWrite (Box.verifyPath (uidText uidX)) ≠ none := by
    decide +kernel
  exact (@begin_playable_iff sampleParser _ uidX (sampleScript []) rfl (keepsTag_sampleScript uidX)
    hret hwrites).2 (.inr ⟨[], by decide, by decide +kernel⟩)

/-- After the download for the first toy, the second one is placed. -/
def secondPlaced : Downloader := (markerRun []).frame uidY

/-- A call whose master JSON has no fields. -/
def emptyScript : BeginScript := { sampleScript [] with master := answered [.onData emptyText] }

/-- The second toy's only audio file is the first one's, so it is on the card already; and a master JSON
without audio files. -/
theorem begin_not_playable :
    @Reached sampleParser (fun _ _ => True) sampleCard sampleWifi secondPlaced ∧
      @LeavesUnplayable sampleParser secondPlaced uidY (sampleScript []) ∧
      @LeavesUnplayable sampleParser secondPlaced uidY emptyScript := by
  have hkeeps : emptyScript.KeepsTag uidY :=
    ⟨fun _ hu => absurd hu List.not_mem_nil, fun _ hu => absurd hu List.not_mem_nil,
      fun _ _ hu => absurd hu List.not_mem_nil, fun _ _ _ hu => absurd hu List.not_mem_nil⟩
  have hframe : secondPlaced = @step sampleParser (markerRun []) (.frame uidY) := rfl
  refine ⟨(reached_markerRun []).step trivial hframe, ?_, ?_⟩
  · exact @LeavesUnplayable.of_ended sampleParser _ _ _ rfl (keepsTag_sampleScript uidY)
      (by decide +kernel)
  · exact @LeavesUnplayable.of_ended sampleParser _ _ _ rfl hkeeps (by decide +kernel)

end Downloader

end Cubbies
