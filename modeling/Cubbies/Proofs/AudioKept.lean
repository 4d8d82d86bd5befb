import Cubbies.Proofs.AudioListing
import Cubbies.Proofs.CardOwnership
import Cubbies.Proofs.MasterJsonLeak

set_option autoImplicit false

/-! # An audio is downloaded once

Toys share audio files. A download looks at the audio folder first and asks only for what is not there,
so an audio that is on the card should never be asked for again, and its file never be touched.
`audio_kept` says so for whole runs, for a name without a dot that is not what temporary files end in
(`PlainName`), as long as the folder fits the listing. -/

namespace Cubbies

open CString Runs

namespace Downloader

/-! ## Names -/

/-- A name whose audio file is found by it, and is no other name's file or temporary file. -/
structure PlainName (name : Bytes) : Prop where
  noDot : 46 ∉ name
  noSlash : 47 ∉ name
  short : name.length < 231
  noTemp : ¬ str "temp" <:+ name

theorem length_audioFilePath (name : Bytes) : (audioFilePath name).length = name.length + 24 := by
  have hfolder : audioPath.length = 20 := by decide
  have hsuffix : (str ".mp3").length = 4 := by decide
  unfold audioFilePath
  rw [List.length_append, List.length_append, hfolder, hsuffix]
  omega

/-- A path of the audio folder that was cut is longer than the file's, one that was not is another. -/
theorem PlainName.ne_of_cut {name : Bytes} (h : PlainName name) (rest : Bytes)
    (hne : rest ≠ name ++ str ".mp3") : audioFilePath name ≠ snprintf 256 (audioPath ++ rest) := by
  intro heq
  have hshort := h.short
  by_cases hfits : (audioPath ++ rest).length < 256
  · rw [snprintf_eq_self hfits] at heq
    unfold audioFilePath at heq
    rw [List.append_assoc] at heq
    exact hne (List.append_cancel_left heq).symm
  · have hlen := congrArg List.length heq
    unfold snprintf at hlen
    rw [length_audioFilePath, List.length_take] at hlen
    omega

theorem PlainName.ne_final {name other : Bytes} (h : PlainName name) (hne : other ≠ name) :
    audioFilePath name ≠ finalFilePath other := by
  have hcut := h.ne_of_cut (other ++ str ".mp3") fun heq => hne (List.append_cancel_right heq)
  unfold finalFilePath
  rwa [List.append_assoc]

theorem PlainName.ne_temp {name : Bytes} (h : PlainName name) (other : Bytes) :
    audioFilePath name ≠ tempFilePath other := by
  have hsplit : str "temp.mp3" = str "temp" ++ str ".mp3" := by decide
  have hcut := h.ne_of_cut (other ++ str "temp.mp3") fun heq => by
    rw [hsplit, ← List.append_assoc] at heq
    exact h.noTemp ⟨other, List.append_cancel_right heq⟩
  unfold tempFilePath
  rwa [List.append_assoc]

theorem PlainName.not_audioPath {name : Bytes} {names : List Bytes} (h : PlainName name)
    (hnames : name ∉ names) : ¬ AudioPath names (audioFilePath name) := by
  rintro ⟨other, hother, heq | heq⟩
  · exact h.ne_temp other heq
  · exact h.ne_final (fun hsame => hnames (hsame ▸ hother)) heq

/-! ## The listing -/

/-- The listing of the audio folder shows the file of the name. -/
def Listed (name : Bytes) (c : Card) : Prop :=
  ∃ sdFiles, listFiles c audioPath = some sdFiles ∧ name ++ str ".mp3" ∈ sdFiles

theorem PlainName.listed {name : Bytes} {c : Card} (h : PlainName name)
    (hfile : c.hasFile (audioFilePath name)) (hall : (audioFiles c).length ≤ maxFiles) :
    Listed name c := by
  have hslash : (47 : UInt8) ∉ name ++ str ".mp3" := by
    intro hmem
    rcases List.mem_append.1 hmem with hmem | hmem
    · exact h.noSlash hmem
    · exact absurd hmem (by decide)
  have hsplit : audioFilePath name = str "/sdcard/media/audio" ++ 47 :: (name ++ str ".mp3") := by
    rw [audioFilePath, show audioPath = str "/sdcard/media/audio" ++ [47] by decide]
    simp
  have hparent : parentDir (audioFilePath name) = parentDir audioPath := by
    unfold parentDir
    rw [hsplit, beforeLast_append_cons 47 _ _ hslash]
    decide
  have hbase : baseName (audioFilePath name) = name ++ str ".mp3" := by
    unfold baseName
    rw [hsplit, afterLast?_append_cons 47 _ _ hslash]
    rfl
  have hdir := Card.parentDir_mem_of_hasFile hfile
  rw [hparent] at hdir
  refine ⟨_, listFiles_eq hdir, ?_⟩
  rw [List.take_of_length_le hall]
  obtain ⟨f, hf, hpath⟩ := List.mem_map.1 ((Card.hasFile_iff _ _).1 hfile)
  refine List.mem_map.2 ⟨f, List.mem_filter.2 ⟨hf, ?_⟩, ?_⟩
  · rw [hpath, hparent]
    exact decide_eq_true rfl
  · rw [hpath, hbase]

/-- What is listed is not downloaded. -/
theorem PlainName.not_asked {name : Bytes} {d : Downloader} (h : PlainName name)
    (hlisted : Listed name d.card) : name ∉ d.filesToDownload := by
  obtain ⟨sdFiles, hlist, hmem⟩ := hlisted
  have hdup : isDuplicate sdFiles name = true := by
    refine (isDuplicate_iff sdFiles name).2 ⟨_, hmem, ?_⟩
    rw [beforeLast_mp3]
    exact ((beforeLast_eq_self_iff 46 name).2 h.noDot).symm
  unfold filesToDownload
  rw [hlist]
  intro hin
  simpa [hdup] using (List.mem_filter.1 hin).2

/-! ## Requests -/

/-- How often the audio has been asked for. -/
def timesAsked (name : Bytes) (d : Downloader) : ℕ :=
  d.requests.countP fun r =>
    match r with
    | .audioFile n _ => n = name
    | .directionFile _ _ => false

theorem timesAsked_of_eq {name : Bytes} {d d' : Downloader} (h : d'.requests = d.requests) :
    d'.timesAsked name = d.timesAsked name := by
  unfold timesAsked
  rw [h]

/-- What has been asked for, and what was received of a file and not yet written. -/
def transfer (d : Downloader) : List Request × Bytes := (d.requests, d.downloadBuffer)

theorem requests_of_transfer {d d' : Downloader} (h : d'.transfer = d.transfer) :
    d'.requests = d.requests := congrArg Prod.fst h

theorem writeFile_transfer (d : Downloader) (path content : Bytes) :
    (d.writeFile path content).transfer = d.transfer := by
  unfold writeFile openWrite
  cases d.card.fopenWrite path <;> rfl

theorem perform_transfer (cb : Callback Downloader) (d : Downloader) (x : Exchange)
    (hheader : ∀ d key value, (cb.onHeader d key value).transfer = d.transfer)
    (hdata : ∀ d data, (cb.onData d data).transfer = d.transfer)
    (hfinish : ∀ d, (cb.onFinish d).transfer = d.transfer)
    (hdisconnected : ∀ d, (cb.onDisconnected d).transfer = d.transfer) :
    (cb.perform frame d x).2.transfer = d.transfer :=
  Callback.perform_induction (P := fun d' : Downloader => d'.transfer = d.transfer) rfl
    (fun _ _ _ h => (hheader _ _ _).trans h) (fun _ _ h => (hdata _ _).trans h)
    (fun _ h => (hfinish _).trans h) (fun _ h => (hdisconnected _).trans h) fun _ _ _ h => h

theorem downloadToken_transfer (d : Downloader) (connect : WaitScript) (x : Exchange) (tail : Bytes) :
    (d.downloadToken connect x tail).transfer = d.transfer := by
  have hperform := fun d : Downloader => perform_transfer tokenCallback d x
    (fun d key value => by dsimp only [tokenCallback]; split_ifs <;> rfl) (fun _ _ => rfl)
    (fun _ => rfl) fun _ => rfl
  have hwrite : ∀ (d : Downloader) code, (d.writeTokenError code tail).transfer = d.transfer := by
    intro d code
    unfold writeTokenError
    split
    · exact writeFile_transfer d _ _
    · rfl
  unfold downloadToken
  split
  · rfl
  · dsimp only
    split
    · exact (hwrite _ _).trans (hperform _)
    · rfl

theorem masterData_transfer (d : Downloader) (data : Bytes) :
    (d.masterData data).transfer = d.transfer := by
  unfold masterData
  split
  · rfl
  · dsimp only
    split
    · rfl
    · split
      · split
        · rfl
        · next d' h =>
            obtain ⟨c, -, rfl⟩ := Option.map_eq_some_iff.1 h
            rfl
      · rfl

theorem storeLists_transfer (d : Downloader) (j : Json) : (d.storeLists j).transfer = d.transfer := by
  unfold storeLists
  cases j.stringField? (str "baseUrl") <;> cases j.arrayField? (str "directionFiles") <;>
    cases j.arrayField? (str "media") <;> cases hmedia : d.mediaJson <;> simp [hmedia, transfer]

theorem storeFiles_transfer (d : Downloader) (j : Json) : (d.storeFiles j).transfer = d.transfer := by
  have hfield : ∀ (d : Downloader) path content, (d.storeField path content).transfer = d.transfer := by
    intro d path content
    cases content with
    | none => rfl
    | some content => exact writeFile_transfer d path content
  unfold storeFiles
  dsimp only
  rw [hfield, hfield, hfield, hfield]

theorem processDirectionFiles_timesAsked (name : Bytes) (d : Downloader) (s : ℕ → DirectionScript)
    (slots : List (Option Bytes)) :
    (d.processDirectionFiles s slots).timesAsked name = d.timesAsked name := by
  induction slots generalizing d s with
  | nil => rfl
  | cons slot slots ih =>
      unfold processDirectionFiles
      dsimp only
      rw [ih]
      split
      · unfold timesAsked
        rw [downloadFile_requests]
        exact List.countP_cons_of_neg Bool.false_ne_true
      · rfl

/-- A name that is not in the list is not asked for. -/
theorem downloadAll_timesAsked {name : Bytes} {names : List Bytes} (hnames : name ∉ names)
    (d : Downloader) (s : ℕ → AudioScript) :
    (d.downloadAll s names).2.timesAsked name = d.timesAsked name := by
  refine downloadAll_induction (P := fun d' => d'.timesAsked name = d.timesAsked name)
    (fun _ _ _ _ h => h) rfl ?_ fun _ _ _ _ _ h => h
  intro d₁ d₂ other hother hopen h
  unfold timesAsked at h ⊢
  rw [openTemp_requests hopen, List.countP_cons_of_neg]
  · exact h
  · intro hsame
    exact hnames (of_decide_eq_true hsame ▸ hother)

/-! ## A whole download -/

/-- The file of the name is as it was, and was not asked for. -/
structure LeavesAudio (name : Bytes) (d d' : Downloader) : Prop where
  content : d'.card.content? (audioFilePath name) = d.card.content? (audioFilePath name)
  asked : d'.timesAsked name = d.timesAsked name

theorem LeavesAudio.refl (name : Bytes) (d : Downloader) : LeavesAudio name d d := ⟨rfl, rfl⟩

theorem LeavesAudio.trans {name : Bytes} {d₁ d₂ d₃ : Downloader} (h : LeavesAudio name d₁ d₂)
    (h' : LeavesAudio name d₂ d₃) : LeavesAudio name d₁ d₃ :=
  ⟨h'.content.trans h.content, h'.asked.trans h.asked⟩

theorem audioFilePath_not_toysPath (name : Bytes) : ¬ toysPath <+: audioFilePath name := by
  refine not_toysPath_of_audioPath ?_
  unfold audioFilePath
  rw [List.append_assoc]
  exact List.prefix_append _ _

theorem processAudioFiles_leavesAudio {name : Bytes} {d : Downloader} (h : PlainName name)
    (hlisted : Listed name d.card) (s : ℕ → AudioScript) (seconds : ℕ) :
    LeavesAudio name d (d.processAudioFiles s seconds).2 := by
  have hnames := h.not_asked hlisted
  refine ⟨(processAudioFiles_within d s seconds).content _ ?_, ?_⟩
  · rintro (htoys | haudio)
    · exact audioFilePath_not_toysPath name htoys
    · exact h.not_audioPath hnames haudio
  · unfold processAudioFiles
    unfold filesToDownload at hnames
    cases hlist : listFiles d.card audioPath with
    | none => rfl
    | some sdFiles =>
        rw [hlist] at hnames
        have hall := downloadAll_timesAsked hnames d s
        dsimp only
        split
        · exact (timesAsked_of_eq (createVerifiedFile_requests _ seconds)).trans hall
        · exact hall

section

variable [CJson]

theorem masterFinish_transfer (d : Downloader) : d.masterFinish.transfer = d.transfer := by
  unfold masterFinish
  dsimp only
  split
  · next response _ =>
      show (parseAndStoreMetadata { d with metadataFile := none } response).transfer = d.transfer
      unfold parseAndStoreMetadata
      split
      · rfl
      · rw [storeFiles_transfer, storeLists_transfer]
        rfl
  · rfl

theorem requestMasterJson_transfer (d : Downloader) (s : BeginScript) :
    (d.requestMasterJson s).transfer = d.transfer := by
  have hfolders : d.createFolders.transfer = d.transfer := by
    unfold createFolders
    split <;> rfl
  have hmaster := perform_transfer masterJsonCallback (d.requestToken s) s.master
    (fun _ _ _ => rfl) masterData_transfer masterFinish_transfer fun _ => rfl
  exact hmaster.trans ((downloadToken_transfer _ _ _ _).trans hfolders)

/-- **A download** of any toy leaves the audio alone, if the listing shows it. -/
theorem begin_leavesAudio {name : Bytes} {d : Downloader} (h : PlainName name)
    (hlisted : Listed name d.card) (toy : Bytes) (s : BeginScript) :
    LeavesAudio name d (d.begin toy s).2 := by
  by_cases hconn : (d.wifi.connect s.connect).1 = 0
  · have hcard := (beforeAudio_spec d toy s).1
    have hbefore : LeavesAudio name d (d.beforeAudio toy s) := by
      refine ⟨hcard.content _ fun htoy => audioFilePath_not_toysPath name htoy.1, ?_⟩
      unfold beforeAudio
      rw [processDirectionFiles_timesAsked]
      exact timesAsked_of_eq (requests_of_transfer (requestMasterJson_transfer (d.entered toy s) s))
    have hlisted' : Listed name (d.beforeAudio toy s).card := by
      unfold Listed
      rw [hcard.listing]
      exact hlisted
    rw [processFiles_eq d toy s hconn]
    have haudio := hbefore.trans (processAudioFiles_leavesAudio h hlisted' s.audio s.seconds)
    exact ⟨haudio.content, haudio.asked⟩
  · rw [begin_eq, if_neg hconn]
    exact ⟨rfl, rfl⟩

end

end Downloader

namespace Box

/-! ## Runs of the box -/

theorem Outside.requests {b b' : Box} (h : Outside b b') : b'.dl.requests = b.dl.requests := by
  obtain ⟨card, wifi, hdl⟩ := h
  rw [hdl]

/-- The steps at which a download lists the audio folder list all of it. -/
def ListsAll (b : Box) : BoxEvent → Prop
  | .handler _ => b.state = .downloadToy → (Downloader.audioFiles b.dl.card).length ≤ maxFiles
  | _ => True

instance (b : Box) : ∀ e : BoxEvent, Decidable (b.ListsAll e)
  | .handler _ => inferInstanceAs (Decidable (_ → _))
  | .read _ _ => inferInstanceAs (Decidable True)
  | .write _ _ _ _ => inferInstanceAs (Decidable True)
  | .ble _ _ _ _ => inferInstanceAs (Decidable True)
  | .pipeline _ => inferInstanceAs (Decidable True)
  | .station _ => inferInstanceAs (Decidable True)

section

variable [CJson]

/-- Only a download asks for files. -/
theorem step_requests {b b' : Box} {e : BoxEvent} (h : b.step e = some b')
    (hother : ∀ env, e = .handler env → b.state ≠ .downloadToy) :
    b'.dl.requests = b.dl.requests := by
  cases e with
  | handler env =>
      cases handler_step h with
      | playing hstate hstep => exact (playerClosed_lasting.handler hstep hstate).outside.requests
      | idle => exact (handleIdle_outside b env.now).requests
      | toyDetected => exact (handleToyDetected_outside b env.now).requests
      | initWifiCheck => exact (handleInitWifiCheck_outside b env).requests
      | initUserIdCheck =>
          obtain ⟨b₁, hfirst, hrest⟩ := verifyUserIdWithServer_dl b env.verify
          have hdl : (b.handleInitUserIdCheck env).dl = (b.verifyUserIdWithServer env.verify).2.dl := by
            unfold handleInitUserIdCheck
            dsimp only
            split <;> rfl
          rw [hdl, hrest.requests, hfirst]
          split
          · rfl
          · exact Downloader.requests_of_transfer (Downloader.downloadToken_transfer _ _ _ _)
      | downloadWifiConn => exact (handleDownloadWifiConn_outside b env).requests
      | downloadToy hstate => exact absurd hstate (hother env rfl)
  | read now data =>
      obtain rfl := Option.some.inj h
      rw [readFrame_dl]
      rfl
  | write now address len data =>
      obtain rfl := Option.some.inj h
      exact (writeFrame_outside b now address len data).requests
  | ble now uuid value s => exact (onWrite_outside h).requests
  | pipeline writer =>
      obtain rfl := Option.some.inj h
      rfl
  | station ev =>
      obtain rfl := Option.some.inj h
      exact (outside_setWifi b _).requests

/-- **One step.** -/
theorem step_leavesAudio {b b' : Box} {e : BoxEvent} {name : Bytes} (hname : Downloader.PlainName name)
    (hfile : b.dl.card.hasFile (Downloader.audioFilePath name)) (hok : b.ListsAll e)
    (h : b.step e = some b') : Downloader.LeavesAudio name b.dl b'.dl := by
  by_cases hdownload : ∃ env, e = .handler env ∧ b.state = .downloadToy
  · obtain ⟨env, rfl, hstate⟩ := hdownload
    have hstep : some (b.handleDownloadToy env) = some b' := by
      rw [← h]
      show _ = b.handler env
      simp only [handler, hstate]
    obtain rfl := Option.some.inj hstep
    rw [handleDownloadToy_dl]
    exact Downloader.begin_leavesAudio hname (hname.listed hfile (hok hstate)) b.toy env.download.atomic
  · have hother : ∀ env, e = .handler env → b.state ≠ .downloadToy :=
      fun env he hstate => hdownload ⟨env, he, hstate⟩
    refine ⟨(step_within h).content _ ?_, Downloader.timesAsked_of_eq (step_requests h hother)⟩
    have htoys := Downloader.audioFilePath_not_toysPath name
    have hdata : ∀ path, str "/sdcard/data/" <+: path → Downloader.audioFilePath name ≠ path := by
      rintro path hpath rfl
      have haudio : Downloader.audioPath <+: Downloader.audioFilePath name := by
        unfold Downloader.audioFilePath
        rw [List.append_assoc]
        exact List.prefix_append _ _
      rcases List.prefix_or_prefix_of_prefix hpath haudio with hp | hp <;> revert hp <;> decide
    cases e with
    | handler env =>
        rintro (⟨-, hpath | hpath | hpath⟩ | ⟨hstate, -⟩)
        · exact hdata _ (by decide) hpath
        · exact hdata _ (by decide) hpath
        · exact htoys (hpath ▸ Downloader.toysPath_errorPath [])
        · exact hother env rfl hstate
    | write now address len data => exact fun hpath => hdata _ (by decide) hpath.2.2
    | ble now uuid value s => exact fun hpath => hdata _ (by decide) hpath.2
    | read now data => exact fun hpath => hpath
    | pipeline writer => exact fun hpath => hpath
    | station ev => exact fun hpath => hpath

/-- **An audio is downloaded once.** In every run, from any box whose card has the audio file of a plain
name, no download of any toy asks for it again, and the file stays as it is, byte for byte, as long as
every download lists the whole audio folder. -/
theorem audio_kept {b₀ b : Box} {name : Bytes} (hname : Downloader.PlainName name)
    (hfile : b₀.dl.card.hasFile (Downloader.audioFilePath name))
    (h : Runs.Reached (fun b e b' => b.step e = some b') ListsAll b₀ b) :
    Downloader.LeavesAudio name b₀.dl b.dl := by
  refine h.invariant (I := fun b => Downloader.LeavesAudio name b₀.dl b.dl) (.refl name _) ?_
  intro b e b' hleaves hok hstep
  refine hleaves.trans (step_leavesAudio hname ?_ hok hstep)
  unfold Card.hasFile
  rw [hleaves.content]
  exact hfile

end

/-! ## A toy with an audio that is there -/

/-- A box about to download a toy whose only audio is on the card. -/
def sharedBox : Box :=
  { emptyBattery with
    state := .downloadToy
    toy := uidText Downloader.uidX
    dl := (Downloader.boot (Downloader.sampleCard.put (Downloader.audioFilePath (str "a")) (str "abc")
      (by decide)) Downloader.sampleWifi).frame Downloader.uidX }

theorem audio_kept_sharedBox :
    ∃ b, runList (@step Downloader.sampleParser) sharedBox [handlerStep] = some b ∧
      b.dl.received ≠ [] ∧ Downloader.LeavesAudio (str "a") sharedBox.dl b.dl := by
  have hruns : (runGuarded (@step Downloader.sampleParser) ListsAll sharedBox [handlerStep]).any
      (fun b => b.dl.received.length = 1) = true := by decide +kernel
  obtain ⟨b, hb, hreceived⟩ := (Option.any_eq_true _ _).1 hruns
  have hname : Downloader.PlainName (str "a") := ⟨by decide, by decide, by decide, by decide⟩
  refine ⟨b, runList_of_runGuarded hb, fun hnil => ?_, @audio_kept Downloader.sampleParser _ _ _ hname
    (by decide +kernel) (reached_of_runGuarded _ hb)⟩
  rw [hnil] at hreceived
  cases hreceived

end Box

end Cubbies
