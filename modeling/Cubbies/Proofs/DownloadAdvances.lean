import Cubbies.Proofs.DownloadProgress
import Cubbies.Proofs.ToyIsolation

set_option autoImplicit false

/-! # What a download does from one event to the next

`advance_spec` says what a download may change in one step, wherever it stands: it writes where
downloads write, below the toys folder only for its toy, for the tag on the box and to the metadata file
that is open, and it changes neither the credentials nor the tag. A whole call of `begin` is a run of such
steps. -/

namespace Cubbies

open CString Runs

namespace Downloader

/-! ## What a download goes by -/

/-- The toy, the tag on the box, the network and the audio file that is open. -/
def goesBy (d : Downloader) : Bytes × Bytes × Wifi × Option Bytes := (d.toy, d.tagUid, d.wifi, d.file)

theorem fields_of_goesBy {d d' : Downloader} (h : d'.goesBy = d.goesBy) :
    d'.toy = d.toy ∧ d'.tagUid = d.tagUid ∧ d'.wifi = d.wifi ∧ d'.file = d.file := by
  simpa [goesBy] using h

theorem openWrite_goesBy {d d' : Downloader} {path : Bytes} (h : d.openWrite path = some d') :
    d'.goesBy = d.goesBy ∧ d'.metadataFile = d.metadataFile := by
  obtain ⟨c, -, rfl⟩ := Option.map_eq_some_iff.1 h
  exact ⟨rfl, rfl⟩

theorem writeFile_goesBy (d : Downloader) (path content : Bytes) :
    (d.writeFile path content).goesBy = d.goesBy ∧
      (d.writeFile path content).metadataFile = d.metadataFile := by
  unfold writeFile
  split
  · exact ⟨rfl, rfl⟩
  · next d' h =>
      have hopened := openWrite_goesBy h
      exact hopened

theorem createVerifiedFile_goesBy (d : Downloader) (seconds : ℕ) :
    (d.createVerifiedFile seconds).goesBy = d.goesBy ∧
      (d.createVerifiedFile seconds).metadataFile = d.metadataFile := by
  unfold createVerifiedFile
  dsimp only
  split
  · exact ⟨rfl, rfl⟩
  · next d' h =>
      have hopened := openWrite_goesBy h
      exact hopened

theorem masterData_goesBy (d : Downloader) (data : Bytes) : (d.masterData data).goesBy = d.goesBy := by
  unfold masterData
  split
  · rfl
  · dsimp only
    split
    · rfl
    · split
      · split
        · rfl
        · next d' h => exact (openWrite_goesBy h).1
      · rfl

theorem storeLists_goesBy (d : Downloader) (j : Json) : (d.storeLists j).goesBy = d.goesBy := by
  unfold storeLists
  cases j.stringField? (str "baseUrl") <;> cases j.arrayField? (str "directionFiles") <;>
    cases j.arrayField? (str "media") <;> cases hmedia : d.mediaJson <;> simp [hmedia, goesBy]

theorem storeFiles_goesBy (d : Downloader) (j : Json) : (d.storeFiles j).goesBy = d.goesBy := by
  have hfield : ∀ (d : Downloader) path content, (d.storeField path content).goesBy = d.goesBy := by
    intro d path content
    cases content with
    | none => rfl
    | some content => exact (writeFile_goesBy d path content).1
  unfold storeFiles
  simp only [hfield]

/-! ## One step -/

/-- An audio file that is open is below the audio folder. -/
def ReceivesAudio (d : Downloader) : Prop := ∀ path ∈ d.file, audioPath <+: path

/-- The toys' files a download may write now. -/
def WritesNow (d : Downloader) : Bytes → Prop :=
  DownloadPath (fun tag => tag = d.tagUid) (fun tag => tag ∈ d.metadataFile) d.toy

/-- From `d` to `d'` a download has made a step. -/
structure Advanced (d d' : Downloader) : Prop where
  within : Within Media TempFile d.card d'.card
  contents : IsTag d.tagUid → IsTag d.toy → ToyContents d.WritesNow d.card d'.card
  credentials : d'.wifi.credentialsFile = d.wifi.credentialsFile
  tag : d'.tagUid = d.tagUid
  toy : d'.toy = d.toy ∨ d'.toy = []
  metadata : ∀ tag ∈ d'.metadataFile, tag = d.tagUid ∨ tag ∈ d.metadataFile
  file : ReceivesAudio d'

section

variable {d d' : Downloader}

theorem ReceivesAudio.of_goesBy (h : ReceivesAudio d) (hgoes : d'.goesBy = d.goesBy) :
    ReceivesAudio d' := by
  obtain ⟨-, -, -, hfile⟩ := fields_of_goesBy hgoes
  unfold ReceivesAudio
  rw [hfile]
  exact h

namespace Advanced

/-- A step of the reception of audio files, or one that writes nothing. -/
theorem of_audio (hcard : Within (fun q => audioPath <+: q) TempFile d.card d'.card)
    (hcredentials : d'.wifi.credentialsFile = d.wifi.credentialsFile) (htag : d'.tagUid = d.tagUid)
    (htoy : d'.toy = d.toy ∨ d'.toy = []) (hmetadata : d'.metadataFile = d.metadataFile)
    (hfile : ReceivesAudio d') : Advanced d d' where
  within := hcard.mono (fun _ hq => .inr hq) fun _ hq => hq
  contents _ _ := .of_within hcard fun _ hq haudio => absurd hq (not_toysPath_of_audioPath haudio)
  credentials := hcredentials
  tag := htag
  toy := htoy
  metadata _ hmem := .inr (hmetadata ▸ hmem)
  file := hfile

/-- A step that changes nothing of what a download goes by. -/
theorem of_goesBy (h : ReceivesAudio d) (hwithin : Within Media TempFile d.card d'.card)
    (hcontents : IsTag d.tagUid → IsTag d.toy → ToyContents d.WritesNow d.card d'.card)
    (hgoes : d'.goesBy = d.goesBy)
    (hmetadata : ∀ tag ∈ d'.metadataFile, tag = d.tagUid ∨ tag ∈ d.metadataFile) : Advanced d d' := by
  obtain ⟨htoy, htag, hwifi, -⟩ := fields_of_goesBy hgoes
  exact ⟨hwithin, hcontents, congrArg Wifi.credentialsFile hwifi, htag, .inl htoy, hmetadata,
    h.of_goesBy hgoes⟩

/-- Nor the card. -/
theorem of_eq (h : ReceivesAudio d) (hcard : d'.card = d.card) (hgoes : d'.goesBy = d.goesBy)
    (hmetadata : d'.metadataFile = d.metadataFile) : Advanced d d' :=
  of_goesBy h (hcard ▸ .refl _) (fun _ _ => hcard ▸ .refl _) hgoes fun _ hmem => .inr (hmetadata ▸ hmem)

/-- A step that writes below the toys folder. -/
theorem of_toyWrite (h : ReceivesAudio d) (hcard : ToyWrite d.card d'.card) (hconfined : Confined d d')
    (hcontents : IsTag d.tagUid → IsTag d.toy → ToyContents d.WritesNow d.card d'.card)
    (hgoes : d'.goesBy = d.goesBy)
    (hmetadata : ∀ tag ∈ d'.metadataFile, tag = d.tagUid ∨ tag ∈ d.metadataFile) : Advanced d d' :=
  of_goesBy h (.of_toyWrite hcard hconfined.folders fun _ hq => .inl hq) hcontents hgoes hmetadata

/-- One file below the toys folder is written. -/
theorem writeFile (h : ReceivesAudio d) {path : Bytes} (content : Bytes) (hpath : toysPath <+: path)
    (hnow : IsTag d.tagUid → IsTag d.toy → d.WritesNow path) :
    Advanced d (d.writeFile path content) := by
  obtain ⟨hgoes, hmetadata⟩ := writeFile_goesBy d path content
  exact of_goesBy h (writeFile_within d content (.inl hpath))
    (fun htag htoy => .writeFile d content (hnow htag htoy)) hgoes fun _ hmem => .inr (hmetadata ▸ hmem)

end Advanced

/-! ## The master JSON -/

theorem masterData_advanced (h : ReceivesAudio d) (data : Bytes) : Advanced d (d.masterData data) := by
  have htags : TagsIn (fun tag => tag = d.tagUid) (fun tag => tag ∈ d.metadataFile) d :=
    ⟨rfl, fun _ hmem => .inr hmem⟩
  exact .of_toyWrite h (masterData_card d data) (.masterData d data)
    (fun _ _ => masterData_toyContents htags data) (masterData_goesBy d data) (htags.masterData data).file

section

variable [CJson]

theorem masterFinish_goesBy (d : Downloader) : d.masterFinish.goesBy = d.goesBy := by
  have hparse : ∀ (d : Downloader) response, (d.parseAndStoreMetadata response).goesBy = d.goesBy := by
    intro d response
    unfold parseAndStoreMetadata
    split
    · rfl
    · rw [storeFiles_goesBy, storeLists_goesBy]
      rfl
  unfold masterFinish
  cases d.responseAtFinish with
  | none => rfl
  | some response => exact hparse { d with metadataFile := none } response

theorem masterFinish_advanced (h : ReceivesAudio d) : Advanced d d.masterFinish := by
  refine .of_toyWrite h (masterFinish_spec d).1 (.masterFinish d)
    (fun htag _ => masterFinish_toyContents htag rfl) (masterFinish_goesBy d) ?_
  rw [masterFinish_metadataFile]
  rintro tag ⟨⟩

end

/-! ## Audio files -/

/-- What the reception of an audio file changes. -/
def Receives (d d' : Downloader) : Prop :=
  ∃ card buffer, d' = { d with card := card, downloadBuffer := buffer } ∧
    Within (fun q => audioPath <+: q) TempFile d.card card

theorem Receives.trans {d'' : Downloader} (h : Receives d d') (h' : Receives d' d'') :
    Receives d d'' := by
  obtain ⟨card, buffer, rfl, hcard⟩ := h
  obtain ⟨card', buffer', rfl, hcard'⟩ := h'
  exact ⟨card', buffer', rfl, hcard.trans hcard'⟩

theorem Receives.setBuffer (d : Downloader) (buffer : Bytes) :
    Receives d { d with downloadBuffer := buffer } := ⟨d.card, buffer, rfl, .refl _⟩

theorem Receives.receivesAudio (h : Receives d d') (hfile : ReceivesAudio d) : ReceivesAudio d' := by
  obtain ⟨card, buffer, rfl, -⟩ := h
  exact hfile

theorem Receives.flushBuffer (h : ReceivesAudio d) : Receives d d.flushBuffer := by
  unfold Downloader.flushBuffer
  split
  · next path hpath =>
      split
      · exact ⟨d.card, d.downloadBuffer, rfl, .refl _⟩
      · exact ⟨_, _, rfl, .fwrite d.card d.downloadBuffer (h path hpath)⟩
  · exact ⟨d.card, d.downloadBuffer, rfl, .refl _⟩

theorem Receives.copyLoop (h : ReceivesAudio d) (fuel : ℕ) (data : Bytes) :
    Receives d (copyLoop fuel d data) := by
  induction fuel generalizing d data with
  | zero => exact ⟨d.card, d.downloadBuffer, rfl, .refl _⟩
  | succ fuel ih =>
      unfold Downloader.copyLoop
      split
      · exact ⟨d.card, d.downloadBuffer, rfl, .refl _⟩
      · dsimp only
        have hfilled := Receives.setBuffer d
          (d.downloadBuffer ++ data.take (min data.length (bufferSize - d.downloadBuffer.length)))
        split
        · have hflushed := hfilled.trans (.flushBuffer (hfilled.receivesAudio h))
          exact hflushed.trans (ih (hflushed.receivesAudio h) _)
        · exact hfilled.trans (ih (hfilled.receivesAudio h) _)

theorem Receives.advanced (hreceives : Receives d d') (h : ReceivesAudio d) : Advanced d d' := by
  have hfile := hreceives.receivesAudio h
  obtain ⟨card, buffer, rfl, hcard⟩ := hreceives
  exact .of_audio hcard rfl rfl (.inl rfl) rfl hfile

theorem receivesAudio_closed (d : Downloader) : ReceivesAudio { d with file := none } := by
  rintro path ⟨⟩

/-- The temporary file is opened, with the header of the request. -/
theorem openTemp_advanced {name : Bytes} (hopen : d.openTemp name = some d') : Advanced d d' := by
  have hwithin := (openTemp_receiving hopen).within.mono
    (fun _ hq => hq.below) fun _ hq => hq.tempFile
  obtain ⟨e, he, rfl⟩ := Option.map_eq_some_iff.1 hopen
  obtain ⟨c, -, rfl⟩ := Option.map_eq_some_iff.1 he
  refine .of_audio hwithin rfl rfl (.inl rfl) rfl ?_
  rintro path ⟨⟩
  exact below_audioPath name _

/-- An audio file that is there is renamed. -/
theorem rename_advanced (h : ReceivesAudio d) (name : Bytes) :
    Advanced d { d with card := d.card.rename (tempFilePath name) (finalFilePath name) } :=
  .of_audio (.rename d.card (below_audioPath name _) (below_audioPath name _) ⟨name, rfl⟩) rfl rfl
    (.inl rfl) rfl h

/-! ## The events of a request -/

section

variable [CJson]

theorem onHeader_advanced (h : ReceivesAudio d) (a : Awaited) (key value : Bytes) :
    Advanced d (a.callback.onHeader d key value) := by
  cases a with
  | token =>
      dsimp only [Awaited.callback, tokenCallback]
      split
      · split
        · split <;> exact .of_eq h rfl rfl rfl
        · exact .of_eq h rfl rfl rfl
      · exact .of_eq h rfl rfl rfl
  | masterJson => exact .of_eq h rfl rfl rfl
  | directionFile => exact .of_eq h rfl rfl rfl
  | audioFile => exact .of_eq h rfl rfl rfl

theorem onData_advanced (h : ReceivesAudio d) (a : Awaited) (data : Bytes) :
    Advanced d (a.callback.onData d data) := by
  cases a with
  | token => exact .of_eq h rfl rfl rfl
  | masterJson => exact masterData_advanced h data
  | directionFile =>
      dsimp only [Awaited.callback, directionCallback]
      split <;> exact .of_eq h rfl rfl rfl
  | audioFile =>
      dsimp only [Awaited.callback, mp3Callback]
      split
      · exact (Receives.copyLoop h data.length data).advanced h
      · exact .of_eq h rfl rfl rfl

theorem onFinish_advanced (h : ReceivesAudio d) (a : Awaited) :
    Advanced d (a.callback.onFinish d) := by
  cases a with
  | token => exact .of_eq h rfl rfl rfl
  | masterJson => exact masterFinish_advanced h
  | directionFile => exact .of_eq h rfl rfl rfl
  | audioFile =>
      dsimp only [Awaited.callback, mp3Callback]
      split
      · obtain ⟨card, buffer, heq, hcard⟩ := Receives.flushBuffer h
        rw [heq]
        exact .of_audio hcard rfl rfl (.inl rfl) rfl (receivesAudio_closed _)
      · exact .of_eq h rfl rfl rfl

theorem onDisconnected_advanced (h : ReceivesAudio d) (a : Awaited) :
    Advanced d (a.callback.onDisconnected d) := by
  cases a with
  | token => exact .of_eq h rfl rfl rfl
  | masterJson => exact .of_eq h rfl rfl rfl
  | directionFile => exact .of_eq h rfl rfl rfl
  | audioFile => exact .of_audio (.refl _) rfl rfl (.inl rfl) rfl (receivesAudio_closed d)

end

/-! ## From one wait to the next -/

theorem writeTokenError_advanced (h : ReceivesAudio d) (code : ℤ) (tail : Bytes) :
    Advanced d (d.writeTokenError code tail) := by
  unfold writeTokenError
  split
  · exact .writeFile h _ (toysPath_errorPath d.toy) fun _ _ => .inl (.inr rfl)
  · exact .of_eq h rfl rfl rfl

theorem saveDirection_advanced (h : ReceivesAudio d) (dirFileName : Bytes) (ok : Bool) :
    Advanced d (d.saveDirection dirFileName ok) := by
  unfold saveDirection
  split
  · split
    · next direction _ =>
        unfold saveFileToSd
        have hpath : toysPath ++ d.toy ++ str "/" ++ direction ++ str ".cubbies" =
            ownFolder d.toy ++ (direction ++ str ".cubbies") := by
          rw [List.append_assoc]
          rfl
        refine .writeFile h _ ?_ fun _ htoy => .inl (.inl ?_)
        · rw [List.append_assoc, List.append_assoc, List.append_assoc]
          exact snprintf_prefix (by decide)
        · rw [hpath]
          exact snprintf_prefix (length_ownFolder htoy)
    · exact .of_eq h rfl rfl rfl
  · exact .of_eq h rfl rfl rfl

theorem createVerifiedFile_advanced (h : ReceivesAudio d) (seconds : ℕ) :
    Advanced d (d.createVerifiedFile seconds) := by
  obtain ⟨hgoes, hmetadata⟩ := createVerifiedFile_goesBy d seconds
  refine .of_goesBy h ((createVerifiedFile_within d seconds).mono ?_ fun _ hnone => hnone.elim)
    (fun _ _ => createVerifiedFile_toyContents (Q := fun tag => tag = d.tagUid) rfl seconds) hgoes
    fun _ hmem => .inr (hmetadata ▸ hmem)
  rintro q rfl
  rw [List.append_assoc]
  exact .inl (toysPath_prefix_append _)

/-- Forgetting the toy is all that the end of `begin` adds to a step. -/
theorem Advanced.leave (h : Advanced d d') : Advanced d d'.leave :=
  ⟨h.within, h.contents, h.credentials, h.tag, .inr rfl, h.metadata, h.file⟩

theorem resume_advanced (h : ReceivesAudio d) (s : ResumeScript) (p : Progress) :
    Advanced d (d.resume s p).2 := by
  have hsame : Advanced d d := .of_eq h rfl rfl rfl
  have hconnected : Advanced d { d with wifi := (d.wifi.connect s.connect).2 } :=
    .of_audio (.refl _) (Wifi.credentialsFile_connect d.wifi s.connect) rfl (.inl rfl) rfl h
  have hclosed : Advanced d { d with file := none } :=
    .of_audio (.refl _) rfl rfl (.inl rfl) rfl (receivesAudio_closed d)
  cases p with
  | login =>
      dsimp only [resume]
      split
      · exact hsame
      · split
        · exact ⟨hconnected.within, hconnected.contents, hconnected.credentials, rfl, .inl rfl,
            hconnected.metadata, h⟩
        · exact hconnected
  | waiting a => exact hsame
  | answered a ok status =>
      cases a with
      | token =>
          have herror := writeTokenError_advanced h (if ok then status else 0) s.errorTail
          exact ⟨herror.within, herror.contents, herror.credentials, herror.tag, herror.toy,
            herror.metadata, herror.file⟩
      | masterJson => exact hsame
      | directionFile dirFileName slots => exact saveDirection_advanced h dirFileName ok
      | audioFile name left names =>
          dsimp only [resume]
          split
          · split
            · exact rename_advanced h name
            · exact hsame.leave
          · split
            · exact hclosed.leave
            · exact hsame
  | directions slots =>
      cases slots with
      | nil => exact hsame
      | cons slot slots =>
          dsimp only [resume]
          split
          · exact .of_eq h rfl rfl rfl
          · exact hsame
  | listing =>
      dsimp only [resume]
      split
      · exact .of_audio (.refl _) rfl rfl (.inr rfl) rfl h
      · exact hsame
  | audioFiles names asked =>
      cases names with
      | nil =>
          dsimp only [resume]
          split
          · exact (createVerifiedFile_advanced h s.seconds).leave
          · exact hsame.leave
      | cons name names =>
          dsimp only [resume]
          split
          · exact hclosed.leave
          · next d' hopen => exact openTemp_advanced hopen
  | done success => exact hsame

variable [CJson]

/-- **One step** of a download, wherever it stands. -/
theorem advance_spec {p : Progress} {a : Advance} {r : Progress × Downloader} (h : ReceivesAudio d)
    (hadvance : advance p d a = some r) : Advanced d r.2 := by
  cases a with
  | resume s =>
      dsimp only [advance] at hadvance
      split at hadvance
      · obtain rfl := Option.some.inj hadvance
        exact resume_advanced h s p
      · cases hadvance
  | header key value =>
      obtain ⟨a, -, rfl⟩ := Option.map_eq_some_iff.1 hadvance
      exact onHeader_advanced h a key value
  | data data =>
      obtain ⟨a, -, rfl⟩ := Option.map_eq_some_iff.1 hadvance
      exact onData_advanced h a data
  | close ending status =>
      obtain ⟨a, -, rfl⟩ := Option.map_eq_some_iff.1 hadvance
      cases ending with
      | finished => exact onFinish_advanced h a
      | disconnected => exact onDisconnected_advanced h a
      | unreachable => exact .of_eq h rfl rfl rfl

/-! ## Entering `begin` -/

/-- The folder of the toy is made. -/
structure Entered (d : Downloader) (toy : Bytes) (d' : Downloader) : Prop where
  within : Within Media TempFile d.card d'.card
  content : ∀ q, d'.card.content? q = d.card.content? q
  credentials : d'.wifi.credentialsFile = d.wifi.credentialsFile
  tag : d'.tagUid = d.tagUid
  toy : d'.toy = toy
  metadata : d'.metadataFile = d.metadataFile
  file : d'.file = d.file

omit [CJson] in
theorem enter_spec (d : Downloader) (toy : Bytes) (connect : WaitScript) :
    Entered d toy (d.enter toy connect).2 := by
  have hfile := Wifi.credentialsFile_connect d.wifi connect
  unfold enter
  dsimp only
  split
  · generalize hd' : ({ d with toy := toy, wifi := (d.wifi.connect connect).2 } : Downloader) = d'
    have hcard : d'.card = d.card := hd' ▸ rfl
    have hfolders := Within.of_toyWrite (P := Media) (T := TempFile) (createFolders_toyWrite d')
      (Confined.createFolders d').folders fun _ hq => .inl hq
    rw [hcard] at hfolders
    have hgoes : d'.createFolders.goesBy = d'.goesBy ∧
        d'.createFolders.metadataFile = d'.metadataFile := by
      unfold createFolders
      split <;> exact ⟨rfl, rfl⟩
    obtain ⟨htoy, htag, hwifi, hopen⟩ := fields_of_goesBy hgoes.1
    subst hd'
    exact ⟨hfolders, createFolders_content _, (congrArg Wifi.credentialsFile hwifi).trans hfile, htag, htoy,
      hgoes.2, hopen⟩
  · exact ⟨.refl _, fun _ => rfl, hfile, rfl, rfl, rfl, rfl⟩

/-! ## Whole calls -/

/-- What is open stays below the audio folder, with whatever read frames. -/
theorem Leads.receivesAudio {Q : Bytes → Prop} {p p' : Progress × Downloader} (h : Leads Q p p')
    (hfile : ReceivesAudio p.2) : ReceivesAudio p'.2 := by
  refine Runs.Reached.invariant (I := fun p : Progress × Downloader => ReceivesAudio p.2) h hfile ?_
  intro p e p' hfile _ htick
  cases e with
  | inl a => exact (advance_spec hfile htick).file
  | inr uid =>
      obtain rfl := Option.some.inj htick
      exact hfile

theorem tokenStep_receivesAudio (h : ReceivesAudio d) (e : TokenEvent) :
    ReceivesAudio (d.tokenStep e) := by
  cases e with
  | begin toy s =>
      have hentered : ReceivesAudio (d.enter toy s.connect).2 := by
        unfold ReceivesAudio
        rw [(enter_spec d toy s.connect).file]
        exact h
      exact (begin_leads (Q := fun _ => True) d toy (fun _ _ => trivial) (fun _ _ => trivial)
        (fun _ _ _ => trivial) fun _ _ _ _ => trivial).receivesAudio hentered
  | request connect x tail =>
      exact (leads_downloadToken (Q := fun _ => True) d.new connect tail
        fun _ _ => trivial).receivesAudio h
  | frame uid => exact h
  | outside card wifi => exact h

end

end Downloader

end Cubbies
