import Cubbies.Proofs.DownloadConfined
import Cubbies.Proofs.DownloaderSteps
import Cubbies.Proofs.ErrorStatus
import Cubbies.Proofs.RequestEffects
import Cubbies.Proofs.UserIdRoundTrip

set_option autoImplicit false

/-! # Who writes what on the card

Several tasks write to the card: the handler registers users and downloads toys, the QBus task stores
the volume, a BLE write the name of the box. Each of them has its own paths (`MayWrite`), folders are never
removed, and of the files only the temporary ones of a download are. The credentials file, which the WiFi
object keeps, has two owners (`MayStoreCredentials`). `card_owned` says so of whole runs: the tones, say,
are what they were when the card was put in. -/

namespace Cubbies

open CString Runs

/-! ## Footprints -/

/-- From `c` to `c'` only the files in `P` got other contents, no folder is gone, the new ones are toys',
and no file but those in `T` is gone. -/
structure Within (P T : Bytes → Prop) (c c' : Card) : Prop where
  dirs : ∀ p ∈ c.dirs, p ∈ c'.dirs
  folders : NewFolders c c'
  content : ∀ q, ¬ P q → c'.content? q = c.content? q
  hasFile : ∀ q, ¬ T q → c.hasFile q → c'.hasFile q

namespace Within

variable {P P' T T' : Bytes → Prop} {c c' c₁ c₂ c₃ : Card}

theorem refl (c : Card) : Within P T c c :=
  ⟨fun _ h => h, .of_eq rfl, fun _ _ => rfl, fun _ _ h => h⟩

theorem trans (h : Within P T c₁ c₂) (h' : Within P T c₂ c₃) : Within P T c₁ c₃ where
  dirs p hp := h'.dirs p (h.dirs p hp)
  folders := h.folders.trans h'.folders
  content q hq := (h'.content q hq).trans (h.content q hq)
  hasFile q hq hfile := h'.hasFile q hq (h.hasFile q hq hfile)

theorem mono (h : Within P T c c') (hP : ∀ q, P q → P' q) (hT : ∀ q, T q → T' q) :
    Within P' T' c c' where
  dirs := h.dirs
  folders := h.folders
  content q hq := h.content q fun hp => hq (hP q hp)
  hasFile q hq := h.hasFile q fun ht => hq (hT q ht)

/-- A file is written, or cannot be opened. -/
theorem writeFile (c : Card) {path : Bytes} (bytes : Bytes) (hpath : P path) :
    Within P T c ((c.writeFile path bytes).getD c) := by
  cases hwrite : c.writeFile path bytes with
  | none => exact refl c
  | some c' =>
      rw [Option.getD_some]
      have hcontent := Card.content?_writeFile hwrite
      obtain ⟨opened, hopen, rfl⟩ := Option.map_eq_some_iff.1 hwrite
      have hdirs := (Card.fwrite_dirs opened path bytes).trans (Card.fopenWrite_dirs hopen)
      refine ⟨fun p hp => hdirs ▸ hp, .of_eq hdirs, fun q hq => ?_, fun q _ hfile => ?_⟩
      · rw [hcontent, if_neg fun heq : q = path => hq (heq ▸ hpath)]
      · unfold Card.hasFile at hfile ⊢
        rw [hcontent]
        split
        · rfl
        · exact hfile

theorem fwrite (c : Card) {path : Bytes} (bytes : Bytes) (hpath : P path) :
    Within P T c (c.fwrite path bytes) where
  dirs p hp := by rwa [Card.fwrite_dirs]
  folders := .of_eq (Card.fwrite_dirs c path bytes)
  content q hq := by
    rw [Card.content?_fwrite, if_neg]
    rintro rfl
    exact hq hpath
  hasFile q _ hfile := (Card.hasFile_fwrite c path bytes q).2 hfile

/-- A file is renamed, or is not there, or has nowhere to go. -/
theorem rename (c : Card) {old new : Bytes} (hold : P old) (hnew : P new) (hgone : T old) :
    Within P T c (c.rename old new) := by
  cases hcontent : c.content? old with
  | none =>
      unfold Card.rename
      rw [hcontent]
      exact .refl c
  | some b =>
      by_cases hdir : parentDir new ∈ c.dirs
      · have hafter := Card.content?_rename hcontent hdir
        have hdirs := Card.rename_dirs c old new
        refine ⟨fun p hp => hdirs ▸ hp, .of_eq hdirs, fun q hq => ?_, fun q hq hfile => ?_⟩
        · rw [hafter, if_neg fun heq : q = new => hq (heq ▸ hnew),
            if_neg fun heq : q = old => hq (heq ▸ hold)]
        · unfold Card.hasFile at hfile ⊢
          rw [hafter, if_neg fun heq : q = old => hq (heq ▸ hgone)]
          split
          · rfl
          · exact hfile
      · unfold Card.rename
        rw [hcontent]
        dsimp only
        rw [dif_neg (by rwa [Card.erase_dirs])]
        exact .refl c

theorem of_toyWrite (h : ToyWrite c c') (hfolders : NewFolders c c')
    (hP : ∀ q, Downloader.toysPath <+: q → P q) : Within P T c c' where
  dirs := h.dirs
  folders := hfolders
  content q hq := h.content q fun htoy => hq (hP q htoy.1)
  hasFile q _ := h.hasFile q

end Within

/-! ## A download -/

/-- What a download writes. -/
def Media (q : Bytes) : Prop := Downloader.toysPath <+: q ∨ Downloader.audioPath <+: q

/-- What it may take away again. -/
def TempFile (q : Bytes) : Prop := ∃ name, q = Downloader.tempFilePath name

/-! ## The credentials file -/

namespace Wifi

theorem credentialsFile_connect (w : Wifi) (s : WaitScript) :
    (w.connect s).2.credentialsFile = w.credentialsFile := by
  have hprivate : ∀ w : Wifi, (w.connectPrivate s).2.credentialsFile = w.credentialsFile :=
    fun w => congrArg Settings.credentialsFile (settings_connectPrivate w s)
  unfold connect
  split
  · rfl
  · dsimp only
    split
    · rfl
    · rw [hprivate]

theorem credentialsFile_disconnect (w : Wifi) (s : WaitScript) :
    (w.disconnect s).2.credentialsFile = w.credentialsFile := by
  have hprivate : ∀ w : Wifi, (w.disconnectPrivate s).2.credentialsFile = w.credentialsFile :=
    fun w => congrArg Settings.credentialsFile (settings_disconnectPrivate w s)
  unfold disconnect
  split
  · rfl
  · dsimp only
    split
    · rw [hprivate]
    · rfl

/-- New credentials are stored if they work and the file can be written. -/
theorem credentialsFile_bleWriteCredentials (w : Wifi) (s : CredentialsScript) (new : Credentials) :
    (w.bleWriteCredentials s new).2.credentialsFile =
      if (w.bleWriteCredentials s new).1 = true ∧ s.opens = true then some new
      else w.credentialsFile := by
  by_cases hworks : (w.bleWriteCredentials s new).1 = true
  · have hconnect : ((w.prepareCredentials s new).connectPrivate s.connect).2.credentialsFile =
        w.credentialsFile := by
      have hsettings := (settings_connectPrivate (w.prepareCredentials s new) s.connect).trans
        (settings_prepareCredentials w s new)
      exact congrArg Settings.credentialsFile hsettings
    unfold bleWriteCredentials at hworks ⊢
    generalize (w.prepareCredentials s new).connectPrivate s.connect = r at hworks hconnect ⊢
    have hreleased : (if r.2.count = 0 then (r.2.disconnectPrivate s.release).2 else r.2).credentialsFile =
        w.credentialsFile := by
      split
      · exact (congrArg Settings.credentialsFile
          (settings_disconnectPrivate r.2 s.release)).trans hconnect
      · exact hconnect
    dsimp only at hworks ⊢
    split at hworks
    · next hzero =>
        rw [if_pos hzero]
        unfold writeCredentials
        dsimp only
        rw [hreleased]
        simp
    · split at hworks <;> cases hworks
  · have hfailed : (w.bleWriteCredentials s new).1 = false := by simpa using hworks
    rw [if_neg fun h => hworks h.1]
    exact congrArg Settings.credentialsFile (settings_of_failed hfailed)

end Wifi

namespace Downloader

theorem below_audioPath (name suffix : Bytes) :
    audioPath <+: snprintf 256 (audioPath ++ name ++ suffix) := by
  rw [List.append_assoc]
  exact snprintf_prefix (by decide)

/-- The paths the audio files of these names are received on and kept under. -/
def AudioPath (names : List Bytes) (q : Bytes) : Prop :=
  ∃ name ∈ names, q = tempFilePath name ∨ q = finalFilePath name

def TempPath (names : List Bytes) (q : Bytes) : Prop := ∃ name ∈ names, q = tempFilePath name

theorem AudioPath.below {names : List Bytes} {q : Bytes} (h : AudioPath names q) : audioPath <+: q := by
  obtain ⟨name, -, rfl | rfl⟩ := h
  · exact below_audioPath name _
  · exact below_audioPath name _

theorem TempPath.tempFile {names : List Bytes} {q : Bytes} (h : TempPath names q) : TempFile q := by
  obtain ⟨name, -, rfl⟩ := h
  exact ⟨name, rfl⟩

theorem AudioPath.mono {names names' : List Bytes} (hsub : names ⊆ names') :
    ∀ q, AudioPath names q → AudioPath names' q := by
  rintro q ⟨name, hname, hq⟩
  exact ⟨name, hsub hname, hq⟩

theorem TempPath.mono {names names' : List Bytes} (hsub : names ⊆ names') :
    ∀ q, TempPath names q → TempPath names' q := by
  rintro q ⟨name, hname, hq⟩
  exact ⟨name, hsub hname, hq⟩

/-- While a file is received, its temporary file is written. -/
theorem Receiving.within {d₀ d : Downloader} {name : Bytes} (h : Receiving d₀ (tempFilePath name) d) :
    Within (AudioPath [name]) (TempPath [name]) d₀.card d.card where
  dirs p hp := h.dirs ▸ hp
  folders := .of_eq h.dirs
  content q hq := h.content q fun heq => hq ⟨name, List.mem_cons_self, .inl heq⟩
  hasFile q hq hfile := by
    have hcontent := h.content q fun heq => hq ⟨name, List.mem_cons_self, heq⟩
    unfold Card.hasFile at hfile ⊢
    rwa [hcontent]

/-- A failed call leaves the temporary file, a successful one renames it. -/
theorem downloadMp3File_within (d : Downloader) (name : Bytes) (s : AudioScript) :
    Within (AudioPath [name]) (TempPath [name]) d.card (d.downloadMp3File name s).2.card := by
  unfold downloadMp3File
  split
  · exact .refl _
  · next d' hopen =>
      have hrecv := (openTemp_receiving hopen).retryLoop maxRetryCount s.attempts
      dsimp only
      split
      · split
        · exact hrecv.within.trans (.rename _ ⟨name, List.mem_cons_self, .inl rfl⟩
            ⟨name, List.mem_cons_self, .inr rfl⟩ ⟨name, List.mem_cons_self, rfl⟩)
        · exact hrecv.within
      · exact hrecv.within

theorem downloadAll_within (d : Downloader) (s : ℕ → AudioScript) (names : List Bytes) :
    Within (AudioPath names) (TempPath names) d.card (d.downloadAll s names).2.card := by
  induction names generalizing d s with
  | nil => exact .refl _
  | cons name names ih =>
      have hsub : [name] ⊆ name :: names := List.cons_subset_cons _ (List.nil_subset _)
      have hrest : names ⊆ name :: names := List.subset_cons_self _ _
      have hfirst : Within (AudioPath (name :: names)) (TempPath (name :: names)) d.card
          (d.downloadMp3File name (s 0)).2.card :=
        (downloadMp3File_within d name (s 0)).mono (AudioPath.mono hsub) (TempPath.mono hsub)
      unfold downloadAll
      dsimp only
      split
      · exact hfirst.trans ((ih _ _).mono (AudioPath.mono hrest) (TempPath.mono hrest))
      · exact hfirst

theorem createVerifiedFile_within (d : Downloader) (seconds : ℕ) :
    Within (fun q => q = toysPath ++ d.tagUid ++ str "/verify.txt") (fun _ => False) d.card
      (d.createVerifiedFile seconds).card := by
  have hwrite := Within.writeFile (P := fun q => q = toysPath ++ d.tagUid ++ str "/verify.txt")
    (T := fun _ => False) d.card
    (str "All files downloaded successfully at: " ++ unsigned seconds ++ str "\n") rfl
  unfold createVerifiedFile openWrite
  unfold Card.writeFile at hwrite
  dsimp only
  cases hopen : d.card.fopenWrite (toysPath ++ d.tagUid ++ str "/verify.txt") with
  | none => exact .refl _
  | some c =>
      rw [hopen] at hwrite
      exact hwrite

/-- The audio files that are asked for, and `verify.txt`. -/
theorem processAudioFiles_within (d : Downloader) (s : ℕ → AudioScript) (seconds : ℕ) :
    Within (fun q => toysPath <+: q ∨ AudioPath d.filesToDownload q) (TempPath d.filesToDownload) d.card
      (d.processAudioFiles s seconds).2.card := by
  unfold processAudioFiles filesToDownload
  cases listFiles d.card audioPath with
  | none => exact .refl _
  | some sdFiles =>
      have hall := (downloadAll_within d s (d.nServer.filter fun name =>
        ¬ isDuplicate sdFiles name)).mono (fun q hq => (.inr hq : toysPath <+: q ∨ _)) fun q hq => hq
      dsimp only
      split
      · refine hall.trans ((createVerifiedFile_within _ seconds).mono ?_ fun q hq => hq.elim)
        rintro q rfl
        rw [List.append_assoc]
        exact .inl (toysPath_prefix_append _)
      · exact hall

/-- **A whole download.** -/
theorem begin_within [CJson] (d : Downloader) (toy : Bytes) (s : BeginScript) :
    Within Media TempFile d.card (d.begin toy s).2.card := by
  have htoys : ∀ q, toysPath <+: q → Media q := fun q hq => .inl hq
  unfold begin
  dsimp only
  split
  · obtain ⟨w, -, hconfined⟩ := requestMasterJson_confined
      { d with toy := toy, wifi := (d.wifi.connect s.connect).2 } s
    have hmaster := Within.of_toyWrite (T := TempFile) (requestMasterJson_spec
      { d with toy := toy, wifi := (d.wifi.connect s.connect).2 } s).1 hconfined.folders htoys
    refine hmaster.trans ?_
    generalize requestMasterJson
      { d with toy := toy, wifi := (d.wifi.connect s.connect).2 } s = d₁
    have hdirections := Within.of_toyWrite (T := TempFile)
      (SideStep.processDirectionFiles d₁ s.direction d₁.directionFileNames).card
      (Confined.processDirectionFiles d₁ s.direction d₁.directionFileNames).folders htoys
    exact hdirections.trans ((processAudioFiles_within _ s.audio s.seconds).mono
      (fun q hq => hq.imp_right AudioPath.below) fun q hq => hq.tempFile)
  · exact .refl _

/-! ## The token -/

theorem writeFile_within (d : Downloader) {P T : Bytes → Prop} {path : Bytes} (content : Bytes)
    (hpath : P path) : Within P T d.card (d.writeFile path content).card := by
  have hwrite := Within.writeFile (T := T) d.card content hpath
  unfold writeFile openWrite
  unfold Card.writeFile at hwrite
  cases hopen : d.card.fopenWrite path with
  | none => exact .refl _
  | some c =>
      rw [hopen] at hwrite
      exact hwrite

theorem writeTokenError_within (d : Downloader) (code : ℤ) (tail : Bytes) :
    Within (fun q => q = errorPath d.toy) (fun _ => False) d.card
      (d.writeTokenError code tail).card := by
  unfold writeTokenError
  split
  · exact writeFile_within d _ rfl
  · exact .refl _

/-- A request for the token writes the error file of the object it is made with. -/
theorem downloadToken_within (d : Downloader) (connect : WaitScript) (x : Exchange) (tail : Bytes) :
    Within (fun q => q = errorPath d.toy) (fun _ => False) d.card
      (d.downloadToken connect x tail).card := by
  have hanswer : ∀ d₁ : Downloader, (tokenCallback.perform frame d₁ x).2.card = d₁.card ∧
      (tokenCallback.perform frame d₁ x).2.toy = d₁.toy := by
    intro d₁
    refine Callback.perform_induction (P := fun d' : Downloader => d'.card = d₁.card ∧ d'.toy = d₁.toy)
      ⟨rfl, rfl⟩ ?_ (fun _ _ h => h) (fun _ h => h) (fun _ h => h) fun _ _ _ h => h
    intro d' key value h
    obtain ⟨hkept, hcard, -⟩ := tokenCallback_onHeader d' key value
    exact ⟨hcard.trans h.1, (congrArg Kept.toy hkept).trans h.2⟩
  unfold downloadToken
  split
  · exact .refl _
  · dsimp only
    split
    · obtain ⟨hcard, htoy⟩ := hanswer
        { d with wifi := (d.wifi.connect connect).2, tokenRequestFlag := true }
      generalize (tokenCallback.perform frame
        { d with wifi := (d.wifi.connect connect).2, tokenRequestFlag := true } x).2 = d₁ at hcard htoy ⊢
      change d₁.card = d.card at hcard
      change d₁.toy = d.toy at htoy
      rw [← hcard, ← htoy]
      exact writeTokenError_within d₁ _ tail
    · exact .refl _

/-- A request for the token leaves the credentials file alone. -/
theorem downloadToken_credentialsFile (d : Downloader) (connect : WaitScript) (x : Exchange)
    (tail : Bytes) : (d.downloadToken connect x tail).wifi.credentialsFile = d.wifi.credentialsFile := by
  obtain ⟨w, hw, hconfined⟩ := Confined.downloadToken d connect x tail
  rw [hconfined.wifi]
  rcases hw with rfl | rfl
  · rfl
  · exact Wifi.credentialsFile_connect d.wifi connect

end Downloader

namespace Box

/-! ## One step of the box -/

/-- What a step of a task writes, if anything: the handler in the two states that ask the server, the QBus
task on the volume buttons, a BLE write on the command to name the box. -/
def MayWrite (b : Box) : BoxEvent → Bytes → Prop
  | .handler _, q =>
      b.state = .initUserIdCheck ∧
          (q = userIdPath 1 ∨ q = userIdPath 2 ∨ q = Downloader.errorPath []) ∨
        b.state = .downloadToy ∧ Media q
  | .write _ address len data, q =>
      writeReg? address len = some .volumeControl ∧ (byteAt data 0 = 1 ∨ byteAt data 0 = 2) ∧
        q = volumePath
  | .ble _ uuid _ _, q => uuid = .writeCommand ∧ q = boxNamePath
  | _, _ => False

/-- What it may take away: a download renames its temporary files. -/
def MayRemove (b : Box) : BoxEvent → Bytes → Prop
  | .handler _, q => b.state = .downloadToy ∧ TempFile q
  | _, _ => False

theorem within_of_eq {P T : Bytes → Prop} {b b' : Box} (h : b'.dl.card = b.dl.card) :
    Within P T b.dl.card b'.dl.card := by
  rw [h]
  exact .refl _

section

variable [CJson]

omit [CJson] in
theorem registerUser_within (b : Box) (json : Json) (body : Bytes) :
    Within (fun q => q = userIdPath 1 ∨ q = userIdPath 2) (fun _ => False) b.dl.card
      (b.registerUser json body).dl.card := by
  rcases registerUser_writes b json body with h | ⟨i, user, hi, h⟩
  · rw [h]
    exact .refl _
  · rw [h]
    rcases hi with rfl | rfl
    · exact .writeFile b.dl.card _ (.inl rfl)
    · exact .writeFile b.dl.card _ (.inr rfl)

theorem verifyUserIdWithServer_within (b : Box) (s : VerifyScript) :
    Within (fun q => q = userIdPath 1 ∨ q = userIdPath 2 ∨ q = Downloader.errorPath [])
      (fun _ => False) b.dl.card (b.verifyUserIdWithServer s).2.dl.card := by
  refine verifyUserIdWithServer_induction (P := fun b' => Within _ _ b.dl.card b'.dl.card)
    ?_ ?_ ?_ ?_
  · unfold withToken
    split
    · exact .refl _
    · exact (Downloader.downloadToken_within b.dl.new s.tokenConnect s.token.atomic s.errorTail).mono
        (fun q hq => .inr (.inr hq)) fun _ h => h
  · exact fun b' h => ⟨h, h⟩
  · exact fun b' h => h
  · exact fun b' json h => h.trans ((registerUser_within b' json _).mono
      (fun q hq => hq.imp_right .inl) fun _ h => h)

omit [CJson] in
theorem handleIdle_dl (b : Box) (now : ℕ) : (b.handleIdle now).dl = b.dl := by
  have htoy : ∀ b : Box, (b.idleToy now).dl = b.dl := by
    intro b
    unfold idleToy
    split
    · dsimp only
      split
      · exact congrArg Lasting.dl
          (playerClosed_lasting.toneThen { b with toyPlacedOnce := true } now toyDetectTone .toyDetected)
      · rfl
    · rfl
  have hremoval : ∀ b : Box, (b.idleRemoval now).dl = b.dl := by
    intro b
    rw [idleRemoval_eq]
    split <;> rfl
  have hbattery : KeepsLasting b (b.batteryCheck now (b.setState now .init) b) :=
    playerClosed_lasting.batteryCheck now (playerClosed_lasting.setState b now .init) rfl
  unfold handleIdle
  split
  · rfl
  · rw [hremoval, htoy]
    exact congrArg Lasting.dl hbattery

omit [CJson] in
theorem handleDownloadWifiConn_card (b : Box) (env : HandlerEnv) :
    (b.handleDownloadWifiConn env).dl.card = b.dl.card := by
  have htone : ∀ w, ((b.setWifi w).toneThen env.now downloadStartTone .downloadToy).dl.card =
      b.dl.card := by
    intro w
    exact congrArg (Downloader.card ∘ Lasting.dl)
      (playerClosed_lasting.toneThen (b.setWifi w) env.now downloadStartTone .downloadToy)
  unfold handleDownloadWifiConn
  dsimp only
  split
  · split
    · split
      · exact htone _
      · rfl
    · rfl
  · rfl

/-- **A step of the handler** writes in two states. -/
theorem handler_within {b b' : Box} {env : HandlerEnv} (h : b.handler env = some b') :
    Within (b.MayWrite (.handler env)) (b.MayRemove (.handler env)) b.dl.card b'.dl.card := by
  cases handler_step h with
  | playing hother hstep =>
      exact within_of_eq (congrArg (Downloader.card ∘ Lasting.dl)
        (playerClosed_lasting.handler hstep hother))
  | idle => exact within_of_eq (congrArg Downloader.card (handleIdle_dl b env.now))
  | toyDetected =>
      refine within_of_eq ?_
      unfold handleToyDetected
      dsimp only
      split <;> rfl
  | initWifiCheck =>
      refine within_of_eq ?_
      unfold handleInitWifiCheck
      dsimp only
      split <;> rfl
  | initUserIdCheck hstate =>
      have hcard : (b.handleInitUserIdCheck env).dl.card =
          (b.verifyUserIdWithServer env.verify).2.dl.card := by
        unfold handleInitUserIdCheck
        dsimp only
        split <;> rfl
      rw [hcard]
      exact (verifyUserIdWithServer_within b env.verify).mono (fun q hq => .inl ⟨hstate, hq⟩)
        fun _ h => h.elim
  | downloadWifiConn => exact within_of_eq (handleDownloadWifiConn_card b env)
  | downloadToy hstate =>
      exact (Downloader.begin_within b.dl b.toy env.download.atomic).mono
        (fun q hq => .inr ⟨hstate, hq⟩) fun q hq => ⟨hstate, hq⟩

omit [CJson] in
/-- Of the downloader, a read frame changes the tag. -/
theorem readFrame_dl (b : Box) (now : ℕ) (data : Bytes) :
    (b.readFrame now data).dl = b.dl.frame (frameUid data) :=
  (trackTag_values { b with
    dl := b.dl.frame (frameUid data)
    batteryLevel := byteAt data 8
    chargingState := byteAt data 9 } now).1

omit [CJson] in
/-- A write frame to any other register leaves the card and the connection alone. -/
theorem writeFrame_dl {b : Box} {address len : ℕ} (hreg : writeReg? address len ≠ some .volumeControl)
    (now : ℕ) (data : Bytes) : (b.writeFrame now address len data).dl = b.dl := by
  unfold writeFrame
  cases h : writeReg? address len with
  | none => rfl
  | some reg =>
      cases reg with
      | volumeControl => exact absurd h hreg
      | playPause =>
          dsimp only [writeRegister]
          split
          · exact congrArg Lasting.dl (playerClosed_lasting.playPauseToggle b)
          · rfl
      | nextPrev =>
          dsimp only [writeRegister, next, previous]
          split_ifs <;> rfl
      | answerOption =>
          dsimp only [writeRegister]
          split_ifs
          · exact congrArg Lasting.dl
              (playerClosed_lasting.skipQuestion { b with leftEarButtonState := true })
          · exact congrArg Lasting.dl
              (playerClosed_lasting.skipQuestion { b with rightEarButtonState := true })
          · rfl
      | chargingStatus => rfl
      | batteryPercent => rfl
      | turnTablePosition => rfl

omit [CJson] in
theorem writeFrame_within (b : Box) (now address len : ℕ) (data : Bytes) :
    Within (b.MayWrite (.write now address len data)) (fun _ => False) b.dl.card
      (b.writeFrame now address len data).dl.card := by
  by_cases hreg : writeReg? address len = some .volumeControl
  · unfold writeFrame
    rw [hreg]
    dsimp only [writeRegister]
    split_ifs with hdown hup
    · exact .writeFile b.dl.card _ ⟨hreg, .inr hdown, rfl⟩
    · exact .writeFile b.dl.card _ ⟨hreg, .inl hup, rfl⟩
    · exact .refl _
  · exact within_of_eq (congrArg Downloader.card (writeFrame_dl hreg now data))

omit [CJson] in
/-- All commands but those that store credentials or name the box leave the card and the connection
alone. -/
theorem bleCommand_dl {b b' : Box} {now : ℕ} {msgType : ℤ} {json : Json}
    {s : Wifi.CredentialsScript} (h : b.bleCommand now msgType json s = some b')
    (hcredentials : msgType ≠ 1) (hname : msgType ≠ 4) : b'.dl = b.dl := by
  unfold bleCommand at h
  split at h
  · exact absurd rfl hcredentials
  · obtain ⟨volume, -, rfl⟩ := Option.map_eq_some_iff.1 h
    rfl
  · simp only [Option.bind_eq_bind, Option.bind_eq_some_iff] at h
    obtain ⟨state, -, duration, -, color, -, blue, -, hb⟩ := h
    rw [← Option.some.inj hb]
  · exact absurd rfl hname
  · obtain ⟨url, -, rfl⟩ := Option.map_eq_some_iff.1 h
    rfl
  · simp only [Option.bind_eq_bind, Option.bind_eq_some_iff] at h
    obtain ⟨item, -, userNo, -, hb⟩ := h
    have hverify : ∀ user userNo, b.verifyUserID now user userNo = some b' → b'.dl = b.dl := by
      intro user userNo hb
      rcases verifyUserID_cases hb with ⟨-, rfl⟩ | ⟨-, rfl⟩ | ⟨-, -, rfl⟩ <;> rfl
    split at hb
    · exact hverify _ _ hb
    · split at hb
      · cases hb
      · exact hverify _ _ hb
  · obtain rfl := Option.some.inj h
    rfl

omit [CJson] in
theorem bleCommand_credentials {b b' : Box} {now : ℕ} {json : Json} {s : Wifi.CredentialsScript}
    (h : b.bleCommand now 1 json s = some b') : ∃ ssid password,
      json.stringField? (str "ssid") = some ssid ∧ json.stringField? (str "password") = some password ∧
        b' = b.setWifi (b.dl.wifi.bleWriteCredentials s ⟨ssid, password⟩).2 := by
  simp only [bleCommand, Option.bind_eq_bind, Option.bind_eq_some_iff] at h
  obtain ⟨ssid, ⟨field, hssid, hcopied⟩, password, ⟨field', hpassword, hcopied'⟩, hb⟩ := h
  obtain rfl := eq_of_strcpy hcopied
  obtain rfl := eq_of_strcpy hcopied'
  exact ⟨ssid, password, hssid, hpassword, (Option.some.inj hb).symm⟩

omit [CJson] in
theorem bleCommand_boxName {b b' : Box} {now : ℕ} {json : Json} {s : Wifi.CredentialsScript}
    (h : b.bleCommand now 4 json s = some b') : ∃ name, json.stringField? (str "boxName") = some name ∧
      b' = b.setCard ((b.dl.card.writeFile boxNamePath
        (name ++ List.replicate (100 - name.length) 0)).getD b.dl.card) := by
  simp only [bleCommand, writeBoxName, Option.bind_eq_bind, Option.bind_eq_some_iff] at h
  obtain ⟨name, hname, copied, hcopied, hb⟩ := h
  obtain rfl := eq_of_strcpy hcopied
  exact ⟨copied, hname, (Option.some.inj hb).symm⟩

omit [CJson] in
/-- The one command that writes is the one that names the box. -/
theorem bleCommand_within {b b' : Box} {now : ℕ} {msgType : ℤ} {json : Json}
    {s : Wifi.CredentialsScript} (h : b.bleCommand now msgType json s = some b') :
    Within (fun q => q = boxNamePath) (fun _ => False) b.dl.card b'.dl.card := by
  by_cases hname : msgType = 4
  · subst hname
    obtain ⟨name, -, rfl⟩ := bleCommand_boxName h
    exact .writeFile b.dl.card _ rfl
  · by_cases hcredentials : msgType = 1
    · subst hcredentials
      obtain ⟨ssid, password, -, -, rfl⟩ := bleCommand_credentials h
      exact .refl _
    · exact within_of_eq (congrArg Downloader.card (bleCommand_dl h hcredentials hname))

/-- What is no command leaves the card and the connection alone. -/
theorem onWrite_dl {b b' : Box} {now : ℕ} {uuid : BleUuid} {value : Bytes}
    {s : Wifi.CredentialsScript} (h : b.onWrite now uuid value s = some b')
    (huuid : uuid ≠ .writeCommand) : b'.dl = b.dl := by
  unfold onWrite at h
  split at h
  · obtain rfl := Option.some.inj h
    rfl
  · split at h
    · obtain rfl := Option.some.inj h
      rfl
    · cases uuid with
      | writeInitialize =>
          simp only [systemInitialize, Option.bind_eq_bind, Option.bind_eq_some_iff] at h
          obtain ⟨ssid, -, password, -, user, -, s, -, p, -, u, -, hb⟩ := h
          rw [← Option.some.inj hb]
          rfl
      | writeCommand => exact absurd rfl huuid
      | other =>
          obtain rfl := Option.some.inj h
          rfl

theorem onWrite_within {b b' : Box} {now : ℕ} {uuid : BleUuid} {value : Bytes}
    {s : Wifi.CredentialsScript} (h : b.onWrite now uuid value s = some b') :
    Within (b.MayWrite (.ble now uuid value s)) (fun _ => False) b.dl.card b'.dl.card := by
  by_cases huuid : uuid = .writeCommand
  · subst huuid
    rw [onWrite_command] at h
    split at h
    · exact (bleCommand_within h).mono (fun q hq => ⟨rfl, hq⟩) fun _ hnot => hnot
    · obtain rfl := Option.some.inj h
      exact .refl _
  · exact within_of_eq (congrArg Downloader.card (onWrite_dl h huuid))

/-- **One step** writes what it may write, and takes away no more than it may. -/
theorem step_within {b b' : Box} {e : BoxEvent} (h : b.step e = some b') :
    Within (b.MayWrite e) (b.MayRemove e) b.dl.card b'.dl.card := by
  cases e with
  | handler env => exact handler_within h
  | read now data =>
      obtain rfl := Option.some.inj h
      exact within_of_eq (by rw [readFrame_dl]; rfl)
  | write now address len data =>
      obtain rfl := Option.some.inj h
      exact writeFrame_within b now address len data
  | ble now uuid value s => exact onWrite_within h
  | pipeline writer =>
      obtain rfl := Option.some.inj h
      exact .refl _
  | station e =>
      obtain rfl := Option.some.inj h
      exact .refl _

/-! ## One step and the credentials file -/

/-- The WiFi object has a file of its own on the card: it is stored by the handler when it tries the
credentials of the first initialisation, and by a client's command to change them. -/
def MayStoreCredentials (b : Box) : BoxEvent → Prop
  | .handler _ => b.state = .initWifiCheck
  | .ble _ uuid value _ => uuid = .writeCommand ∧ ∃ c ∈ b.dispatched? value, c.msgType = 1
  | _ => False

/-- A verification connects and disconnects. -/
theorem verifyUserIdWithServer_credentialsFile (b : Box) (s : VerifyScript) :
    (b.verifyUserIdWithServer s).2.dl.wifi.credentialsFile = b.dl.wifi.credentialsFile := by
  refine verifyUserIdWithServer_induction
    (P := fun b' => b'.dl.wifi.credentialsFile = b.dl.wifi.credentialsFile) ?_ ?_ ?_ ?_
  · unfold withToken
    split
    · rfl
    · exact Downloader.downloadToken_credentialsFile b.dl.new _ _ _
  · exact fun b' h => ⟨(Wifi.credentialsFile_connect _ _).trans h,
      (Wifi.credentialsFile_disconnect _ _).trans h⟩
  · exact fun b' h => h
  · intro b' json h
    rw [registerUser_wifi]
    exact h

/-- Of the states of the handler, only the one that tries new credentials may change their file. -/
theorem handler_credentialsFile {b b' : Box} {env : HandlerEnv} (h : b.handler env = some b')
    (hwifi : b.state ≠ .initWifiCheck) :
    b'.dl.wifi.credentialsFile = b.dl.wifi.credentialsFile := by
  cases handler_step h with
  | playing hother hstep =>
      have hdl : b'.dl = b.dl := congrArg Lasting.dl (playerClosed_lasting.handler hstep hother)
      rw [hdl]
  | idle => rw [handleIdle_dl]
  | toyDetected =>
      unfold handleToyDetected
      dsimp only
      split <;> rfl
  | initWifiCheck hstate => exact absurd hstate hwifi
  | initUserIdCheck =>
      have hdl : (b.handleInitUserIdCheck env).dl = (b.verifyUserIdWithServer env.verify).2.dl := by
        unfold handleInitUserIdCheck
        dsimp only
        split <;> rfl
      rw [hdl]
      exact verifyUserIdWithServer_credentialsFile b env.verify
  | downloadWifiConn =>
      have hconfigured : b.dl.wifi.init.2.configSdCardCredentials.2.credentialsFile =
          b.dl.wifi.credentialsFile := by
        unfold Wifi.configSdCardCredentials Wifi.readCredentials
        dsimp only
        split <;> rfl
      have htone : ∀ w, ((b.setWifi w).toneThen env.now downloadStartTone .downloadToy).dl =
          (b.setWifi w).dl := by
        intro w
        exact congrArg Lasting.dl
          (playerClosed_lasting.toneThen (b.setWifi w) env.now downloadStartTone .downloadToy)
      unfold handleDownloadWifiConn
      dsimp only
      split
      · split
        · split
          · rw [htone]
            exact (Wifi.credentialsFile_connect _ _).trans hconfigured
          · exact (Wifi.credentialsFile_connect _ _).trans hconfigured
        · exact hconfigured
      · rfl
  | downloadToy =>
      obtain ⟨w, hw, hconfined⟩ := Downloader.begin_confined b.dl b.toy env.download.atomic
      have hconnect := Wifi.credentialsFile_connect b.dl.wifi env.download.atomic.connect
      show (b.dl.begin b.toy env.download.atomic).2.wifi.credentialsFile = _
      rw [hconfined.wifi]
      rcases hw with rfl | rfl
      · exact hconnect
      · exact (Wifi.credentialsFile_connect _ _).trans hconnect

/-- **One step** that stores no credentials leaves their file as it is. -/
theorem step_credentialsFile {b b' : Box} {e : BoxEvent} (h : b.step e = some b')
    (hnot : ¬ b.MayStoreCredentials e) :
    b'.dl.wifi.credentialsFile = b.dl.wifi.credentialsFile := by
  cases e with
  | handler env => exact handler_credentialsFile h hnot
  | read now data =>
      obtain rfl := Option.some.inj h
      rw [readFrame_dl]
      rfl
  | write now address len data =>
      obtain rfl := Option.some.inj h
      by_cases hreg : writeReg? address len = some .volumeControl
      · unfold writeFrame
        rw [hreg]
        dsimp only [writeRegister]
        split_ifs <;> rfl
      · rw [writeFrame_dl hreg]
  | ble now uuid value s =>
      by_cases huuid : uuid = .writeCommand
      · subst huuid
        change b.onWrite now .writeCommand value s = some b' at h
        rw [onWrite_command] at h
        cases hdispatched : b.dispatched? value with
        | none =>
            rw [hdispatched] at h
            obtain rfl := Option.some.inj h
            rfl
        | some c =>
            rw [hdispatched] at h
            have hcommand : c.msgType ≠ 1 := fun hmsg => hnot ⟨rfl, c, hdispatched, hmsg⟩
            by_cases hname : c.msgType = 4
            · dsimp only at h
              rw [hname] at h
              obtain ⟨name, -, rfl⟩ := bleCommand_boxName h
              rfl
            · rw [bleCommand_dl h hcommand hname]
      · rw [onWrite_dl h huuid]
  | pipeline writer =>
      obtain rfl := Option.some.inj h
      rfl
  | station e =>
      obtain rfl := Option.some.inj h
      exact congrArg Wifi.Settings.credentialsFile (Wifi.unaffected_settings.event b.dl.wifi e)

/-! ## Runs -/

/-- What a run has left of the card it started with. -/
structure CardOwned (b₀ : Box) (trace : List (Box × BoxEvent)) (b : Box) : Prop where
  /-- no folder is gone, and the new ones are toys' -/
  dirs : ∀ p ∈ b₀.dl.card.dirs, p ∈ b.dl.card.dirs
  folders : NewFolders b₀.dl.card b.dl.card
  /-- a file that is not as it was, was changed by a step that may -/
  content : ∀ q, b.dl.card.content? q ≠ b₀.dl.card.content? q → ∃ x ∈ trace, x.1.MayWrite x.2 q
  /-- the file of the credentials too -/
  credentials : b.dl.wifi.credentialsFile ≠ b₀.dl.wifi.credentialsFile →
    ∃ x ∈ trace, x.1.MayStoreCredentials x.2
  /-- a file that is gone was a temporary one of a download -/
  hasFile : ∀ q, b₀.dl.card.hasFile q → ¬ b.dl.card.hasFile q → ∃ x ∈ trace, x.1.MayRemove x.2 q

/-- **Everyone writes what is theirs.** In every run, from any box, every file that has changed, that of the
credentials included, was changed by the task that owns it, in a state in which it may; no folder is lost,
and of the files only temporary ones are. -/
theorem card_owned {ok : Box → BoxEvent → Prop} {b₀ b : Box} {trace : List (Box × BoxEvent)}
    (h : Path (fun b e b' => step b e = some b') ok b₀ trace b) : CardOwned b₀ trace b where
  dirs p hp := h.reached.invariant (I := fun b => p ∈ b.dl.card.dirs) hp
    fun _ _ _ hmem _ hstep => (step_within hstep).dirs p hmem
  folders := h.reached.invariant (I := fun b => NewFolders b₀.dl.card b.dl.card) (.of_eq rfl)
    fun _ _ _ hnew _ hstep => hnew.trans (step_within hstep).folders
  content q hq := by
    obtain ⟨before, x, b', after, rfl, -, -, hstep, hsame, hchanged, -, -⟩ :=
      h.since (P := fun b => b.dl.card.content? q ≠ b₀.dl.card.content? q) (fun hne => hne rfl) hq
    refine ⟨x, List.mem_append_right _ List.mem_cons_self, ?_⟩
    by_contra hnot
    exact hchanged (((step_within hstep).content q hnot).trans (not_not.1 hsame))
  credentials hne := by
    obtain ⟨before, x, b', after, rfl, -, -, hstep, hsame, hchanged, -, -⟩ :=
      h.since (P := fun b => b.dl.wifi.credentialsFile ≠ b₀.dl.wifi.credentialsFile)
        (fun hne => hne rfl) hne
    refine ⟨x, List.mem_append_right _ List.mem_cons_self, ?_⟩
    by_contra hnot
    exact hchanged ((step_credentialsFile hstep hnot).trans (not_not.1 hsame))
  hasFile q hq hgone := by
    obtain ⟨before, x, b', after, rfl, -, -, hstep, hthere, hlost, -, -⟩ :=
      h.since (P := fun b => ¬ b.dl.card.hasFile q) (not_not_intro hq) hgone
    refine ⟨x, List.mem_append_right _ List.mem_cons_self, ?_⟩
    by_contra hnot
    exact hlost ((step_within hstep).hasFile q hnot (not_not.1 hthere))

end

/-- A card with the startup tone and the folder of the settings. -/
def startupCard : Card where
  dirs := [str "/sdcard", str "/sdcard/media", str "/sdcard/data"]
  files := [(startupTone, [])]
  files_nodup := List.nodup_singleton _
  files_in_dirs := by decide

def startupBox : Box := boot startupCard (Wifi.boot none) 100 0

/-- The startup tone plays, and the volume is turned down. -/
def pressVolume : List BoxEvent := [handlerStep, handlerStep, .write 0 0x3000 1 [2]]

theorem card_owned_pressVolume :
    ∃ b, runList (@step writeParser) startupBox pressVolume = some b ∧
      b.dl.card.content? volumePath ≠ startupBox.dl.card.content? volumePath ∧
      @CardOwned writeParser startupBox (history (@step writeParser) startupBox pressVolume) b := by
  have hruns : (runGuarded (@step writeParser) (fun _ _ => True) startupBox pressVolume).any
      (fun b => b.dl.card.content? volumePath ≠ startupBox.dl.card.content? volumePath) = true := by
    decide +kernel
  obtain ⟨b, hb, hchanged⟩ := (Option.any_eq_true _ _).1 hruns
  exact ⟨b, runList_of_runGuarded hb, of_decide_eq_true hchanged,
    @card_owned writeParser _ _ _ _ (path_of_runGuarded pressVolume hb)⟩

end Box

end Cubbies
