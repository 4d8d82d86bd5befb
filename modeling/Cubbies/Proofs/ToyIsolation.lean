import Cubbies.Proofs.Durability
import Cubbies.Proofs.MetadataFile
import Cubbies.Proofs.OwnFolder

set_option autoImplicit false

/-! # Toys are isolated

The content of each toy lies in a folder of its own. A download goes by the toy it was called for, by
the tag on the box, and by the metadata file a request that was cut off has left open
(`begin_toyContents`). In a session all three come from a download that was made with the toy on the
box, so without one the folder of the toy is, byte for byte, what it was when the card was put in:
`toys_isolated`. -/

namespace Cubbies

open CString Runs

namespace Downloader

/-! ## What a download may write below the toys folder -/

/-- The files in the folders of this toy and of the tags in `Q`, and the metadata files of those in
`M`. -/
def DownloadPath (Q M : Bytes → Prop) (toy q : Bytes) : Prop :=
  (ownFolder toy <+: q ∨ q = errorPath toy) ∨
    ∃ tag, Q tag ∧ ownFolder tag <+: q ∨ M tag ∧ q = metadataPath tag

/-- From `c` to `c'` no toy's file but those in `P` got another content. -/
def ToyContents (P : Bytes → Prop) (c c' : Card) : Prop :=
  ∀ q, toysPath <+: q → ¬ P q → c'.content? q = c.content? q

namespace ToyContents

variable {P P' T : Bytes → Prop} {c c' c₁ c₂ c₃ : Card}

theorem refl (c : Card) : ToyContents P c c := fun _ _ _ => rfl

theorem trans (h : ToyContents P c₁ c₂) (h' : ToyContents P c₂ c₃) : ToyContents P c₁ c₃ :=
  fun q hq hnot => (h' q hq hnot).trans (h q hq hnot)

theorem of_within (h : Within P' T c c') (hP : ∀ q, toysPath <+: q → P' q → P q) :
    ToyContents P c c' :=
  fun q hq hnot => h.content q fun hp => hnot (hP q hq hp)

/-- A file in `P` is written at once. -/
theorem writeFile (d : Downloader) {path : Bytes} (content : Bytes) (hpath : P path) :
    ToyContents P d.card (d.writeFile path content).card :=
  of_within (writeFile_within (P := P) (T := fun _ => False) d content hpath) fun _ _ h => h

end ToyContents

/-- The tag on the box is in `Q`, and the metadata file, if it is open, is that of a tag in `Q` or
`M`. -/
structure TagsIn (Q M : Bytes → Prop) (d : Downloader) : Prop where
  tag : Q d.tagUid
  file : ∀ tag ∈ d.metadataFile, Q tag ∨ M tag

section

variable {Q M : Bytes → Prop} {toy : Bytes} {d : Downloader}

theorem ownFolder_metadataPath (tag : Bytes) : ownFolder tag <+: metadataPath tag :=
  List.prefix_append _ _

theorem length_ownFolder {tag : Bytes} (h : IsTag tag) : (ownFolder tag).length < 256 := by
  have htoys : toysPath.length = 19 := by decide
  have hslash : (str "/").length = 1 := by decide
  unfold ownFolder
  rw [List.length_append, List.length_append, htoys, hslash]
  rcases h with rfl | ⟨uid, rfl⟩
  · decide
  · rw [length_uidText]
    decide

/-- A file is in the folder of one tag only. -/
theorem eq_of_ownFolder {uid : Uid} {tag q : Bytes} (htag : IsTag tag)
    (hq : ownFolder (uidText uid) <+: q) (h : ownFolder tag <+: q) : tag = uidText uid := by
  obtain ⟨name, rfl⟩ := h
  exact (inOwn_tagPath_iff htag name).1 fun _ => hq

theorem eq_of_errorPath {uid : Uid} {tag : Bytes} (htag : IsTag tag)
    (hq : ownFolder (uidText uid) <+: errorPath tag) : tag = uidText uid := by
  by_cases hnil : tag = []
  · -- without a toy there is no slash behind the folder of the toys
    exfalso
    unfold errorPath ownFolder at hq
    rw [if_pos hnil, List.append_assoc, List.prefix_append_right_inj] at hq
    have hslash : (47 : UInt8) ∈ str "err.cubbies" := hq.subset (by simp [str])
    exact absurd hslash (by decide)
  · rw [errorPath_eq hnil] at hq
    exact eq_of_ownFolder htag hq (List.prefix_append _ _)

/-- A download for other tags writes nothing in this toy's folder. -/
theorem not_downloadPath {uid : Uid} {tag toy q : Bytes} {file : Option Bytes}
    (htag : IsTag tag ∧ tag ≠ uidText uid) (htoy : IsTag toy ∧ toy ≠ uidText uid)
    (hfile : ∀ t ∈ file, IsTag t ∧ t ≠ uidText uid) (hq : ownFolder (uidText uid) <+: q) :
    ¬ DownloadPath (fun t => t = tag) (fun t => t ∈ file) toy q := by
  rintro ((hown | rfl) | ⟨t, ⟨rfl, hown⟩ | ⟨hopen, rfl⟩⟩)
  · exact htoy.2 (eq_of_ownFolder htoy.1 hq hown)
  · exact htoy.2 (eq_of_errorPath htoy.1 hq)
  · exact htag.2 (eq_of_ownFolder htag.1 hq hown)
  · obtain ⟨htext, hne⟩ := hfile t hopen
    exact hne (eq_of_ownFolder htext hq (ownFolder_metadataPath t))

theorem toysPath_of_ownFolder {tag q : Bytes} (h : ownFolder tag <+: q) : toysPath <+: q := by
  refine List.IsPrefix.trans ?_ h
  unfold ownFolder
  rw [List.append_assoc]
  exact toysPath_prefix_append _

/-! ## The token and the folder of the toy -/

theorem createFolders_content (d : Downloader) (q : Bytes) :
    d.createFolders.card.content? q = d.card.content? q := by
  unfold createFolders
  split
  · next c h => exact Card.content?_mkdir h q
  · rfl

/-- The error file of the token request is the toy's. -/
theorem requestToken_toyContents (d : Downloader) (s : BeginScript) :
    ToyContents (DownloadPath Q M d.toy) d.card (d.requestToken s).card := by
  have htoy : d.createFolders.toy = d.toy := congrArg Kept.toy (SideStep.createFolders d).kept
  have htoken := downloadToken_within d.createFolders s.tokenConnect s.token s.errorTail
  rw [htoy] at htoken
  have hfolders : ToyContents (DownloadPath Q M d.toy) d.card d.createFolders.card :=
    fun q _ _ => createFolders_content d q
  exact hfolders.trans (.of_within htoken fun q _ hq => .inl (.inr hq))

/-! ## The master JSON -/

theorem TagsIn.masterData (h : TagsIn Q M d) (data : Bytes) : TagsIn Q M (d.masterData data) where
  tag := (masterData_tagUid d data).symm ▸ h.tag
  file := masterData_metadataFile (Q := fun tag => Q tag ∨ M tag) (.inl h.tag) h.file data

/-- A chunk goes to the metadata file that is open, or to that of the tag on the box. -/
theorem masterData_toyContents (h : TagsIn Q M d) (data : Bytes) :
    ToyContents (DownloadPath Q M toy) d.card (d.masterData data).card := by
  have hfwrite : ∀ (c : Card) (tag : Bytes), Q tag ∨ M tag →
      ToyContents (DownloadPath Q M toy) c (c.fwrite (metadataPath tag) data) := by
    intro c tag htag q _ hnot
    rw [Card.content?_fwrite, if_neg]
    intro heq
    refine hnot (.inr ⟨tag, ?_⟩)
    exact htag.imp (fun hQ => ⟨hQ, heq ▸ ownFolder_metadataPath tag⟩) fun hM => ⟨hM, heq⟩
  unfold Downloader.masterData
  split
  · exact .refl _
  · dsimp only
    split
    · next tag hopen => exact hfwrite d.card tag (h.file tag hopen)
    · have hmade : ToyContents (DownloadPath Q M toy) d.card
          (createDirectory d.card (toysPath ++ d.tagUid ++ str "/")).1 :=
        fun q _ _ => content?_createDirectory _ _ q
      split
      · split
        · exact hmade
        · next d' hopened =>
            obtain ⟨c, hc, rfl⟩ := Option.map_eq_some_iff.1 hopened
            refine (hmade.trans ?_).trans (hfwrite c d.tagUid (.inl h.tag))
            intro q _ hnot
            rw [Card.content?_fopenWrite hc, if_neg]
            intro heq
            exact hnot (.inr ⟨d.tagUid, .inl ⟨h.tag, heq ▸ ownFolder_metadataPath d.tagUid⟩⟩)
      · exact hmade

/-- The small files are in the folder of the tag on the box. -/
theorem ownFolder_fieldFiles (hd : IsTag d.tagUid) (j : Json) :
    ∀ file ∈ d.fieldFiles j, ownFolder d.tagUid <+: file.1 := by
  have hlen := length_ownFolder hd
  have hshort : snprintf 256 (toysPath ++ d.tagUid) = toysPath ++ d.tagUid := by
    refine snprintf_eq_self ?_
    unfold ownFolder at hlen
    rw [List.length_append] at hlen
    omega
  have hname : ∀ name : Bytes, ownFolder d.tagUid <+: toysPath ++ d.tagUid ++ (47 :: name) := by
    intro name
    refine ⟨name, ?_⟩
    unfold ownFolder
    rw [List.append_assoc _ (str "/")]
    rfl
  intro file hfile
  unfold fieldFiles at hfile
  rw [hshort] at hfile
  simp only [List.mem_cons, List.not_mem_nil, or_false] at hfile
  rcases hfile with rfl | rfl | rfl | rfl <;> exact hname _

theorem storeFiles_toyContents (hd : IsTag d.tagUid) (htag : Q d.tagUid) (j : Json) :
    ToyContents (DownloadPath Q M toy) d.card (d.storeFiles j).card := by
  intro q _ hnot
  rw [storeFiles_eq]
  refine content?_storeFields d fun file hfile heq => hnot (.inr ⟨d.tagUid, .inl ⟨htag, ?_⟩⟩)
  exact heq ▸ ownFolder_fieldFiles hd j file hfile

section

variable [CJson]

theorem masterFinish_toyContents (hd : IsTag d.tagUid) (htag : Q d.tagUid) :
    ToyContents (DownloadPath Q M toy) d.card d.masterFinish.card := by
  unfold masterFinish
  dsimp only
  split
  · next response _ =>
      unfold parseAndStoreMetadata
      split
      · exact .refl _
      · next j _ =>
          generalize hd' : ({ { d with metadataFile := none } with
            received := (d.toy, j) :: d.received } : Downloader).storeLists j = d'
          have hlists := storeLists_card ({ { d with metadataFile := none } with
            received := (d.toy, j) :: d.received } : Downloader) j
          rw [hd'] at hlists
          obtain ⟨hcard, huid⟩ := hlists
          change d'.card = d.card at hcard
          change d'.tagUid = d.tagUid at huid
          rw [← hcard]
          exact storeFiles_toyContents (huid ▸ hd) (huid ▸ htag) j
  · exact .refl _

/-- **The request for the master JSON.** -/
theorem downloadMasterJson_toyContents (hQ : ∀ tag, Q tag → IsTag tag) (h : TagsIn Q M d)
    {x : Exchange} (hx : ∀ uid ∈ x.frames, Q (uidText uid)) :
    TagsIn Q M (d.downloadMasterJson x) ∧
      ToyContents (DownloadPath Q M toy) d.card (d.downloadMasterJson x).card := by
  refine Callback.perform_induction (P := fun e : Downloader =>
    TagsIn Q M e ∧ ToyContents (DownloadPath Q M toy) d.card e.card) ⟨h, .refl _⟩
    (fun _ _ _ he => he) ?_ ?_ (fun _ he => ⟨⟨he.1.tag, he.1.file⟩, he.2⟩) ?_
  · rintro e data ⟨he, hcontents⟩
    exact ⟨he.masterData data, hcontents.trans (masterData_toyContents he data)⟩
  · rintro e ⟨he, hcontents⟩
    refine ⟨⟨(masterFinish_tagUid e).symm ▸ he.tag, ?_⟩,
      hcontents.trans (masterFinish_toyContents (hQ _ he.tag) he.tag)⟩
    intro tag htag
    have hclosed : (masterJsonCallback.onFinish e).metadataFile = none := masterFinish_metadataFile e
    rw [hclosed] at htag
    cases htag
  · rintro e uid huid ⟨he, hcontents⟩
    exact ⟨⟨hx uid huid, he.file⟩, hcontents⟩

end

/-! ## The files -/

/-- A direction file goes to the folder of the toy, whatever its name is. -/
theorem downloadFile_toyContents (htoy : IsTag d.toy) (dirFileName : Bytes) (x : Exchange) :
    ToyContents (DownloadPath Q M d.toy) d.card (d.downloadFile dirFileName x).card := by
  have hperform : ∀ d₁ : Downloader, d₁.card = d.card → d₁.toy = d.toy →
      (directionCallback.perform frame d₁ x).2.card = d.card ∧
        (directionCallback.perform frame d₁ x).2.toy = d.toy := by
    intro d₁ hcard hsame
    refine Callback.perform_induction (P := fun e : Downloader => e.card = d.card ∧ e.toy = d.toy)
      ⟨hcard, hsame⟩ (fun _ _ _ h => h) ?_ (fun _ h => h) (fun _ h => h) fun _ _ _ h => h
    intro e data he
    dsimp only [directionCallback]
    split <;> exact he
  unfold downloadFile
  dsimp only
  generalize hd' : ({ d with
    outputBuffer := []
    outputLen := 0
    requests := .directionFile dirFileName (snprintf 256 (d.baseUrl ++ dirFileName)) :: d.requests }
      : Downloader) = d'
  obtain ⟨hcard, hsame⟩ := hperform d' (hd' ▸ rfl) (hd' ▸ rfl)
  generalize directionCallback.perform frame d' x = r at hcard hsame ⊢
  rw [← hcard, ← hsame]
  split
  · split
    · next direction _ =>
        refine .writeFile r.2 _ (.inl (.inl ?_))
        rw [show toysPath ++ r.2.toy ++ str "/" ++ direction ++ str ".cubbies" =
          ownFolder r.2.toy ++ (direction ++ str ".cubbies") by rw [List.append_assoc]; rfl]
        exact snprintf_prefix (length_ownFolder (hsame.symm ▸ htoy))
    · exact .refl _
  · exact .refl _

theorem processDirectionFiles_toyContents (htoy : IsTag d.toy) (s : ℕ → DirectionScript)
    (slots : List (Option Bytes)) :
    ToyContents (DownloadPath Q M d.toy) d.card (d.processDirectionFiles s slots).card := by
  induction slots generalizing d s with
  | nil => exact .refl _
  | cons slot slots ih =>
      unfold processDirectionFiles
      dsimp only
      split
      · next dirFileName _ =>
          have hsame : (d.downloadFile dirFileName (s 0).exchange).toy = d.toy :=
            congrArg Kept.toy (SideStep.downloadFile d dirFileName (s 0).exchange).kept
          have hrest := ih (d := d.downloadFile dirFileName (s 0).exchange) (hsame ▸ htoy)
            fun i => s (i + 1)
          rw [hsame] at hrest
          exact (downloadFile_toyContents htoy dirFileName (s 0).exchange).trans hrest
      · exact ih htoy _

/-- The marker is that of the tag on the box. -/
theorem createVerifiedFile_toyContents (htag : Q d.tagUid) (seconds : ℕ) :
    ToyContents (DownloadPath Q M toy) d.card (d.createVerifiedFile seconds).card := by
  refine .of_within (createVerifiedFile_within d seconds) ?_
  rintro q - rfl
  refine .inr ⟨d.tagUid, .inl ⟨htag, str "verify.txt", ?_⟩⟩
  unfold ownFolder
  rw [List.append_assoc]
  rfl

/-- The audio files are no toy's, the marker is that of the tag on the box. -/
theorem processAudioFiles_toyContents (s : ℕ → AudioScript) (seconds : ℕ)
    (htag : Q (d.processAudioFiles s seconds).2.tagUid) :
    ToyContents (DownloadPath Q M toy) d.card (d.processAudioFiles s seconds).2.card := by
  unfold processAudioFiles at htag ⊢
  cases hlist : listFiles d.card audioPath with
  | none => exact .refl _
  | some sdFiles =>
      rw [hlist] at htag
      dsimp only at htag ⊢
      have hall := downloadAll_within d s (d.nServer.filter fun name => ¬ isDuplicate sdFiles name)
      have hfiles := ToyContents.of_within (P := DownloadPath Q M toy) hall
        fun q hq haudio => absurd hq (not_toysPath_of_audioPath haudio.below)
      generalize d.downloadAll s (d.nServer.filter fun name => ¬ isDuplicate sdFiles name) = r
        at htag hfiles ⊢
      split
      · next hmarks =>
          rw [if_pos hmarks] at htag
          rw [createVerifiedFile_tagUid] at htag
          exact hfiles.trans (createVerifiedFile_toyContents htag seconds)
      · exact hfiles

section

variable [CJson]

/-- The member `toy` is empty after a call, or the call has not connected. -/
theorem begin_toy (d : Downloader) (toy : Bytes) (s : BeginScript) :
    (d.begin toy s).2.toy = [] ∨ (d.begin toy s).2.toy = toy := by
  by_cases hconn : (d.wifi.connect s.connect).1 = 0
  · rw [processFiles_eq d toy s hconn]
    exact .inl rfl
  · rw [begin_eq, if_neg hconn]
    exact .inr rfl

/-- The tags read during the call are in `Q`. -/
structure BeginScript.Reads (s : BeginScript) (Q : Bytes → Prop) : Prop where
  token : ∀ uid ∈ s.token.frames, Q (uidText uid)
  master : ∀ uid ∈ s.master.frames, Q (uidText uid)
  direction : ∀ i, ∀ uid ∈ (s.direction i).exchange.frames, Q (uidText uid)
  audio : ∀ i k, ∀ uid ∈ ((s.audio i).attempts k).frames, Q (uidText uid)

omit [CJson] in
theorem requestToken_tagsIn (h : TagsIn Q M d) {s : BeginScript} (hs : s.Reads Q) :
    TagsIn Q M (d.requestToken s) where
  tag := requestToken_tagUid h.tag hs.token
  file := (requestToken_metadataFile d s).symm ▸ h.file

/-- **A whole download** writes below the toys folder for the toy it was called for, for the tags on the
box meanwhile, and to a metadata file that was left open. -/
theorem begin_toyContents (hQ : ∀ tag, Q tag → IsTag tag) (h : TagsIn Q M d) (htoy : IsTag toy)
    {s : BeginScript} (hs : s.Reads Q) :
    TagsIn Q M (d.begin toy s).2 ∧
      ToyContents (DownloadPath Q M toy) d.card (d.begin toy s).2.card := by
  have hentered : TagsIn Q M (d.entered toy s) := ⟨h.tag, h.file⟩
  by_cases hconn : (d.wifi.connect s.connect).1 = 0
  · rw [processFiles_eq d toy s hconn]
    have htoken := requestToken_toyContents (Q := Q) (M := M) (d.entered toy s) s
    obtain ⟨hmaster, hmasterContents⟩ : TagsIn Q M ((d.entered toy s).requestMasterJson s) ∧
        ToyContents (DownloadPath Q M toy) _ ((d.entered toy s).requestMasterJson s).card :=
      downloadMasterJson_toyContents hQ (requestToken_tagsIn hentered hs) hs.master
    have hsame : ((d.entered toy s).requestMasterJson s).toy = toy := by
      have hkept := congrArg Kept.toy (requestMasterJson_spec (d.entered toy s) s).2
      cases hj : (d.entered toy s).storedJson s with
      | none => rw [hj] at hkept; exact hkept
      | some j => rw [hj] at hkept; exact hkept
    have hdirections := processDirectionFiles_toyContents (Q := Q) (M := M)
      (d := (d.entered toy s).requestMasterJson s) (hsame.symm ▸ htoy) s.direction
      ((d.entered toy s).requestMasterJson s).directionFileNames
    rw [hsame] at hdirections
    have hbefore : TagsIn Q M (d.beforeAudio toy s) :=
      ⟨processDirectionFiles_tagUid hmaster.tag hs.direction,
        (processDirectionFiles_metadataFile _ _ _).symm ▸ hmaster.file⟩
    have htag : Q ((d.beforeAudio toy s).processAudioFiles s.audio s.seconds).2.tagUid :=
      processAudioFiles_tagUid s.seconds hbefore.tag hs.audio
    refine ⟨⟨htag, ?_⟩, ?_⟩
    · intro tag hmem
      exact hbefore.file tag (processAudioFiles_metadataFile (d.beforeAudio toy s) s.audio s.seconds ▸ hmem)
    · exact ((htoken.trans hmasterContents).trans hdirections).trans
        (processAudioFiles_toyContents s.audio s.seconds htag)
  · rw [begin_eq, if_neg hconn]
    exact ⟨hentered, .refl _⟩

end

end

end Downloader

namespace Downloader

/-! ## No frame is read meanwhile -/

theorem frames_atomic (x : Exchange) : x.atomic.frames = [] := by
  refine List.append_eq_nil_iff.2 ⟨List.filterMap_eq_nil_iff.2 ?_, rfl⟩
  intro e he
  have hkept := (List.mem_filter.1 he).2
  cases e with
  | frame uid => cases hkept
  | onHeader key value => rfl
  | onData data => rfl

theorem BeginScript.reads_atomic (s : BeginScript) (Q : Bytes → Prop) : s.atomic.Reads Q := by
  have hnone : ∀ x : Exchange, ∀ uid ∈ x.atomic.frames, Q (uidText uid) := by
    intro x uid huid
    rw [frames_atomic] at huid
    cases huid
  exact ⟨hnone _, hnone _, fun _ => hnone _, fun _ _ => hnone _⟩

end Downloader

namespace Box

open Downloader

/-! ## The box without the toy -/

/-- A download that is made while this toy is on the box. -/
def DownloadsFor (b : Box) (toy : Bytes) : BoxEvent → Prop
  | .handler _ => b.state = .downloadToy ∧ (b.toy = toy ∨ b.dl.tagUid = toy)
  | _ => False

/-- The texts the box has of tags are texts of tags, and nothing of this toy is left over from a
download. -/
structure Away (uid : Uid) (b : Box) : Prop where
  tag : IsTag b.dl.tagUid
  toy : IsTag b.toy
  member : IsTag b.dl.toy ∧ b.dl.toy ≠ uidText uid
  file : ∀ tag ∈ b.dl.metadataFile, IsTag tag ∧ tag ≠ uidText uid

/-- From `b` to `b'` the folder of this toy was left alone, and nothing of it is left over. -/
structure LeavesToy (uid : Uid) (b b' : Box) : Prop where
  away : Away uid b'
  content : ∀ q, ownFolder (uidText uid) <+: q → b'.dl.card.content? q = b.dl.card.content? q

/-- Outside the downloader nothing is written to toys. -/
theorem Away.outside {uid : Uid} {b b' : Box} (h : Away uid b) (hout : Outside b b')
    (htoy : IsTag b'.toy) : Away uid b' := by
  obtain ⟨card, wifi, hdl⟩ := hout
  refine ⟨?_, htoy, ?_, ?_⟩ <;> rw [hdl]
  · exact h.tag
  · exact h.member
  · exact h.file

theorem isTag_of_core {b b' : Box} (hcore : b'.core = b.core) (h : IsTag b.toy) : IsTag b'.toy := by
  have htoy : b'.toy = b.toy := congrArg Core.toy hcore
  rwa [htoy]

theorem isTag_readFrame {b : Box} (h : IsTag b.toy) (now : ℕ) (data : Bytes) :
    IsTag (b.readFrame now data).toy := by
  rcases readFrame_outcome b now data with ⟨hremoves, -⟩ | ⟨-, hcore, -⟩ | ⟨hcore, -⟩
  · obtain ⟨commands, heq⟩ := readFrame_removal now hremoves
    rw [heq]
    exact .inl rfl
  · have htoy : (b.readFrame now data).toy = frameTag data := congrArg Core.toy hcore
    rw [htoy]
    exact isTag_uidText (frameUid data)
  · exact isTag_of_core hcore h

section

variable [CJson]

/-- What a handler step does to the toy on the box, and to the downloader. -/
theorem handler_outside {b b' : Box} {env : HandlerEnv} (h : b.handler env = some b') :
    b'.toy = b.toy ∧ (Outside b b' ∨
      b.state = .initUserIdCheck ∧ b' = b.handleInitUserIdCheck env ∨
        b.state = .downloadToy ∧ b' = b.handleDownloadToy env) := by
  cases handler_step h with
  | playing hother hstep =>
      have hlasting := playerClosed_lasting.handler hstep hother
      exact ⟨congrArg Lasting.toy hlasting, .inl (KeepsLasting.outside hlasting)⟩
  | idle =>
      exact ⟨congrArg Core.toy (handleIdle_keeps b env.now).1.core, .inl (handleIdle_outside b env.now)⟩
  | toyDetected =>
      exact ⟨congrArg Core.toy (handleToyDetected_keeps b env.now).1.core,
        .inl (handleToyDetected_outside b env.now)⟩
  | initWifiCheck =>
      exact ⟨congrArg Core.toy (handleInitWifiCheck_keeps b env).1.core,
        .inl (handleInitWifiCheck_outside b env)⟩
  | initUserIdCheck hstate =>
      exact ⟨congrArg Core.toy (handleInitUserIdCheck_spec b env).1, .inr (.inl ⟨hstate, rfl⟩)⟩
  | downloadWifiConn =>
      exact ⟨congrArg Core.toy (handleDownloadWifiConn_keeps b env).1.core,
        .inl (handleDownloadWifiConn_outside b env)⟩
  | downloadToy hstate => exact ⟨rfl, .inr (.inr ⟨hstate, rfl⟩)⟩

omit [CJson] in
/-- A request for the token leaves what the downloader knows of tags alone. -/
theorem downloadToken_tags (d : Downloader) (connect : WaitScript) (x : Exchange) (tail : Bytes) :
    (d.downloadToken connect x.atomic tail).tagUid = d.tagUid ∧
      (d.downloadToken connect x.atomic tail).toy = d.toy ∧
        (d.downloadToken connect x.atomic tail).metadataFile = d.metadataFile := by
  refine ⟨?_, congrArg Kept.toy (SideStep.downloadToken d connect x.atomic tail).kept,
    downloadToken_metadataFile d connect x.atomic tail⟩
  refine downloadToken_tagUid (Q := fun tag => tag = d.tagUid) rfl ?_
  rw [frames_atomic]
  exact List.forall_mem_nil _

theorem Away.verifies {uid : Uid} {b : Box} (h : Away uid b) (env : HandlerEnv)
    (htoy : (b.handleInitUserIdCheck env).toy = b.toy) : Away uid (b.handleInitUserIdCheck env) := by
  obtain ⟨b₁, hfirst, card, wifi, hrest⟩ := verifyUserIdWithServer_dl b env.verify
  have hdl : (b.handleInitUserIdCheck env).dl = (b.verifyUserIdWithServer env.verify).2.dl := by
    unfold handleInitUserIdCheck
    dsimp only
    split <;> rfl
  have htags : b₁.dl.tagUid = b.dl.tagUid ∧ (b₁.dl.toy = b.dl.toy ∨ b₁.dl.toy = []) ∧
      b₁.dl.metadataFile = b.dl.metadataFile := by
    rw [hfirst]
    split
    · exact ⟨rfl, .inl rfl, rfl⟩
    · obtain ⟨htag, hmember, hfile⟩ := downloadToken_tags b.dl.new env.verify.tokenConnect
        env.verify.token env.verify.errorTail
      exact ⟨htag, .inr hmember, hfile⟩
  obtain ⟨htag, hmember, hfile⟩ := htags
  refine ⟨?_, htoy.symm ▸ h.toy, ?_, ?_⟩ <;> rw [hdl, hrest] <;> dsimp only
  · exact htag.symm ▸ h.tag
  · rcases hmember with hsame | hnil
    · exact hsame.symm ▸ h.member
    · rw [hnil]
      exact ⟨.inl rfl, (uidText_ne_nil uid).symm⟩
  · exact hfile.symm ▸ h.file

omit [CJson] in
/-- The paths a step writes below the toys folder. -/
theorem mayWrite_toys {b : Box} {e : BoxEvent} {q : Bytes} (hq : toysPath <+: q)
    (h : b.MayWrite e q) : ∃ env, e = .handler env ∧
      (b.state = .initUserIdCheck ∧ q = errorPath [] ∨ b.state = .downloadToy) := by
  have hdata : ∀ path, str "/sdcard/data/" <+: path → q ≠ path := by
    rintro path hpath rfl
    rcases List.prefix_or_prefix_of_prefix hpath hq with hp | hp <;> revert hp <;> decide
  cases e with
  | handler env =>
      rcases h with ⟨hstate, hpath | hpath | hpath⟩ | ⟨hstate, -⟩
      · exact absurd hpath (hdata _ (by decide))
      · exact absurd hpath (hdata _ (by decide))
      · exact ⟨env, rfl, .inl ⟨hstate, hpath⟩⟩
      · exact ⟨env, rfl, .inr hstate⟩
  | write now address len data => exact absurd h.2.2 (hdata _ (by decide))
  | ble now uuid value s => exact absurd h.2 (hdata _ (by decide))
  | read now data => exact h.elim
  | pipeline writer => exact h.elim
  | station ev => exact h.elim

/-- The download of another toy. -/
theorem handleDownloadToy_leavesToy {uid : Uid} {b : Box} (h : Away uid b) (env : HandlerEnv)
    (htoy : b.toy ≠ uidText uid) (htag : b.dl.tagUid ≠ uidText uid) :
    LeavesToy uid b (b.handleDownloadToy env) := by
  have hdl := handleDownloadToy_dl b env
  have hQ : ∀ tag, tag = b.dl.tagUid → IsTag tag := fun _ heq => heq ▸ h.tag
  have htags : TagsIn (fun tag => tag = b.dl.tagUid) (fun tag => tag ∈ b.dl.metadataFile) b.dl :=
    ⟨rfl, fun _ hmem => .inr hmem⟩
  obtain ⟨hafter, hcontents⟩ := begin_toyContents hQ htags h.toy
    (env.download.reads_atomic fun tag => tag = b.dl.tagUid)
  change TagsIn _ _ (b.dl.tokenStep (.begin b.toy env.download.atomic)) at hafter
  rw [← hdl] at hafter
  refine ⟨⟨hafter.tag ▸ h.tag, h.toy, ?_, ?_⟩, ?_⟩
  · rw [hdl]
    rcases begin_toy b.dl b.toy env.download.atomic with hnil | hsame
    · exact ⟨.inl hnil, fun heq => uidText_ne_nil uid (heq.symm.trans hnil)⟩
    · exact ⟨(show IsTag (b.dl.begin b.toy env.download.atomic).2.toy from hsame.symm ▸ h.toy),
        (show (b.dl.begin b.toy env.download.atomic).2.toy ≠ _ from hsame.symm ▸ htoy)⟩
  · intro tag hmem
    rcases hafter.file tag hmem with rfl | hold
    · exact ⟨h.tag, htag⟩
    · exact h.file tag hold
  · intro q hq
    rw [hdl]
    exact hcontents q (toysPath_of_ownFolder hq)
      (not_downloadPath ⟨h.tag, htag⟩ ⟨h.toy, htoy⟩ h.file hq)

/-- **One step**, if it is no download made while the toy is on the box. -/
theorem step_leavesToy {uid : Uid} {b b' : Box} {e : BoxEvent} (h : Away uid b)
    (hstep : b.step e = some b') (hother : ¬ b.DownloadsFor (uidText uid) e) : LeavesToy uid b b' := by
  by_cases hdownload : ∃ env, e = .handler env ∧ b.state = .downloadToy
  · obtain ⟨env, rfl, hstate⟩ := hdownload
    have hsame : some (b.handleDownloadToy env) = some b' := by
      rw [← hstep]
      show _ = b.handler env
      simp only [handler, hstate]
    obtain rfl := Option.some.inj hsame
    have hnot := not_or.1 fun hor => hother ⟨hstate, hor⟩
    exact handleDownloadToy_leavesToy h env hnot.1 hnot.2
  · refine ⟨?_, fun q hq => (step_within hstep).content q fun hwrites => ?_⟩
    · cases e with
      | handler env =>
          obtain ⟨htoy, hout | ⟨-, rfl⟩ | ⟨hstate, -⟩⟩ := handler_outside hstep
          · exact h.outside hout (htoy.symm ▸ h.toy)
          · exact h.verifies env htoy
          · exact absurd ⟨env, rfl, hstate⟩ hdownload
      | read now data =>
          obtain rfl := Option.some.inj hstep
          have hdl := readFrame_dl b now data
          refine ⟨?_, isTag_readFrame h.toy now data, ?_, ?_⟩ <;> rw [hdl]
          · exact isTag_uidText (frameUid data)
          · exact h.member
          · exact h.file
      | write now address len data =>
          obtain rfl := Option.some.inj hstep
          refine h.outside (writeFrame_outside b now address len data) ?_
          rcases writeFrame_outcome b now address len data with ⟨-, -, heq⟩ | ⟨-, -, -, heq⟩ | ⟨hcore, -⟩
          · exact heq ▸ h.toy
          · exact heq ▸ h.toy
          · exact isTag_of_core hcore h.toy
      | ble now uuid value s =>
          refine h.outside (onWrite_outside hstep) ?_
          rcases onWrite_outcome hstep with ⟨-, hcore, -⟩ | ⟨hcore, -⟩
          · exact isTag_of_core hcore h.toy
          · exact isTag_of_core hcore h.toy
      | pipeline writer =>
          obtain rfl := Option.some.inj hstep
          exact ⟨h.tag, h.toy, h.member, h.file⟩
      | station ev =>
          obtain rfl := Option.some.inj hstep
          exact ⟨h.tag, h.toy, h.member, h.file⟩
    · obtain ⟨env, rfl, ⟨-, rfl⟩ | hstate⟩ := mayWrite_toys (toysPath_of_ownFolder hq) hwrites
      · exact uidText_ne_nil uid (eq_of_errorPath (.inl rfl) hq).symm
      · exact hdownload ⟨env, rfl, hstate⟩

/-! ## Sessions -/

/-- In a session too: the power brings no download. -/
def SessionDownloadsFor (b : Box) (toy : Bytes) : SessionEvent → Prop
  | .step e => b.DownloadsFor toy e
  | .power _ _ _ => False

omit [CJson] in
theorem appMain_leavesToy (uid : Uid) (card : Card) (credentialsFile : Option Credentials)
    (battery charging : UInt8) (s : WaitScript) :
    Away uid (appMain card credentialsFile battery charging s) ∧
      ∀ q, (appMain card credentialsFile battery charging s).dl.card.content? q = card.content? q := by
  refine ⟨⟨.inl rfl, .inl rfl, ⟨.inl rfl, (uidText_ne_nil uid).symm⟩, ?_⟩, (Card.makeFolders_spec card setupFolders).1⟩
  intro tag htag
  cases htag

/-- **Toys are isolated.** In every session, over any steps of the tasks and power cycles, a file in the
folder of a toy is as it was on the card that was put in, unless a download was made while that toy was
on the box. -/
theorem toys_isolated {ok : Box → SessionEvent → Prop} {card : Card}
    {credentialsFile : Option Credentials} {battery charging : UInt8} {s : WaitScript} {b : Box}
    {trace : List (Box × SessionEvent)}
    (h : Path (fun b e b' => sessionStep b e = some b') ok
      (appMain card credentialsFile battery charging s) trace b) (uid : Uid) {q : Bytes}
    (hq : ownFolder (uidText uid) <+: q) (hne : b.dl.card.content? q ≠ card.content? q) :
    ∃ x ∈ trace, x.1.SessionDownloadsFor (uidText uid) x.2 := by
  obtain ⟨haway, hcontent⟩ := appMain_leavesToy uid card credentialsFile battery charging s
  refine h.exists_of_broken (P := fun b e => b.SessionDownloadsFor (uidText uid) e)
    (I := fun b : Box => Away uid b ∧ b.dl.card.content? q = card.content? q) ⟨haway, hcontent q⟩ ?_
    fun hI => hne hI.2
  rintro b e b' ⟨haway, hsame⟩ _ hstep hother
  cases e with
  | step e =>
      have hleaves := step_leavesToy haway hstep hother
      exact ⟨hleaves.away, (hleaves.content q hq).trans hsame⟩
  | power battery charging s =>
      obtain rfl := Option.some.inj hstep
      obtain ⟨haway', hcontent'⟩ := appMain_leavesToy uid b.dl.card b.dl.wifi.credentialsFile battery
        charging s
      exact ⟨haway', (hcontent' q).trans hsame⟩

end

/-! ## A toy that is downloaded -/

/-- The box starts with a network it can use; a toy is placed and downloaded, and the power goes off and
on. -/
def downloadSession : List SessionEvent :=
  .step (tagFrame uidX 100) :: List.replicate 6 (.step handlerStep) ++ [.power 100 0 noWaits]

def onlineStart : Box :=
  appMain sampleCard (some ⟨str "home", str "secret"⟩) 100 0 ⟨[], [.staGotIp]⟩

theorem toys_isolated_download :
    ∃ b, runList (@sessionStep sampleParser) onlineStart downloadSession = some b ∧
      b.dl.card.content? (metadataPath (uidText uidX)) = some sampleText ∧
      ∃ x ∈ history (@sessionStep sampleParser) onlineStart downloadSession,
        x.1.SessionDownloadsFor (uidText uidX) x.2 := by
  have hruns : (runGuarded (@sessionStep sampleParser) (fun _ _ => True) onlineStart
      downloadSession).any (fun b => b.dl.card.content? (metadataPath (uidText uidX)) = some sampleText)
        = true := by decide +kernel
  obtain ⟨b, hb, hcontent⟩ := (Option.any_eq_true _ _).1 hruns
  have hstored := of_decide_eq_true hcontent
  refine ⟨b, runList_of_runGuarded hb, hstored, @toys_isolated sampleParser _ _ _ _ _ _ _ _
    (path_of_runGuarded downloadSession hb) uidX _ (ownFolder_metadataPath (uidText uidX)) ?_⟩
  rw [hstored]
  decide +kernel

end Box

end Cubbies
