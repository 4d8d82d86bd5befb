import Cubbies.Proofs.VerifyComplete

set_option autoImplicit false

/-! # Into whose folder a download writes

The token error and the direction files go to the folder of the member `toy`. The metadata file, the
four small files made from the master JSON and `verify.txt` go to the folder `tagUid_qbus` names at
that moment, and a metadata file that was left open gets the chunks of the next download.
`begin_writesOwn_iff` says exactly when a call of `begin` writes no file of another toy: at each of
these moments the tag is the toy's, or nothing can be opened. -/

namespace Cubbies

open CString

namespace Downloader

/-! ## Writing into one toy's folder -/

def ownFolder (toy : Bytes) : Bytes := toysPath ++ toy ++ str "/"

/-- A toy file lies in this toy's folder. -/
def InOwn (toy path : Bytes) : Prop := toysPath <+: path → ownFolder toy <+: path

instance (toy path : Bytes) : Decidable (InOwn toy path) :=
  inferInstanceAs (Decidable (_ → _))

/-- From `d` to `d'` no toy file outside this toy's folder was written. -/
def WritesOwn (toy : Bytes) (d d' : Downloader) : Prop :=
  ∃ new, d'.written = new ++ d.written ∧ ∀ path ∈ new, InOwn toy path

theorem WritesOwn.of_eq {toy : Bytes} {d d' : Downloader} (h : d'.written = d.written) :
    WritesOwn toy d d' := ⟨[], h, by simp⟩

theorem WritesOwn.trans {toy : Bytes} {d₁ d₂ d₃ : Downloader} (h : WritesOwn toy d₁ d₂)
    (h' : WritesOwn toy d₂ d₃) : WritesOwn toy d₁ d₃ := by
  obtain ⟨new, hnew, hown⟩ := h
  obtain ⟨new', hnew', hown'⟩ := h'
  refine ⟨new' ++ new, by rw [hnew', hnew, List.append_assoc], ?_⟩
  intro path hpath
  rcases List.mem_append.1 hpath with hpath | hpath
  · exact hown' path hpath
  · exact hown path hpath

/-- What a whole stretch does its parts do. -/
theorem WritesOwn.split {toy : Bytes} {d₁ d₂ d₃ : Downloader} (h : WritesOwn toy d₁ d₃)
    (h₁₂ : d₁.written <:+ d₂.written) (h₂₃ : d₂.written <:+ d₃.written) :
    WritesOwn toy d₁ d₂ ∧ WritesOwn toy d₂ d₃ := by
  obtain ⟨new, hnew, hown⟩ := h
  obtain ⟨first, hfirst⟩ := h₁₂
  obtain ⟨second, hsecond⟩ := h₂₃
  have hall : new = second ++ first := by
    refine List.append_cancel_right (?_ : new ++ d₁.written = second ++ first ++ d₁.written)
    rw [← hnew, ← hsecond, ← hfirst, List.append_assoc]
  refine ⟨⟨first, hfirst.symm, ?_⟩, second, hsecond.symm, ?_⟩
  · intro path hpath
    exact hown path (hall ▸ List.mem_append_right second hpath)
  · intro path hpath
    exact hown path (hall ▸ List.mem_append_left first hpath)

theorem writesOwn_iff_and {toy : Bytes} {d₁ d₂ d₃ : Downloader} (h₁₂ : d₁.written <:+ d₂.written)
    (h₂₃ : d₂.written <:+ d₃.written) :
    WritesOwn toy d₁ d₃ ↔ WritesOwn toy d₁ d₂ ∧ WritesOwn toy d₂ d₃ :=
  ⟨fun h => h.split h₁₂ h₂₃, fun h => h.1.trans h.2⟩

theorem WritesOwn.suffix {toy : Bytes} {d d' : Downloader} (h : WritesOwn toy d d') :
    d.written <:+ d'.written := by
  obtain ⟨new, hnew, -⟩ := h
  exact ⟨new, hnew.symm⟩

/-! ## Tags and paths -/

/-- The texts `tagUid_qbus` can hold. -/
def IsTag (tag : Bytes) : Prop := tag = [] ∨ ∃ uid, tag = uidText uid

theorem uidText_ne_nil (uid : Uid) : uidText uid ≠ [] := by
  intro hnil
  have hlen := length_uidText uid
  rw [hnil] at hlen
  cases hlen

theorem inOwn_append (toy name : Bytes) : InOwn toy (ownFolder toy ++ name) :=
  fun _ => List.prefix_append _ _

theorem inOwn_audio {toy path : Bytes} (h : audioPath <+: path) : InOwn toy path :=
  fun htoys => absurd htoys (not_toysPath_of_audioPath h)

/-- Hexadecimal digits are no slashes. -/
theorem hexDigit_ne_slash : ∀ n < 16, hexDigit n ≠ 47 := by decide

theorem slash_not_mem_uidText (uid : Uid) : (47 : UInt8) ∉ uidText uid := by
  intro hmem
  obtain ⟨b, -, hb⟩ := List.mem_flatMap.1 hmem
  have hlt := b.toNat_lt
  simp only [hexByte, List.mem_cons, List.not_mem_nil, or_false] at hb
  rcases hb with hb | hb
  · exact hexDigit_ne_slash _ (by omega) hb.symm
  · exact hexDigit_ne_slash _ (by omega) hb.symm

/-- A file directly below the folder a tag names is the toy's own exactly if the tag is the toy's. -/
theorem inOwn_tagPath_iff {uid : Uid} {tag : Bytes} (htag : IsTag tag) (name : Bytes) :
    InOwn (uidText uid) (toysPath ++ tag ++ str "/" ++ name) ↔ tag = uidText uid := by
  have hslash : str "/" = [47] := by decide
  refine ⟨fun h => ?_, ?_⟩
  · have hpre : ownFolder (uidText uid) <+: toysPath ++ tag ++ str "/" ++ name :=
      h (by simp only [List.append_assoc]; exact List.prefix_append _ _)
    unfold ownFolder at hpre
    simp only [List.append_assoc, List.prefix_append_right_inj] at hpre
    rcases htag with rfl | ⟨uid', rfl⟩
    · -- the empty text: the path goes on with a slash, the toy's folder with a digit
      rw [hslash, List.nil_append, List.singleton_append] at hpre
      obtain ⟨b, rest, hcons⟩ := List.exists_cons_of_ne_nil (uidText_ne_nil uid)
      rw [hcons, List.cons_append, List.cons_prefix_cons] at hpre
      have hmem : b ∈ uidText uid := hcons ▸ List.mem_cons_self
      exact absurd (hpre.1 ▸ hmem) (slash_not_mem_uidText uid)
    · have hpre' : uidText uid <+: uidText uid' ++ (str "/" ++ name) :=
        (List.prefix_append _ _).trans hpre
      have hlen : (uidText uid).length = (uidText uid').length := by
        rw [length_uidText, length_uidText]
      have hsame := List.prefix_of_prefix_length_le hpre' (List.prefix_append _ _) hlen.le
      exact (hsame.eq_of_length hlen).symm
  · rintro rfl
    exact inOwn_append _ _

/-! ## Opening files -/

theorem openWrite_written {d d' : Downloader} {path : Bytes} (h : d.openWrite path = some d') :
    d'.written = path :: d.written ∧ d'.metadataFile = d.metadataFile ∧
      d'.card.dirs = d.card.dirs := by
  obtain ⟨c, hc, rfl⟩ := Option.map_eq_some_iff.1 h
  exact ⟨rfl, rfl, Card.fopenWrite_dirs hc⟩

theorem openWrite_eq_none {d : Downloader} {path : Bytes} :
    d.openWrite path = none ↔ d.card.fopenWrite path = none := Option.map_eq_none_iff

theorem openWrite_ne_none {d d' : Downloader} {path : Bytes} (h : d.openWrite path = some d') :
    d.card.fopenWrite path ≠ none := by
  intro hnone
  rw [openWrite_eq_none.2 hnone] at h
  cases h

theorem fopenWrite_eq_none_iff (c : Card) (path : Bytes) :
    c.fopenWrite path = none ↔ (parentDir path ∈ c.dirs → path ∈ c.dirs) := by
  unfold Card.fopenWrite
  split
  · next hdir => split <;> simp_all
  · next hdir => simp [hdir]

/-- Whether a file can be opened for writing depends on the folders only. -/
theorem fopenWrite_congr {c c' : Card} (h : c'.dirs = c.dirs) (path : Bytes) :
    c'.fopenWrite path = none ↔ c.fopenWrite path = none := by
  rw [fopenWrite_eq_none_iff, fopenWrite_eq_none_iff, h]

theorem writesOwn_cons_iff (toy path : Bytes) {d d' : Downloader}
    (h : d'.written = path :: d.written) : WritesOwn toy d d' ↔ InOwn toy path := by
  refine ⟨?_, fun hown => ⟨[path], h, by simpa using hown⟩⟩
  rintro ⟨new, hnew, hown⟩
  have hone : new = [path] := List.append_cancel_right (hnew.symm.trans h)
  exact hown path (hone ▸ List.mem_cons_self)

/-- One file written at once. -/
theorem writesOwn_writeFile_iff (toy : Bytes) (d : Downloader) (path content : Bytes) :
    WritesOwn toy d (d.writeFile path content) ↔
      (d.card.fopenWrite path ≠ none → InOwn toy path) := by
  unfold writeFile
  split
  · next h =>
      rw [openWrite_eq_none] at h
      exact iff_of_true (.of_eq rfl) fun hne => absurd h hne
  · next d' h =>
      have hopen := openWrite_ne_none h
      refine (writesOwn_cons_iff toy _ ?_).trans ⟨fun hown _ => hown, fun hown => hown hopen⟩
      exact (openWrite_written h).1

theorem writeFile_suffix (d : Downloader) (path content : Bytes) :
    d.written <:+ (d.writeFile path content).written ∧
      (d.writeFile path content).metadataFile = d.metadataFile ∧
      (d.writeFile path content).card.dirs = d.card.dirs := by
  unfold writeFile
  split
  · exact ⟨List.suffix_rfl, rfl, rfl⟩
  · next d' h =>
      obtain ⟨hwritten, hfile, hdirs⟩ := openWrite_written h
      refine ⟨?_, hfile, (Card.fwrite_dirs _ _ _).trans hdirs⟩
      exact hwritten ▸ List.suffix_cons _ _

/-! ## The stages that write into the toy's folder only -/

/-- A stage that writes no file of another toy, and leaves the metadata file open or closed. -/
structure OwnStage (toy : Bytes) (d d' : Downloader) : Prop where
  writes : WritesOwn toy d d'
  file : d'.metadataFile = d.metadataFile

theorem OwnStage.of_eq {toy : Bytes} {d d' : Downloader} (hwritten : d'.written = d.written)
    (hfile : d'.metadataFile = d.metadataFile) : OwnStage toy d d' := ⟨.of_eq hwritten, hfile⟩

theorem OwnStage.trans {toy : Bytes} {d₁ d₂ d₃ : Downloader} (h : OwnStage toy d₁ d₂)
    (h' : OwnStage toy d₂ d₃) : OwnStage toy d₁ d₃ :=
  ⟨h.writes.trans h'.writes, h'.file.trans h.file⟩

theorem OwnStage.writeFile {toy : Bytes} (d : Downloader) {path : Bytes} (content : Bytes)
    (h : InOwn toy path) : OwnStage toy d (d.writeFile path content) :=
  ⟨(writesOwn_writeFile_iff toy d path content).2 fun _ => h, (writeFile_suffix d path content).2.1⟩

/-- An exchange whose handler opens nothing, and leaves the metadata file alone. -/
theorem OwnStage.perform {toy : Bytes} {cb : Callback Downloader} {d : Downloader} {x : Exchange}
    (hheader : ∀ d key value, OwnStage toy d (cb.onHeader d key value))
    (hdata : ∀ d data, OwnStage toy d (cb.onData d data))
    (hfinish : ∀ d, OwnStage toy d (cb.onFinish d))
    (hdisconnected : ∀ d, OwnStage toy d (cb.onDisconnected d)) :
    OwnStage toy d (cb.perform Downloader.frame d x).2 :=
  Callback.perform_induction (.of_eq rfl rfl) (fun _ _ _ h => h.trans (hheader _ _ _))
    (fun _ _ h => h.trans (hdata _ _)) (fun _ h => h.trans (hfinish _))
    (fun _ h => h.trans (hdisconnected _)) fun _ _ _ h => h.trans (.of_eq rfl rfl)

theorem tokenCallback_ownStage (toy : Bytes) (d : Downloader) (x : Exchange) :
    OwnStage toy d (tokenCallback.perform frame d x).2 := by
  refine .perform (fun d key value => ?_) (fun _ _ => .of_eq rfl rfl) (fun _ => .of_eq rfl rfl)
    fun _ => .of_eq rfl rfl
  dsimp only [tokenCallback]
  split
  · split
    · split <;> exact .of_eq rfl rfl
    · exact .of_eq rfl rfl
  · exact .of_eq rfl rfl

/-- The request for the token leaves the metadata file open or closed, whatever the toy. -/
theorem downloadToken_metadataFile (d : Downloader) (connect : WaitScript) (x : Exchange)
    (tail : Bytes) : (d.downloadToken connect x tail).metadataFile = d.metadataFile := by
  have hwrite : ∀ (d : Downloader) code, (d.writeTokenError code tail).metadataFile = d.metadataFile := by
    intro d code
    unfold writeTokenError
    split
    · exact (writeFile_suffix d _ _).2.1
    · rfl
  unfold downloadToken
  split
  · rfl
  · dsimp only
    split
    · exact (hwrite _ _).trans (tokenCallback_ownStage [] _ x).file
    · rfl

theorem requestToken_metadataFile (d : Downloader) (s : BeginScript) :
    (d.requestToken s).metadataFile = d.metadataFile := by
  refine (downloadToken_metadataFile _ _ _ _).trans ?_
  unfold createFolders
  split <;> rfl

theorem errorPath_eq {toy : Bytes} (h : toy ≠ []) :
    errorPath toy = ownFolder toy ++ str "err.cubbies" := by
  unfold errorPath ownFolder
  rw [if_neg h, List.append_assoc (toysPath ++ toy)]
  rfl

/-- The token error goes to the member `toy`, if there is one. -/
theorem writeTokenError_ownStage {d : Downloader} (h : d.toy ≠ []) (code : ℤ) (tail : Bytes) :
    OwnStage d.toy d (d.writeTokenError code tail) := by
  unfold writeTokenError
  split
  · refine .writeFile d _ ?_
    rw [errorPath_eq h]
    exact inOwn_append _ _
  · exact .of_eq rfl rfl

theorem downloadToken_ownStage {d : Downloader} (h : d.toy ≠ []) (connect : WaitScript) (x : Exchange)
    (tail : Bytes) : OwnStage d.toy d (d.downloadToken connect x tail) := by
  unfold downloadToken
  split
  · exact .of_eq rfl rfl
  · dsimp only
    split
    · have hasked := tokenCallback_ownStage d.toy
        { d with wifi := (d.wifi.connect connect).2, tokenRequestFlag := true } x
      have htoy : (tokenCallback.perform frame
          { d with wifi := (d.wifi.connect connect).2, tokenRequestFlag := true } x).2.toy = d.toy :=
        congrArg Kept.toy (SideStep.tokenCallback
          { d with wifi := (d.wifi.connect connect).2, tokenRequestFlag := true } x).kept
      have hwrite := writeTokenError_ownStage (htoy.symm ▸ h) (if x.ok then x.status else 0) tail
      rw [htoy] at hwrite
      have hboth := hasked.trans hwrite
      exact ⟨hboth.writes, hboth.file⟩
    · exact .of_eq rfl rfl

theorem requestToken_ownStage {d : Downloader} (h : d.toy ≠ []) (s : BeginScript) :
    OwnStage d.toy d (d.requestToken s) := by
  have hfolders : OwnStage d.toy d d.createFolders := by
    unfold createFolders
    split <;> exact .of_eq rfl rfl
  have htoy : d.createFolders.toy = d.toy := congrArg Kept.toy (SideStep.createFolders d).kept
  have htoken := downloadToken_ownStage (htoy.symm ▸ h) s.tokenConnect s.token s.errorTail
  rw [htoy] at htoken
  exact hfolders.trans htoken

/-! ### Direction files -/

theorem directionCallback_ownStage (toy : Bytes) (d : Downloader) (x : Exchange) :
    OwnStage toy d (directionCallback.perform frame d x).2 := by
  refine .perform (fun _ _ _ => .of_eq rfl rfl) (fun d data => ?_) (fun _ => .of_eq rfl rfl)
    fun _ => .of_eq rfl rfl
  dsimp only [directionCallback]
  split <;> exact .of_eq rfl rfl

/-- A direction file goes to the member `toy`, however long its name is. -/
theorem saveFileToSd_ownStage (d : Downloader) (directionName data : Bytes)
    (hlen : d.toy.length ≤ 16) : OwnStage d.toy d (d.saveFileToSd directionName data) := by
  refine .writeFile d data fun _ => ?_
  have hfolder : (ownFolder d.toy).length < 256 := by
    have htoys : toysPath.length = 19 := by decide
    have hslash : (str "/").length = 1 := by decide
    simp only [ownFolder, List.length_append, htoys, hslash]
    omega
  rw [show toysPath ++ d.toy ++ str "/" ++ directionName ++ str ".cubbies" =
    ownFolder d.toy ++ (directionName ++ str ".cubbies") by rw [List.append_assoc]; rfl]
  exact snprintf_prefix hfolder

theorem downloadFile_ownStage (d : Downloader) (dirFileName : Bytes) (x : Exchange)
    (hlen : d.toy.length ≤ 16) : OwnStage d.toy d (d.downloadFile dirFileName x) := by
  unfold downloadFile
  dsimp only
  generalize hd' : ({ d with
    outputBuffer := []
    outputLen := 0
    requests := .directionFile dirFileName (snprintf 256 (d.baseUrl ++ dirFileName)) :: d.requests }
      : Downloader) = d'
  have hstart : OwnStage d.toy d d' := hd' ▸ .of_eq rfl rfl
  have hperform := hstart.trans (directionCallback_ownStage d.toy d' x)
  have htoy : (directionCallback.perform frame d' x).2.toy = d.toy :=
    (congrArg Kept.toy (SideStep.directionCallback d' x).kept).trans (hd' ▸ rfl)
  split
  · split
    · have hsave := saveFileToSd_ownStage (directionCallback.perform frame d' x).2 ‹_›
        (text (directionCallback.perform frame d' x).2.outputBuffer) (htoy ▸ hlen)
      exact hperform.trans (htoy ▸ hsave)
    · exact hperform
  · exact hperform

theorem processDirectionFiles_ownStage (d : Downloader) (s : ℕ → DirectionScript)
    (slots : List (Option Bytes)) (hlen : d.toy.length ≤ 16) :
    OwnStage d.toy d (d.processDirectionFiles s slots) := by
  induction slots generalizing d s with
  | nil => exact .of_eq rfl rfl
  | cons slot slots ih =>
      unfold processDirectionFiles
      dsimp only
      split
      · next dirFileName _ =>
          have htoy : (d.downloadFile dirFileName (s 0).exchange).toy = d.toy :=
            congrArg Kept.toy (SideStep.downloadFile d dirFileName (s 0).exchange).kept
          have hrest := ih (d.downloadFile dirFileName (s 0).exchange) (fun i => s (i + 1))
            (htoy ▸ hlen)
          rw [htoy] at hrest
          exact (downloadFile_ownStage d dirFileName (s 0).exchange hlen).trans hrest
      · exact ih d _ hlen

/-! ### Audio files -/

/-- An audio file lies in no toy's folder. -/
theorem inOwn_tempFilePath (toy mp3FileName : Bytes) : InOwn toy (tempFilePath mp3FileName) := by
  refine inOwn_audio ?_
  unfold tempFilePath
  rw [List.append_assoc]
  exact snprintf_prefix (by decide)

theorem openTemp_ownStage (toy : Bytes) {d d' : Downloader} {mp3FileName : Bytes}
    (h : d.openTemp mp3FileName = some d') : OwnStage toy d d' := by
  obtain ⟨e, he, rfl⟩ := Option.map_eq_some_iff.1 h
  obtain ⟨hwritten, hfile, -⟩ := openWrite_written he
  refine ⟨(writesOwn_cons_iff toy _ ?_).2 (inOwn_tempFilePath toy mp3FileName), hfile⟩
  exact hwritten

theorem downloadAll_ownStage (toy : Bytes) (d : Downloader) (s : ℕ → AudioScript)
    (names : List Bytes) : OwnStage toy d (d.downloadAll s names).2 := by
  refine downloadAll_induction ?_ ?_ ?_ ?_
  · intro d' card buffer file h
    exact h.trans (.of_eq rfl rfl)
  · exact .of_eq rfl rfl
  · intro d₁ d₂ name _ hopen h
    exact h.trans (openTemp_ownStage toy hopen)
  · intro d' i k uid _ h
    exact h.trans (.of_eq rfl rfl)

/-! ## The stages that go by the tag -/

/-- What `tagUid_qbus` holds and what the metadata file was opened for are tags. -/
structure TagsOk (d : Downloader) : Prop where
  tag : IsTag d.tagUid
  file : ∀ tag ∈ d.metadataFile, IsTag tag

/-- The metadata file of the tag on the box can be opened. -/
def opensMetadata (d : Downloader) : Prop :=
  (createDirectory d.card (toysPath ++ d.tagUid ++ str "/")).2 = true ∧
    (createDirectory d.card (toysPath ++ d.tagUid ++ str "/")).1.fopenWrite
      (metadataPath d.tagUid) ≠ none

/-- A chunk of the master JSON that comes now is written for the toy, or not at all. -/
def ChunkOwn (toy : Bytes) (d : Downloader) : Prop :=
  match d.metadataFile with
  | some tag => tag = toy
  | none => d.opensMetadata → d.tagUid = toy

theorem inOwn_metadataPath_iff {uid : Uid} {tag : Bytes} (htag : IsTag tag) :
    InOwn (uidText uid) (metadataPath tag) ↔ tag = uidText uid :=
  inOwn_tagPath_iff htag _

theorem masterData_writesOwn_iff {d : Downloader} (hd : d.TagsOk) (uid : Uid) {data : Bytes}
    (hdata : data ≠ []) :
    WritesOwn (uidText uid) d (d.masterData data) ↔ ChunkOwn (uidText uid) d := by
  unfold masterData ChunkOwn
  rw [if_neg hdata]
  cases hfile : d.metadataFile with
  | some tag =>
      dsimp only
      rw [writesOwn_cons_iff _ (metadataPath tag)]
      · exact inOwn_metadataPath_iff (hd.file tag hfile)
      · rfl
  | none =>
      dsimp only
      by_cases hdir : (createDirectory d.card (toysPath ++ d.tagUid ++ str "/")).2 = true
      · rw [if_pos hdir]
        split
        · next hnone =>
            have hclosed := openWrite_eq_none.1 hnone
            exact iff_of_true (.of_eq rfl) fun hopens => absurd hclosed hopens.2
        · next d' hopen =>
            have hne := openWrite_ne_none hopen
            have hopens : d.opensMetadata := ⟨hdir, hne⟩
            have hwritten := (openWrite_written hopen).1
            rw [writesOwn_cons_iff _ (metadataPath d.tagUid), inOwn_metadataPath_iff hd.tag]
            · exact ⟨fun h _ => h, fun h => h hopens⟩
            · exact hwritten
      · rw [if_neg hdir]
        exact iff_of_true (.of_eq rfl) fun hopens => absurd hopens.1 hdir

theorem masterData_suffix (d : Downloader) (data : Bytes) :
    d.written <:+ (d.masterData data).written := by
  unfold masterData
  split
  · exact List.suffix_rfl
  · dsimp only
    split
    · exact List.suffix_cons _ _
    · split
      · split
        · exact List.suffix_rfl
        · next d' hopen =>
            have hwritten := (openWrite_written hopen).1
            exact hwritten ▸ List.suffix_cons _ _
      · exact List.suffix_rfl

/-- The metadata file is open for the tag it was open for, or for the one on the box. -/
theorem masterData_metadataFile {d : Downloader} {Q : Bytes → Prop} (htag : Q d.tagUid)
    (hfile : ∀ tag ∈ d.metadataFile, Q tag) (data : Bytes) :
    ∀ tag ∈ (d.masterData data).metadataFile, Q tag := by
  unfold masterData
  split
  · exact hfile
  · dsimp only
    split
    · exact hfile
    · split
      · split
        · exact hfile
        · next d' hopen =>
            intro tag hmem
            rw [← Option.some.inj hmem, openWrite_tagUid hopen]
            exact htag
      · exact hfile

theorem TagsOk.masterData {d : Downloader} (h : d.TagsOk) (data : Bytes) :
    (d.masterData data).TagsOk :=
  ⟨(masterData_tagUid d data).symm ▸ h.tag, masterData_metadataFile h.tag h.file data⟩

theorem isTag_uidText (uid : Uid) : IsTag (uidText uid) := .inr ⟨uid, rfl⟩

/-- What a run of steps writes is what each of its steps writes. -/
theorem writesOwn_foldl_iff {ε : Type*} (toy : Bytes) (step : Downloader → ε → Downloader)
    (hsuffix : ∀ d e, d.written <:+ (step d e).written) (d : Downloader) (es : List ε) :
    WritesOwn toy d (es.foldl step d) ↔
      ∀ pre e post, es = pre ++ e :: post →
        WritesOwn toy (pre.foldl step d) (step (pre.foldl step d) e) := by
  induction es generalizing d with
  | nil => exact iff_of_true (.of_eq rfl) fun pre e post h => by simp at h
  | cons e es ih =>
      have hrest : (step d e).written <:+ (es.foldl step (step d e)).written := by
        clear ih
        induction es generalizing d e with
        | nil => exact List.suffix_rfl
        | cons e' es ih => exact (hsuffix _ _).trans (ih _ _)
      constructor
      · intro h pre e' post heq
        obtain ⟨hfirst, hlater⟩ := h.split (hsuffix d e) hrest
        cases pre with
        | nil =>
            rw [List.nil_append, List.cons.injEq] at heq
            exact heq.1 ▸ hfirst
        | cons p pre =>
            rw [List.cons_append, List.cons.injEq] at heq
            exact heq.1 ▸ (ih (step d e)).1 hlater pre e' post heq.2
      · intro h
        refine WritesOwn.trans (h [] e es rfl) ((ih (step d e)).2 ?_)
        intro pre e' post heq
        exact h (e :: pre) e' post (by rw [heq, List.cons_append])

/-! ### The files made from the master JSON -/

/-- The files `storeFiles` writes, each with its content if the master JSON gives it. -/
def fieldFiles (d : Downloader) (j : Json) : List (Bytes × Option Bytes) :=
  [(snprintf 256 (toysPath ++ d.tagUid) ++ str "/version.cubbies",
      (j.numberField? (str "version")).map fun v => snprintf 16 (decimal v)),
    (snprintf 256 (toysPath ++ d.tagUid) ++ str "/productCode.cubbies",
      j.stringField? (str "productCode")),
    (snprintf 256 (toysPath ++ d.tagUid) ++ str "/recordable.cubbies",
      (j.numberField? (str "recordable")).map fun v => snprintf 16 (decimal v)),
    (snprintf 256 (toysPath ++ d.tagUid) ++ str "/colourTheme.cubbies",
      (j.arrayField? (str "colourTheme")).map fun items => arrayText (items.map Json.valueint))]

def storePair (d : Downloader) (file : Bytes × Option Bytes) : Downloader :=
  d.storeField file.1 file.2

theorem storeFiles_eq (d : Downloader) (j : Json) :
    d.storeFiles j = (d.fieldFiles j).foldl storePair d := rfl

/-- A file is made from this master JSON, and can be opened. -/
def StoresFile (d : Downloader) (j : Json) : Prop :=
  ∃ file ∈ d.fieldFiles j, file.2.isSome = true ∧ d.card.fopenWrite file.1 ≠ none

theorem writesOwn_storeField_iff (toy : Bytes) (d : Downloader) (path : Bytes)
    (content : Option Bytes) :
    WritesOwn toy d (d.storeField path content) ↔
      (content.isSome = true → d.card.fopenWrite path ≠ none → InOwn toy path) := by
  cases content with
  | none => exact iff_of_true (.of_eq rfl) fun h => by cases h
  | some content =>
      rw [show d.storeField path (some content) = d.writeFile path content from rfl,
        writesOwn_writeFile_iff]
      exact ⟨fun h _ => h, fun h => h rfl⟩

theorem storeField_suffix (d : Downloader) (path : Bytes) (content : Option Bytes) :
    d.written <:+ (d.storeField path content).written ∧
      (d.storeField path content).metadataFile = d.metadataFile ∧
      (d.storeField path content).card.dirs = d.card.dirs := by
  cases content with
  | none => exact ⟨List.suffix_rfl, rfl, rfl⟩
  | some content => exact writeFile_suffix d path content

theorem storePair_suffix (d : Downloader) (file : Bytes × Option Bytes) :
    d.written <:+ (storePair d file).written := (storeField_suffix d file.1 file.2).1

theorem storeFields_suffix (d : Downloader) (files : List (Bytes × Option Bytes)) :
    d.written <:+ (files.foldl storePair d).written := by
  induction files generalizing d with
  | nil => exact List.suffix_rfl
  | cons file files ih => exact (storePair_suffix d file).trans (ih _)

theorem storeFields_dirs (d : Downloader) (files : List (Bytes × Option Bytes)) :
    (files.foldl storePair d).card.dirs = d.card.dirs := by
  induction files generalizing d with
  | nil => rfl
  | cons file files ih => exact (ih _).trans (storeField_suffix d file.1 file.2).2.2

theorem storeFields_file (d : Downloader) (files : List (Bytes × Option Bytes)) :
    (files.foldl storePair d).metadataFile = d.metadataFile := by
  induction files generalizing d with
  | nil => rfl
  | cons file files ih => exact (ih _).trans (storeField_suffix d file.1 file.2).2.1

theorem inOwn_fieldFiles_iff {d : Downloader} (hd : IsTag d.tagUid) (uid : Uid) (j : Json) :
    ∀ file ∈ d.fieldFiles j, InOwn (uidText uid) file.1 ↔ d.tagUid = uidText uid := by
  have hshort : snprintf 256 (toysPath ++ d.tagUid) = toysPath ++ d.tagUid := by
    refine snprintf_eq_self ?_
    have htoys : toysPath.length = 19 := by decide
    rw [List.length_append, htoys]
    rcases hd with hd | ⟨uid', hd⟩
    · rw [hd]
      decide
    · rw [hd, length_uidText]
      decide
  have hname : ∀ name : Bytes, toysPath ++ d.tagUid ++ (47 :: name) =
      toysPath ++ d.tagUid ++ str "/" ++ name := by
    intro name
    rw [List.append_assoc _ (str "/")]
    rfl
  intro file hfile
  have hpath : ∃ name, file.1 = toysPath ++ d.tagUid ++ str "/" ++ name := by
    unfold fieldFiles at hfile
    rw [hshort] at hfile
    simp only [List.mem_cons, List.not_mem_nil, or_false] at hfile
    rcases hfile with rfl | rfl | rfl | rfl
    · exact ⟨str "version.cubbies", hname _⟩
    · exact ⟨str "productCode.cubbies", hname _⟩
    · exact ⟨str "recordable.cubbies", hname _⟩
    · exact ⟨str "colourTheme.cubbies", hname _⟩
  obtain ⟨name, hname⟩ := hpath
  rw [hname]
  exact inOwn_tagPath_iff hd name

theorem storeFiles_writesOwn_iff {d : Downloader} (hd : IsTag d.tagUid) (uid : Uid) (j : Json) :
    WritesOwn (uidText uid) d (d.storeFiles j) ↔ (d.StoresFile j → d.tagUid = uidText uid) := by
  rw [storeFiles_eq, writesOwn_foldl_iff _ storePair storePair_suffix]
  have hopen : ∀ (pre : List (Bytes × Option Bytes)) path,
      (pre.foldl storePair d).card.fopenWrite path ≠ none ↔ d.card.fopenWrite path ≠ none :=
    fun pre path => not_congr (fopenWrite_congr (storeFields_dirs d pre) path)
  constructor
  · rintro h ⟨file, hfile, hsome, hopens⟩
    obtain ⟨pre, post, heq⟩ := List.append_of_mem hfile
    have hown := (writesOwn_storeField_iff _ _ _ _).1 (h pre file post heq) hsome
      ((hopen pre file.1).2 hopens)
    exact (inOwn_fieldFiles_iff hd uid j file hfile).1 hown
  · intro h pre file post heq
    have hfile : file ∈ d.fieldFiles j := heq ▸ List.mem_append_right pre List.mem_cons_self
    refine (writesOwn_storeField_iff _ _ _ _).2 ?_
    intro hsome hopens
    refine (inOwn_fieldFiles_iff hd uid j file hfile).2 (h ⟨file, hfile, hsome, ?_⟩)
    exact (hopen pre file.1).1 hopens

/-! ### The request for the master JSON -/

theorem storeLists_written (d : Downloader) (j : Json) :
    (d.storeLists j).written = d.written ∧ (d.storeLists j).metadataFile = d.metadataFile := by
  unfold storeLists
  cases j.stringField? (str "baseUrl") <;> cases j.arrayField? (str "directionFiles") <;>
    cases j.arrayField? (str "media") <;> cases hmedia : d.mediaJson <;> simp [hmedia]

theorem frames_ownStage (toy : Bytes) (d : Downloader) (uids : List Uid) :
    OwnStage toy d (uids.foldl frame d) :=
  Callback.foldl_frame_induction (P := fun d' => OwnStage toy d d') (.of_eq rfl rfl)
    fun _ _ _ h => h.trans (.of_eq rfl rfl)

section

variable [CJson]

theorem parseAndStoreMetadata_writesOwn_iff {d : Downloader} (hd : IsTag d.tagUid) (uid : Uid)
    (response : Bytes) :
    WritesOwn (uidText uid) d (d.parseAndStoreMetadata response) ↔
      ∀ j, CJson.parse response = some j → d.StoresFile j → d.tagUid = uidText uid := by
  unfold parseAndStoreMetadata
  cases hparse : CJson.parse response with
  | none => exact iff_of_true (.of_eq rfl) fun _ h => by cases h
  | some j =>
      dsimp only
      generalize hd' : ({ d with received := (d.toy, j) :: d.received } : Downloader).storeLists j = d'
      have hwritten : d'.written = d.written := by
        rw [← hd']
        exact (storeLists_written _ _).1
      have hsame : d'.card = d.card ∧ d'.tagUid = d.tagUid := by
        rw [← hd']
        exact storeLists_card _ _
      have hlists : WritesOwn (uidText uid) d (d'.storeFiles j) ↔
          WritesOwn (uidText uid) d' (d'.storeFiles j) := by
        unfold WritesOwn
        rw [hwritten]
      have hstores : d'.StoresFile j ↔ d.StoresFile j := by
        unfold StoresFile fieldFiles
        rw [hsame.1, hsame.2]
      rw [hlists, storeFiles_writesOwn_iff (hsame.2.symm ▸ hd) uid j, hstores, hsame.2]
      exact ⟨fun h j' hj' => Option.some.inj hj' ▸ h, fun h => h j rfl⟩

theorem masterFinish_writesOwn_iff {d : Downloader} (hd : IsTag d.tagUid) (uid : Uid) :
    WritesOwn (uidText uid) d d.masterFinish ↔
      ∀ j, d.responseAtFinish.bind CJson.parse = some j → d.StoresFile j →
        d.tagUid = uidText uid := by
  unfold masterFinish
  cases d.responseAtFinish with
  | none => exact iff_of_true (.of_eq rfl) fun _ h => by cases h
  | some response =>
      exact parseAndStoreMetadata_writesOwn_iff (d := { d with metadataFile := none }) hd uid response

theorem TagsOk.masterHandle {d : Downloader} (h : d.TagsOk) (e : HttpEvent) :
    (masterJsonCallback.handle frame d e).TagsOk := by
  cases e with
  | onHeader key value => exact h
  | onData data => exact h.masterData data
  | frame uid => exact ⟨isTag_uidText uid, h.file⟩

theorem TagsOk.masterEvents {d : Downloader} (h : d.TagsOk) (x : Exchange) :
    (d.masterEvents x).TagsOk :=
  Callback.foldl_handle_induction (P := TagsOk) h (fun _ _ _ h => h)
    (fun _ data h => h.masterData data) fun _ uid _ h => ⟨isTag_uidText uid, h.file⟩

theorem masterHandle_writesOwn_iff {d : Downloader} (hd : d.TagsOk) (uid : Uid) (e : HttpEvent) :
    WritesOwn (uidText uid) d (masterJsonCallback.handle frame d e) ↔
      ∀ data, e = .onData data → data ≠ [] → ChunkOwn (uidText uid) d := by
  cases e with
  | onHeader key value => exact iff_of_true (.of_eq rfl) fun _ h => by cases h
  | frame uid' => exact iff_of_true (.of_eq rfl) fun _ h => by cases h
  | onData data =>
      by_cases hdata : data = []
      · refine iff_of_true (.of_eq ?_) ?_
        · rw [hdata]
          rfl
        · rintro data' heq hne
          cases heq
          exact absurd hdata hne
      · refine (masterData_writesOwn_iff hd uid hdata).trans ⟨fun h _ _ _ => h, fun h => ?_⟩
        exact h data rfl hdata

/-- What the call writes of the master JSON while it arrives, and what it makes of it in the end, it
writes for this toy. -/
structure OwnMaster (toy : Bytes) (d : Downloader) (x : Exchange) : Prop where
  chunks : ∀ pre data post, x.events = pre ++ .onData data :: post → data ≠ [] →
    ChunkOwn toy (pre.foldl (masterJsonCallback.handle frame) d)
  fields : ∀ j, d.storedResponse x = some j → (d.masterEvents x).StoresFile j →
    (d.masterEvents x).tagUid = toy

theorem masterEvents_writesOwn_iff {d : Downloader} (hd : d.TagsOk) (uid : Uid) (x : Exchange) :
    WritesOwn (uidText uid) d (d.masterEvents x) ↔
      ∀ pre data post, x.events = pre ++ .onData data :: post → data ≠ [] →
        ChunkOwn (uidText uid) (pre.foldl (masterJsonCallback.handle frame) d) := by
  have htags : ∀ pre : List HttpEvent, (pre.foldl (masterJsonCallback.handle frame) d).TagsOk := by
    intro pre
    induction pre using List.reverseRecOn with
    | nil => exact hd
    | append_singleton pre e ih =>
        rw [List.foldl_append]
        exact ih.masterHandle e
  have hsuffix : ∀ d e, d.written <:+ (masterJsonCallback.handle frame d e).written := by
    intro d e
    cases e with
    | onHeader key value => exact List.suffix_rfl
    | onData data => exact masterData_suffix d data
    | frame uid => exact List.suffix_rfl
  refine (writesOwn_foldl_iff (uidText uid) _ hsuffix d x.events).trans ⟨?_, ?_⟩
  · intro h pre data post heq hdata
    exact (masterHandle_writesOwn_iff (htags pre) uid _).1 (h pre _ post heq) data rfl hdata
  · intro h pre e post heq
    refine (masterHandle_writesOwn_iff (htags pre) uid e).2 fun data hevent hdata => ?_
    exact h pre data post (hevent ▸ heq) hdata

theorem parseAndStoreMetadata_suffix (d : Downloader) (response : Bytes) :
    d.written <:+ (d.parseAndStoreMetadata response).written ∧
      (d.parseAndStoreMetadata response).metadataFile = d.metadataFile := by
  unfold parseAndStoreMetadata
  cases CJson.parse response with
  | none => exact ⟨List.suffix_rfl, rfl⟩
  | some j =>
      obtain ⟨hwritten, hfile⟩ := storeLists_written { d with received := (d.toy, j) :: d.received } j
      dsimp only at hwritten hfile ⊢
      generalize ({ d with received := (d.toy, j) :: d.received } : Downloader).storeLists j = d'
        at hwritten hfile ⊢
      rw [storeFiles_eq, ← hwritten, ← hfile]
      exact ⟨storeFields_suffix _ _, storeFields_file _ _⟩

theorem masterFinish_suffix (d : Downloader) :
    d.written <:+ d.masterFinish.written ∧ d.masterFinish.metadataFile = none := by
  unfold masterFinish
  cases d.responseAtFinish with
  | none => exact ⟨List.suffix_rfl, rfl⟩
  | some response => exact parseAndStoreMetadata_suffix { d with metadataFile := none } response

theorem close_suffix (d : Downloader) (ending : Ending) :
    d.written <:+ (masterJsonCallback.close d ending).written := by
  cases ending with
  | finished => exact (masterFinish_suffix d).1
  | disconnected => exact List.suffix_rfl
  | unreachable => exact List.suffix_rfl

theorem masterClose_writesOwn_iff {d : Downloader} (hd : d.TagsOk) (uid : Uid) (x : Exchange) :
    WritesOwn (uidText uid) (d.masterEvents x)
        (masterJsonCallback.close (d.masterEvents x) x.ending) ↔
      ∀ j, d.storedResponse x = some j → (d.masterEvents x).StoresFile j →
        (d.masterEvents x).tagUid = uidText uid := by
  unfold storedResponse Exchange.ok
  cases x.ending with
  | finished => exact masterFinish_writesOwn_iff (hd.masterEvents x).tag uid
  | disconnected => exact iff_of_true (.of_eq rfl) fun _ h => by cases h
  | unreachable => exact iff_of_true (.of_eq rfl) fun _ h => by cases h

theorem masterEvents_suffix (d : Downloader) (x : Exchange) :
    d.written <:+ (d.masterEvents x).written := by
  refine Callback.foldl_handle_induction (P := fun d' : Downloader => d.written <:+ d'.written)
    List.suffix_rfl (fun _ _ _ h => h) ?_ fun _ _ _ h => h
  intro d' data h
  exact h.trans (masterData_suffix d' data)

theorem downloadMasterJson_suffix (d : Downloader) (x : Exchange) :
    d.written <:+ (d.downloadMasterJson x).written :=
  ((masterEvents_suffix d x).trans (close_suffix _ x.ending)).trans
    (frames_ownStage [] _ x.after).writes.suffix

theorem downloadMasterJson_writesOwn_iff {d : Downloader} (hd : d.TagsOk) (uid : Uid)
    (x : Exchange) :
    WritesOwn (uidText uid) d (d.downloadMasterJson x) ↔ OwnMaster (uidText uid) d x := by
  have hafter := (frames_ownStage (uidText uid)
    (masterJsonCallback.close (d.masterEvents x) x.ending) x.after).writes
  have hclosed := close_suffix (d.masterEvents x) x.ending
  calc WritesOwn (uidText uid) d (d.downloadMasterJson x)
      ↔ WritesOwn (uidText uid) d (d.masterEvents x) ∧
          WritesOwn (uidText uid) (d.masterEvents x) (d.downloadMasterJson x) :=
        writesOwn_iff_and (masterEvents_suffix d x) (hclosed.trans hafter.suffix)
    _ ↔ WritesOwn (uidText uid) d (d.masterEvents x) ∧
          WritesOwn (uidText uid) (d.masterEvents x)
            (masterJsonCallback.close (d.masterEvents x) x.ending) :=
        and_congr_right fun _ => ⟨fun h => (h.split hclosed hafter.suffix).1, fun h => h.trans hafter⟩
    _ ↔ OwnMaster (uidText uid) d x := by
        rw [masterEvents_writesOwn_iff hd, masterClose_writesOwn_iff hd]
        exact ⟨fun h => ⟨h.1, h.2⟩, fun h => ⟨h.chunks, h.fields⟩⟩

theorem TagsOk.downloadMasterJson {d : Downloader} (h : d.TagsOk) (x : Exchange) :
    (d.downloadMasterJson x).TagsOk := by
  refine ⟨downloadMasterJson_tagUid (Q := IsTag) h.tag fun uid _ => isTag_uidText uid, ?_⟩
  have hafter := (frames_ownStage [] (masterJsonCallback.close (d.masterEvents x) x.ending)
    x.after).file
  rw [show (d.downloadMasterJson x).metadataFile = _ from hafter]
  cases x.ending with
  | finished =>
      rw [show (masterJsonCallback.close (d.masterEvents x) .finished).metadataFile = none from
        (masterFinish_suffix _).2]
      intro tag htag
      cases htag
  | disconnected => exact (h.masterEvents x).file
  | unreachable => exact (h.masterEvents x).file

end

/-! ### The marker -/

theorem createVerifiedFile_writesOwn_iff {d : Downloader} (hd : IsTag d.tagUid) (uid : Uid)
    (seconds : ℕ) :
    WritesOwn (uidText uid) d (d.createVerifiedFile seconds) ↔
      (d.card.fopenWrite (Box.verifyPath d.tagUid) ≠ none → d.tagUid = uidText uid) := by
  have hpath : toysPath ++ d.tagUid ++ str "/verify.txt" =
      toysPath ++ d.tagUid ++ str "/" ++ str "verify.txt" := by
    rw [List.append_assoc _ (str "/")]
    rfl
  unfold createVerifiedFile
  dsimp only
  rw [verifyPath_eq]
  split
  · next hnone => exact iff_of_true (.of_eq rfl) fun hne => absurd (openWrite_eq_none.1 hnone) hne
  · next d' hopen =>
      refine (writesOwn_cons_iff _ (Box.verifyPath d.tagUid) ?_).trans ?_
      · exact (openWrite_written hopen).1
      · rw [← verifyPath_eq, hpath, inOwn_tagPath_iff hd]
        exact ⟨fun h _ => h, fun h => h (hpath ▸ openWrite_ne_none hopen)⟩

theorem createVerifiedFile_suffix (d : Downloader) (seconds : ℕ) :
    d.written <:+ (d.createVerifiedFile seconds).written ∧
      (d.createVerifiedFile seconds).metadataFile = d.metadataFile := by
  unfold createVerifiedFile
  dsimp only
  split
  · exact ⟨List.suffix_rfl, rfl⟩
  · next d' hopen =>
      obtain ⟨hwritten, hfile, -⟩ := openWrite_written hopen
      exact ⟨hwritten ▸ List.suffix_cons _ _, hfile⟩

/-- The marker, if the audio stage writes one, is written for this toy. -/
def OwnMarker (toy : Bytes) (d : Downloader) (s : ℕ → AudioScript) : Prop :=
  ∀ sdFiles, listFiles d.card audioPath = some sdFiles → missingNames sdFiles d.nServer ≠ [] →
    (d.downloadAll s (missingNames sdFiles d.nServer)).1 = true →
    (d.downloadAll s (missingNames sdFiles d.nServer)).2.card.fopenWrite
      (Box.verifyPath (d.downloadAll s (missingNames sdFiles d.nServer)).2.tagUid) ≠ none →
    (d.downloadAll s (missingNames sdFiles d.nServer)).2.tagUid = toy

theorem processAudioFiles_writesOwn_iff {d : Downloader} (hd : IsTag d.tagUid) (uid : Uid)
    (s : ℕ → AudioScript) (seconds : ℕ) :
    WritesOwn (uidText uid) d (d.processAudioFiles s seconds).2 ↔ OwnMarker (uidText uid) d s := by
  unfold processAudioFiles OwnMarker
  cases hlist : listFiles d.card audioPath with
  | none => exact iff_of_true (.of_eq rfl) fun _ h => by cases h
  | some sdFiles =>
      have hstage := (downloadAll_ownStage (uidText uid) d s (missingNames sdFiles d.nServer)).writes
      have htag : IsTag (d.downloadAll s (missingNames sdFiles d.nServer)).2.tagUid :=
        downloadAll_tagUid hd fun _ _ uid _ => isTag_uidText uid
      have hmarker := createVerifiedFile_writesOwn_iff htag uid seconds
      have hlater := (createVerifiedFile_suffix
        (d.downloadAll s (missingNames sdFiles d.nServer)).2 seconds).1
      refine Iff.trans ?_ (b := missingNames sdFiles d.nServer ≠ [] →
        (d.downloadAll s (missingNames sdFiles d.nServer)).1 = true →
        WritesOwn (uidText uid) (d.downloadAll s (missingNames sdFiles d.nServer)).2
          ((d.downloadAll s (missingNames sdFiles d.nServer)).2.createVerifiedFile seconds)) ?_
      · dsimp only
        rw [show (d.nServer.filter fun name => ¬ isDuplicate sdFiles name) =
          missingNames sdFiles d.nServer from rfl]
        generalize d.downloadAll s (missingNames sdFiles d.nServer) = r at hstage hlater ⊢
        by_cases hwrites : r.1 = true ∧ missingNames sdFiles d.nServer ≠ []
        · rw [if_pos hwrites]
          constructor
          · intro h _ _
            exact (h.split hstage.suffix hlater).2
          · intro h
            exact hstage.trans (h hwrites.2 hwrites.1)
        · rw [if_neg hwrites]
          exact iff_of_true hstage fun hne hok => absurd ⟨hok, hne⟩ hwrites
      · rw [hmarker]
        constructor
        · intro h sdFiles' heq
          cases heq
          exact h
        · intro h
          exact h sdFiles rfl

/-! ## A whole call -/

theorem processDirectionFiles_metadataFile (d : Downloader) (s : ℕ → DirectionScript)
    (slots : List (Option Bytes)) :
    (d.processDirectionFiles s slots).metadataFile = d.metadataFile := by
  refine processDirectionFiles_induction (P := fun d' => d'.metadataFile = d.metadataFile) ?_ rfl ?_
  · exact fun d' card written outputBuffer outputLen requests h => h
  · exact fun d' i uid _ h => h

theorem processAudioFiles_metadataFile (d : Downloader) (s : ℕ → AudioScript) (seconds : ℕ) :
    (d.processAudioFiles s seconds).2.metadataFile = d.metadataFile := by
  unfold processAudioFiles
  cases listFiles d.card audioPath with
  | none => rfl
  | some sdFiles =>
      have hfiles := (downloadAll_ownStage [] d s (missingNames sdFiles d.nServer)).file
      dsimp only
      split
      · exact (createVerifiedFile_suffix _ _).2.trans hfiles
      · exact hfiles

theorem processAudioFiles_tagUid {d : Downloader} {s : ℕ → AudioScript} (seconds : ℕ)
    {Q : Bytes → Prop} (hd : Q d.tagUid)
    (hs : ∀ i k, ∀ uid ∈ ((s i).attempts k).frames, Q (uidText uid)) :
    Q (d.processAudioFiles s seconds).2.tagUid := by
  unfold processAudioFiles
  cases listFiles d.card audioPath with
  | none => exact hd
  | some sdFiles =>
      have hfiles : Q (d.downloadAll s (missingNames sdFiles d.nServer)).2.tagUid :=
        downloadAll_tagUid hd hs
      dsimp only
      split
      · exact (createVerifiedFile_tagUid _ _).symm ▸ hfiles
      · exact hfiles

theorem TagsOk.requestToken {d : Downloader} (h : d.TagsOk) (s : BeginScript) :
    (d.requestToken s).TagsOk := by
  refine ⟨requestToken_tagUid (Q := IsTag) h.tag fun uid _ => isTag_uidText uid, ?_⟩
  rw [requestToken_metadataFile]
  exact h.file

theorem processAudioFiles_suffix (d : Downloader) (s : ℕ → AudioScript) (seconds : ℕ) :
    d.written <:+ (d.processAudioFiles s seconds).2.written := by
  unfold processAudioFiles
  cases listFiles d.card audioPath with
  | none => exact List.suffix_rfl
  | some sdFiles =>
      have hfiles := (downloadAll_ownStage [] d s (missingNames sdFiles d.nServer)).writes.suffix
      dsimp only
      split
      · exact hfiles.trans (createVerifiedFile_suffix _ _).1
      · exact hfiles

section

variable [CJson]

theorem TagsOk.beforeAudio {d : Downloader} (h : d.TagsOk) (toy : Bytes) (s : BeginScript) :
    (d.beforeAudio toy s).TagsOk := by
  have hentered : (d.entered toy s).TagsOk := ⟨h.tag, h.file⟩
  have hmaster := (hentered.requestToken s).downloadMasterJson s.master
  refine ⟨processDirectionFiles_tagUid (Q := IsTag) hmaster.tag fun _ uid _ => isTag_uidText uid, ?_⟩
  rw [show (d.beforeAudio toy s).metadataFile = _ from processDirectionFiles_metadataFile _ _ _]
  exact hmaster.file

/-- Whatever the box went through, the tags it remembers are tags. -/
theorem tagsOk_of_reached {ok : Downloader → Event → Prop} {card : Card} {wifi : Wifi}
    {d : Downloader} (h : Reached ok card wifi d) : d.TagsOk := by
  refine Runs.Reached.invariant (I := TagsOk) h ⟨.inl rfl, fun tag htag => by cases htag⟩ ?_
  rintro d e _ hd - rfl
  cases e with
  | frame uid => exact ⟨isTag_uidText uid, hd.file⟩
  | begin toy s =>
      change (d.begin toy s).2.TagsOk
      by_cases hconn : (d.wifi.connect s.connect).1 = 0
      · have hbefore := hd.beforeAudio toy s
        rw [processFiles_eq d toy s hconn]
        refine ⟨?_, ?_⟩
        · exact processAudioFiles_tagUid (Q := IsTag) s.seconds hbefore.tag
            fun _ _ uid _ => isTag_uidText uid
        · dsimp only
          rw [processAudioFiles_metadataFile]
          exact hbefore.file
      · rw [begin_eq, if_neg hconn]
        exact ⟨hd.tag, hd.file⟩

/-- The direction files are written for the toy of the call. -/
theorem beforeAudio_ownStage (d : Downloader) (uid : Uid) (s : BeginScript) :
    OwnStage (uidText uid) ((d.entered (uidText uid) s).requestMasterJson s)
      (d.beforeAudio (uidText uid) s) := by
  have htoy : ((d.entered (uidText uid) s).requestMasterJson s).toy = uidText uid := by
    have hkept := congrArg Kept.toy (requestMasterJson_spec (d.entered (uidText uid) s) s).2
    cases hj : (d.entered (uidText uid) s).storedJson s with
    | none => rw [hj] at hkept; exact hkept
    | some j => rw [hj] at hkept; exact hkept
  have hlen : ((d.entered (uidText uid) s).requestMasterJson s).toy.length ≤ 16 := by
    rw [htoy, length_uidText]
  have hstage := processDirectionFiles_ownStage _ s.direction
    ((d.entered (uidText uid) s).requestMasterJson s).directionFileNames hlen
  rw [htoy] at hstage
  exact hstage

/-- What the call writes by the tag on the box, it writes for the toy it was called for. -/
structure OwnBegin (d : Downloader) (toy : Bytes) (s : BeginScript) : Prop where
  master : OwnMaster toy ((d.entered toy s).requestToken s) s.master
  marker : OwnMarker toy (d.beforeAudio toy s) s.audio

/-- **When a download stays in its toy's folder.** A call of `begin` writes no file of another toy
exactly if it could not connect, or: each chunk of the master JSON came while the metadata file was
open for this toy, or, if it was not open, while the tag on the box was this toy's; the tag was this
toy's when the small files were made from the master JSON; and it was when the marker was written.
Where nothing could be opened, the tag does not matter. -/
theorem begin_writesOwn_iff {ok : Downloader → Event → Prop} {card : Card} {wifi : Wifi}
    {d : Downloader} (hd : Reached ok card wifi d) (uid : Uid) (s : BeginScript) :
    WritesOwn (uidText uid) d (d.begin (uidText uid) s).2 ↔
      ((d.wifi.connect s.connect).1 = 0 → OwnBegin d (uidText uid) s) := by
  have htags := tagsOk_of_reached hd
  by_cases hconn : (d.wifi.connect s.connect).1 = 0
  · rw [processFiles_eq d (uidText uid) s hconn]
    have hentered : (d.entered (uidText uid) s).TagsOk := ⟨htags.tag, htags.file⟩
    have htoken := (requestToken_ownStage (d := d.entered (uidText uid) s) (uidText_ne_nil uid) s).writes
    have hmaster := downloadMasterJson_writesOwn_iff (hentered.requestToken s) uid s.master
    have hmaster' := downloadMasterJson_suffix ((d.entered (uidText uid) s).requestToken s) s.master
    have hdirections := (beforeAudio_ownStage d uid s).writes
    have hmarker := processAudioFiles_writesOwn_iff (htags.beforeAudio (uidText uid) s).tag uid
      s.audio s.seconds
    have hmarker' := processAudioFiles_suffix (d.beforeAudio (uidText uid) s) s.audio s.seconds
    calc WritesOwn (uidText uid) d _
        ↔ WritesOwn (uidText uid) ((d.entered (uidText uid) s).requestToken s) _ :=
          (writesOwn_iff_and htoken.suffix ((hmaster'.trans hdirections.suffix).trans hmarker')).trans
            (and_iff_right htoken)
      _ ↔ OwnMaster (uidText uid) ((d.entered (uidText uid) s).requestToken s) s.master ∧
            WritesOwn (uidText uid) ((d.entered (uidText uid) s).requestMasterJson s) _ :=
          (writesOwn_iff_and hmaster' (hdirections.suffix.trans hmarker')).trans
            (and_congr_left' hmaster)
      _ ↔ OwnMaster (uidText uid) ((d.entered (uidText uid) s).requestToken s) s.master ∧
            OwnMarker (uidText uid) (d.beforeAudio (uidText uid) s) s.audio :=
          and_congr_right' (((writesOwn_iff_and hdirections.suffix hmarker').trans
            (and_iff_right hdirections)).trans hmarker)
      _ ↔ ((d.wifi.connect s.connect).1 = 0 → OwnBegin d (uidText uid) s) :=
          ⟨fun h _ => ⟨h.1, h.2⟩, fun h => ⟨(h hconn).master, (h hconn).marker⟩⟩
  · rw [begin_eq, if_neg hconn]
    exact iff_of_true (.of_eq rfl) fun h => absurd h hconn

/-- With the tag left on the box, and no metadata file left open for another toy, the call stays in its
toy's folder. -/
theorem ownBegin_of_keepsTag {d : Downloader} {uid : Uid} {s : BeginScript}
    (htag : d.tagUid = uidText uid) (hfile : ∀ tag ∈ d.metadataFile, tag = uidText uid)
    (hkeeps : s.KeepsTag uid) : OwnBegin d (uidText uid) s := by
  have hsame {x : List Uid} (h : ∀ u ∈ x, u = uid) : ∀ u ∈ x, uidText u = uidText uid :=
    fun u hu => congrArg uidText (h u hu)
  have htoken : ((d.entered (uidText uid) s).requestToken s).tagUid = uidText uid :=
    requestToken_tagUid (Q := fun tag => tag = uidText uid) htag (hsame hkeeps.token)
  have hclosed : ∀ tag ∈ ((d.entered (uidText uid) s).requestToken s).metadataFile,
      tag = uidText uid := by
    rw [requestToken_metadataFile]
    exact hfile
  -- what holds when the request starts holds after any part of it
  have hpart : ∀ pre post, s.master.events = pre ++ post →
      ∀ e, e = pre.foldl (masterJsonCallback.handle frame)
        ((d.entered (uidText uid) s).requestToken s) →
      e.tagUid = uidText uid ∧ ∀ tag ∈ e.metadataFile, tag = uidText uid := by
    rintro pre post heq _ rfl
    refine Callback.foldl_handle_induction (P := fun e : Downloader =>
      e.tagUid = uidText uid ∧ ∀ tag ∈ e.metadataFile, tag = uidText uid) ⟨htoken, hclosed⟩
      (fun _ _ _ h => h) ?_ ?_
    · rintro e data ⟨he, hefile⟩
      exact ⟨(masterData_tagUid e data).trans he,
        masterData_metadataFile (Q := fun tag => tag = uidText uid) he hefile data⟩
    · rintro e u hu ⟨he, hefile⟩
      have hmem : u ∈ s.master.frames := List.mem_append_left _
        (List.mem_filterMap.2 ⟨_, heq ▸ List.mem_append_left post hu, rfl⟩)
      exact ⟨hsame hkeeps.master u hmem, hefile⟩
  refine ⟨⟨?_, ?_⟩, ?_⟩
  · intro pre data post heq _
    obtain ⟨he, hefile⟩ := hpart pre _ heq _ rfl
    unfold ChunkOwn
    split
    · next tag hopen => exact hefile tag hopen
    · exact fun _ => he
  · intro j _ _
    exact (hpart s.master.events [] (by rw [List.append_nil]) _ rfl).1
  · intro sdFiles _ _ _ _
    exact downloadAll_tagUid (Q := fun tag => tag = uidText uid)
      (beforeAudio_tagUid (uidText uid) htag hkeeps) fun i k => hsame (hkeeps.audio i k)

end

/-! ## A download whose tag was exchanged -/

/-- The first toy is on the box. -/
def firstPlaced : Downloader := (boot sampleCard sampleWifi).frame uidX

theorem reached_firstPlaced :
    @Reached sampleParser (fun _ _ => True) sampleCard sampleWifi firstPlaced :=
  letI := sampleParser
  Runs.reached_foldl step (boot sampleCard sampleWifi) [.frame uidX]

/-- With the toy left on the box, all files are its own. -/
theorem begin_writesOwn_first :
    WritesOwn (uidText uidX) firstPlaced
      (@begin sampleParser firstPlaced (uidText uidX) (sampleScript [])).2 :=
  (@begin_writesOwn_iff sampleParser _ _ _ _ reached_firstPlaced uidX (sampleScript [])).2 fun _ =>
    @ownBegin_of_keepsTag sampleParser _ uidX _ rfl (fun tag htag => by cases htag)
      (keepsTag_sampleScript uidX)

/-- The second toy is put on the box before the master JSON of the first one arrives. -/
def exchangedScript : BeginScript :=
  { sampleScript [] with master := answered [.frame uidY, .onData sampleText] }

/-- The second toy's folder gets the first one's `metadata.cubbies` and `verify.txt`. -/
theorem begin_not_writesOwn :
    @Reached sampleParser (fun _ _ => True) sampleCard sampleWifi firstPlaced ∧
      ¬ WritesOwn (uidText uidX) firstPlaced
        (@begin sampleParser firstPlaced (uidText uidX) exchangedScript).2 := by
  refine ⟨reached_firstPlaced, ?_⟩
  rintro ⟨new, hnew, hown⟩
  have hstart : firstPlaced.written = [] := rfl
  have hmem : metadataPath (uidText uidY) ∈
      (@begin sampleParser firstPlaced (uidText uidX) exchangedScript).2.written := by
    decide +kernel
  rw [hnew, hstart, List.append_nil] at hmem
  exact absurd (hown _ hmem) (by decide)

end Downloader

end Cubbies
