import Cubbies.Proofs.AudioStage
import Cubbies.Proofs.UseCount

set_option autoImplicit false

/-! # What a download leaves of the rest of the card and of the connection

After the first `connect` of `begin` no stage but the token request touches the WiFi object, and the
folders that are made are those on the way to a toy's (`Confined`). -/

namespace Cubbies

open CString

/-- A folder on the way to the toys folder, or below it. -/
def OnToysPath (p : Bytes) : Prop := p <+: Downloader.toysPath ∨ Downloader.toysPath <+: p

/-- From `c` to `c'` all new folders are there. -/
def NewFolders (c c' : Card) : Prop := ∀ p ∈ c'.dirs, p ∈ c.dirs ∨ OnToysPath p

namespace NewFolders

theorem of_eq {c c' : Card} (h : c'.dirs = c.dirs) : NewFolders c c' :=
  fun _ hp => .inl (h ▸ hp)

theorem trans {c₁ c₂ c₃ : Card} (h : NewFolders c₁ c₂) (h' : NewFolders c₂ c₃) :
    NewFolders c₁ c₃ := by
  intro p hp
  rcases h' p hp with hp | hp
  · exact h p hp
  · exact .inr hp

theorem mkdir {c c' : Card} {path : Bytes} (hpath : OnToysPath path) (h : c.mkdir path = .ok c') :
    NewFolders c c' := by
  intro p hp
  rw [(Card.eq_of_mkdir h).1] at hp
  rcases List.mem_append.1 hp with hp | hp
  · exact .inl hp
  · exact .inr (List.mem_singleton.1 hp ▸ hpath)

theorem mkdirAll (c : Card) {paths : List Bytes} (hpaths : ∀ p ∈ paths, OnToysPath p) :
    NewFolders c (Downloader.mkdirAll c paths).1 := by
  induction paths generalizing c with
  | nil => exact of_eq rfl
  | cons p paths ih =>
      have hrest := fun c => ih (c := c) fun q hq => hpaths q (List.mem_cons_of_mem _ hq)
      unfold Downloader.mkdirAll
      split
      · next c' hok => exact (mkdir (hpaths p List.mem_cons_self) hok).trans (hrest c')
      · exact hrest c
      · exact of_eq rfl

/-- The folders made for a path below the toys folder. -/
theorem createDirectory (c : Card) {path : Bytes} (hpath : Downloader.toysPath <+: path) :
    NewFolders c (Downloader.createDirectory c path).1 := by
  have hcut := toysPath_prefix_snprintf hpath
  unfold Downloader.createDirectory
  refine mkdirAll c fun p hp => ?_
  have hlast : (if (snprintf 256 path).getLast? = some 47 then (snprintf 256 path).dropLast
      else snprintf 256 path) <+: snprintf 256 path := by
    split
    · exact List.dropLast_prefix _
    · exact List.prefix_rfl
  have hpre : p <+: snprintf 256 path := by
    rcases List.mem_append.1 hp with hp | hp
    · exact (Downloader.slashPrefixes_prefix [] _ p hp).trans hlast
    · exact List.mem_singleton.1 hp ▸ hlast
  exact List.prefix_or_prefix_of_prefix hpre hcut

end NewFolders

namespace Downloader

/-- The WiFi object is as it was, and the new folders are on the way to a toy's. -/
structure Confined (d d' : Downloader) : Prop where
  wifi : d'.wifi = d.wifi
  folders : NewFolders d.card d'.card

namespace Confined

theorem refl (d : Downloader) : Confined d d := ⟨rfl, .of_eq rfl⟩

theorem trans {d₁ d₂ d₃ : Downloader} (h : Confined d₁ d₂) (h' : Confined d₂ d₃) : Confined d₁ d₃ :=
  ⟨h'.wifi.trans h.wifi, h.folders.trans h'.folders⟩

/-! ## Small steps -/

theorem openWrite {d d' : Downloader} {path : Bytes} (h : d.openWrite path = some d') :
    Confined d d' := by
  obtain ⟨c, hc, rfl⟩ := Option.map_eq_some_iff.1 h
  exact ⟨rfl, .of_eq (Card.fopenWrite_dirs hc)⟩

theorem fwrite (d : Downloader) (path bytes : Bytes) :
    Confined d { d with card := d.card.fwrite path bytes } := ⟨rfl, .of_eq (Card.fwrite_dirs _ _ _)⟩

theorem writeFile (d : Downloader) (path content : Bytes) :
    Confined d (d.writeFile path content) := by
  unfold Downloader.writeFile
  split
  · exact refl d
  · next d' h => exact (openWrite h).trans (fwrite d' path content)

theorem createFolders (d : Downloader) : Confined d d.createFolders := by
  unfold Downloader.createFolders
  split
  · next c h => exact ⟨rfl, .mkdir (.inr (toysPath_prefix_append _)) h⟩
  · exact refl d

/-- An exchange whose handler is confined is so. -/
theorem perform {cb : Callback Downloader} {d : Downloader} {x : Exchange}
    (hheader : ∀ d key value, Confined d (cb.onHeader d key value))
    (hdata : ∀ d data, Confined d (cb.onData d data)) (hfinish : ∀ d, Confined d (cb.onFinish d))
    (hdisconnected : ∀ d, Confined d (cb.onDisconnected d)) :
    Confined d (cb.perform Downloader.frame d x).2 :=
  Callback.perform_induction (.refl d) (fun _ _ _ h => h.trans (hheader _ _ _))
    (fun _ _ h => h.trans (hdata _ _)) (fun _ h => h.trans (hfinish _))
    (fun _ h => h.trans (hdisconnected _)) fun _ _ _ h => h.trans ⟨rfl, .of_eq rfl⟩

/-! ## The token -/

theorem writeTokenError (d : Downloader) (code : ℤ) (tail : Bytes) :
    Confined d (d.writeTokenError code tail) := by
  unfold Downloader.writeTokenError
  split
  · exact writeFile d _ _
  · exact refl d

theorem tokenCallback (d : Downloader) (x : Exchange) :
    Confined d (Downloader.tokenCallback.perform Downloader.frame d x).2 := by
  refine perform (fun d key value => ?_) (fun d _ => refl d) (fun d => refl d) fun d => refl d
  dsimp only [Downloader.tokenCallback]
  split_ifs <;> exact ⟨rfl, .of_eq rfl⟩

/-- A request for the token connects, if it is made. -/
theorem downloadToken (d : Downloader) (connect : WaitScript) (x : Exchange) (tail : Bytes) :
    ∃ w, (w = d.wifi ∨ w = (d.wifi.connect connect).2) ∧
      Confined { d with wifi := w } (d.downloadToken connect x tail) := by
  unfold Downloader.downloadToken
  split
  · exact ⟨d.wifi, .inl rfl, refl d⟩
  · refine ⟨(d.wifi.connect connect).2, .inr rfl, ?_⟩
    dsimp only
    split
    · have hrequest := tokenCallback
        { d with wifi := (d.wifi.connect connect).2, tokenRequestFlag := true } x
      have hwrite := hrequest.trans (writeTokenError _ (if x.ok then x.status else 0) tail)
      exact ⟨hwrite.wifi, hwrite.folders⟩
    · exact refl _

/-! ## The master JSON -/

theorem masterData (d : Downloader) (data : Bytes) : Confined d (d.masterData data) := by
  unfold Downloader.masterData
  split
  · exact refl d
  · dsimp only
    split
    · exact ⟨rfl, .of_eq (Card.fwrite_dirs _ _ _)⟩
    · have hpath : toysPath <+: toysPath ++ d.tagUid ++ str "/" := by
        rw [List.append_assoc]
        exact toysPath_prefix_append _
      have hmade := NewFolders.createDirectory d.card hpath
      split
      · split
        · exact ⟨rfl, hmade⟩
        · next d' h =>
            have hopened := openWrite h
            exact ⟨hopened.wifi, (hmade.trans hopened.folders).trans (.of_eq (Card.fwrite_dirs _ _ _))⟩
      · exact ⟨rfl, hmade⟩

theorem storeLists (d : Downloader) (j : Json) : Confined d (d.storeLists j) := by
  have hlists : (d.storeLists j).wifi = d.wifi ∧ (d.storeLists j).card = d.card := by
    unfold Downloader.storeLists
    cases j.stringField? (str "baseUrl") <;> cases j.arrayField? (str "directionFiles") <;>
      cases j.arrayField? (str "media") <;> cases hmedia : d.mediaJson <;> simp [hmedia]
  exact ⟨hlists.1, .of_eq (congrArg Card.dirs hlists.2)⟩

theorem storeField (d : Downloader) (path : Bytes) (content : Option Bytes) :
    Confined d (d.storeField path content) := by
  cases content with
  | none => exact refl d
  | some content => exact writeFile d path content

theorem storeFiles (d : Downloader) (j : Json) : Confined d (d.storeFiles j) :=
  (((storeField d _ _).trans (storeField _ _ _)).trans (storeField _ _ _)).trans (storeField _ _ _)

section

variable [CJson]

theorem parseAndStoreMetadata (d : Downloader) (response : Bytes) :
    Confined d (d.parseAndStoreMetadata response) := by
  unfold Downloader.parseAndStoreMetadata
  split
  · exact refl d
  · next j _ =>
      have hreceived : Confined d { d with received := (d.toy, j) :: d.received } := ⟨rfl, .of_eq rfl⟩
      exact (hreceived.trans (storeLists _ j)).trans (storeFiles _ j)

theorem masterFinish (d : Downloader) : Confined d d.masterFinish := by
  unfold Downloader.masterFinish
  dsimp only
  split
  · next response _ =>
      have hstored := parseAndStoreMetadata { d with metadataFile := none } response
      exact ⟨hstored.wifi, hstored.folders⟩
  · exact ⟨rfl, .of_eq rfl⟩

theorem downloadMasterJson (d : Downloader) (x : Exchange) : Confined d (d.downloadMasterJson x) :=
  perform (fun d _ _ => refl d) masterData masterFinish fun _ => ⟨rfl, .of_eq rfl⟩

end

/-! ## The files -/

theorem downloadFile (d : Downloader) (dirFileName : Bytes) (x : Exchange) :
    Confined d (d.downloadFile dirFileName x) := by
  have hperform : ∀ d : Downloader,
      Confined d (directionCallback.perform Downloader.frame d x).2 := by
    intro d
    refine perform (fun d _ _ => refl d) (fun d data => ?_) (fun _ => ⟨rfl, .of_eq rfl⟩)
      fun _ => ⟨rfl, .of_eq rfl⟩
    dsimp only [directionCallback]
    split <;> exact ⟨rfl, .of_eq rfl⟩
  unfold Downloader.downloadFile
  dsimp only
  generalize hd' : ({ d with
    outputBuffer := []
    outputLen := 0
    requests := .directionFile dirFileName (snprintf 256 (d.baseUrl ++ dirFileName)) :: d.requests }
      : Downloader) = d'
  have hasked : Confined d d' := hd' ▸ ⟨rfl, .of_eq rfl⟩
  have hstart := hasked.trans (hperform d')
  split
  · split
    · exact hstart.trans (writeFile _ _ _)
    · exact hstart
  · exact hstart

theorem processDirectionFiles (d : Downloader) (s : ℕ → DirectionScript)
    (slots : List (Option Bytes)) : Confined d (d.processDirectionFiles s slots) := by
  induction slots generalizing d s with
  | nil => exact refl d
  | cons slot slots ih =>
      unfold Downloader.processDirectionFiles
      refine Confined.trans ?_ (ih _ _)
      split
      · exact downloadFile d _ _
      · exact refl d

theorem downloadAll (d : Downloader) (s : ℕ → AudioScript) (names : List Bytes) :
    Confined d (d.downloadAll s names).2 := by
  refine ⟨?_, .of_eq (downloadAll_kept d s names).2⟩
  refine downloadAll_induction (P := fun d' => d'.wifi = d.wifi) ?_ rfl ?_ ?_
  · exact fun d' card buffer file h => h
  · intro d₁ d₂ name _ hopen h
    obtain ⟨e, he, rfl⟩ := Option.map_eq_some_iff.1 hopen
    exact (openWrite he).wifi.trans h
  · exact fun d' i k uid _ h => h

theorem createVerifiedFile (d : Downloader) (seconds : ℕ) :
    Confined d (d.createVerifiedFile seconds) := by
  unfold Downloader.createVerifiedFile
  dsimp only
  split
  · exact refl d
  · next d' h =>
      have hopened := openWrite h
      exact ⟨hopened.wifi, hopened.folders.trans (.of_eq (Card.fwrite_dirs _ _ _))⟩

theorem processAudioFiles (d : Downloader) (s : ℕ → AudioScript) (seconds : ℕ) :
    Confined d (d.processAudioFiles s seconds).2 := by
  unfold Downloader.processAudioFiles
  cases listFiles d.card audioPath with
  | none => exact refl d
  | some sdFiles =>
      have hall := downloadAll d s (d.nServer.filter fun name => ¬ isDuplicate sdFiles name)
      dsimp only
      split
      · have hmarked := hall.trans (createVerifiedFile _ seconds)
        exact ⟨hmarked.wifi, hmarked.folders⟩
      · exact ⟨hall.wifi, hall.folders⟩

theorem processFiles (d : Downloader) (s : BeginScript) : Confined d (d.processFiles s).2 := by
  have hfiles := (processDirectionFiles d s.direction d.directionFileNames).trans
    (processAudioFiles _ s.audio s.seconds)
  exact ⟨hfiles.wifi, hfiles.folders⟩

end Confined

section

variable [CJson]

/-- `begin` up to the direction files connects for the token, if it asks for one. -/
theorem requestMasterJson_confined (d : Downloader) (s : BeginScript) :
    ∃ w, (w = d.wifi ∨ w = (d.wifi.connect s.tokenConnect).2) ∧
      Confined { d with wifi := w } (d.requestMasterJson s) := by
  obtain ⟨w, hw, htoken⟩ := Confined.downloadToken d.createFolders s.tokenConnect s.token s.errorTail
  have hfolders := Confined.createFolders d
  have hrest := htoken.trans (.downloadMasterJson _ s.master)
  rw [hfolders.wifi] at hw
  exact ⟨w, hw, hrest.wifi, hfolders.folders.trans hrest.folders⟩

/-- **A whole download** connects, once or twice. -/
theorem begin_confined (d : Downloader) (toy : Bytes) (s : BeginScript) :
    ∃ w, (w = (d.wifi.connect s.connect).2 ∨
        w = ((d.wifi.connect s.connect).2.connect s.tokenConnect).2) ∧
      Confined { d with wifi := w } (d.begin toy s).2 := by
  unfold begin
  dsimp only
  split
  · obtain ⟨w, hw, hmaster⟩ := requestMasterJson_confined
      { d with toy := toy, wifi := (d.wifi.connect s.connect).2 } s
    have hrest := hmaster.trans (.processFiles _ s)
    exact ⟨w, hw, hrest.wifi, hrest.folders⟩
  · exact ⟨_, .inl rfl, rfl, .of_eq rfl⟩

end

end Downloader

end Cubbies
