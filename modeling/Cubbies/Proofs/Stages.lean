import Cubbies.Proofs.ToyWrites

set_option autoImplicit false

/-! # What the stages of a download do

`kept` is the part of the state that only the parser of the master JSON and the last steps of a
download change. A `SideStep` leaves it alone and writes only into toy folders: so do the token
request, the direction files, and a master JSON that is not stored. What a stored one does to the lists
is given in closed form by `downloadMasterJson_stored`, over `storedResponse`: the JSON the call
stores, if any. -/

namespace Cubbies

open CString

namespace Downloader

structure Kept where
  toy : Bytes
  responseBuffer : Option Bytes
  baseUrl : Bytes
  directionFileNames : List (Option Bytes)
  nServer : List Bytes
  mediaJson : Option Json
  received : List (Bytes × Json)
  verified : List Marker

def kept (d : Downloader) : Kept where
  toy := d.toy
  responseBuffer := d.responseBuffer
  baseUrl := d.baseUrl
  directionFileNames := d.directionFileNames
  nServer := d.nServer
  mediaJson := d.mediaJson
  received := d.received
  verified := d.verified

structure SideStep (d d' : Downloader) : Prop where
  kept : d'.kept = d.kept
  card : ToyWrite d.card d'.card

theorem SideStep.refl (d : Downloader) : SideStep d d := ⟨rfl, .refl _⟩

theorem SideStep.trans {d₁ d₂ d₃ : Downloader} (h : SideStep d₁ d₂) (h' : SideStep d₂ d₃) :
    SideStep d₁ d₃ := ⟨h'.kept.trans h.kept, h.card.trans h'.card⟩

/-! ## Small steps -/

theorem SideStep.frame (d : Downloader) (uid : Uid) : SideStep d (d.frame uid) := ⟨rfl, .refl _⟩

theorem openWrite_kept {d d' : Downloader} {path : Bytes} (h : d.openWrite path = some d') :
    d'.kept = d.kept := by
  obtain ⟨c, -, rfl⟩ := Option.map_eq_some_iff.1 h
  rfl

theorem openWrite_tagUid {d d' : Downloader} {path : Bytes} (h : d.openWrite path = some d') :
    d'.tagUid = d.tagUid := by
  obtain ⟨c, -, rfl⟩ := Option.map_eq_some_iff.1 h
  rfl

theorem writeFile_kept (d : Downloader) (path content : Bytes) :
    (d.writeFile path content).kept = d.kept := by
  unfold writeFile
  split
  · rfl
  · next d' h =>
      have hkept := openWrite_kept h
      exact hkept

theorem writeFile_tagUid (d : Downloader) (path content : Bytes) :
    (d.writeFile path content).tagUid = d.tagUid := by
  unfold writeFile
  split
  · rfl
  · next d' h =>
      have htag := openWrite_tagUid h
      exact htag

theorem SideStep.writeFile (d : Downloader) {path : Bytes} (content : Bytes)
    (hpath : ToyFile path) : SideStep d (d.writeFile path content) :=
  ⟨writeFile_kept d path content, writeFile_toyWrite d content hpath⟩

theorem SideStep.createFolders (d : Downloader) : SideStep d d.createFolders := by
  refine ⟨?_, createFolders_toyWrite d⟩
  unfold Downloader.createFolders
  split <;> rfl

theorem createFolders_tagUid (d : Downloader) : d.createFolders.tagUid = d.tagUid := by
  unfold createFolders
  split <;> rfl

/-- An exchange whose handler makes side steps is one. -/
theorem SideStep.perform {cb : Callback Downloader} {d : Downloader} {x : Exchange}
    (hheader : ∀ d key value, SideStep d (cb.onHeader d key value))
    (hdata : ∀ d data, SideStep d (cb.onData d data)) (hfinish : ∀ d, SideStep d (cb.onFinish d))
    (hdisconnected : ∀ d, SideStep d (cb.onDisconnected d)) :
    SideStep d (cb.perform Downloader.frame d x).2 :=
  Callback.perform_induction (.refl d) (fun _ _ _ h => h.trans (hheader _ _ _))
    (fun _ _ h => h.trans (hdata _ _)) (fun _ h => h.trans (hfinish _))
    (fun _ h => h.trans (hdisconnected _)) fun _ _ _ h => h.trans (.frame _ _)

/-- The tag after an exchange whose handler does not write `tagUid_qbus`: what held of the tag before
and holds of all tags read meanwhile. -/
theorem perform_tagUid {cb : Callback Downloader} {d : Downloader} {x : Exchange} {Q : Bytes → Prop}
    (hheader : ∀ (d : Downloader) key value, (cb.onHeader d key value).tagUid = d.tagUid)
    (hdata : ∀ (d : Downloader) data, (cb.onData d data).tagUid = d.tagUid)
    (hfinish : ∀ d : Downloader, (cb.onFinish d).tagUid = d.tagUid)
    (hdisconnected : ∀ d : Downloader, (cb.onDisconnected d).tagUid = d.tagUid)
    (hd : Q d.tagUid) (hx : ∀ uid ∈ x.frames, Q (uidText uid)) :
    Q (cb.perform Downloader.frame d x).2.tagUid :=
  Callback.perform_induction (P := fun d : Downloader => Q d.tagUid) hd
    (fun _ _ _ h => (hheader _ _ _).symm ▸ h) (fun _ _ h => (hdata _ _).symm ▸ h)
    (fun _ h => (hfinish _).symm ▸ h) (fun _ h => (hdisconnected _).symm ▸ h)
    fun _ uid hmem _ => hx uid hmem

/-! ## The token -/

theorem tokenCallback_onHeader (d : Downloader) (key value : Bytes) :
    (tokenCallback.onHeader d key value).kept = d.kept ∧
      (tokenCallback.onHeader d key value).card = d.card ∧
      (tokenCallback.onHeader d key value).tagUid = d.tagUid := by
  dsimp only [tokenCallback]
  split
  · split
    · split <;> exact ⟨rfl, rfl, rfl⟩
    · exact ⟨rfl, rfl, rfl⟩
  · exact ⟨rfl, rfl, rfl⟩

theorem toysPath_errorPath (toy : Bytes) : toysPath <+: errorPath toy := by
  unfold errorPath
  split
  · exact List.prefix_append _ _
  · rw [List.append_assoc]
    exact List.prefix_append _ _

theorem toyFile_errorPath (toy : Bytes) : ToyFile (errorPath toy) := by
  unfold errorPath
  split
  · exact toyFile_append (List.prefix_refl _) (by decide)
  · exact toyFile_append (toysPath_prefix_append _) (by decide)

theorem SideStep.writeTokenError (d : Downloader) (code : ℤ) (tail : Bytes) :
    SideStep d (d.writeTokenError code tail) := by
  unfold Downloader.writeTokenError
  split
  · exact .writeFile d _ (toyFile_errorPath d.toy)
  · exact .refl d

theorem writeTokenError_tagUid (d : Downloader) (code : ℤ) (tail : Bytes) :
    (d.writeTokenError code tail).tagUid = d.tagUid := by
  unfold writeTokenError
  split
  · exact writeFile_tagUid d _ _
  · rfl

theorem SideStep.tokenCallback (d : Downloader) (x : Exchange) :
    SideStep d (Downloader.tokenCallback.perform Downloader.frame d x).2 := by
  refine .perform (fun d key value => ?_) (fun d _ => .refl d) (fun d => .refl d)
    (fun d => .refl d)
  obtain ⟨hkept, hcard, -⟩ := tokenCallback_onHeader d key value
  exact ⟨hkept, hcard ▸ .refl _⟩

theorem SideStep.downloadToken (d : Downloader) (connect : WaitScript) (x : Exchange)
    (tail : Bytes) : SideStep d (d.downloadToken connect x tail) := by
  unfold Downloader.downloadToken
  split
  · exact .refl d
  · dsimp only
    split
    · have hrequest := SideStep.tokenCallback
        { d with wifi := (d.wifi.connect connect).2, tokenRequestFlag := true } x
      have hwrite := hrequest.trans (.writeTokenError _ (if x.ok then x.status else 0) tail)
      exact ⟨hwrite.kept, hwrite.card⟩
    · exact ⟨rfl, .refl _⟩

theorem downloadToken_tagUid {d : Downloader} {connect : WaitScript} {x : Exchange} {tail : Bytes}
    {Q : Bytes → Prop} (hd : Q d.tagUid) (hx : ∀ uid ∈ x.frames, Q (uidText uid)) :
    Q (d.downloadToken connect x tail).tagUid := by
  unfold downloadToken
  split
  · exact hd
  · dsimp only
    split
    · rw [writeTokenError_tagUid]
      exact perform_tagUid (fun d key value => (tokenCallback_onHeader d key value).2.2)
        (fun _ _ => rfl) (fun _ => rfl) (fun _ => rfl) hd hx
    · exact hd

theorem SideStep.requestToken (d : Downloader) (s : BeginScript) : SideStep d (d.requestToken s) :=
  (SideStep.createFolders d).trans (.downloadToken _ _ _ _)

theorem requestToken_tagUid {d : Downloader} {s : BeginScript} {Q : Bytes → Prop}
    (hd : Q d.tagUid) (hs : ∀ uid ∈ s.token.frames, Q (uidText uid)) : Q (d.requestToken s).tagUid :=
  downloadToken_tagUid ((createFolders_tagUid d).symm ▸ hd) hs

/-! ## The master JSON -/

/-- The state with the part of a response received so far left out. -/
def dropResponse (d : Downloader) : Downloader := { d with responseBuffer := none }

theorem masterData_kept (d : Downloader) (data : Bytes) :
    (d.masterData data).dropResponse.kept = d.dropResponse.kept := by
  unfold masterData
  split
  · rfl
  · dsimp only
    split
    · rfl
    · split
      · split
        · rfl
        · next d' h =>
            have := openWrite_kept h
            simp only [kept, Kept.mk.injEq] at this
            simp only [dropResponse, kept, Kept.mk.injEq, true_and]
            exact ⟨this.1, this.2.2⟩
      · rfl

theorem masterData_card (d : Downloader) (data : Bytes) :
    ToyWrite d.card (d.masterData data).card := by
  unfold masterData
  split
  · exact .refl _
  · dsimp only
    have hpath : toysPath <+: toysPath ++ d.tagUid ++ str "/" := by
      rw [List.append_assoc]
      exact toysPath_prefix_append _
    have hdir : ToyWrite d.card (createDirectory d.card (toysPath ++ d.tagUid ++ str "/")).1 :=
      createDirectory_toyWrite hpath
    split
    · exact .fwrite (toyFile_metadataPath _)
    · split
      · split
        · exact hdir
        · next d' h =>
            exact (hdir.trans (openWrite_toyWrite (toyFile_metadataPath _) h)).trans
              (.fwrite (toyFile_metadataPath _))
      · exact hdir

theorem masterData_tagUid (d : Downloader) (data : Bytes) : (d.masterData data).tagUid = d.tagUid := by
  unfold masterData
  split
  · rfl
  · dsimp only
    split
    · rfl
    · split
      · split
        · rfl
        · next d' h =>
            have htag := openWrite_tagUid h
            exact htag
      · rfl

theorem masterData_responseBuffer (d : Downloader) (data : Bytes) :
    (d.masterData data).responseBuffer.getD [] = d.responseBuffer.getD [] ++ data := by
  unfold masterData
  split
  · next h => rw [h, List.append_nil]
  · dsimp only
    split
    · rfl
    · split
      · split
        · rfl
        · next d' h =>
            have := openWrite_kept h
            simp only [kept, Kept.mk.injEq] at this
            rw [this.2.1]
            rfl
      · rfl

/-- The lists a master JSON gives. -/
def givenUrl (j : Json) : Option Bytes := (j.stringField? (str "baseUrl")).map (·.take 255)

def givenDirections (j : Json) : Option (List (Option Bytes)) :=
  (j.arrayField? (str "directionFiles")).map (·.map Json.valuestring?)

def givenMedia (j : Json) : Option Json := (j.arrayField? (str "media")).map Json.array

/-- The lists after `j` was stored over the ones in `k`. -/
def Kept.store (k : Kept) (j : Json) : Kept :=
  let media := (givenMedia j).or k.mediaJson
  { k with
    responseBuffer := none
    baseUrl := (givenUrl j).getD k.baseUrl
    directionFileNames := (givenDirections j).getD k.directionFileNames
    mediaJson := media
    nServer := (media.map mediaNames).getD k.nServer
    received := (k.toy, j) :: k.received }

theorem storeLists_kept (d : Downloader) (j : Json) :
    (({ d with received := (d.toy, j) :: d.received }).storeLists j).dropResponse.kept =
      d.kept.store j := by
  unfold storeLists Kept.store givenUrl givenDirections givenMedia
  cases j.stringField? (str "baseUrl") <;> cases j.arrayField? (str "directionFiles") <;>
    cases j.arrayField? (str "media") <;> cases hmedia : d.mediaJson <;>
    simp [dropResponse, kept, hmedia]

theorem storeLists_card (d : Downloader) (j : Json) :
    (d.storeLists j).card = d.card ∧ (d.storeLists j).tagUid = d.tagUid := by
  unfold storeLists
  cases j.stringField? (str "baseUrl") <;> cases j.arrayField? (str "directionFiles") <;>
    cases j.arrayField? (str "media") <;> cases hmedia : d.mediaJson <;> simp [hmedia]

theorem SideStep.storeField (d : Downloader) {path : Bytes} (content : Option Bytes)
    (hpath : ToyFile path) : SideStep d (d.storeField path content) := by
  cases content with
  | some content => exact .writeFile d content hpath
  | none => exact .refl d

theorem storeField_tagUid (d : Downloader) (path : Bytes) (content : Option Bytes) :
    (d.storeField path content).tagUid = d.tagUid := by
  cases content with
  | some content => exact writeFile_tagUid d path content
  | none => rfl

theorem toyFile_basePath (tag : Bytes) {name : Bytes} (hname : name.getLast? = some 115) :
    ToyFile (snprintf 256 (toysPath ++ tag) ++ name) :=
  toyFile_append (toysPath_prefix_snprintf (toysPath_prefix_append tag)) hname

theorem SideStep.storeFiles (d : Downloader) (j : Json) : SideStep d (d.storeFiles j) := by
  unfold Downloader.storeFiles
  exact (((SideStep.storeField _ _ (toyFile_basePath _ (by decide))).trans
    (.storeField _ _ (toyFile_basePath _ (by decide)))).trans
    (.storeField _ _ (toyFile_basePath _ (by decide)))).trans
    (.storeField _ _ (toyFile_basePath _ (by decide)))

theorem storeFiles_tagUid (d : Downloader) (j : Json) : (d.storeFiles j).tagUid = d.tagUid := by
  unfold storeFiles
  simp only [storeField_tagUid]

theorem frames_kept (d : Downloader) (uids : List Uid) :
    (uids.foldl frame d).kept = d.kept ∧ (uids.foldl frame d).card = d.card :=
  Callback.foldl_frame_induction (P := fun d' : Downloader => d'.kept = d.kept ∧ d'.card = d.card)
    ⟨rfl, rfl⟩ fun _ _ _ h => h

section

variable [CJson]

/-- The events of an exchange, before it ends. -/
def masterEvents (d : Downloader) (x : Exchange) : Downloader :=
  x.events.foldl (masterJsonCallback.handle frame) d

theorem masterEvents_spec (d : Downloader) (x : Exchange) :
    (d.masterEvents x).dropResponse.kept = d.dropResponse.kept ∧
      ToyWrite d.card (d.masterEvents x).card := by
  refine Callback.foldl_handle_induction
    (P := fun d' : Downloader => d'.dropResponse.kept = d.dropResponse.kept ∧ ToyWrite d.card d'.card)
    ⟨rfl, .refl _⟩ (fun _ _ _ h => h) ?_ ?_
  · rintro d' data ⟨hkept, hcard⟩
    exact ⟨(masterData_kept d' data).trans hkept, hcard.trans (masterData_card d' data)⟩
  · rintro d' uid - ⟨hkept, hcard⟩
    exact ⟨hkept, hcard⟩

theorem masterEvents_responseBuffer (d : Downloader) (x : Exchange) :
    (d.masterEvents x).responseBuffer.getD [] = d.responseBuffer.getD [] ++ x.body := by
  have h : ∀ (es : List HttpEvent) (d : Downloader),
      (es.foldl (masterJsonCallback.handle frame) d).responseBuffer.getD [] =
        d.responseBuffer.getD [] ++ es.flatMap Exchange.chunk := by
    intro es
    induction es with
    | nil => intro d; simp
    | cons e es ih =>
        intro d
        rw [List.foldl_cons, ih, List.flatMap_cons, ← List.append_assoc]
        congr 1
        cases e with
        | onHeader key value => simp [Callback.handle, masterJsonCallback, Exchange.chunk]
        | onData data => exact masterData_responseBuffer d data
        | frame uid => simp [Callback.handle, frame, Exchange.chunk]
  exact h x.events d

/-- The master JSON an exchange leads to storing. -/
def storedResponse (d : Downloader) (x : Exchange) : Option Json :=
  if x.ok then (d.masterEvents x).responseAtFinish.bind CJson.parse else none

theorem parseAndStoreMetadata_spec (d : Downloader) (response : Bytes) :
    ToyWrite d.card (d.parseAndStoreMetadata response).card ∧
      (d.parseAndStoreMetadata response).dropResponse.kept =
        match CJson.parse response with
        | some j => d.kept.store j
        | none => d.dropResponse.kept := by
  unfold parseAndStoreMetadata
  cases CJson.parse response with
  | none => exact ⟨.refl _, rfl⟩
  | some j =>
      dsimp only
      have hcard := (storeLists_card { d with received := (d.toy, j) :: d.received } j).1
      have hlists := storeLists_kept d j
      generalize ({ d with received := (d.toy, j) :: d.received } : Downloader).storeLists j = d'
        at hcard hlists ⊢
      have hfiles := SideStep.storeFiles d' j
      refine ⟨hcard ▸ hfiles.card, ?_⟩
      rw [← hlists]
      have hkept := hfiles.kept
      simp only [kept, Kept.mk.injEq] at hkept
      simp only [dropResponse, kept, Kept.mk.injEq, true_and]
      exact ⟨hkept.1, hkept.2.2⟩

theorem parseAndStoreMetadata_tagUid (d : Downloader) (response : Bytes) :
    (d.parseAndStoreMetadata response).tagUid = d.tagUid := by
  unfold parseAndStoreMetadata
  split
  · rfl
  · rw [storeFiles_tagUid, (storeLists_card _ _).2]

theorem masterFinish_spec (d : Downloader) :
    ToyWrite d.card d.masterFinish.card ∧
      d.masterFinish.kept =
        match d.responseAtFinish.bind CJson.parse with
        | some j => d.kept.store j
        | none => d.dropResponse.kept := by
  unfold masterFinish
  cases d.responseAtFinish with
  | none => exact ⟨.refl _, rfl⟩
  | some response => exact parseAndStoreMetadata_spec { d with metadataFile := none } response

theorem masterFinish_tagUid (d : Downloader) : d.masterFinish.tagUid = d.tagUid := by
  unfold masterFinish
  cases d.responseAtFinish with
  | none => rfl
  | some response => exact parseAndStoreMetadata_tagUid { d with metadataFile := none } response

/-- The lists after a master JSON request: those of before, or what the JSON stored made of them. -/
theorem downloadMasterJson_spec (d : Downloader) (x : Exchange) :
    ToyWrite d.card (d.downloadMasterJson x).card ∧
      (d.downloadMasterJson x).dropResponse.kept =
        match d.storedResponse x with
        | some j => d.dropResponse.kept.store j
        | none => d.dropResponse.kept := by
  obtain ⟨hkept, hcard⟩ := masterEvents_spec d x
  have hstore : ∀ j, (d.masterEvents x).kept.store j = d.dropResponse.kept.store j := fun j =>
    calc (d.masterEvents x).kept.store j = (d.masterEvents x).dropResponse.kept.store j := rfl
      _ = d.dropResponse.kept.store j := by rw [hkept]
  have hfin := masterFinish_spec (d.masterEvents x)
  obtain ⟨hafter, hafterCard⟩ := frames_kept
    (masterJsonCallback.close (d.masterEvents x) x.ending) x.after
  have hdrop : (d.downloadMasterJson x).dropResponse.kept =
      (masterJsonCallback.close (d.masterEvents x) x.ending).dropResponse.kept := by
    simp only [kept, Kept.mk.injEq] at hafter
    simp only [dropResponse, kept, Kept.mk.injEq, true_and]
    exact ⟨hafter.1, hafter.2.2⟩
  have hcard' : (d.downloadMasterJson x).card =
      (masterJsonCallback.close (d.masterEvents x) x.ending).card := hafterCard
  rw [hdrop, hcard']
  unfold storedResponse Exchange.ok
  cases hend : x.ending with
  | finished =>
      refine ⟨hcard.trans hfin.1, ?_⟩
      have hclose : (masterJsonCallback.close (d.masterEvents x) .finished).dropResponse.kept =
          (d.masterEvents x).masterFinish.kept := by
        have hnone : (d.masterEvents x).masterFinish.responseBuffer = none := rfl
        simp only [Callback.close, masterJsonCallback, dropResponse, kept, hnone]
      rw [hclose, hfin.2]
      simp only [decide_true, if_true]
      cases (d.masterEvents x).responseAtFinish.bind CJson.parse with
      | none => exact hkept
      | some j => exact hstore j
  | disconnected => exact ⟨hcard, hkept⟩
  | unreachable => exact ⟨hcard, hkept⟩

theorem downloadMasterJson_tagUid {d : Downloader} {x : Exchange} {Q : Bytes → Prop}
    (hd : Q d.tagUid) (hx : ∀ uid ∈ x.frames, Q (uidText uid)) :
    Q (d.downloadMasterJson x).tagUid :=
  perform_tagUid (fun _ _ _ => rfl) masterData_tagUid masterFinish_tagUid (fun _ => rfl) hd hx

/-- No response is left over after a request. -/
theorem downloadMasterJson_responseBuffer (d : Downloader) (x : Exchange)
    (hd : d.responseBuffer = none) : (d.downloadMasterJson x).responseBuffer = none := by
  have hafter := (frames_kept (masterJsonCallback.close (d.masterEvents x) x.ending) x.after).1
  simp only [kept, Kept.mk.injEq] at hafter
  refine hafter.2.1.trans ?_
  cases hend : x.ending with
  | finished => rfl
  | disconnected => rfl
  | unreachable =>
      have hframes : ∀ (es : List HttpEvent) (d : Downloader), d.responseBuffer = none →
          (∀ e ∈ es, ∃ uid, e = .frame uid) →
          (es.foldl (masterJsonCallback.handle frame) d).responseBuffer = none := by
        intro es
        induction es with
        | nil => exact fun d hd _ => hd
        | cons e es ih =>
            intro d hd hes
            obtain ⟨uid, rfl⟩ := hes e List.mem_cons_self
            exact ih _ hd fun e he => hes e (List.mem_cons_of_mem _ he)
      exact hframes x.events d hd (x.delivered hend)

/-- What is stored is what the body of this very response parses to. -/
theorem storedResponse_parse {d : Downloader} {x : Exchange} {j : Json}
    (hd : d.responseBuffer = none) (h : d.storedResponse x = some j) :
    x.ok = true ∧ CJson.parse x.body = some j := by
  unfold storedResponse at h
  split at h
  · next hok =>
      refine ⟨hok, ?_⟩
      obtain ⟨response, hresponse, hparse⟩ := Option.bind_eq_some_iff.1 h
      unfold responseAtFinish at hresponse
      split at hresponse
      · have hbody := masterEvents_responseBuffer d x
        rw [hresponse, hd] at hbody
        simp only [Option.getD_some, Option.getD_none, List.nil_append] at hbody
        rw [← hbody]
        exact hparse
      · cases hresponse
  · cases h

/-! ## `begin` up to the direction files -/

/-- The master JSON a call of `begin` stores. -/
def storedJson (d : Downloader) (s : BeginScript) : Option Json :=
  (d.requestToken s).storedResponse s.master

theorem requestMasterJson_spec (d : Downloader) (s : BeginScript) :
    ToyWrite d.card (d.requestMasterJson s).card ∧
      (d.requestMasterJson s).dropResponse.kept =
        match d.storedJson s with
        | some j => d.dropResponse.kept.store j
        | none => d.dropResponse.kept := by
  have hstep := SideStep.requestToken d s
  have hkept : (d.requestToken s).dropResponse.kept = d.dropResponse.kept := by
    have := hstep.kept
    simp only [kept, Kept.mk.injEq] at this
    simp only [dropResponse, kept, Kept.mk.injEq, true_and]
    exact ⟨this.1, this.2.2⟩
  obtain ⟨hcard, hlists⟩ := downloadMasterJson_spec (d.requestToken s) s.master
  refine ⟨hstep.card.trans hcard, ?_⟩
  rw [hkept] at hlists
  exact hlists

theorem requestMasterJson_responseBuffer (d : Downloader) (s : BeginScript)
    (hd : d.responseBuffer = none) : (d.requestMasterJson s).responseBuffer = none := by
  have hkept := (SideStep.requestToken d s).kept
  simp only [kept, Kept.mk.injEq] at hkept
  exact downloadMasterJson_responseBuffer _ _ (hkept.2.1.trans hd)

theorem storedJson_parse {d : Downloader} {s : BeginScript} {j : Json}
    (hd : d.responseBuffer = none) (h : d.storedJson s = some j) :
    s.master.ok = true ∧ CJson.parse s.master.body = some j := by
  have hkept := (SideStep.requestToken d s).kept
  simp only [kept, Kept.mk.injEq] at hkept
  exact storedResponse_parse (hkept.2.1.trans hd) h

end

/-! ## Direction files -/

theorem SideStep.directionCallback (d : Downloader) (x : Exchange) :
    SideStep d (Downloader.directionCallback.perform Downloader.frame d x).2 := by
  refine .perform (fun d _ _ => .refl d) (fun d data => ?_) (fun d => ⟨rfl, .refl _⟩)
    (fun d => ⟨rfl, .refl _⟩)
  dsimp only [Downloader.directionCallback]
  split <;> exact ⟨rfl, .refl _⟩

theorem toyFile_directionPath (toy direction : Bytes) :
    ToyFile (snprintf 256 (toysPath ++ toy ++ str "/" ++ direction ++ str ".cubbies")) := by
  refine toyFile_snprintf (toyFile_append ?_ (by decide))
  simp only [List.append_assoc]
  exact toysPath_prefix_append _

theorem SideStep.downloadFile (d : Downloader) (dirFileName : Bytes) (x : Exchange) :
    SideStep d (d.downloadFile dirFileName x) := by
  unfold Downloader.downloadFile
  dsimp only
  generalize hd' : ({ d with
    outputBuffer := []
    outputLen := 0
    requests := .directionFile dirFileName (snprintf 256 (d.baseUrl ++ dirFileName)) :: d.requests }
      : Downloader) = d'
  have hstart : SideStep d d' := hd' ▸ ⟨rfl, .refl _⟩
  have hperform := hstart.trans (.directionCallback d' x)
  split
  · split
    · exact hperform.trans (.writeFile _ _ (toyFile_directionPath _ _))
    · exact hperform
  · exact hperform

theorem SideStep.processDirectionFiles (d : Downloader) (s : ℕ → DirectionScript)
    (slots : List (Option Bytes)) : SideStep d (d.processDirectionFiles s slots) := by
  induction slots generalizing d s with
  | nil => exact .refl d
  | cons slot slots ih =>
      unfold Downloader.processDirectionFiles
      refine .trans ?_ (ih _ _)
      split
      · exact .downloadFile d _ _
      · exact .refl d

/-- `P` looks at nothing that the download of a direction file changes. -/
def IgnoresDirectionFile (P : Downloader → Prop) : Prop :=
  ∀ d card written outputBuffer outputLen requests, P d →
    P { d with
      card := card
      written := written
      outputBuffer := outputBuffer
      outputLen := outputLen
      requests := requests }

section

variable {P : Downloader → Prop} {d : Downloader}

theorem downloadFile_induction (hignores : IgnoresDirectionFile P) {dirFileName : Bytes} {x : Exchange}
    (hd : P d) (hframe : ∀ d, ∀ uid ∈ x.frames, P d → P (d.frame uid)) :
    P (d.downloadFile dirFileName x) := by
  have hbuffer : ∀ (d : Downloader) buffer len, P d →
      P { d with outputBuffer := buffer, outputLen := len } := by
    intro d buffer len h
    exact hignores d d.card d.written buffer len d.requests h
  have hperform : ∀ d, P d → P (directionCallback.perform frame d x).2 := by
    intro d h
    refine Callback.perform_induction h (fun _ _ _ h => h) ?_ ?_ ?_ hframe
    · intro d data h
      dsimp only [directionCallback]
      split
      · exact hbuffer d _ _ h
      · exact h
    · exact fun d h => hbuffer d d.outputBuffer 0 h
    · exact fun d h => hbuffer d d.outputBuffer 0 h
  have hwrite : ∀ d path content, P d → P (d.writeFile path content) := by
    intro d path content h
    unfold writeFile openWrite
    cases d.card.fopenWrite path with
    | none => exact h
    | some c =>
        exact hignores d (c.fwrite path content) (path :: d.written) d.outputBuffer d.outputLen
          d.requests h
  have hstart := hignores d d.card d.written [] 0
    (.directionFile dirFileName (snprintf 256 (d.baseUrl ++ dirFileName)) :: d.requests) hd
  unfold downloadFile
  dsimp only
  split
  · split
    · exact hwrite _ _ _ (hperform _ hstart)
    · exact hperform _ hstart
  · exact hperform _ hstart

theorem processDirectionFiles_induction (hignores : IgnoresDirectionFile P) {s : ℕ → DirectionScript}
    {slots : List (Option Bytes)} (hd : P d)
    (hframe : ∀ d i, ∀ uid ∈ (s i).exchange.frames, P d → P (d.frame uid)) :
    P (d.processDirectionFiles s slots) := by
  induction slots generalizing d s with
  | nil => exact hd
  | cons slot slots ih =>
      unfold processDirectionFiles
      refine ih ?_ fun d i => hframe d (i + 1)
      split
      · exact downloadFile_induction hignores hd fun d => hframe d 0
      · exact hd

end

theorem processDirectionFiles_tagUid {d : Downloader} {s : ℕ → DirectionScript}
    {slots : List (Option Bytes)} {Q : Bytes → Prop} (hd : Q d.tagUid)
    (hs : ∀ i, ∀ uid ∈ (s i).exchange.frames, Q (uidText uid)) :
    Q (d.processDirectionFiles s slots).tagUid := by
  refine processDirectionFiles_induction (P := fun d => Q d.tagUid) ?_ hd ?_
  · exact fun d card written outputBuffer outputLen requests h => h
  · intro d i uid huid _
    exact hs i uid huid

end Downloader

end Cubbies
