import Cubbies.Proofs.OwnFolder

set_option autoImplicit false

/-! # Whose text `metadata.cubbies` holds

`MasterjsonCallback` keeps two things between its calls: the response buffer and a static file handle.
`HTTP_EVENT_ON_FINISH` resets both, `HTTP_EVENT_DISCONNECTED` only the buffer. So the text given to
`parse_and_store_metadata` is always the body of the response at hand (`responseAtFinish_eq`), while
after an interrupted download the chunks of the next one go to the file that was left open.
`ownMetadata_iff` says after which runs of downloads a finished one still leaves its own text in its
own toy's file. -/

namespace Cubbies

open CString

/-! ## The content of a file, and of the others -/

namespace Downloader

theorem content?_mkdirAll (c : Card) (paths : List Bytes) (q : Bytes) :
    (mkdirAll c paths).1.content? q = c.content? q := by
  induction paths generalizing c with
  | nil => rfl
  | cons path paths ih =>
      unfold mkdirAll
      split
      · next c' h => rw [ih, Card.content?_mkdir h]
      · exact ih c
      · rfl

theorem content?_createDirectory (c : Card) (path q : Bytes) :
    (createDirectory c path).1.content? q = c.content? q := content?_mkdirAll c _ q

theorem content?_writeFile_of_ne (d : Downloader) {path q : Bytes} (content : Bytes) (h : q ≠ path) :
    (d.writeFile path content).card.content? q = d.card.content? q := by
  unfold writeFile
  split
  · rfl
  · next d' hopen =>
      obtain ⟨c, hc, rfl⟩ := Option.map_eq_some_iff.1 hopen
      show (c.fwrite path content).content? q = d.card.content? q
      rw [Card.content?_fwrite, if_neg h, Card.content?_fopenWrite hc, if_neg h]

theorem content?_storeFields (d : Downloader) {files : List (Bytes × Option Bytes)} {q : Bytes}
    (h : ∀ file ∈ files, q ≠ file.1) :
    (files.foldl storePair d).card.content? q = d.card.content? q := by
  induction files generalizing d with
  | nil => rfl
  | cons file files ih =>
      rw [List.foldl_cons, ih _ fun f hf => h f (List.mem_cons_of_mem _ hf)]
      unfold storePair storeField
      split
      · exact content?_writeFile_of_ne d _ (h file List.mem_cons_self)
      · rfl

/-- None of the small files made from a master JSON is a metadata file. -/
theorem metadataPath_ne_fieldFiles (d : Downloader) (j : Json) (tag : Bytes) :
    ∀ file ∈ d.fieldFiles j, metadataPath tag ≠ file.1 := by
  have hname : ∀ (folder name : Bytes), 16 ≤ name.length → ¬ str "metadata.cubbies" <:+ name →
      metadataPath tag ≠ folder ++ name := by
    intro folder name hlen hends heq
    have hpath : str "metadata.cubbies" <:+ folder ++ name := by
      rw [← heq]
      exact List.suffix_append _ _
    exact hends (List.suffix_of_suffix_length_le hpath (List.suffix_append _ _) hlen)
  intro file hfile
  unfold fieldFiles at hfile
  simp only [List.mem_cons, List.not_mem_nil, or_false] at hfile
  rcases hfile with rfl | rfl | rfl | rfl
  all_goals exact hname _ _ (by decide) (by decide)

theorem metadataPath_inj {tag tag' : Bytes} : metadataPath tag = metadataPath tag' ↔ tag = tag' := by
  unfold metadataPath
  rw [List.append_cancel_right_eq, List.append_cancel_right_eq, List.append_cancel_left_eq]

/-! ## One chunk -/

/-- A frame with the tag that is on the box anyway. -/
theorem frame_same {d : Downloader} {uid : Uid} (h : d.tagUid = uidText uid) : d.frame uid = d := by
  show { d with tagUid := uidText uid } = d
  rw [← h]

/-- **A chunk while the file is open** goes to its end, whichever toy it is of. -/
theorem masterData_open {d : Downloader} {tag : Bytes} (hfile : d.metadataFile = some tag)
    (data : Bytes) :
    (d.masterData data).metadataFile = some tag ∧ (d.masterData data).tagUid = d.tagUid ∧
      ∀ q, (d.masterData data).card.content? q =
        if q = metadataPath tag then (d.card.content? q).map (· ++ data) else d.card.content? q := by
  refine ⟨?_, masterData_tagUid d data, ?_⟩
  · unfold masterData
    split
    · exact hfile
    · simp only [hfile]
  · intro q
    unfold masterData
    split
    · next hdata =>
        rw [hdata]
        split
        · simp
        · rfl
    · simp only [hfile]
      rw [Card.content?_fwrite]
      split
      · next hq => rw [hq]
      · rfl

/-- **The first chunk** opens the file of the tag on the box, and empties it first. -/
theorem masterData_first {d : Downloader} {data : Bytes} (hfile : d.metadataFile = none)
    (hopens : d.opensMetadata) (hdata : data ≠ []) :
    (d.masterData data).metadataFile = some d.tagUid ∧ (d.masterData data).tagUid = d.tagUid ∧
      ∀ q, (d.masterData data).card.content? q =
        if q = metadataPath d.tagUid then some data else d.card.content? q := by
  obtain ⟨c, hc⟩ := Option.ne_none_iff_exists'.1 hopens.2
  have hmaster : (d.masterData data).metadataFile = some d.tagUid ∧
      (d.masterData data).card = c.fwrite (metadataPath d.tagUid) data := by
    unfold masterData openWrite
    simp only [if_neg hdata, hfile, hopens.1, if_true, hc, Option.map_some, and_self]
  refine ⟨hmaster.1, masterData_tagUid d data, ?_⟩
  intro q
  rw [hmaster.2, Card.content?_fwrite]
  by_cases hq : q = metadataPath d.tagUid
  · rw [if_pos hq, if_pos hq, Card.content?_fopenWrite hc, if_pos rfl]
    rfl
  · rw [if_neg hq, if_neg hq, Card.content?_fopenWrite hc, if_neg hq, content?_createDirectory]

/-! ## All chunks of a response -/

section

variable [CJson]

/-- **The chunks of a response while a file is open** are appended to that file, one after the other. -/
theorem masterEvents_open {tag : Bytes} {uid : Uid} (es : List HttpEvent)
    (htag : ∀ u, HttpEvent.frame u ∈ es → u = uid) {d : Downloader}
    (hfile : d.metadataFile = some tag) (hbox : d.tagUid = uidText uid) :
    (es.foldl (masterJsonCallback.handle frame) d).metadataFile = some tag ∧
      ∀ q, (es.foldl (masterJsonCallback.handle frame) d).card.content? q =
        if q = metadataPath tag then (d.card.content? q).map (· ++ es.flatMap Exchange.chunk)
        else d.card.content? q := by
  induction es generalizing d with
  | nil =>
      refine ⟨hfile, ?_⟩
      intro q
      split <;> simp
  | cons e es ih =>
      have htag' : ∀ u, HttpEvent.frame u ∈ es → u = uid :=
        fun u hu => htag u (List.mem_cons_of_mem _ hu)
      cases e with
      | onHeader key value => exact ih htag' hfile hbox
      | frame u =>
          obtain rfl := htag u List.mem_cons_self
          rw [List.foldl_cons, show masterJsonCallback.handle frame d (.frame u) = d.frame u from rfl,
            frame_same hbox]
          exact ih htag' hfile hbox
      | onData data =>
          obtain ⟨hfile', hbox', hcontent⟩ := masterData_open hfile data
          obtain ⟨hopen, hrest⟩ := ih htag' hfile' (hbox'.trans hbox)
          refine ⟨hopen, ?_⟩
          intro q
          refine (hrest q).trans ?_
          rw [hcontent q, List.flatMap_cons]
          split
          · rw [Option.map_map]
            refine congrArg (Option.map · _) (funext fun old => ?_)
            exact List.append_assoc _ _ _
          · rfl

/-- **The chunks of a response while no file is open**: the first that is not empty opens the file of
the tag on the box, which then holds the body. -/
theorem masterEvents_closed {uid : Uid} (es : List HttpEvent)
    (htag : ∀ u, HttpEvent.frame u ∈ es → u = uid) {d : Downloader}
    (hfile : d.metadataFile = none) (hbox : d.tagUid = uidText uid)
    (hopens : es.flatMap Exchange.chunk ≠ [] → d.opensMetadata) :
    (es.foldl (masterJsonCallback.handle frame) d).metadataFile =
        (if es.flatMap Exchange.chunk = [] then none else some (uidText uid)) ∧
      ∀ q, (es.foldl (masterJsonCallback.handle frame) d).card.content? q =
        if es.flatMap Exchange.chunk ≠ [] ∧ q = metadataPath (uidText uid) then
          some (es.flatMap Exchange.chunk)
        else d.card.content? q := by
  induction es generalizing d with
  | nil => exact ⟨hfile, fun q => (if_neg fun h => h.1 rfl).symm⟩
  | cons e es ih =>
      have htag' : ∀ u, HttpEvent.frame u ∈ es → u = uid :=
        fun u hu => htag u (List.mem_cons_of_mem _ hu)
      cases e with
      | onHeader key value => exact ih htag' hfile hbox hopens
      | frame u =>
          obtain rfl := htag u List.mem_cons_self
          rw [List.foldl_cons, show masterJsonCallback.handle frame d (.frame u) = d.frame u from rfl,
            frame_same hbox]
          exact ih htag' hfile hbox hopens
      | onData data =>
          rw [List.foldl_cons, List.flatMap_cons] at *
          by_cases hdata : data = []
          · -- an empty chunk is passed over
            subst hdata
            exact ih htag' hfile hbox hopens
          · have hbody : Exchange.chunk (.onData data) ++ es.flatMap Exchange.chunk ≠ [] := by
              intro hnil
              exact hdata (List.append_eq_nil_iff.1 hnil).1
            obtain ⟨hfile', hbox', hcontent⟩ := masterData_first hfile (hopens hbody) hdata
            rw [hbox] at hfile' hcontent
            obtain ⟨hopen, hrest⟩ := masterEvents_open es htag' hfile' (hbox'.trans hbox)
            rw [if_neg hbody]
            refine ⟨hopen, ?_⟩
            intro q
            refine (hrest q).trans ?_
            rw [hcontent q]
            by_cases hq : q = metadataPath (uidText uid)
            · rw [if_pos hq, if_pos hq, if_pos ⟨hbody, hq⟩]
              rfl
            · rw [if_neg hq, if_neg hq, if_neg fun h => hq h.2]

/-! ## The end of a response -/

theorem content?_parseAndStoreMetadata (d : Downloader) (response tag : Bytes) :
    (d.parseAndStoreMetadata response).card.content? (metadataPath tag) =
      d.card.content? (metadataPath tag) := by
  unfold parseAndStoreMetadata
  split
  · rfl
  · next j _ =>
      rw [storeFiles_eq, content?_storeFields _ (metadataPath_ne_fieldFiles _ j tag),
        (storeLists_card _ j).1]

/-- Storing what the response says changes no metadata file. -/
theorem content?_masterFinish (d : Downloader) (tag : Bytes) :
    d.masterFinish.card.content? (metadataPath tag) = d.card.content? (metadataPath tag) := by
  unfold masterFinish
  split
  · exact content?_parseAndStoreMetadata { d with metadataFile := none } _ tag
  · rfl

/-- A request that finished leaves no metadata file open. -/
theorem masterFinish_metadataFile (d : Downloader) : d.masterFinish.metadataFile = none := by
  unfold masterFinish
  split
  · next response _ =>
      show (({ d with metadataFile := none } : Downloader).parseAndStoreMetadata response).metadataFile =
        none
      unfold parseAndStoreMetadata
      split
      · rfl
      · rw [storeFiles_eq, storeFields_file, (storeLists_written _ _).2]
  · rfl

/-- What a request leaves, in terms of what its events left. -/
theorem downloadMasterJson_file (d : Downloader) (x : Exchange) :
    (d.downloadMasterJson x).metadataFile =
        (if x.ending = .finished then none else (d.masterEvents x).metadataFile) ∧
      ∀ tag, (d.downloadMasterJson x).card.content? (metadataPath tag) =
        (d.masterEvents x).card.content? (metadataPath tag) := by
  have hafter := (frames_ownStage [] (masterJsonCallback.close (d.masterEvents x) x.ending) x.after).file
  have hcard := (frames_kept (masterJsonCallback.close (d.masterEvents x) x.ending) x.after).2
  have hend : (d.downloadMasterJson x).metadataFile =
      (masterJsonCallback.close (d.masterEvents x) x.ending).metadataFile := hafter
  have hcards : (d.downloadMasterJson x).card =
      (masterJsonCallback.close (d.masterEvents x) x.ending).card := hcard
  rw [hend, hcards]
  cases x.ending with
  | finished => exact ⟨masterFinish_metadataFile _, content?_masterFinish _⟩
  | disconnected => exact ⟨rfl, fun _ => rfl⟩
  | unreachable => exact ⟨rfl, fun _ => rfl⟩

end

/-! ## Runs of downloads -/

/-- One download of a master JSON: the toy it is for, whose tag stays on the box, and the exchange. -/
structure MasterDownload where
  uid : Uid
  exchange : Exchange
  tag : ∀ u ∈ exchange.frames, u = uid

theorem MasterDownload.frame_tag (m : MasterDownload) {u : Uid}
    (h : HttpEvent.frame u ∈ m.exchange.events) : u = m.uid :=
  m.tag u (List.mem_append_left _ (List.mem_filterMap.2 ⟨_, h, rfl⟩))

/-- The downloader as the download begins. -/
def entering (d : Downloader) (m : MasterDownload) : Downloader :=
  { d with toy := uidText m.uid, tagUid := uidText m.uid }

/-- The file operations of the download succeed. -/
def FilesOpen (d : Downloader) (m : MasterDownload) : Prop :=
  m.exchange.body ≠ [] → d.metadataFile = none → (d.entering m).opensMetadata

/-- The tag whose metadata file a run of downloads leaves open: that of the first download since the
last finished one that delivered anything. -/
def leftOpen (ms : List MasterDownload) : Option Bytes :=
  ms.foldl (fun file m =>
    if m.exchange.ending = .finished then none
    else if file = none ∧ m.exchange.body ≠ [] then some (uidText m.uid)
    else file) none

theorem leftOpen_append (ms : List MasterDownload) (m : MasterDownload) :
    leftOpen (ms ++ [m]) =
      if m.exchange.ending = .finished then none
      else if leftOpen ms = none ∧ m.exchange.body ≠ [] then some (uidText m.uid)
      else leftOpen ms := by
  unfold leftOpen
  rw [List.foldl_append]
  rfl

section

variable [CJson]

def downloadFor (d : Downloader) (m : MasterDownload) : Downloader :=
  (d.entering m).downloadMasterJson m.exchange

/-- The download gives its own body to `parse_and_store_metadata`, and leaves it as the metadata file
of its own toy. -/
structure OwnMetadata (d : Downloader) (m : MasterDownload) : Prop where
  text : ((d.entering m).masterEvents m.exchange).responseAtFinish = some m.exchange.body
  file : (d.downloadFor m).card.content? (metadataPath (uidText m.uid)) = some m.exchange.body

/-- What a run of downloads `ms` leaves behind: no response, and a metadata file open if the run left
one, with something in it. -/
structure AfterDownloads (ms : List MasterDownload) (d : Downloader) : Prop where
  response : d.responseBuffer = none
  file : d.metadataFile = leftOpen ms
  started : ∀ tag, d.metadataFile = some tag →
    ∃ old, old ≠ [] ∧ d.card.content? (metadataPath tag) = some old

/-- The events of a download, by what was open before. -/
theorem masterEvents_entering {d : Downloader} {m : MasterDownload} (hopens : d.FilesOpen m) :
    ((d.entering m).masterEvents m.exchange).metadataFile =
        (d.metadataFile <|> if m.exchange.body = [] then none else some (uidText m.uid)) ∧
      ∀ q, ((d.entering m).masterEvents m.exchange).card.content? q =
        match d.metadataFile with
        | some tag =>
            if q = metadataPath tag then (d.card.content? q).map (· ++ m.exchange.body)
            else d.card.content? q
        | none =>
            if m.exchange.body ≠ [] ∧ q = metadataPath (uidText m.uid) then some m.exchange.body
            else d.card.content? q := by
  cases hfile : d.metadataFile with
  | some tag =>
      exact masterEvents_open (d := d.entering m) m.exchange.events (fun _ => m.frame_tag) hfile rfl
  | none =>
      exact masterEvents_closed (d := d.entering m) m.exchange.events (fun _ => m.frame_tag) hfile rfl
        fun hbody => hopens hbody hfile

/-- **One download.** -/
theorem AfterDownloads.download {ms : List MasterDownload} {d : Downloader} {m : MasterDownload}
    (h : AfterDownloads ms d) (hopens : d.FilesOpen m) :
    AfterDownloads (ms ++ [m]) (d.downloadFor m) := by
  obtain ⟨hfile, hcontent⟩ := masterEvents_entering hopens
  obtain ⟨hclosed, hkept⟩ := downloadMasterJson_file (d.entering m) m.exchange
  refine ⟨downloadMasterJson_responseBuffer _ _ h.response, ?_, ?_⟩
  · rw [leftOpen_append, ← h.file]
    refine hclosed.trans ?_
    rw [hfile]
    cases d.metadataFile with
    | some tag => simp
    | none => by_cases hbody : m.exchange.body = [] <;> simp [hbody]
  · intro tag htag
    replace htag := hclosed.symm.trans htag
    split at htag
    · cases htag
    · rw [hfile] at htag
      rw [show (d.downloadFor m).card.content? (metadataPath tag) =
        ((d.entering m).masterEvents m.exchange).card.content? (metadataPath tag) from hkept tag,
        hcontent]
      cases hbefore : d.metadataFile with
      | some tag' =>
          rw [hbefore] at htag
          obtain rfl : tag' = tag := Option.some.inj htag
          obtain ⟨old, hold, hcontent'⟩ := h.started tag' hbefore
          refine ⟨old ++ m.exchange.body, ?_, ?_⟩
          · intro hnil
            exact hold (List.append_eq_nil_iff.1 hnil).1
          · dsimp only
            rw [if_pos rfl, hcontent']
            rfl
      | none =>
          rw [hbefore] at htag
          by_cases hbody : m.exchange.body = []
          · simp [hbody] at htag
          · rw [if_neg hbody] at htag
            obtain rfl : uidText m.uid = tag := Option.some.inj htag
            exact ⟨m.exchange.body, hbody, if_pos ⟨hbody, rfl⟩⟩

/-- **Every run of downloads.** -/
theorem afterDownloads (card : Card) (wifi : Wifi) {ms : List MasterDownload}
    (h : Runs.Meets downloadFor FilesOpen (boot card wifi) ms) :
    AfterDownloads ms (ms.foldl downloadFor (boot card wifi)) := by
  induction ms using List.reverseRecOn with
  | nil => exact ⟨rfl, rfl, fun tag htag => by cases htag⟩
  | append_singleton ms m ih =>
      obtain ⟨hbefore, hlast⟩ := (Runs.meets_append _ _ _ _ _).1 h
      rw [List.foldl_append]
      exact (ih hbefore).download hlast.1

/-- What is given to `parse_and_store_metadata` is the body of the response at hand, whatever was
interrupted before it. -/
theorem responseAtFinish_eq {ms : List MasterDownload} {d : Downloader} {m : MasterDownload}
    (h : AfterDownloads ms d) (hopens : d.FilesOpen m) (hbody : m.exchange.body ≠ []) :
    ((d.entering m).masterEvents m.exchange).responseAtFinish = some m.exchange.body := by
  have hopen : ((d.entering m).masterEvents m.exchange).metadataFile.isSome = true := by
    rw [(masterEvents_entering hopens).1, if_neg hbody]
    cases d.metadataFile <;> rfl
  have hbuffer := masterEvents_responseBuffer (d.entering m) m.exchange
  rw [show (d.entering m).responseBuffer = none from h.response, Option.getD_none,
    List.nil_append] at hbuffer
  unfold responseAtFinish
  rw [if_pos hopen]
  cases hresponse : ((d.entering m).masterEvents m.exchange).responseBuffer with
  | some response =>
      rw [hresponse] at hbuffer
      exact congrArg some hbuffer
  | none =>
      rw [hresponse] at hbuffer
      exact absurd hbuffer.symm hbody

/-- **`metadata.cubbies` holds the response of its own toy exactly if no other file was in the way.**
A download that finished with a body gave that body to `parse_and_store_metadata`, and left it in its
toy's file, exactly if the downloads before it left no metadata file open; or one of another toy, and
the file already had this very content. -/
theorem ownMetadata_iff (card : Card) (wifi : Wifi) (ms : List MasterDownload) (m : MasterDownload)
    (hopens : Runs.Meets downloadFor FilesOpen (boot card wifi) (ms ++ [m]))
    (hbody : m.exchange.body ≠ []) :
    OwnMetadata (ms.foldl downloadFor (boot card wifi)) m ↔
      leftOpen ms = none ∨
        leftOpen ms ≠ some (uidText m.uid) ∧
          (ms.foldl downloadFor (boot card wifi)).card.content? (metadataPath (uidText m.uid)) =
            some m.exchange.body := by
  obtain ⟨hbefore, hlast, -⟩ := (Runs.meets_append _ _ _ _ _).1 hopens
  have hafter := afterDownloads card wifi hbefore
  generalize ms.foldl downloadFor (boot card wifi) = d at hlast hafter ⊢
  have htext := responseAtFinish_eq hafter hlast hbody
  obtain ⟨-, hcontent⟩ := masterEvents_entering hlast
  have hfile := (downloadMasterJson_file (d.entering m) m.exchange).2 (uidText m.uid)
  rw [hcontent, hafter.file] at hfile
  have hown : OwnMetadata d m ↔
      (d.downloadFor m).card.content? (metadataPath (uidText m.uid)) = some m.exchange.body :=
    ⟨OwnMetadata.file, OwnMetadata.mk htext⟩
  rw [hown, show (d.downloadFor m).card.content? (metadataPath (uidText m.uid)) = _ from hfile]
  cases hleft : leftOpen ms with
  | none => exact iff_of_true (if_pos ⟨hbody, rfl⟩) (.inl rfl)
  | some tag =>
      dsimp only
      by_cases htag : uidText m.uid = tag
      · -- the toy's own file: the body comes behind what is in it
        subst htag
        obtain ⟨old, hold, hcontent'⟩ := hafter.started _ (hafter.file.trans hleft)
        rw [if_pos rfl, hcontent', Option.map_some, Option.some.injEq]
        refine iff_of_false ?_ ?_
        · intro heq
          exact hold (List.append_left_eq_self.1 heq)
        · rintro (hnone | ⟨hne, -⟩)
          · cases hnone
          · exact hne rfl
      · rw [if_neg fun hpath => htag (metadataPath_inj.1 hpath)]
        refine ⟨fun heq => .inr ⟨fun hsome => htag (Option.some.inj hsome).symm, heq⟩, ?_⟩
        rintro (hnone | ⟨-, heq⟩)
        · cases hnone
        · exact heq

end

/-! ## A download after an interrupted one -/

/-- How a request ends that reached the server. -/
def endOf (lost : Bool) : Ending := if lost then .disconnected else .finished

theorem delivered_endOf (chunks : List Bytes) (lost : Bool) :
    endOf lost = .unreachable → ∀ e ∈ chunks.map HttpEvent.onData, ∃ uid, e = .frame uid := by
  intro hend
  cases lost <;> cases hend

/-- A request that brings `chunks` and then ends. -/
def delivery (chunks : List Bytes) (lost : Bool) : Exchange where
  events := chunks.map .onData
  ending := endOf lost
  status := 200
  after := []
  delivered := delivered_endOf chunks lost

theorem tag_delivery (uid : Uid) (chunks : List Bytes) (lost : Bool) :
    ∀ u ∈ (delivery chunks lost).frames, u = uid := by
  intro u hu
  simp [Exchange.frames, delivery] at hu

/-- The download of the toy `uid` that brings `chunks` and then ends. -/
def delivering (uid : Uid) (chunks : List Bytes) (lost : Bool) : MasterDownload where
  uid := uid
  exchange := delivery chunks lost
  tag := tag_delivery uid chunks lost

def lostDownload : MasterDownload := delivering uidX [str "a"] true

def fullDownload : MasterDownload := delivering uidX [str "b", str "c"] false

instance (d : Downloader) (m : MasterDownload) : Decidable (FilesOpen d m) :=
  inferInstanceAs (Decidable (_ → _ → _ ∧ _ ≠ none))

/-- After a download that was lost, the next one of the same toy is appended to what had come: its own
text is parsed, and the file has one byte too many in front. -/
theorem lostDownload_mixed :
    @Runs.Meets _ _ (@downloadFor sampleParser) FilesOpen (boot sampleCard sampleWifi)
        [lostDownload, fullDownload] ∧
      fullDownload.exchange.ok = true ∧ fullDownload.exchange.body ≠ [] ∧
      ¬ @OwnMetadata sampleParser
        ([lostDownload].foldl (@downloadFor sampleParser) (boot sampleCard sampleWifi))
        fullDownload := by
  refine ⟨by decide +kernel, by decide, by decide, ?_⟩
  intro hown
  have hcontent : (@downloadFor sampleParser
      ([lostDownload].foldl (@downloadFor sampleParser) (boot sampleCard sampleWifi))
      fullDownload).card.content? (metadataPath (uidText uidX)) = some (str "abc") := by
    decide +kernel
  have hbody : some (str "abc") = some (str "bc") :=
    hcontent.symm.trans (@OwnMetadata.file sampleParser _ _ hown)
  exact absurd hbody (by decide)

/-- The one after it finds no file open, and leaves just its own text. -/
theorem laterDownload_own :
    @OwnMetadata sampleParser
      ([lostDownload, fullDownload].foldl (@downloadFor sampleParser) (boot sampleCard sampleWifi))
      fullDownload := by
  have hopens : @Runs.Meets _ _ (@downloadFor sampleParser) FilesOpen (boot sampleCard sampleWifi)
      [lostDownload, fullDownload, fullDownload] := by
    decide +kernel
  exact (@ownMetadata_iff sampleParser sampleCard sampleWifi [lostDownload, fullDownload] fullDownload
    hopens (by decide)).2 (.inl (by decide))

end Downloader

end Cubbies
