import Cubbies.Lib.DroppingBuffer
import Cubbies.Proofs.OwnFolder

set_option autoImplicit false

/-! # What `download_file` saves

The body is collected in `output_buffer`, 4096 bytes. A chunk that does not fit is left out, later ones
are tried again, and whatever has been collected in the end is saved as the direction file. It is the
body exactly if that has at most 4095 bytes (`wholeOrNothing_iff`). -/

namespace Cubbies

open CString DroppingBuffer

namespace Downloader

/-! ## The body is collected -/

/-- What `output_buffer` holds of the body at the end of a request. -/
def collected (x : Exchange) : Bytes := DroppingBuffer.kept bufferSize [] x.chunks

/-- The buffer takes the chunks that fit; frames change the tag only. -/
theorem directionCallback_events (es : List HttpEvent) {d : Downloader}
    (hlen : d.outputLen = d.outputBuffer.length) :
    ∃ tag, es.foldl (directionCallback.handle frame) d =
      { d with
        outputBuffer := DroppingBuffer.kept bufferSize d.outputBuffer (es.filterMap Exchange.chunk?)
        outputLen := (DroppingBuffer.kept bufferSize d.outputBuffer (es.filterMap Exchange.chunk?)).length
        tagUid := tag } := by
  induction es generalizing d with
  | nil =>
      refine ⟨d.tagUid, ?_⟩
      rw [List.foldl_nil, List.filterMap_nil, kept_nil, ← hlen]
  | cons e es ih =>
      rw [List.foldl_cons]
      cases e with
      | onHeader key value => exact ih hlen
      | frame uid => exact ih (d := d.frame uid) hlen
      | onData data =>
          have hstep : directionCallback.handle frame d (.onData data) =
              if d.outputBuffer.length + data.length < bufferSize then
                { d with
                  outputBuffer := d.outputBuffer ++ data
                  outputLen := (d.outputBuffer ++ data).length }
              else d := by
            show (if d.outputLen + data.length < bufferSize then
              { d with
                outputBuffer := d.outputBuffer.take d.outputLen ++ data
                outputLen := d.outputLen + data.length }
              else d) = _
            rw [hlen, List.take_length, List.length_append]
          rw [hstep, List.filterMap_cons_some (show Exchange.chunk? (.onData data) = some data from rfl)]
          by_cases hroom : d.outputBuffer.length + data.length < bufferSize
          · rw [if_pos hroom, kept_fits hroom]
            exact ih rfl
          · rw [if_neg hroom, kept_drops hroom]
            exact ih hlen

theorem foldl_frame (uids : List Uid) (d : Downloader) :
    ∃ tag, uids.foldl frame d = { d with tagUid := tag } := by
  induction uids generalizing d with
  | nil => exact ⟨d.tagUid, rfl⟩
  | cons uid uids ih => exact ih (d.frame uid)

/-- A request that completes leaves what was collected in the buffer. -/
theorem perform_direction {d : Downloader} {x : Exchange} (hlen : d.outputLen = d.outputBuffer.length)
    (hempty : d.outputBuffer = []) (hok : x.ok = true) :
    ∃ tag, directionCallback.perform frame d x =
      (true, { d with outputBuffer := collected x, outputLen := 0, tagUid := tag }) := by
  obtain ⟨tag, hevents⟩ := directionCallback_events x.events hlen
  rw [hempty] at hevents
  have hend : x.ending = .finished := of_decide_eq_true hok
  unfold Callback.perform
  rw [hok, hevents, hend]
  obtain ⟨tag', hafter⟩ := foldl_frame x.after (directionCallback.close
    { d with
      outputBuffer := collected x
      outputLen := (collected x).length
      tagUid := tag } .finished)
  exact ⟨tag', congrArg (Prod.mk true) hafter⟩

/-- Nothing of the body is left out exactly if it fits. -/
theorem collected_eq_iff (x : Exchange) : collected x = x.body ↔ x.body.length ≤ 4095 := by
  have hiff := kept_eq_iff (show ([] : Bytes).length < bufferSize by decide) x.chunks
  rw [List.nil_append, ← Exchange.body_eq_flatten] at hiff
  exact hiff.trans Nat.lt_succ_iff

theorem text_collected {x : Exchange} (hnul : (0 : UInt8) ∉ x.body) : text (collected x) = collected x := by
  refine text_of_no_nul fun hmem => hnul ?_
  have hsub := kept_sublist bufferSize [] x.chunks
  rw [List.nil_append, ← Exchange.body_eq_flatten] at hsub
  exact hsub.subset hmem

/-! ## What was collected is saved -/

/-- The path `save_file_to_sd` opens. -/
def savePath (toy direction : Bytes) : Bytes :=
  snprintf 256 (toysPath ++ toy ++ str "/" ++ direction ++ str ".cubbies")

/-- A file that could be opened is the only one that is written, and holds what was printed into it. -/
structure Saved (d d' : Downloader) (path content : Bytes) : Prop where
  written : d'.written = path :: d.written
  content : ∀ q, d'.card.content? q = if q = path then some content else d.card.content? q

/-- No file is written. -/
structure Untouched (d d' : Downloader) : Prop where
  written : d'.written = d.written
  card : d'.card = d.card

theorem saved_writeFile {d : Downloader} {path : Bytes} (content : Bytes)
    (h : d.card.fopenWrite path ≠ none) : Saved d (d.writeFile path content) path content := by
  obtain ⟨c, hc⟩ := Option.ne_none_iff_exists'.1 h
  have hopen : d.openWrite path = some { d with card := c, written := path :: d.written } :=
    Option.map_eq_some_iff.2 ⟨c, hc, rfl⟩
  unfold writeFile
  rw [hopen]
  refine ⟨rfl, fun q => ?_⟩
  show (c.fwrite path content).content? q = _
  rw [Card.content?_fwrite, Card.content?_fopenWrite hc, if_pos rfl, Card.content?_fopenWrite hc]
  split <;> rfl

theorem untouched_writeFile {d : Downloader} {path : Bytes} (content : Bytes)
    (h : d.card.fopenWrite path = none) : Untouched d (d.writeFile path content) := by
  unfold writeFile
  rw [openWrite_eq_none.2 h]
  exact ⟨rfl, rfl⟩

/-- `download_file` is one `writeFile` of what was collected, if the name has a direction part. -/
theorem downloadFile_ok (d : Downloader) (dirFileName : Bytes) {x : Exchange} (hok : x.ok = true) :
    ∃ d' : Downloader, Untouched d d' ∧ d'.toy = d.toy ∧
      d.downloadFile dirFileName x =
        match directionPart? dirFileName with
        | some direction => d'.writeFile (savePath d.toy direction) (text (collected x))
        | none => d' := by
  unfold downloadFile
  dsimp only
  generalize hd' : ({ d with
    outputBuffer := []
    outputLen := 0
    requests := .directionFile dirFileName (snprintf 256 (d.baseUrl ++ dirFileName)) ::
      d.requests } : Downloader) = d'
  obtain ⟨tag, hperform⟩ := perform_direction (d := d') (by rw [← hd']; rfl) (by rw [← hd']) hok
  rw [hperform, if_pos rfl]
  refine ⟨{ d' with outputBuffer := collected x, outputLen := 0, tagUid := tag }, ?_, ?_, ?_⟩
  · rw [← hd']
    exact ⟨rfl, rfl⟩
  · rw [← hd']
  · have htoy : d'.toy = d.toy := by rw [← hd']
    cases directionPart? dirFileName with
    | none => rfl
    | some direction =>
        show writeFile _ (savePath d'.toy direction) _ = _
        rw [htoy]

theorem saved_downloadFile {d : Downloader} {dirFileName direction : Bytes} {x : Exchange}
    (hname : directionPart? dirFileName = some direction) (hok : x.ok = true)
    (hopen : d.card.fopenWrite (savePath d.toy direction) ≠ none) :
    Saved d (d.downloadFile dirFileName x) (savePath d.toy direction) (text (collected x)) := by
  obtain ⟨d', hsame, -, heq⟩ := d.downloadFile_ok dirFileName hok
  rw [heq, hname]
  have hsaved := saved_writeFile (d := d') (text (collected x)) (hsame.card ▸ hopen)
  exact ⟨hsame.written ▸ hsaved.written, fun q => hsame.card ▸ hsaved.content q⟩

theorem untouched_downloadFile {d : Downloader} {dirFileName direction : Bytes} {x : Exchange}
    (hname : directionPart? dirFileName = some direction) (hok : x.ok = true)
    (hclosed : d.card.fopenWrite (savePath d.toy direction) = none) :
    Untouched d (d.downloadFile dirFileName x) := by
  obtain ⟨d', hsame, -, heq⟩ := d.downloadFile_ok dirFileName hok
  rw [heq, hname]
  have hnothing := untouched_writeFile (d := d') (text (collected x)) (hsame.card ▸ hclosed)
  exact ⟨hnothing.written.trans hsame.written, hnothing.card.trans hsame.card⟩

/-! ## The direction in a file name -/

/-- The direction stands between the last underscore and the next dot. -/
theorem directionPart?_of_name {dirFileName part direction extension : Bytes}
    (hname : dirFileName = part ++ 95 :: (direction ++ 46 :: extension))
    (hlen : dirFileName.length < 256) (hunderscore : (95 : UInt8) ∉ direction ++ 46 :: extension)
    (hdot : (46 : UInt8) ∉ direction) : directionPart? dirFileName = some direction := by
  unfold directionPart?
  rw [snprintf_eq_self hlen, hname, afterLast?_append_cons 95 part _ hunderscore, Option.map_some,
    beforeFirst_append_cons 46 direction extension hdot]

theorem directionPart?_eq_none {dirFileName : Bytes} (h : (95 : UInt8) ∉ dirFileName) :
    directionPart? dirFileName = none := by
  have hcut : (95 : UInt8) ∉ snprintf 256 dirFileName := fun hmem => h (List.mem_of_mem_take hmem)
  unfold directionPart?
  rw [afterLast?_eq_none hcut, Option.map_none]

theorem untouched_perform (d : Downloader) (x : Exchange) :
    Untouched d (directionCallback.perform frame d x).2 := by
  refine Callback.perform_induction (P := Untouched d) ⟨rfl, rfl⟩ ?_ ?_ ?_ ?_ ?_
  · intro d' key value h
    exact h
  · intro d' data h
    unfold directionCallback
    dsimp only
    split
    · exact ⟨h.written, h.card⟩
    · exact h
  · intro d' h
    exact ⟨h.written, h.card⟩
  · intro d' h
    exact ⟨h.written, h.card⟩
  · intro d' uid _ h
    exact ⟨h.written, h.card⟩

/-- Without a direction nothing is saved, however the request ends. -/
theorem untouched_downloadFile_of_none {d : Downloader} {dirFileName : Bytes}
    (hname : directionPart? dirFileName = none) (x : Exchange) :
    Untouched d (d.downloadFile dirFileName x) := by
  unfold downloadFile
  dsimp only
  generalize hd' : ({ d with
    outputBuffer := []
    outputLen := 0
    requests := .directionFile dirFileName (snprintf 256 (d.baseUrl ++ dirFileName)) ::
      d.requests } : Downloader) = d'
  have hperform := untouched_perform d' x
  rw [hname]
  split <;> exact ⟨hperform.written.trans (by rw [← hd']), hperform.card.trans (by rw [← hd'])⟩

/-! ## Whole or not at all -/

/-- The file at `path` was saved with this body, or nothing was saved. -/
def WholeOrNothing (d d' : Downloader) (path body : Bytes) : Prop :=
  Saved d d' path body ∨ Untouched d d'

/-- What is saved is the body only if it is what was collected. -/
theorem wholeOrNothing_collected_iff {d : Downloader} {dirFileName direction : Bytes} {x : Exchange}
    (hname : directionPart? dirFileName = some direction) (hok : x.ok = true)
    (hnul : (0 : UInt8) ∉ x.body) :
    WholeOrNothing d (d.downloadFile dirFileName x) (savePath d.toy direction) x.body ↔
      collected x = x.body ∨ d.card.fopenWrite (savePath d.toy direction) = none := by
  by_cases hopen : d.card.fopenWrite (savePath d.toy direction) = none
  · exact iff_of_true (.inr (untouched_downloadFile hname hok hopen)) (.inr hopen)
  · have hsaved := saved_downloadFile hname hok hopen
    rw [text_collected hnul] at hsaved
    constructor
    · rintro (hwhole | hnothing)
      · have hboth := (hsaved.content (savePath d.toy direction)).symm.trans (hwhole.content _)
        rw [if_pos rfl, if_pos rfl] at hboth
        exact .inl (Option.some.inj hboth)
      · have hlog := hsaved.written.symm.trans hnothing.written
        exact absurd hlog (List.cons_ne_self _ _)
    · rintro (hwhole | hclosed)
      · exact .inl (hwhole ▸ hsaved)
      · exact absurd hclosed hopen

/-- **A direction file is whole or not saved** exactly if the body has at most 4095 bytes, or the file
could not be opened. -/
theorem wholeOrNothing_iff {d : Downloader} {dirFileName direction : Bytes} {x : Exchange}
    (hname : directionPart? dirFileName = some direction) (hok : x.ok = true)
    (hnul : (0 : UInt8) ∉ x.body) :
    WholeOrNothing d (d.downloadFile dirFileName x) (savePath d.toy direction) x.body ↔
      x.body.length ≤ 4095 ∨ d.card.fopenWrite (savePath d.toy direction) = none := by
  rw [wholeOrNothing_collected_iff hname hok hnul, collected_eq_iff]

/-! ## Bodies in chunks -/

/-- The server sends these chunks. -/
def inChunks (chunks : List Bytes) : Exchange := answered (chunks.map .onData)

theorem body_inChunks (chunks : List Bytes) : (inChunks chunks).body = chunks.flatten := by
  show (chunks.map HttpEvent.onData).flatMap Exchange.chunk = chunks.flatten
  rw [List.flatMap_map, ← List.flatMap_id']
  rfl

/-- Full buffers of the HTTP client, 512 bytes, and the rest of the body. -/
def fullChunks (n rest : ℕ) : List Bytes :=
  List.replicate n (List.replicate 512 97) ++ [List.replicate rest 97]

theorem body_fullChunks (n rest : ℕ) :
    (inChunks (fullChunks n rest)).body = List.replicate (n * 512 + rest) 97 := by
  rw [body_inChunks, fullChunks, List.flatten_append, List.flatten_replicate_replicate,
    List.flatten_singleton, List.replicate_append_replicate]

theorem no_nul_fullChunks (n rest : ℕ) : (0 : UInt8) ∉ (inChunks (fullChunks n rest)).body := by
  intro hmem
  rw [body_fullChunks] at hmem
  cases List.eq_of_mem_replicate hmem

/-- A downloader for a toy whose folder is there. -/
def toyDownloader : Downloader := { boot sampleCard sampleWifi with toy := uidText uidY }

/-- A short file. -/
theorem wholeOrNothing_short :
    WholeOrNothing toyDownloader
      (toyDownloader.downloadFile (str "list_north.json") (inChunks [str "\x7b", str "\x7d"]))
      (savePath toyDownloader.toy (str "north")) (str "\x7b\x7d") :=
  (wholeOrNothing_iff (x := inChunks [str "\x7b", str "\x7d"]) (by decide) rfl (by decide)).2
    (.inl (by decide))

/-- Of 4097 bytes the last full chunk is not saved, and the byte behind it is. -/
theorem wholeOrNothing_long :
    ¬ ∀ (d : Downloader) (dirFileName direction : Bytes) (x : Exchange),
      directionPart? dirFileName = some direction → x.ok = true → (0 : UInt8) ∉ x.body →
        WholeOrNothing d (d.downloadFile dirFileName x) (savePath d.toy direction) x.body := by
  intro h
  have hnul := no_nul_fullChunks 8 1
  have hname : directionPart? (str "list_north.json") = some (str "north") := by decide
  have hopen : toyDownloader.card.fopenWrite (savePath toyDownloader.toy (str "north")) ≠ none := by
    decide +kernel
  rcases (wholeOrNothing_collected_iff hname rfl hnul).1 (h toyDownloader _ _ _ hname rfl hnul)
    with hwhole | hclosed
  · have hfits := (collected_eq_iff _).1 hwhole
    rw [body_fullChunks, List.length_replicate] at hfits
    exact absurd hfits (by decide)
  · exact hopen hclosed

end Downloader

end Cubbies
