import Cubbies.Proofs.AudioFile
import Cubbies.Proofs.AudioKept
import Cubbies.Proofs.DirectoryCreation
import Cubbies.Proofs.MetadataFile

set_option autoImplicit false

/-! # Where the bodies are cut does not matter

The server's bodies arrive in chunks of any size, and read frames come in between. `begin_recut` says
that a download does not depend on it: another cut of the same bodies gives the same card, lists,
requests and result. Only `written` differs, which counts the metadata file once for each chunk. Two
things are needed: the bodies of the direction files fit `output_buffer`, from which a chunk that does
not fit is dropped, and the tag stays on the box while the master JSON arrives, whose first chunk
opens the metadata file in its folder. -/

namespace Cubbies

open CString BlockBuffer

/-! ## Handlers for which chunks join -/

namespace Exchange

/-- The headers and frames among events. -/
def others (es : List HttpEvent) : List HttpEvent := es.filter fun e => (chunk? e).isNone

theorem others_snoc (es : List HttpEvent) (e : HttpEvent) :
    others (es ++ [e]) = others es ++ if chunk? e = none then [e] else [] := by
  unfold others
  rw [List.filter_append]
  cases e <;> rfl

theorem chunk_of_none {e : HttpEvent} (h : chunk? e = none) : chunk e = [] := by
  cases e with
  | onData data => cases h
  | onHeader key value => rfl
  | frame uid => rfl

theorem eq_onData_of_chunk? {e : HttpEvent} {data : Bytes} (h : chunk? e = some data) :
    e = .onData data := by
  cases e with
  | onData data' => rw [Option.some.inj h]
  | onHeader key value => cases h
  | frame uid => cases h

/-- The same exchange with its body cut in another way. -/
structure Recut (x y : Exchange) : Prop where
  body : y.body = x.body
  others : others y.events = others x.events
  ending : y.ending = x.ending
  status : y.status = x.status
  after : y.after = x.after

end Exchange

namespace Callback

open Exchange

variable {σ : Type*}

/-- Up to `R`, and in the states `P`, two chunks of together at most `limit` bytes are the same to the
handler as one, and a chunk can be moved behind the other events `Q`. -/
structure Joins (cb : Callback σ) (frame : σ → Uid → σ) (R : σ → σ → Prop) (P : σ → Prop) (limit : ℕ)
    (Q : HttpEvent → Prop) : Prop where
  nil : ∀ s, P s → R s (cb.onData s [])
  join : ∀ s a b, P s → a.length + b.length ≤ limit → R (cb.onData (cb.onData s a) b) (cb.onData s (a ++ b))
  swap : ∀ s a e, P s → Q e → chunk? e = none →
    R (cb.handle frame (cb.onData s a) e) (cb.onData (cb.handle frame s e) a)
  keep : ∀ s e, P s → Q e → chunk? e = none → P (cb.handle frame s e)
  handle : ∀ s t e, R s t → R (cb.handle frame s e) (cb.handle frame t e)
  close : ∀ s t ending, R s t → R (cb.close s ending) (cb.close t ending)
  frame : ∀ s t uid, R s t → R (frame s uid) (frame t uid)

variable {cb : Callback σ} {frame : σ → Uid → σ} {R : σ → σ → Prop} {P : σ → Prop} {limit : ℕ}
  {Q : HttpEvent → Prop}

theorem foldl_related {ε : Type*} {f : σ → ε → σ} (hf : ∀ s t e, R s t → R (f s e) (f t e))
    (es : List ε) {s t : σ} (h : R s t) : R (es.foldl f s) (es.foldl f t) := by
  induction es generalizing s t with
  | nil => exact h
  | cons e es ih => exact ih (hf _ _ e h)

theorem foldl_others_keep (hcb : cb.Joins frame R P limit Q) {s : σ} (hs : P s) (es : List HttpEvent)
    (hes : ∀ e ∈ es, chunk? e = none → Q e) : P ((others es).foldl (cb.handle frame) s) := by
  induction es generalizing s with
  | nil => exact hs
  | cons e es ih =>
      have hrest : ∀ e ∈ es, chunk? e = none → Q e := fun e he => hes e (List.mem_cons_of_mem _ he)
      unfold others
      rw [List.filter_cons]
      split
      · next hnone =>
          have hother := Option.isNone_iff_eq_none.1 hnone
          exact ih (hcb.keep s e hs (hes e List.mem_cons_self hother) hother) hrest
      · exact ih hs hrest

/-- The events are the same to the handler as the headers and frames, and then the body in one chunk. -/
theorem foldl_handle_related (hR : Equivalence R) (hcb : cb.Joins frame R P limit Q) {s : σ} (hs : P s)
    (es : List HttpEvent) (hes : ∀ e ∈ es, chunk? e = none → Q e)
    (hlimit : (es.flatMap chunk).length ≤ limit) :
    R (es.foldl (cb.handle frame) s)
      (cb.onData ((others es).foldl (cb.handle frame) s) (es.flatMap chunk)) := by
  induction es using List.reverseRecOn with
  | nil => exact hcb.nil s hs
  | append_singleton es e ih =>
      have hbefore : ∀ e ∈ es, chunk? e = none → Q e := fun e he => hes e (List.mem_append_left _ he)
      have he := hes e (List.mem_append_right _ List.mem_cons_self)
      have hkeep := foldl_others_keep hcb hs es hbefore
      rw [List.flatMap_append, List.flatMap_singleton] at hlimit ⊢
      rw [List.length_append] at hlimit
      have hlast := hcb.handle _ _ e (ih hbefore (by omega))
      rw [List.foldl_append, List.foldl_cons, List.foldl_nil, others_snoc]
      refine hR.trans hlast ?_
      cases hchunk : chunk? e with
      | none =>
          rw [if_pos rfl, List.foldl_append, List.foldl_cons, List.foldl_nil, chunk_of_none hchunk,
            List.append_nil]
          exact hcb.swap _ _ _ hkeep (he hchunk) hchunk
      | some data =>
          obtain rfl := eq_onData_of_chunk? hchunk
          rw [if_neg (Option.some_ne_none data), List.append_nil]
          exact hcb.join _ _ _ hkeep hlimit

/-- **A request is the same to such a handler** however its body is cut. -/
theorem perform_related (hR : Equivalence R) (hcb : cb.Joins frame R P limit Q) {s t : σ} {x y : Exchange}
    (hst : R s t) (hs : P s) (ht : P t) (hxy : Recut x y) (hx : ∀ e ∈ x.events, chunk? e = none → Q e)
    (hlimit : x.body.length ≤ limit) :
    (cb.perform frame t y).1 = (cb.perform frame s x).1 ∧
      R (cb.perform frame s x).2 (cb.perform frame t y).2 := by
  have hy : ∀ e ∈ y.events, chunk? e = none → Q e := by
    intro e he hnone
    have hmem : e ∈ others x.events := hxy.others ▸ List.mem_filter.2 ⟨he, by rw [hnone]; rfl⟩
    exact hx e (List.mem_filter.1 hmem).1 hnone
  have hbody : y.events.flatMap chunk = x.events.flatMap chunk := hxy.body
  have hnormal := foldl_handle_related hR hcb hs x.events hx hlimit
  have hlimit' : y.body.length ≤ limit := by
    rw [hxy.body]
    exact hlimit
  have hnormal' := foldl_handle_related hR hcb ht y.events hy hlimit'
  rw [hxy.others, hbody] at hnormal'
  have hothers := foldl_related hcb.handle (others x.events) hst
  have hone := hcb.handle _ _ (.onData (x.events.flatMap chunk)) hothers
  have hevents := hR.trans hnormal (hR.trans hone (hR.symm hnormal'))
  refine ⟨?_, ?_⟩
  · unfold perform Exchange.ok
    rw [hxy.ending]
  · unfold perform
    rw [hxy.ending, hxy.after]
    exact foldl_related hcb.frame _ (hcb.close _ _ _ hevents)

end Callback

/-! ## Writing in pieces -/

namespace Card

theorem ext_files {c c' : Card} (hdirs : c.dirs = c'.dirs) (hfiles : c.files = c'.files) : c = c' := by
  cases c
  cases c'
  subst hdirs hfiles
  rfl

theorem put_files (c : Card) (path b : Bytes) (h : parentDir path ∈ c.dirs) :
    (c.put path b h).files =
      if path ∈ c.files.map Prod.fst then c.files.map fun f => if f.1 = path then (f.1, b) else f
      else c.files ++ [(path, b)] := by
  unfold put
  split <;> rfl

theorem content?_of_mem {c : Card} {f : Bytes × Bytes} (hf : f ∈ c.files) :
    c.content? f.1 = some f.2 := by
  unfold content?
  cases hfind : c.files.find? fun g => g.1 = f.1 with
  | none => exact absurd (decide_eq_true rfl) (List.find?_eq_none.1 hfind f hf)
  | some g =>
      have hsame : g.1 = f.1 := by simpa using List.find?_some hfind
      have hg := List.mem_of_find?_eq_some hfind
      rw [List.inj_on_of_nodup_map c.files_nodup hg hf hsame]
      rfl

theorem put_content {c : Card} {path b : Bytes} (h : parentDir path ∈ c.dirs)
    (hb : c.content? path = some b) : c.put path b h = c := by
  have hmem : path ∈ c.files.map Prod.fst := (hasFile_iff c path).1 (by rw [hasFile, hb]; rfl)
  refine ext_files (put_dirs c path b h) ?_
  rw [put_files, if_pos hmem]
  refine (List.map_congr_left fun f hf => ?_).trans (List.map_id _)
  split
  · next hpath =>
      have hcontent := content?_of_mem hf
      rw [hpath, hb] at hcontent
      rw [Option.some.inj hcontent]
      rfl
  · rfl

theorem put_put (c : Card) (path a b : Bytes) (h : parentDir path ∈ c.dirs)
    (h' : parentDir path ∈ (c.put path a h).dirs) : (c.put path a h).put path b h' = c.put path b h := by
  refine ext_files (by rw [put_dirs, put_dirs, put_dirs]) ?_
  have hmem : path ∈ (c.put path a h).files.map Prod.fst :=
    (hasFile_iff _ _).1 ((hasFile_put c path a h path).2 (.inl rfl))
  rw [put_files, if_pos hmem, put_files, put_files]
  split
  · rw [List.map_map]
    refine List.map_congr_left fun f _ => ?_
    simp only [Function.comp_apply]
    split <;> simp_all
  · next hnone =>
      rw [List.map_append]
      congr 1
      · refine (List.map_congr_left fun f hf => ?_).trans (List.map_id _)
        exact if_neg fun hpath : f.1 = path => hnone (hpath ▸ List.mem_map_of_mem hf)
      · exact congrArg (fun f => [f]) (if_pos rfl)

theorem fwrite_of_some {c : Card} {path b : Bytes} (bytes : Bytes) (h : c.content? path = some b) :
    ∃ hdir : parentDir path ∈ c.dirs, c.fwrite path bytes = c.put path (b ++ bytes) hdir := by
  have hfile : c.hasFile path := by
    rw [hasFile, h]
    rfl
  have hdir := parentDir_mem_of_hasFile hfile
  refine ⟨hdir, ?_⟩
  unfold fwrite
  split
  · next hnone => cases hnone.symm.trans h
  · next b' hb =>
      obtain rfl := Option.some.inj (hb.symm.trans h)
      rfl

theorem fwrite_of_none {c : Card} {path : Bytes} (bytes : Bytes) (h : c.content? path = none) :
    c.fwrite path bytes = c := by
  unfold fwrite
  split
  · rfl
  · next hb => cases hb.symm.trans h

theorem fwrite_nil (c : Card) (path : Bytes) : c.fwrite path [] = c := by
  cases h : c.content? path with
  | none => exact fwrite_of_none [] h
  | some b =>
      obtain ⟨hdir, heq⟩ := fwrite_of_some [] h
      rw [heq, List.append_nil]
      exact put_content hdir h

/-- Two writes in a row are one. -/
theorem fwrite_fwrite (c : Card) (path a b : Bytes) :
    (c.fwrite path a).fwrite path b = c.fwrite path (a ++ b) := by
  cases h : c.content? path with
  | none => rw [fwrite_of_none a h, fwrite_of_none b h, fwrite_of_none (a ++ b) h]
  | some old =>
      have hafter : (c.fwrite path a).content? path = some (old ++ a) := by
        rw [content?_fwrite, if_pos rfl, h]
        rfl
      obtain ⟨hdir, heq⟩ := fwrite_of_some a h
      obtain ⟨hdir', heq'⟩ := fwrite_of_some (a ++ b) h
      obtain ⟨hdir'', heq''⟩ := fwrite_of_some b hafter
      rw [heq'', heq', List.append_assoc]
      simp only [heq]
      exact put_put c path _ _ hdir _

end Card

namespace Downloader

/-- Making the folders of a path once more changes nothing. -/
theorem mkdirAll_again (c : Card) (paths : List Bytes) :
    mkdirAll (mkdirAll c paths).1 paths = mkdirAll c paths := by
  induction paths generalizing c with
  | nil => rfl
  | cons path paths ih =>
      have hthere : ∀ c' : Card, path ∈ c'.dirs ∨ c'.hasFile path →
          mkdirAll (mkdirAll c' paths).1 (path :: paths) = mkdirAll c' paths := by
        intro c' hentry
        have hstill : path ∈ (mkdirAll c' paths).1.dirs ∨ (mkdirAll c' paths).1.hasFile path := by
          refine hentry.imp (fun hdir => mkdirAll_dirs c' paths hdir) fun hfile => ?_
          rw [Card.hasFile, content?_mkdirAll]
          exact hfile
        have hexists : (mkdirAll c' paths).1.mkdir path = .eexist := if_pos hstill
        rw [(mkdirAll_eexist paths hexists).1, ih]
      rcases c.mkdir_cases path with ⟨c', hmk, hdirs, -⟩ | ⟨hmk, hentry⟩ | ⟨hmk, -⟩
      · rw [(mkdirAll_ok paths hmk).1]
        exact hthere c' (.inl (by rw [hdirs]; exact List.mem_append_right _ List.mem_cons_self))
      · rw [(mkdirAll_eexist paths hmk).1]
        exact hthere c hentry
      · rw [(mkdirAll_enoent paths hmk).1]
        exact (mkdirAll_enoent paths hmk).1

theorem createDirectory_again (c : Card) (path : Bytes) :
    createDirectory (createDirectory c path).1 path = createDirectory c path := mkdirAll_again c _

/-! ## The receive buffer -/

theorem flushBuffer_closed {d : Downloader} (h : d.file = none) : d.flushBuffer = d := by
  unfold flushBuffer
  rw [h]

theorem flushBuffer_eq {d : Downloader} {path : Bytes} (h : d.file = some path) :
    d.flushBuffer = { d with card := d.card.fwrite path d.downloadBuffer, downloadBuffer := [] } := by
  unfold flushBuffer
  simp only [h]
  split
  · next hnil =>
      rw [hnil, Card.fwrite_nil]
      cases d
      simp_all
  · rfl

/-- One pass passes some bytes through the block buffer. -/
theorem copyPiece_eq {d : Downloader} {path data : Bytes} (hfile : d.file = some path)
    (hroom : d.downloadBuffer.length < bufferSize) (hdata : data ≠ []) :
    ∃ n, 0 < n ∧ copyPiece d data =
      ({ d with
        card := d.card.fwrite path (full bufferSize (d.downloadBuffer ++ data.take n))
        downloadBuffer := rest bufferSize (d.downloadBuffer ++ data.take n) }, data.drop n) := by
  have hpos := List.length_pos_iff.2 hdata
  unfold copyPiece
  generalize htake : min data.length (bufferSize - d.downloadBuffer.length) = n
  refine ⟨n, by omega, ?_⟩
  have hlen : (d.downloadBuffer ++ data.take n).length = d.downloadBuffer.length + n := by
    rw [List.length_append, List.length_take, Nat.min_eq_left (by omega)]
  dsimp only
  split
  · next hfull =>
      have hwhole : full bufferSize (d.downloadBuffer ++ data.take n) = d.downloadBuffer ++ data.take n := by
        rw [full, hfull]
        exact List.take_of_length_le (by rw [hfull]; decide)
      have hnone : rest bufferSize (d.downloadBuffer ++ data.take n) = [] := by
        rw [rest, hfull]
        exact List.drop_of_length_le (by rw [hfull]; decide)
      have hflush := flushBuffer_eq
        (d := { d with downloadBuffer := d.downloadBuffer ++ data.take n }) hfile
      rw [hwhole, hnone, hflush]
  · next hnot =>
      have hless : (d.downloadBuffer ++ data.take n).length < bufferSize := by omega
      rw [full_of_lt hless, rest_of_lt hless, Card.fwrite_nil]

/-- The copy loop writes the whole blocks out and keeps the rest. -/
theorem copyLoop_eq {d : Downloader} {path : Bytes} (fuel : ℕ) (data : Bytes) (hfile : d.file = some path)
    (hroom : d.downloadBuffer.length < bufferSize) (hfuel : data.length ≤ fuel) :
    copyLoop fuel d data =
      { d with
        card := d.card.fwrite path (full bufferSize (d.downloadBuffer ++ data))
        downloadBuffer := rest bufferSize (d.downloadBuffer ++ data) } := by
  have hblock : 0 < bufferSize := by decide
  have hempty : ∀ d : Downloader, d.downloadBuffer.length < bufferSize → d = { d with
      card := d.card.fwrite path (full bufferSize (d.downloadBuffer ++ []))
      downloadBuffer := rest bufferSize (d.downloadBuffer ++ []) } := by
    intro d hroom
    rw [List.append_nil, full_of_lt hroom, rest_of_lt hroom, Card.fwrite_nil]
  induction fuel generalizing d data with
  | zero =>
      obtain rfl : data = [] := List.length_eq_zero_iff.1 (by omega)
      exact hempty d hroom
  | succ fuel ih =>
      rw [copyLoop_succ]
      split
      · next hnil =>
          subst hnil
          exact hempty d hroom
      · next hne =>
          obtain ⟨n, hpos, hpiece⟩ := copyPiece_eq hfile hroom hne
          have hdrop : (data.drop n).length ≤ fuel := by
            rw [List.length_drop]
            have := List.length_pos_iff.2 hne
            omega
          have hsplit : d.downloadBuffer ++ data = (d.downloadBuffer ++ data.take n) ++ data.drop n := by
            rw [List.append_assoc, List.take_append_drop]
          rw [hpiece, ih _ (by exact hfile) (rest_length_lt hblock _) hdrop, hsplit,
            full_append hblock (d.downloadBuffer ++ data.take n),
            rest_append hblock (d.downloadBuffer ++ data.take n), ← Card.fwrite_fwrite]

/-! ## States that differ in `written` -/

/-- The same but for the list of paths opened. -/
def SameState (d e : Downloader) : Prop := ∃ written, e = { d with written := written }

theorem sameState_equivalence : Equivalence SameState where
  refl d := ⟨d.written, rfl⟩
  symm := by
    rintro d e ⟨w, rfl⟩
    exact ⟨d.written, rfl⟩
  trans := by
    rintro d e f ⟨w, rfl⟩ ⟨w', rfl⟩
    exact ⟨w', rfl⟩

namespace SameState

variable {d e : Downloader}

theorem of_eq (h : d = e) : SameState d e := h ▸ sameState_equivalence.refl d

theorem trans {f : Downloader} (h : SameState d e) (h' : SameState e f) : SameState d f :=
  sameState_equivalence.trans h h'

/-- What does not depend on `written` is the same. -/
theorem field {α : Type*} (h : SameState d e) (f : Downloader → α)
    (hf : ∀ d written, f { d with written := written } = f d) : f e = f d := by
  obtain ⟨w, rfl⟩ := h
  exact hf d w

theorem frame (h : SameState d e) (uid : Uid) : SameState (d.frame uid) (e.frame uid) := by
  obtain ⟨w, rfl⟩ := h
  exact ⟨w, rfl⟩

theorem createFolders (h : SameState d e) : SameState d.createFolders e.createFolders := by
  obtain ⟨w, rfl⟩ := h
  unfold Downloader.createFolders
  dsimp only
  cases d.card.mkdir (toysPath ++ d.toy) <;> exact ⟨w, rfl⟩

theorem writeFile (h : SameState d e) (path content : Bytes) :
    SameState (d.writeFile path content) (e.writeFile path content) := by
  obtain ⟨w, rfl⟩ := h
  unfold Downloader.writeFile openWrite
  cases d.card.fopenWrite path <;> exact ⟨_, rfl⟩

theorem storeField (h : SameState d e) (path : Bytes) (content : Option Bytes) :
    SameState (d.storeField path content) (e.storeField path content) := by
  cases content with
  | none => exact h
  | some content => exact h.writeFile path content

theorem storeFiles (h : SameState d e) (j : Json) : SameState (d.storeFiles j) (e.storeFiles j) := by
  have htag := h.field tagUid fun _ _ => rfl
  unfold Downloader.storeFiles
  dsimp only
  rw [htag]
  exact (((h.storeField _ _).storeField _ _).storeField _ _).storeField _ _

theorem storeLists (h : SameState d e) (j : Json) : SameState (d.storeLists j) (e.storeLists j) := by
  obtain ⟨w, rfl⟩ := h
  unfold Downloader.storeLists
  cases j.stringField? (str "baseUrl") <;> cases j.arrayField? (str "directionFiles") <;>
    cases j.arrayField? (str "media") <;> cases hmedia : d.mediaJson <;> exact ⟨w, by simp [hmedia]⟩

theorem writeTokenError (h : SameState d e) (code : ℤ) (tail : Bytes) :
    SameState (d.writeTokenError code tail) (e.writeTokenError code tail) := by
  have htoy := h.field toy fun _ _ => rfl
  unfold Downloader.writeTokenError
  rw [htoy]
  split
  · exact h.writeFile _ _
  · exact h

theorem masterData (h : SameState d e) (data : Bytes) : SameState (d.masterData data) (e.masterData data) := by
  obtain ⟨w, rfl⟩ := h
  unfold Downloader.masterData
  dsimp only
  split
  · exact ⟨w, rfl⟩
  · cases d.metadataFile with
    | some tag => exact ⟨_, rfl⟩
    | none =>
        dsimp only
        split
        · unfold openWrite
          dsimp only
          cases (createDirectory d.card (toysPath ++ d.tagUid ++ str "/")).1.fopenWrite
            (metadataPath d.tagUid) <;> exact ⟨_, rfl⟩
        · exact ⟨w, rfl⟩

theorem flushBuffer (h : SameState d e) : SameState d.flushBuffer e.flushBuffer := by
  have hsame := h.field file fun _ _ => rfl
  cases hfile : d.file with
  | none =>
      rw [flushBuffer_closed hfile, flushBuffer_closed (hsame.trans hfile)]
      exact h
  | some path =>
      rw [flushBuffer_eq hfile, flushBuffer_eq (hsame.trans hfile)]
      obtain ⟨w, rfl⟩ := h
      exact ⟨w, rfl⟩

theorem copyLoop (h : SameState d e) (fuel : ℕ) (data : Bytes) :
    SameState (Downloader.copyLoop fuel d data) (Downloader.copyLoop fuel e data) := by
  induction fuel generalizing d e data with
  | zero => exact h
  | succ fuel ih =>
      obtain ⟨w, rfl⟩ := h
      unfold Downloader.copyLoop
      dsimp only
      split
      · exact ⟨w, rfl⟩
      · refine ih ?_ _
        split
        · exact flushBuffer ⟨w, rfl⟩
        · exact ⟨w, rfl⟩

end SameState

/-! ## The handlers -/

theorem tokenCallback_joins (limit : ℕ) :
    tokenCallback.Joins frame SameState (fun _ => True) limit fun _ => True where
  nil d _ := sameState_equivalence.refl d
  join d _ _ _ _ := sameState_equivalence.refl d
  swap _ _ _ _ _ _ := sameState_equivalence.refl _
  keep _ _ _ _ _ := trivial
  handle := by
    rintro d e ev ⟨w, rfl⟩
    cases ev with
    | onHeader key value =>
        dsimp only [Callback.handle, tokenCallback]
        split_ifs <;> exact ⟨w, rfl⟩
    | onData data => exact ⟨w, rfl⟩
    | frame uid => exact ⟨w, rfl⟩
  close d e ending h := by cases ending <;> exact h
  frame _ _ uid h := h.frame uid

/-- Nothing has been collected of the body. -/
structure Fresh (d : Downloader) : Prop where
  len : d.outputLen = 0
  buffer : d.outputBuffer = []

theorem directionData_fresh {d : Downloader} {a : Bytes} (h : Fresh d) (ha : a.length < bufferSize) :
    directionCallback.onData d a = { d with outputBuffer := a, outputLen := a.length } := by
  dsimp only [directionCallback]
  rw [h.len, h.buffer, Nat.zero_add, if_pos ha]
  rfl

theorem directionCallback_joins : directionCallback.Joins frame SameState Fresh 4095 fun _ => True where
  nil d h := by
    refine .of_eq ?_
    rw [directionData_fresh h (by decide), ← h.buffer]
    obtain ⟨hlen, hbuffer⟩ := h
    cases d
    simp_all
  join d a b h hle := by
    refine .of_eq ?_
    have hsum : a.length + b.length < bufferSize := Nat.lt_succ_of_le hle
    have hab : (a ++ b).length < bufferSize := by
      rw [List.length_append]
      exact hsum
    rw [directionData_fresh h hab, directionData_fresh h ((Nat.le_add_right _ _).trans_lt hsum)]
    dsimp only [directionCallback]
    rw [if_pos hsum, List.take_length, List.length_append]
  swap d a ev _ _ hother := by
    refine .of_eq ?_
    cases ev with
    | onHeader key value => rfl
    | onData data => cases hother
    | frame uid =>
        dsimp only [Callback.handle, directionCallback, Downloader.frame]
        split <;> rfl
  keep d ev h _ hother := by
    cases ev with
    | onHeader key value => exact h
    | onData data => cases hother
    | frame uid => exact ⟨h.len, h.buffer⟩
  handle := by
    rintro d e ev ⟨w, rfl⟩
    cases ev with
    | onHeader key value => exact ⟨w, rfl⟩
    | onData data =>
        dsimp only [Callback.handle, directionCallback]
        split <;> exact ⟨w, rfl⟩
    | frame uid => exact ⟨w, rfl⟩
  close := by
    rintro d e ending ⟨w, rfl⟩
    cases ending <;> exact ⟨w, rfl⟩
  frame _ _ uid h := h.frame uid

theorem mp3Data_closed {d : Downloader} (h : d.file = none) (data : Bytes) :
    mp3Callback.onData d data = d := by
  dsimp only [mp3Callback]
  rw [h]

theorem mp3Data_open {d : Downloader} {path : Bytes} (h : d.file = some path)
    (hroom : d.downloadBuffer.length < bufferSize) (data : Bytes) :
    mp3Callback.onData d data =
      { d with
        card := d.card.fwrite path (full bufferSize (d.downloadBuffer ++ data))
        downloadBuffer := rest bufferSize (d.downloadBuffer ++ data) } := by
  rw [← copyLoop_eq data.length data h hroom le_rfl]
  dsimp only [mp3Callback]
  rw [h]

theorem mp3Callback_joins (limit : ℕ) :
    mp3Callback.Joins frame SameState (fun d => d.downloadBuffer.length < bufferSize) limit
      fun _ => True where
  nil d hroom := by
    refine .of_eq ?_
    cases hfile : d.file with
    | none => exact (mp3Data_closed hfile []).symm
    | some path =>
        rw [mp3Data_open hfile hroom, List.append_nil, full_of_lt hroom, rest_of_lt hroom, Card.fwrite_nil]
  join d a b hroom _ := by
    refine .of_eq ?_
    have hblock : 0 < bufferSize := by decide
    cases hfile : d.file with
    | none => rw [mp3Data_closed hfile, mp3Data_closed hfile, mp3Data_closed hfile]
    | some path =>
        rw [mp3Data_open hfile hroom a, mp3Data_open hfile hroom,
          mp3Data_open (by exact hfile) (rest_length_lt hblock _), ← List.append_assoc,
          full_append hblock (d.downloadBuffer ++ a), rest_append hblock (d.downloadBuffer ++ a),
          ← Card.fwrite_fwrite]
  swap d a ev hroom _ hother := by
    refine .of_eq ?_
    cases ev with
    | onHeader key value => rfl
    | onData data => cases hother
    | frame uid =>
        show (mp3Callback.onData d a).frame uid = mp3Callback.onData (d.frame uid) a
        cases hfile : d.file with
        | none => rw [mp3Data_closed hfile, mp3Data_closed (d := d.frame uid) hfile]
        | some path =>
            rw [mp3Data_open hfile hroom, mp3Data_open (d := d.frame uid) hfile hroom]
            rfl
  keep d ev hroom _ hother := by
    cases ev with
    | onHeader key value => exact hroom
    | onData data => cases hother
    | frame uid => exact hroom
  handle d e ev h := by
    cases ev with
    | onHeader key value => exact h
    | onData data =>
        have hsame := h.field file fun _ _ => rfl
        dsimp only [Callback.handle, mp3Callback]
        rw [hsame]
        split
        · exact h.copyLoop _ _
        · exact h
    | frame uid => exact h.frame uid
  close d e ending h := by
    have hsame := h.field file fun _ _ => rfl
    cases ending with
    | finished =>
        dsimp only [Callback.close, mp3Callback]
        rw [hsame]
        split
        · obtain ⟨w, hw⟩ := h.flushBuffer
          rw [hw]
          exact ⟨w, rfl⟩
        · exact h
    | disconnected =>
        obtain ⟨w, rfl⟩ := h
        exact ⟨w, rfl⟩
    | unreachable => exact h
  frame _ _ uid h := h.frame uid

theorem masterData_nil (d : Downloader) : d.masterData [] = d := if_pos rfl

/-- What `masterData` makes of a chunk while the metadata file is open. -/
theorem masterData_appends {d : Downloader} {tag data : Bytes} (hfile : d.metadataFile = some tag)
    (hdata : data ≠ []) :
    d.masterData data =
      { d with
        card := d.card.fwrite (metadataPath tag) data
        responseBuffer := some (d.responseBuffer.getD [] ++ data)
        written := metadataPath tag :: d.written } := by
  unfold masterData
  rw [if_neg hdata]
  dsimp only
  rw [hfile]

/-- And while it is closed. -/
theorem masterData_opens {d : Downloader} {data : Bytes} (hfile : d.metadataFile = none)
    (hdata : data ≠ []) {r : Card × Bool}
    (hr : createDirectory d.card (toysPath ++ d.tagUid ++ str "/") = r) :
    d.masterData data =
      match if r.2 then r.1.fopenWrite (metadataPath d.tagUid) else none with
      | some c =>
          { d with
            card := c.fwrite (metadataPath d.tagUid) data
            responseBuffer := some (d.responseBuffer.getD [] ++ data)
            written := metadataPath d.tagUid :: d.written
            metadataFile := some d.tagUid }
      | none =>
          { d with
            card := r.1
            responseBuffer := some (d.responseBuffer.getD [] ++ data) } := by
  unfold masterData
  rw [if_neg hdata]
  dsimp only
  rw [hfile]
  dsimp only
  rw [hr]
  cases hmade : r.2 with
  | false => rfl
  | true =>
      unfold openWrite
      dsimp only
      cases r.1.fopenWrite (metadataPath d.tagUid) <;> rfl

theorem masterData_masterData (d : Downloader) (a b : Bytes) :
    SameState ((d.masterData a).masterData b) (d.masterData (a ++ b)) := by
  by_cases ha : a = []
  · rw [ha, masterData_nil]
    exact .of_eq rfl
  by_cases hb : b = []
  · rw [hb, masterData_nil, List.append_nil]
    exact .of_eq rfl
  have hab : a ++ b ≠ [] := fun h => ha (List.append_eq_nil_iff.1 h).1
  cases hfile : d.metadataFile with
  | some tag =>
      rw [masterData_appends hfile ha, masterData_appends hfile hab, masterData_appends (by exact hfile) hb]
      dsimp only
      rw [Card.fwrite_fwrite, Option.getD_some, List.append_assoc]
      exact ⟨_, rfl⟩
  | none =>
      obtain ⟨r, hr⟩ : ∃ r, createDirectory d.card (toysPath ++ d.tagUid ++ str "/") = r := ⟨_, rfl⟩
      have hagain : createDirectory r.1 (toysPath ++ d.tagUid ++ str "/") = r := by
        rw [← hr, createDirectory_again]
      rw [masterData_opens hfile ha hr, masterData_opens hfile hab hr]
      cases hopen : if r.2 then r.1.fopenWrite (metadataPath d.tagUid) else none with
      | some c =>
          dsimp only
          rw [masterData_appends rfl hb]
          dsimp only
          rw [Card.fwrite_fwrite, Option.getD_some, List.append_assoc]
          exact ⟨_, rfl⟩
      | none =>
          dsimp only
          rw [masterData_opens (by exact hfile) hb (by exact hagain)]
          dsimp only
          rw [hopen, Option.getD_some, List.append_assoc]
          exact .of_eq rfl

section

variable [CJson]

theorem SameState.masterFinish {d e : Downloader} (h : SameState d e) : SameState d.masterFinish e.masterFinish := by
  have hresponse := h.field responseAtFinish fun _ _ => rfl
  have hclosed : SameState { d with metadataFile := none } { e with metadataFile := none } := by
    obtain ⟨w, rfl⟩ := h
    exact ⟨w, rfl⟩
  have hparse : ∀ response, SameState (parseAndStoreMetadata { d with metadataFile := none } response)
      (parseAndStoreMetadata { e with metadataFile := none } response) := by
    intro response
    unfold parseAndStoreMetadata
    split
    · exact hclosed
    · next j _ =>
        refine SameState.storeFiles (SameState.storeLists ?_ j) j
        obtain ⟨w, rfl⟩ := h
        exact ⟨w, rfl⟩
  unfold Downloader.masterFinish
  dsimp only
  rw [hresponse]
  split
  · next response _ =>
      obtain ⟨w, hw⟩ := hparse response
      rw [hw]
      exact ⟨w, rfl⟩
  · obtain ⟨w, rfl⟩ := h
    exact ⟨w, rfl⟩

/-- While the tag stays on the box. -/
theorem masterJsonCallback_joins (tag : Bytes) (limit : ℕ) :
    masterJsonCallback.Joins frame SameState (fun d => d.tagUid = tag) limit
      fun ev => ∀ uid, ev = .frame uid → uidText uid = tag where
  nil d _ := .of_eq (masterData_nil d).symm
  join d a b _ _ := masterData_masterData d a b
  swap d a ev htag hev hother := by
    cases ev with
    | onHeader key value => exact .of_eq rfl
    | onData data => cases hother
    | frame uid =>
        have huid := hev uid rfl
        have hbefore : d.frame uid = d := by
          unfold Downloader.frame
          rw [huid, ← htag]
        have hafter : (d.masterData a).frame uid = d.masterData a := by
          unfold Downloader.frame
          rw [huid, ← htag, ← masterData_tagUid d a]
        show SameState ((d.masterData a).frame uid) ((d.frame uid).masterData a)
        rw [hbefore, hafter]
        exact .of_eq rfl
  keep d ev htag hev hother := by
    cases ev with
    | onHeader key value => exact htag
    | onData data => cases hother
    | frame uid => exact hev uid rfl
  handle d e ev h := by
    cases ev with
    | onHeader key value => exact h
    | onData data => exact h.masterData data
    | frame uid => exact h.frame uid
  close d e ending h := by
    cases ending with
    | finished => exact h.masterFinish
    | disconnected =>
        obtain ⟨w, rfl⟩ := h
        exact ⟨w, rfl⟩
    | unreachable => exact h
  frame _ _ uid h := h.frame uid

end

/-! ## The stages of a download -/

open Exchange

/-- The same script with the bodies cut in other ways. -/
structure BeginScript.Recut (s t : BeginScript) : Prop where
  connect : t.connect = s.connect
  tokenConnect : t.tokenConnect = s.tokenConnect
  token : Exchange.Recut s.token t.token
  errorTail : t.errorTail = s.errorTail
  master : Exchange.Recut s.master t.master
  junk : ∀ i, (t.direction i).junk = (s.direction i).junk
  direction : ∀ i, Exchange.Recut (s.direction i).exchange (t.direction i).exchange
  renames : ∀ i, (t.audio i).renames = (s.audio i).renames
  attempts : ∀ i n, Exchange.Recut ((s.audio i).attempts n) ((t.audio i).attempts n)
  seconds : t.seconds = s.seconds

namespace SameState

variable {d e : Downloader}

/-- The request for the token. -/
theorem tokenRequest (h : SameState d e) {x y : Exchange} (hxy : Exchange.Recut x y) (tail : Bytes) :
    let r := tokenCallback.perform Downloader.frame { d with tokenRequestFlag := true } x
    let q := tokenCallback.perform Downloader.frame { e with tokenRequestFlag := true } y
    SameState
      { r.2.writeTokenError (if r.1 then x.status else 0) tail with tokenRequestFlag := false }
      { q.2.writeTokenError (if q.1 then y.status else 0) tail with tokenRequestFlag := false } := by
  have hasked : SameState { d with tokenRequestFlag := true } { e with tokenRequestFlag := true } := by
    obtain ⟨w, rfl⟩ := h
    exact ⟨w, rfl⟩
  intro r q
  obtain ⟨hok, hperform⟩ : q.1 = r.1 ∧ SameState r.2 q.2 :=
    Callback.perform_related sameState_equivalence (tokenCallback_joins x.body.length) hasked trivial
      trivial hxy (fun _ _ _ => trivial) le_rfl
  rw [hok, hxy.status]
  obtain ⟨w, hw⟩ := hperform.writeTokenError (if r.1 then x.status else 0) tail
  rw [hw]
  exact ⟨w, rfl⟩

theorem downloadToken (h : SameState d e) (connect : WaitScript) {x y : Exchange}
    (hxy : Exchange.Recut x y) (tail : Bytes) :
    SameState (d.downloadToken connect x tail) (e.downloadToken connect y tail) := by
  obtain ⟨w, rfl⟩ := h
  have hconnected : SameState { d with wifi := (d.wifi.connect connect).2 }
      { d with wifi := (d.wifi.connect connect).2, written := w } := ⟨w, rfl⟩
  unfold Downloader.downloadToken
  dsimp only
  split
  · exact ⟨w, rfl⟩
  · split
    · exact hconnected.tokenRequest hxy tail
    · exact hconnected

theorem saveFileToSd (h : SameState d e) (directionName data : Bytes) :
    SameState (d.saveFileToSd directionName data) (e.saveFileToSd directionName data) := by
  have htoy := h.field toy fun _ _ => rfl
  unfold Downloader.saveFileToSd
  rw [htoy]
  exact h.writeFile _ _

theorem downloadFile (h : SameState d e) (dirFileName : Bytes) {x y : Exchange}
    (hxy : Exchange.Recut x y) (hfits : x.body.length ≤ 4095) :
    SameState (d.downloadFile dirFileName x) (e.downloadFile dirFileName y) := by
  obtain ⟨w, rfl⟩ := h
  unfold Downloader.downloadFile
  dsimp only
  generalize Request.directionFile dirFileName (snprintf 256 (d.baseUrl ++ dirFileName)) :: d.requests =
    asked
  have hasked : SameState { d with outputBuffer := [], outputLen := 0, requests := asked }
      { d with outputBuffer := [], outputLen := 0, requests := asked, written := w } := ⟨w, rfl⟩
  obtain ⟨hok, hperform⟩ := Callback.perform_related sameState_equivalence directionCallback_joins hasked
    ⟨rfl, rfl⟩ ⟨rfl, rfl⟩ hxy (fun _ _ _ => trivial) hfits
  have hbuffer := hperform.field outputBuffer fun _ _ => rfl
  rw [hok, hbuffer]
  split
  · split
    · exact hperform.saveFileToSd _ _
    · exact hperform
  · exact hperform

theorem processDirectionFiles (h : SameState d e) (s t : ℕ → DirectionScript)
    (hjunk : ∀ i, (t i).junk = (s i).junk) (hst : ∀ i, Exchange.Recut (s i).exchange (t i).exchange)
    (hfits : ∀ i, (s i).exchange.body.length ≤ 4095) (slots : List (Option Bytes)) :
    SameState (d.processDirectionFiles s slots) (e.processDirectionFiles t slots) := by
  induction slots generalizing d e s t with
  | nil => exact h
  | cons slot slots ih =>
      unfold Downloader.processDirectionFiles
      dsimp only
      refine ih ?_ _ _ (fun i => hjunk (i + 1)) (fun i => hst (i + 1)) fun i => hfits (i + 1)
      rw [hjunk 0]
      split
      · exact h.downloadFile _ (hst 0) (hfits 0)
      · exact h

/-- There is room in the receive buffer after an attempt. -/
theorem room_perform {d : Downloader} (x : Exchange) (hroom : d.downloadBuffer.length < bufferSize) :
    (mp3Callback.perform Downloader.frame d x).2.downloadBuffer.length < bufferSize := by
  have hblock : 0 < bufferSize := by decide
  refine Callback.perform_induction (P := fun d : Downloader => d.downloadBuffer.length < bufferSize) hroom
    (fun _ _ _ h => h) (fun d data h => ?_) (fun d h => ?_) (fun _ h => h) fun _ _ _ h => h
  · cases hfile : d.file with
    | none =>
        rw [mp3Data_closed hfile]
        exact h
    | some path =>
        rw [mp3Data_open hfile h]
        exact rest_length_lt hblock _
  · dsimp only [mp3Callback]
    split
    · next path hfile =>
        rw [flushBuffer_eq hfile]
        exact hblock
    · exact h

theorem retryLoop (h : SameState d e) (hroom : d.downloadBuffer.length < bufferSize) (left : ℕ)
    {s t : ℕ → Exchange} (hst : ∀ i, Exchange.Recut (s i) (t i)) :
    (Downloader.retryLoop left e t).1 = (Downloader.retryLoop left d s).1 ∧
      SameState (Downloader.retryLoop left d s).2 (Downloader.retryLoop left e t).2 ∧
      (Downloader.retryLoop left d s).2.downloadBuffer.length < bufferSize := by
  induction left generalizing d e s t with
  | zero => exact ⟨rfl, h, hroom⟩
  | succ left ih =>
      have hroom' : e.downloadBuffer.length < bufferSize := by
        rw [h.field downloadBuffer fun _ _ => rfl]
        exact hroom
      obtain ⟨hok, hperform⟩ := Callback.perform_related sameState_equivalence
        (mp3Callback_joins (s 0).body.length) h hroom hroom' (hst 0) (fun _ _ _ => trivial) le_rfl
      have hafter := room_perform (s 0) hroom
      unfold Downloader.retryLoop
      dsimp only
      rw [hok]
      split
      · exact ⟨rfl, hperform, hafter⟩
      · exact ih hperform hafter fun i => hst (i + 1)

theorem openTemp (h : SameState d e) (name : Bytes) :
    (∃ d' e', d.openTemp name = some d' ∧ e.openTemp name = some e' ∧ SameState d' e' ∧
      d'.downloadBuffer = d.downloadBuffer) ∨ (d.openTemp name = none ∧ e.openTemp name = none) := by
  obtain ⟨w, rfl⟩ := h
  unfold Downloader.openTemp openWrite
  dsimp only
  cases d.card.fopenWrite (tempFilePath name) with
  | none => exact .inr ⟨rfl, rfl⟩
  | some c => exact .inl ⟨_, _, rfl, rfl, ⟨_, rfl⟩, rfl⟩

theorem downloadMp3File (h : SameState d e) (hroom : d.downloadBuffer.length < bufferSize) (name : Bytes)
    {s t : AudioScript} (hrenames : t.renames = s.renames)
    (hst : ∀ i, Exchange.Recut (s.attempts i) (t.attempts i)) :
    (e.downloadMp3File name t).1 = (d.downloadMp3File name s).1 ∧
      SameState (d.downloadMp3File name s).2 (e.downloadMp3File name t).2 ∧
      (d.downloadMp3File name s).2.downloadBuffer.length < bufferSize := by
  have hclosed {d e : Downloader} (h : SameState d e) :
      SameState { d with file := none } { e with file := none } := by
    obtain ⟨w, rfl⟩ := h
    exact ⟨w, rfl⟩
  unfold Downloader.downloadMp3File
  rcases h.openTemp name with ⟨d', e', hd, he, hopened, hbuffer⟩ | ⟨hd, he⟩
  · obtain ⟨hok, hretry, hroom'⟩ := hopened.retryLoop (hbuffer ▸ hroom) maxRetryCount hst
    rw [hd, he]
    dsimp only
    rw [hok, hrenames]
    split
    · split
      · refine ⟨rfl, ?_, hroom'⟩
        obtain ⟨w, hw⟩ := hretry
        rw [hw]
        exact ⟨w, rfl⟩
      · exact ⟨rfl, hretry, hroom'⟩
    · exact ⟨rfl, hclosed hretry, hroom'⟩
  · rw [hd, he]
    exact ⟨rfl, hclosed h, hroom⟩

theorem downloadAll (h : SameState d e) (hroom : d.downloadBuffer.length < bufferSize)
    (s t : ℕ → AudioScript) (hrenames : ∀ i, (t i).renames = (s i).renames)
    (hst : ∀ i n, Exchange.Recut ((s i).attempts n) ((t i).attempts n)) (names : List Bytes) :
    (e.downloadAll t names).1 = (d.downloadAll s names).1 ∧
      SameState (d.downloadAll s names).2 (e.downloadAll t names).2 ∧
      (d.downloadAll s names).2.downloadBuffer.length < bufferSize := by
  induction names generalizing d e s t with
  | nil => exact ⟨rfl, h, hroom⟩
  | cons name names ih =>
      obtain ⟨hok, hfirst, hroom'⟩ := h.downloadMp3File hroom name (hrenames 0) (hst 0)
      unfold Downloader.downloadAll
      dsimp only
      rw [hok]
      split
      · exact ih hfirst hroom' _ _ (fun i => hrenames (i + 1)) fun i => hst (i + 1)
      · exact ⟨rfl, hfirst, hroom'⟩

theorem createVerifiedFile (h : SameState d e) (seconds : ℕ) :
    SameState (d.createVerifiedFile seconds) (e.createVerifiedFile seconds) ∧
      (d.createVerifiedFile seconds).downloadBuffer = d.downloadBuffer := by
  obtain ⟨w, rfl⟩ := h
  unfold Downloader.createVerifiedFile openWrite
  dsimp only
  cases d.card.fopenWrite (toysPath ++ d.tagUid ++ str "/verify.txt") with
  | none => exact ⟨⟨w, rfl⟩, rfl⟩
  | some c => exact ⟨⟨_, rfl⟩, rfl⟩

theorem processAudioFiles (h : SameState d e) (hroom : d.downloadBuffer.length < bufferSize)
    (s t : ℕ → AudioScript) (hrenames : ∀ i, (t i).renames = (s i).renames)
    (hst : ∀ i n, Exchange.Recut ((s i).attempts n) ((t i).attempts n)) (seconds : ℕ) :
    (e.processAudioFiles t seconds).1 = (d.processAudioFiles s seconds).1 ∧
      SameState (d.processAudioFiles s seconds).2 (e.processAudioFiles t seconds).2 ∧
      (d.processAudioFiles s seconds).2.downloadBuffer.length < bufferSize := by
  have hcard := h.field card fun _ _ => rfl
  have hnames := h.field nServer fun _ _ => rfl
  have hcleared {d e : Downloader} (h : SameState d e) :
      SameState { d with nServer := [] } { e with nServer := [] } := by
    obtain ⟨w, rfl⟩ := h
    exact ⟨w, rfl⟩
  unfold Downloader.processAudioFiles
  rw [hcard, hnames]
  cases listFiles d.card audioPath with
  | none => exact ⟨rfl, h, hroom⟩
  | some sdFiles =>
      obtain ⟨hok, hall, hroom'⟩ := h.downloadAll hroom s t hrenames hst
        (d.nServer.filter fun name => ¬ isDuplicate sdFiles name)
      dsimp only
      rw [hok]
      refine ⟨rfl, ?_⟩
      split
      · obtain ⟨hmarked, hbuffer⟩ := hall.createVerifiedFile seconds
        exact ⟨hcleared hmarked, hbuffer.symm ▸ hroom'⟩
      · exact ⟨hcleared hall, hroom'⟩

end SameState

section

variable [CJson]

/-- The read frames processed while the master JSON arrives are of the tag on the box. -/
def MasterSteady (d : Downloader) (s : BeginScript) : Prop :=
  ∀ uid, HttpEvent.frame uid ∈ s.master.events → uidText uid = (d.requestToken s).tagUid

/-- Every direction file fits `output_buffer`. -/
def BeginScript.DirectionsFit (s : BeginScript) : Prop :=
  ∀ i, (s.direction i).exchange.body.length ≤ 4095

theorem SameState.requestMasterJson {d e : Downloader} (h : SameState d e) {s t : BeginScript}
    (hst : s.Recut t) (hsteady : MasterSteady d s) :
    SameState (d.requestMasterJson s) (e.requestMasterJson t) := by
  have htoken := h.createFolders.downloadToken s.tokenConnect hst.token s.errorTail
  have hrequest : SameState (d.requestToken s) (e.requestToken t) := by
    unfold requestToken
    rw [hst.tokenConnect, hst.errorTail]
    exact htoken
  have htag := hrequest.field tagUid fun _ _ => rfl
  refine (Callback.perform_related sameState_equivalence
    (masterJsonCallback_joins (d.requestToken s).tagUid s.master.body.length) hrequest rfl htag hst.master
    (fun ev hev _ uid hframe => ?_) le_rfl).2
  exact hsteady uid (hframe ▸ hev)

omit [CJson] in
theorem processDirectionFiles_downloadBuffer (d : Downloader) (s : ℕ → DirectionScript)
    (slots : List (Option Bytes)) :
    (d.processDirectionFiles s slots).downloadBuffer = d.downloadBuffer := by
  induction slots generalizing d s with
  | nil => rfl
  | cons slot slots ih =>
      have hfile : ∀ name x, (d.downloadFile name x).downloadBuffer = d.downloadBuffer := by
        intro name x
        have hperform := fun d : Downloader => congrArg Prod.snd (perform_transfer directionCallback d x
          (fun _ _ _ => rfl) (fun d data => by dsimp only [directionCallback]; split <;> rfl)
          (fun _ => rfl) fun _ => rfl)
        unfold downloadFile
        dsimp only
        split
        · split
          · exact (congrArg Prod.snd (writeFile_transfer _ _ _)).trans (hperform _)
          · exact hperform _
        · exact hperform _
      unfold processDirectionFiles
      dsimp only
      rw [ih]
      split
      · exact hfile _ _
      · rfl

/-- **A download does not depend on where the bodies are cut.** It returns the same, and only `written`
may differ after it. -/
theorem begin_recut {d e : Downloader} (h : SameState d e) (hroom : d.downloadBuffer.length < bufferSize)
    (toy : Bytes) {s t : BeginScript} (hst : s.Recut t) (hfits : s.DirectionsFit)
    (hsteady : (d.wifi.connect s.connect).1 = 0 → MasterSteady (d.entered toy s) s) :
    (e.begin toy t).1 = (d.begin toy s).1 ∧ SameState (d.begin toy s).2 (e.begin toy t).2 ∧
      (d.begin toy s).2.downloadBuffer.length < bufferSize := by
  have hwifi := h.field wifi fun _ _ => rfl
  have hentered : SameState (d.entered toy s) (e.entered toy t) := by
    obtain ⟨w, rfl⟩ := h
    unfold entered
    rw [hst.connect]
    exact ⟨w, rfl⟩
  rw [begin_eq, begin_eq, hst.connect, hwifi]
  by_cases hconn : (d.wifi.connect s.connect).1 = 0
  · have hmaster := hentered.requestMasterJson hst (hsteady hconn)
    have hslots := hmaster.field directionFileNames fun _ _ => rfl
    have hdirections := hmaster.processDirectionFiles s.direction t.direction hst.junk hst.direction hfits
      ((d.entered toy s).requestMasterJson s).directionFileNames
    have hbuffer : (d.beforeAudio toy s).downloadBuffer = d.downloadBuffer :=
      (processDirectionFiles_downloadBuffer _ _ _).trans
        (congrArg Prod.snd (requestMasterJson_transfer (d.entered toy s) s))
    have hroom' : (d.beforeAudio toy s).downloadBuffer.length < bufferSize := by
      rw [hbuffer]
      exact hroom
    obtain ⟨hok, haudio, hafter⟩ := hdirections.processAudioFiles hroom' s.audio t.audio hst.renames
      hst.attempts s.seconds
    rw [if_pos hconn, if_pos hconn]
    unfold processFiles
    rw [hslots, hst.seconds]
    refine ⟨hok, ?_, hafter⟩
    obtain ⟨w, hw⟩ := haudio
    exact ⟨w, congrArg (fun d : Downloader => { d with toy := [] }) hw⟩
  · rw [if_neg hconn, if_neg hconn]
    exact ⟨rfl, hentered, hroom⟩

/-! ## Runs -/

/-- The same call with the bodies cut in other ways, or the same frame. -/
inductive Event.Recut : Event → Event → Prop where
  | begin (toy : Bytes) {s t : BeginScript} (h : s.Recut t) : Event.Recut (.begin toy s) (.begin toy t)
  | frame (uid : Uid) : Event.Recut (.frame uid) (.frame uid)

/-- The direction files of a call fit, and the tag stays on the box while the master JSON arrives. -/
def Steady (d : Downloader) : Event → Prop
  | .begin toy s =>
      s.DirectionsFit ∧ ((d.wifi.connect s.connect).1 = 0 → MasterSteady (d.entered toy s) s)
  | .frame _ => True

/-- What the calls of a run return. -/
def returned (d : Downloader) : List Event → List Bool
  | [] => []
  | .begin toy s :: es => (d.begin toy s).1 :: (d.begin toy s).2.returned es
  | .frame uid :: es => (d.frame uid).returned es

theorem SameState.run {d e : Downloader} (h : SameState d e) (hroom : d.downloadBuffer.length < bufferSize)
    {es es' : List Event} (hes : List.Forall₂ Event.Recut es es') (hsteady : Runs.Meets step Steady d es) :
    SameState (es.foldl step d) (es'.foldl step e) ∧ e.returned es' = d.returned es := by
  induction hes generalizing d e with
  | nil => exact ⟨h, rfl⟩
  | @cons ev ev' es es' hev _ ih =>
      obtain ⟨hfirst, hrest⟩ := hsteady
      cases hev with
      | begin toy hst =>
          obtain ⟨hok, hafter, hroom'⟩ := begin_recut h hroom toy hst hfirst.1 hfirst.2
          obtain ⟨hrun, hreturned⟩ := ih hafter hroom' hrest
          refine ⟨hrun, ?_⟩
          unfold returned
          rw [hok, hreturned]
      | frame uid => exact ih (h.frame uid) hroom hrest

/-- **Where the server's bodies are cut does not matter.** Two runs from power-on with the same calls,
read frames and bodies, cut in any two ways, end in the same state and return the same from every call,
as long as the direction files fit and the tag stays on the box while a master JSON arrives. -/
theorem transport_independent (card : Card) (wifi : Wifi) {es es' : List Event}
    (hes : List.Forall₂ Event.Recut es es') (hsteady : Runs.Meets step Steady (boot card wifi) es) :
    SameState (es.foldl step (boot card wifi)) (es'.foldl step (boot card wifi)) ∧
      (boot card wifi).returned es' = (boot card wifi).returned es := by
  have hempty : ([] : Bytes).length < bufferSize := by decide
  exact (sameState_equivalence.refl _).run hempty hes hsteady

end

/-- A call whose bodies come in one piece each. -/
def wholeScript : BeginScript :=
  { sampleScript [.frame uidY] with master := answered [.frame uidX, .onData sampleText] }

/-- The same with the bodies in two pieces. -/
def cutScript : BeginScript :=
  { sampleScript [] with
    master := answered [.onData (sampleText.take 9), .frame uidX, .onData (sampleText.drop 9)]
    audio := fun _ =>
      ⟨fun _ => answered [.onData (str "a"), .frame uidY, .onData (str "bc")], true⟩ }

theorem wholeScript_recut : wholeScript.Recut cutScript where
  connect := rfl
  tokenConnect := rfl
  token := ⟨rfl, rfl, rfl, rfl, rfl⟩
  errorTail := rfl
  master := ⟨by decide +kernel, rfl, rfl, rfl, rfl⟩
  junk _ := rfl
  direction _ := ⟨rfl, rfl, rfl, rfl, rfl⟩
  renames _ := rfl
  attempts _ _ := by
    have hbody : str "a" ++ (str "bc" ++ []) = str "abc" ++ [] := by decide
    exact ⟨hbody, rfl, rfl, rfl, rfl⟩
  seconds := rfl

theorem transport_independent_cut :
    SameState
        ([Event.frame uidX, .begin (uidText uidX) wholeScript].foldl (@step sampleParser)
          (boot sampleCard sampleWifi))
        ([Event.frame uidX, .begin (uidText uidX) cutScript].foldl (@step sampleParser)
          (boot sampleCard sampleWifi)) ∧
      @returned sampleParser (boot sampleCard sampleWifi)
        [.frame uidX, .begin (uidText uidX) cutScript] = [true] := by
  let := sampleParser
  have hes : List.Forall₂ Event.Recut [Event.frame uidX, .begin (uidText uidX) wholeScript]
      [.frame uidX, .begin (uidText uidX) cutScript] :=
    .cons (.frame uidX) (.cons (.begin _ wholeScript_recut) .nil)
  have hmaster : MasterSteady (((boot sampleCard sampleWifi).frame uidX).entered (uidText uidX) wholeScript)
      wholeScript := by
    intro uid hframe
    have huid : uid = uidX := by simpa [wholeScript, answered] using hframe
    rw [huid]
    refine (requestToken_tagUid (Q := fun tag => tag = uidText uidX) rfl ?_).symm
    simp [wholeScript, sampleScript, answered, Exchange.frames]
  have hsteady : Runs.Meets step Steady (boot sampleCard sampleWifi)
      [Event.frame uidX, .begin (uidText uidX) wholeScript] :=
    ⟨trivial, ⟨fun _ => Nat.zero_le _, fun _ => hmaster⟩, trivial⟩
  obtain ⟨hsame, hreturned⟩ := transport_independent sampleCard sampleWifi hes hsteady
  exact ⟨hsame, hreturned.trans (by decide +kernel)⟩

end Downloader

end Cubbies
