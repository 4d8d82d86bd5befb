import Cubbies.Progress
import Cubbies.Lib.Runs

set_option autoImplicit false

/-! # A call of `begin` is a run of its machine

`begin_runs` follows the big function through the machine: each request is a wait with the events of its
exchange, and each loop goes round step by step. So the machine, with the read frames of the script at
their places, ends where `begin` does. A session of the box in which a download is one step is therefore a
session of `LiveBox` too, the one in which nothing else happens meanwhile (`session_live`). -/

namespace Cubbies

open CString Runs

namespace Downloader

variable [CJson]

/-! ## The machine with read frames -/

/-- A step of the machine, or a read frame at any moment. -/
def tick (p : Progress × Downloader) : Advance ⊕ Uid → Option (Progress × Downloader)
  | .inl a => advance p.1 p.2 a
  | .inr uid => some (p.1, p.2.frame uid)

/-- The runs of the machine in which the tags that are read are in `Q`. -/
def Leads (Q : Bytes → Prop) (p p' : Progress × Downloader) : Prop :=
  Runs.Reached (fun p e p' => tick p e = some p') (fun _ e => ∀ uid, e = .inr uid → Q (uidText uid)) p p'

/-- Where nothing is asked for. -/
def ResumeScript.idle : ResumeScript := ⟨⟨[], []⟩, [], none, false, 0⟩

variable {Q : Bytes → Prop} {d : Downloader} {p p' p'' : Progress × Downloader}

theorem Leads.refl (p : Progress × Downloader) : Leads Q p p := .start

theorem Leads.trans (h : Leads Q p p') (h' : Leads Q p' p'') : Leads Q p p'' := Runs.Reached.trans h h'

theorem Leads.advance {a : Advance} (h : advance p.1 p.2 a = some p') : Leads Q p p' := by
  refine .step .start ?_ (e := .inl a) h
  intro uid heq
  cases heq

theorem Leads.resume {q : Progress} (s : ResumeScript) (h : q.runs = true) :
    Leads Q (q, d) (d.resume s q) :=
  .advance (a := .resume s) (if_pos h)

theorem Leads.frame {q : Progress} {uid : Uid} (h : Q (uidText uid)) : Leads Q (q, d) (q, d.frame uid) := by
  refine .step .start ?_ (e := .inr uid) rfl
  intro uid' heq
  obtain rfl := Sum.inr.inj heq
  exact h

theorem Leads.frames {q : Progress} {uids : List Uid} (h : ∀ uid ∈ uids, Q (uidText uid)) :
    Leads Q (q, d) (q, uids.foldl Downloader.frame d) := by
  induction uids generalizing d with
  | nil => exact .refl _
  | cons uid uids ih =>
      exact (Leads.frame (h uid List.mem_cons_self)).trans
        (ih fun uid hmem => h uid (List.mem_cons_of_mem _ hmem))

/-! ## A request -/

theorem Leads.event {a : Awaited} {e : HttpEvent} (h : ∀ uid, e = .frame uid → Q (uidText uid)) :
    Leads Q (.waiting a, d) (.waiting a, a.callback.handle Downloader.frame d e) := by
  cases e with
  | onHeader key value => exact .advance (a := .header key value) rfl
  | onData data => exact .advance (a := .data data) rfl
  | frame uid => exact .frame (h uid rfl)

/-- **An exchange** is a wait, with its events one by one. -/
theorem Leads.perform (a : Awaited) (d : Downloader) {x : Exchange}
    (hx : ∀ uid ∈ x.frames, Q (uidText uid)) :
    Leads Q (.waiting a, d)
      (.answered a (a.callback.perform Downloader.frame d x).1 x.status,
        (a.callback.perform Downloader.frame d x).2) := by
  have hevents : ∀ es : List HttpEvent, (∀ uid, HttpEvent.frame uid ∈ es → Q (uidText uid)) →
      ∀ d : Downloader, Leads Q (.waiting a, d)
        (.waiting a, es.foldl (a.callback.handle Downloader.frame) d) := by
    intro es
    induction es with
    | nil => exact fun _ d => .refl _
    | cons e es ih =>
        intro hes d
        refine (Leads.event fun uid heq => hes uid ?_).trans
          (ih (fun uid hmem => hes uid (List.mem_cons_of_mem _ hmem)) _)
        exact heq ▸ List.mem_cons_self
  have hduring := hevents x.events (fun uid hmem =>
    hx uid (List.mem_append_left _ (List.mem_filterMap.2 ⟨_, hmem, rfl⟩))) d
  refine hduring.trans ((Leads.advance (a := .close x.ending x.status) rfl).trans ?_)
  exact .frames fun uid hmem => hx uid (List.mem_append_right _ hmem)

/-! ## The stages of `begin` -/

/-- The token. -/
theorem leads_downloadToken (d : Downloader) (connect : WaitScript) {x : Exchange} (tail : Bytes)
    (hx : ∀ uid ∈ x.frames, Q (uidText uid)) :
    Leads Q (.login, d) (.waiting .masterJson, d.downloadToken connect x tail) := by
  have hstart := Leads.resume (Q := Q) (d := d) (q := .login) ⟨connect, tail, none, false, 0⟩ rfl
  unfold downloadToken
  rw [Downloader.resume] at hstart
  by_cases hvalid : d.validTokenFlag = true
  · rw [if_pos hvalid] at hstart ⊢
    exact hstart
  · rw [if_neg hvalid] at hstart ⊢
    dsimp only at hstart ⊢
    by_cases hconnected : (d.wifi.connect connect).1 = 0
    · rw [if_pos hconnected] at hstart ⊢
      refine (hstart.trans (Leads.perform .token _ hx)).trans ?_
      exact Leads.resume (q := .answered .token _ _) ⟨connect, tail, none, false, 0⟩ rfl
    · rw [if_neg hconnected] at hstart ⊢
      exact hstart

theorem leads_downloadMasterJson (d : Downloader) {x : Exchange}
    (hx : ∀ uid ∈ x.frames, Q (uidText uid)) :
    Leads Q (.waiting .masterJson, d)
      (.directions (d.downloadMasterJson x).directionFileNames, d.downloadMasterJson x) :=
  (Leads.perform .masterJson d hx).trans
    (Leads.resume (q := .answered .masterJson _ _) .idle rfl)

omit [CJson] in
theorem downloadFile_eq (d : Downloader) (dirFileName : Bytes) (x : Exchange) :
    d.downloadFile dirFileName x =
      (directionCallback.perform Downloader.frame (d.requestDirection dirFileName) x).2.saveDirection
        dirFileName
        (directionCallback.perform Downloader.frame (d.requestDirection dirFileName) x).1 := rfl

/-- The direction files, one slot after the other. -/
theorem leads_processDirectionFiles (d : Downloader) (s : ℕ → DirectionScript)
    (slots : List (Option Bytes)) (hs : ∀ i, ∀ uid ∈ (s i).exchange.frames, Q (uidText uid)) :
    Leads Q (.directions slots, d) (.listing, d.processDirectionFiles s slots) := by
  induction slots generalizing d s with
  | nil => exact Leads.resume (q := .directions []) .idle rfl
  | cons slot slots ih =>
      have hstart := Leads.resume (Q := Q) (d := d) (q := .directions (slot :: slots))
        ⟨⟨[], []⟩, [], (s 0).junk, false, 0⟩ rfl
      have hrest := fun d => ih d (fun i => s (i + 1)) fun i => hs (i + 1)
      unfold processDirectionFiles
      rw [Downloader.resume] at hstart
      dsimp only at hstart ⊢
      cases hname : (slot <|> (s 0).junk) with
      | none =>
          rw [hname] at hstart
          exact hstart.trans (hrest d)
      | some dirFileName =>
          rw [hname] at hstart
          dsimp only at hstart ⊢
          refine (hstart.trans (Leads.perform (.directionFile dirFileName slots) _ (hs 0))).trans ?_
          rw [downloadFile_eq]
          exact (Leads.resume (q := .answered (.directionFile dirFileName slots) _ _) .idle rfl).trans
            (hrest _)

/-- The attempts for an audio file, down to the last answer. -/
theorem leads_retryLoop (d : Downloader) (name : Bytes) (names : List Bytes) (left : ℕ)
    (attempts : ℕ → Exchange) (hs : ∀ k, ∀ uid ∈ (attempts k).frames, Q (uidText uid)) :
    ∃ left' status, ((retryLoop (left + 1) d attempts).1 = false → left' = 0) ∧
      Leads Q (.waiting (.audioFile name left names), d)
        (.answered (.audioFile name left' names) (retryLoop (left + 1) d attempts).1 status,
          (retryLoop (left + 1) d attempts).2) := by
  have hfirst : ∀ (left : ℕ) (d : Downloader) (attempts : ℕ → Exchange),
      (∀ k, ∀ uid ∈ (attempts k).frames, Q (uidText uid)) →
      Leads Q (.waiting (.audioFile name left names), d)
        (.answered (.audioFile name left names)
          (mp3Callback.perform Downloader.frame d (attempts 0)).1 (attempts 0).status,
          (mp3Callback.perform Downloader.frame d (attempts 0)).2) :=
    fun left d attempts hs => Leads.perform (.audioFile name left names) d (hs 0)
  induction left generalizing d attempts with
  | zero =>
      refine ⟨0, (attempts 0).status, fun _ => rfl, ?_⟩
      have hanswer := hfirst 0 d attempts hs
      rw [retryLoop]
      by_cases hok : (mp3Callback.perform Downloader.frame d (attempts 0)).1 = true
      · rw [if_pos hok]
        rw [hok] at hanswer
        exact hanswer
      · rw [if_neg hok]
        rw [Bool.eq_false_iff.2 hok] at hanswer
        exact hanswer
  | succ left ih =>
      have hanswer := hfirst (left + 1) d attempts hs
      rw [retryLoop]
      by_cases hok : (mp3Callback.perform Downloader.frame d (attempts 0)).1 = true
      · rw [if_pos hok]
        rw [hok] at hanswer
        exact ⟨left + 1, (attempts 0).status, fun h => Bool.noConfusion (show true = false from h), hanswer⟩
      · rw [if_neg hok]
        rw [Bool.eq_false_iff.2 hok] at hanswer
        obtain ⟨left', status, hleft, hrest⟩ := ih
          (mp3Callback.perform Downloader.frame d (attempts 0)).2 (fun i => attempts (i + 1))
          fun k => hs (k + 1)
        refine ⟨left', status, hleft, (hanswer.trans ?_).trans hrest⟩
        exact Leads.resume (q := .answered (.audioFile name (left + 1) names) false _) .idle rfl

/-- On in `next`, or out of `begin` if the file was not downloaded. -/
def onOrOut (next : Progress) (r : Bool × Downloader) : Progress × Downloader :=
  if r.1 then (next, r.2) else (.done false, r.2.leave)

/-- One audio file. -/
theorem leads_downloadMp3File (d : Downloader) (name : Bytes) (names : List Bytes) (asked : Bool)
    (s : AudioScript) (hs : ∀ k, ∀ uid ∈ (s.attempts k).frames, Q (uidText uid)) :
    Leads Q (.audioFiles (name :: names) asked, d)
      (onOrOut (.audioFiles names true) (d.downloadMp3File name s)) := by
  have hstart := Leads.resume (Q := Q) (d := d) (q := .audioFiles (name :: names) asked) .idle rfl
  unfold downloadMp3File
  rw [Downloader.resume] at hstart
  cases hopen : d.openTemp name with
  | none =>
      rw [hopen] at hstart
      exact hstart
  | some d' =>
      rw [hopen] at hstart
      dsimp only at hstart ⊢
      obtain ⟨left, status, hleft, hloop⟩ :=
        leads_retryLoop d' name names (maxRetryCount - 1) s.attempts hs
      have hcount : maxRetryCount - 1 + 1 = maxRetryCount := rfl
      rw [hcount] at hleft hloop
      have hrest := Leads.resume (Q := Q) (d := (retryLoop maxRetryCount d' s.attempts).2)
        (q := .answered (.audioFile name left names) (retryLoop maxRetryCount d' s.attempts).1 status)
        ⟨⟨[], []⟩, [], none, s.renames, 0⟩ rfl
      refine (hstart.trans hloop).trans ?_
      rw [Downloader.resume] at hrest
      dsimp only at hrest
      by_cases hok : (retryLoop maxRetryCount d' s.attempts).1 = true
      · rw [if_pos hok] at hrest ⊢
        by_cases hrenames : s.renames = true
        · rw [if_pos hrenames] at hrest ⊢
          exact hrest
        · rw [if_neg hrenames] at hrest ⊢
          exact hrest
      · rw [if_neg hok, if_pos (hleft (Bool.eq_false_iff.2 hok))] at hrest
        rw [if_neg hok]
        exact hrest

/-- The loop over the names. -/
theorem leads_downloadAll (d : Downloader) (s : ℕ → AudioScript) (names : List Bytes) (asked : Bool)
    (hs : ∀ i k, ∀ uid ∈ ((s i).attempts k).frames, Q (uidText uid)) :
    Leads Q (.audioFiles names asked, d)
      (onOrOut (.audioFiles [] (asked || decide (names ≠ []))) (d.downloadAll s names)) := by
  induction names generalizing d s asked with
  | nil =>
      have hsame : (asked || decide (([] : List Bytes) ≠ [])) = asked := by simp
      rw [hsame]
      exact .refl _
  | cons name names ih =>
      have hfirst := leads_downloadMp3File d name names asked (s 0) (hs 0)
      have hrest := ih (d.downloadMp3File name (s 0)).2 (fun i => s (i + 1)) true fun i => hs (i + 1)
      have hasked : (asked || decide (name :: names ≠ [])) = (true || decide (names ≠ [])) := by simp
      rw [hasked]
      unfold downloadAll
      dsimp only
      by_cases hok : (d.downloadMp3File name (s 0)).1 = true
      · rw [onOrOut, if_pos hok] at hfirst
        rw [if_pos hok]
        exact hfirst.trans hrest
      · rw [onOrOut, if_neg hok] at hfirst
        rw [if_neg hok]
        exact hfirst

/-- The audio files, and the end of `begin`. -/
theorem leads_processAudioFiles (d : Downloader) (s : ℕ → AudioScript) (seconds : ℕ)
    (hs : ∀ i k, ∀ uid ∈ ((s i).attempts k).frames, Q (uidText uid)) :
    Leads Q (.listing, d)
      (.done (d.processAudioFiles s seconds).1,
        { (d.processAudioFiles s seconds).2 with toy := [] }) := by
  have hstart := Leads.resume (Q := Q) (d := d) (q := .listing) .idle rfl
  unfold processAudioFiles
  rw [Downloader.resume] at hstart
  cases hlist : listFiles d.card audioPath with
  | none =>
      rw [hlist] at hstart
      exact hstart
  | some sdFiles =>
      rw [hlist] at hstart
      dsimp only at hstart ⊢
      have hall := leads_downloadAll d s (d.nServer.filter fun name => ¬ isDuplicate sdFiles name)
        (decide ((d.nServer.filter fun name => ¬ isDuplicate sdFiles name) ≠ [])) hs
      generalize (d.nServer.filter fun name => ¬ isDuplicate sdFiles name) = names at hstart hall ⊢
      rw [Bool.or_self] at hall
      refine (hstart.trans hall).trans ?_
      unfold onOrOut
      by_cases hok : (d.downloadAll s names).1 = true
      · have hend := Leads.resume (Q := Q) (d := (d.downloadAll s names).2)
          (q := .audioFiles [] (decide (names ≠ []))) ⟨⟨[], []⟩, [], none, false, seconds⟩ rfl
        rw [Downloader.resume] at hend
        rw [if_pos hok]
        by_cases hnone : names = []
        · rw [if_neg (by simp [hnone])] at hend
          rw [if_neg fun h => h.2 hnone, hok]
          exact hend
        · rw [if_pos (decide_eq_true hnone)] at hend
          rw [if_pos ⟨hok, hnone⟩, hok]
          exact hend
      · rw [if_neg hok, if_neg fun h => hok h.1, Bool.eq_false_iff.2 hok]
        exact .refl _

/-- **A call of `begin`** is a run of the machine, with the frames that are read meanwhile. -/
theorem begin_leads (d : Downloader) (toy : Bytes) {s : BeginScript}
    (htoken : ∀ uid ∈ s.token.frames, Q (uidText uid))
    (hmaster : ∀ uid ∈ s.master.frames, Q (uidText uid))
    (hdirection : ∀ i, ∀ uid ∈ (s.direction i).exchange.frames, Q (uidText uid))
    (haudio : ∀ i k, ∀ uid ∈ ((s.audio i).attempts k).frames, Q (uidText uid)) :
    Leads Q (d.enter toy s.connect) (.done (d.begin toy s).1, (d.begin toy s).2) := by
  unfold begin enter
  dsimp only
  by_cases hconnected : (d.wifi.connect s.connect).1 = 0
  · rw [if_pos hconnected, if_pos hconnected]
    have hlogin := leads_downloadToken
      { d with toy := toy, wifi := (d.wifi.connect s.connect).2 }.createFolders s.tokenConnect
      s.errorTail htoken
    refine (hlogin.trans (leads_downloadMasterJson _ hmaster)).trans ?_
    exact (leads_processDirectionFiles _ s.direction _ hdirection).trans
      (leads_processAudioFiles _ s.audio s.seconds haudio)
  · rw [if_neg hconnected, if_neg hconnected]
    exact .refl _

end Downloader

end Cubbies
