import Cubbies.Lib.BlockBuffer
import Cubbies.Lib.Runs
import Cubbies.Proofs.AudioStage

set_option autoImplicit false

/-! # What an audio file contains

The receive buffer is global: a lost connection closes the file but leaves the buffered bytes, and the
attempts after the first have no file to write to. So a call leaves exactly the header and the body of
its successful attempt if the first attempt succeeds with an empty buffer, and otherwise only if the
whole blocks the first attempt wrote happen to be that body (`exactCall_iff`). The copy loop is an
instance of the block buffer (`copyLoop_spec`). -/

namespace Cubbies

open CString BlockBuffer

namespace Downloader

/-! ## The copy loop -/

/-- A file being received: it is open on `path`, holds `b`, and the buffer is not full. -/
structure Open (d : Downloader) (path b : Bytes) : Prop where
  file : d.file = some path
  content : d.card.content? path = some b
  buffer : d.downloadBuffer.length < bufferSize

/-- The body of the copy loop: the state, and the bytes of the chunk that remain. -/
def copyPiece (d : Downloader) (data : Bytes) : Downloader × Bytes :=
  let toCopy := min data.length (bufferSize - d.downloadBuffer.length)
  let d := { d with downloadBuffer := d.downloadBuffer ++ data.take toCopy }
  let d := if d.downloadBuffer.length = bufferSize then d.flushBuffer else d
  (d, data.drop toCopy)

theorem copyLoop_succ (fuel : ℕ) (d : Downloader) (data : Bytes) :
    copyLoop (fuel + 1) d data =
      if data = [] then d else copyLoop fuel (copyPiece d data).1 (copyPiece d data).2 := rfl

/-- A full buffer is written and starts again. -/
theorem flushBuffer_full {d : Downloader} {path b : Bytes} (hfile : d.file = some path)
    (hcontent : d.card.content? path = some b) (hfull : d.downloadBuffer.length = bufferSize) :
    Open d.flushBuffer path (b ++ d.downloadBuffer) ∧ d.flushBuffer.downloadBuffer = [] := by
  have hbuffer : d.downloadBuffer ≠ [] := by
    intro hnil
    rw [hnil] at hfull
    cases hfull
  have hflush : d.flushBuffer =
      { d with card := d.card.fwrite path d.downloadBuffer, downloadBuffer := [] } := by
    unfold flushBuffer
    simp only [hfile, if_neg hbuffer]
  rw [hflush]
  refine ⟨⟨hfile, ?_, (by decide : 0 < bufferSize)⟩, rfl⟩
  dsimp only
  rw [Card.content?_fwrite, if_pos rfl, hcontent]
  rfl

/-- One pass of the copy loop takes at least one byte and passes it through the block buffer. -/
theorem copyPiece_open {d : Downloader} {path b data : Bytes} (h : Open d path b) (hdata : data ≠ []) :
    ∃ n, 0 < n ∧ n ≤ data.length ∧ (copyPiece d data).2 = data.drop n ∧
      Open (copyPiece d data).1 path (b ++ full bufferSize (d.downloadBuffer ++ data.take n)) ∧
      (copyPiece d data).1.downloadBuffer = rest bufferSize (d.downloadBuffer ++ data.take n) := by
  have hpos := List.length_pos_iff.2 hdata
  have hroom := h.buffer
  unfold copyPiece
  generalize htake : min data.length (bufferSize - d.downloadBuffer.length) = n
  have hn : n ≤ data.length ∧ n ≤ bufferSize - d.downloadBuffer.length ∧ 0 < n := by omega
  refine ⟨n, hn.2.2, hn.1, rfl, ?_⟩
  dsimp only
  split
  · next hfull =>
      have hblock : full bufferSize (d.downloadBuffer ++ data.take n) = d.downloadBuffer ++ data.take n ∧
          rest bufferSize (d.downloadBuffer ++ data.take n) = [] := by
        constructor
        · rw [full, hfull]
          exact List.take_of_length_le (by rw [hfull]; decide)
        · rw [rest, hfull]
          exact List.drop_of_length_le (by rw [hfull]; decide)
      rw [hblock.1, hblock.2]
      exact flushBuffer_full (d := { d with downloadBuffer := d.downloadBuffer ++ data.take n })
        h.file h.content hfull
  · next hnot =>
      have hlen : (d.downloadBuffer ++ data.take n).length = d.downloadBuffer.length + n := by
        rw [List.length_append, List.length_take, Nat.min_eq_left hn.1]
      have hless : (d.downloadBuffer ++ data.take n).length < bufferSize := by omega
      rw [full_of_lt hless, rest_of_lt hless, List.append_nil]
      exact ⟨⟨h.file, h.content, hless⟩, rfl⟩

theorem copyLoop_spec {d : Downloader} {path b : Bytes} (fuel : ℕ) (data : Bytes)
    (h : Open d path b) (hfuel : data.length ≤ fuel) :
    Open (copyLoop fuel d data) path (b ++ full bufferSize (d.downloadBuffer ++ data)) ∧
      (copyLoop fuel d data).downloadBuffer = rest bufferSize (d.downloadBuffer ++ data) := by
  have hempty : ∀ {d : Downloader} {b : Bytes}, Open d path b →
      Open d path (b ++ full bufferSize (d.downloadBuffer ++ [])) ∧
        d.downloadBuffer = rest bufferSize (d.downloadBuffer ++ []) := by
    intro d b h
    rw [List.append_nil, full_of_lt h.buffer, rest_of_lt h.buffer, List.append_nil]
    exact ⟨h, rfl⟩
  induction fuel generalizing d b data with
  | zero =>
      obtain rfl : data = [] := List.length_eq_zero_iff.1 (by omega)
      exact hempty h
  | succ fuel ih =>
      rw [copyLoop_succ]
      split
      · next hnil =>
          subst hnil
          exact hempty h
      · next hne =>
          obtain ⟨n, hpos, hn, hleft, hopen, hbuffer⟩ := copyPiece_open h hne
          have hdrop : (data.drop n).length ≤ fuel := by
            rw [List.length_drop]
            omega
          obtain ⟨hopen', hbuffer'⟩ := ih (data.drop n) hopen hdrop
          have hsplit : d.downloadBuffer ++ data =
              (d.downloadBuffer ++ data.take n) ++ data.drop n := by
            rw [List.append_assoc, List.take_append_drop]
          have hblock : 0 < bufferSize := by decide
          rw [hleft, hsplit, full_append hblock (d.downloadBuffer ++ data.take n),
            rest_append hblock (d.downloadBuffer ++ data.take n), ← hbuffer, ← List.append_assoc]
          exact ⟨hopen', hbuffer'⟩

/-! ## One attempt -/

/-- The events of an attempt with the file open: the body goes through the block buffer. -/
theorem mp3Events_open {d : Downloader} {path b : Bytes} (es : List HttpEvent) (h : Open d path b) :
    Open (es.foldl (mp3Callback.handle frame) d) path
        (b ++ full bufferSize (d.downloadBuffer ++ es.flatMap Exchange.chunk)) ∧
      (es.foldl (mp3Callback.handle frame) d).downloadBuffer =
        rest bufferSize (d.downloadBuffer ++ es.flatMap Exchange.chunk) := by
  induction es generalizing d b with
  | nil =>
      simp only [List.flatMap_nil, List.append_nil, List.foldl_nil]
      rw [full_of_lt h.buffer, rest_of_lt h.buffer, List.append_nil]
      exact ⟨h, rfl⟩
  | cons e es ih =>
      cases e with
      | onHeader key value => exact ih h
      | frame uid => exact ih (d := d.frame uid) ⟨h.file, h.content, h.buffer⟩
      | onData data =>
          obtain ⟨hopen, hbuffer⟩ := copyLoop_spec data.length data h le_rfl
          have hdata : mp3Callback.onData d data = copyLoop data.length d data := by
            simp only [mp3Callback, h.file]
          obtain ⟨hopen', hbuffer'⟩ := ih hopen
          rw [hbuffer] at hopen' hbuffer'
          rw [List.flatMap_cons, ← List.append_assoc, List.foldl_cons]
          change Open (es.foldl (mp3Callback.handle frame) (mp3Callback.onData d data)) path _ ∧
            (es.foldl (mp3Callback.handle frame) (mp3Callback.onData d data)).downloadBuffer = _
          have hchunk : Exchange.chunk (.onData data) = data := rfl
          have hblock : 0 < bufferSize := by decide
          rw [hdata, hchunk, full_append hblock (d.downloadBuffer ++ data),
            rest_append hblock (d.downloadBuffer ++ data), ← List.append_assoc]
          exact ⟨hopen', hbuffer'⟩

/-- With the file closed an attempt changes neither the card nor the buffer. -/
theorem mp3Perform_closed {d : Downloader} (x : Exchange) (h : d.file = none) :
    (mp3Callback.perform frame d x).2.file = none ∧
      (mp3Callback.perform frame d x).2.card = d.card ∧
      (mp3Callback.perform frame d x).2.downloadBuffer = d.downloadBuffer := by
  refine Callback.perform_induction (P := fun d' : Downloader =>
    d'.file = none ∧ d'.card = d.card ∧ d'.downloadBuffer = d.downloadBuffer) ⟨h, rfl, rfl⟩
    (fun _ _ _ h => h) ?_ ?_ (fun _ h => ⟨rfl, h.2⟩) fun _ _ _ h => h
  · intro d' data h
    simpa only [mp3Callback, h.1] using h
  · intro d' h
    simpa only [mp3Callback, h.1] using h

theorem frames_audio (d : Downloader) (uids : List Uid) :
    (uids.foldl frame d).file = d.file ∧ (uids.foldl frame d).card = d.card ∧
      (uids.foldl frame d).downloadBuffer = d.downloadBuffer :=
  Callback.foldl_frame_induction (P := fun d' : Downloader =>
    d'.file = d.file ∧ d'.card = d.card ∧ d'.downloadBuffer = d.downloadBuffer) ⟨rfl, rfl, rfl⟩
    fun _ _ _ h => h

/-- The last event writes what is buffered and closes the file. -/
theorem onFinish_open {d : Downloader} {path b : Bytes} (h : Open d path b) :
    (mp3Callback.onFinish d).file = none ∧
      (mp3Callback.onFinish d).card.content? path = some (b ++ d.downloadBuffer) ∧
      (mp3Callback.onFinish d).downloadBuffer = [] := by
  simp only [mp3Callback, h.file]
  unfold flushBuffer
  simp only [h.file]
  split
  · next hbuffer =>
      rw [hbuffer, List.append_nil]
      exact ⟨trivial, h.content, rfl⟩
  · refine ⟨trivial, ?_, rfl⟩
    dsimp only
    rw [Card.content?_fwrite, if_pos rfl, h.content]
    rfl

/-- A successful first attempt: the file ends with the buffered bytes and the whole body. -/
theorem mp3Perform_finished {d : Downloader} {path b : Bytes} {x : Exchange} (h : Open d path b)
    (hend : x.ending = .finished) :
    (mp3Callback.perform frame d x).2.file = none ∧
      (mp3Callback.perform frame d x).2.card.content? path = some (b ++ (d.downloadBuffer ++ x.body)) ∧
      (mp3Callback.perform frame d x).2.downloadBuffer = [] := by
  obtain ⟨hopen, hbuffer⟩ := mp3Events_open x.events h
  obtain ⟨g1, g2, g3⟩ := frames_audio
    (mp3Callback.close (x.events.foldl (mp3Callback.handle frame) d) x.ending) x.after
  obtain ⟨hfile, hcontent, hempty⟩ := onFinish_open hopen
  unfold Callback.perform
  rw [g1, g2, g3, hend]
  refine ⟨hfile, hcontent.trans ?_, hempty⟩
  rw [hbuffer, List.append_assoc, full_append_rest]
  rfl

/-- A first attempt that loses the connection: only whole blocks were written, the file is closed and
the rest stays in the buffer. -/
theorem mp3Perform_disconnected {d : Downloader} {path b : Bytes} {x : Exchange} (h : Open d path b)
    (hend : x.ending = .disconnected) :
    (mp3Callback.perform frame d x).2.file = none ∧
      (mp3Callback.perform frame d x).2.card.content? path =
        some (b ++ full bufferSize (d.downloadBuffer ++ x.body)) ∧
      (mp3Callback.perform frame d x).2.downloadBuffer =
        rest bufferSize (d.downloadBuffer ++ x.body) := by
  obtain ⟨hopen, hbuffer⟩ := mp3Events_open x.events h
  obtain ⟨g1, g2, g3⟩ := frames_audio
    (mp3Callback.close (x.events.foldl (mp3Callback.handle frame) d) x.ending) x.after
  unfold Callback.perform
  rw [g1, g2, g3, hend]
  exact ⟨rfl, hopen.content, hbuffer⟩

/-! ## The retry loop -/

/-- The attempt that succeeds, among the first `left`. -/
def firstSuccess : ℕ → (ℕ → Exchange) → Option Exchange
  | 0, _ => none
  | left + 1, attempts =>
      if (attempts 0).ok then some (attempts 0) else firstSuccess left fun i => attempts (i + 1)

theorem retryLoop_ok (left : ℕ) (d : Downloader) (attempts : ℕ → Exchange) :
    (retryLoop left d attempts).1 = (firstSuccess left attempts).isSome := by
  induction left generalizing d attempts with
  | zero => rfl
  | succ left ih =>
      unfold retryLoop firstSuccess
      dsimp only [Callback.perform]
      split
      · rfl
      · exact ih _ _

/-- With the file closed the remaining attempts change neither the card nor the buffer. -/
theorem retryLoop_closed {d : Downloader} (left : ℕ) (attempts : ℕ → Exchange) (h : d.file = none) :
    (retryLoop left d attempts).2.card = d.card ∧
      (retryLoop left d attempts).2.downloadBuffer = d.downloadBuffer := by
  induction left generalizing d attempts with
  | zero => exact ⟨rfl, rfl⟩
  | succ left ih =>
      obtain ⟨hfile, hcard, hbuffer⟩ := mp3Perform_closed (attempts 0) h
      unfold retryLoop
      dsimp only
      split
      · exact ⟨hcard, hbuffer⟩
      · obtain ⟨hcard', hbuffer'⟩ := ih (fun i => attempts (i + 1)) hfile
        exact ⟨hcard'.trans hcard, hbuffer'.trans hbuffer⟩

/-- What the retry loop leaves of a file opened with `b` in it: all of the body if the first attempt
succeeds, only whole blocks of the first attempt otherwise. -/
def fileAfter (buffer b : Bytes) (attempts : ℕ → Exchange) : Bytes :=
  if (attempts 0).ok then b ++ (buffer ++ (attempts 0).body)
  else b ++ full bufferSize (buffer ++ (attempts 0).body)

/-- And of the buffer. -/
def bufferAfter (buffer : Bytes) (attempts : ℕ → Exchange) : Bytes :=
  if (attempts 0).ok then [] else rest bufferSize (buffer ++ (attempts 0).body)

theorem retryLoop_open {d : Downloader} {path b : Bytes} (left : ℕ) {attempts : ℕ → Exchange}
    (h : Open d path b) (hend : (attempts 0).ending ≠ .unreachable) :
    (retryLoop (left + 1) d attempts).2.card.content? path =
        some (fileAfter d.downloadBuffer b attempts) ∧
      (retryLoop (left + 1) d attempts).2.downloadBuffer =
        bufferAfter d.downloadBuffer attempts := by
  unfold retryLoop fileAfter bufferAfter Exchange.ok
  dsimp only
  cases hx : (attempts 0).ending with
  | unreachable => exact absurd hx hend
  | finished =>
      obtain ⟨-, hcontent, hbuffer⟩ := mp3Perform_finished h hx
      have hok : (mp3Callback.perform frame d (attempts 0)).1 = true := by
        simp [Callback.perform, Exchange.ok, hx]
      simp only [hok, if_true, decide_true]
      exact ⟨hcontent, hbuffer⟩
  | disconnected =>
      obtain ⟨hfile, hcontent, hbuffer⟩ := mp3Perform_disconnected h hx
      have hok : (mp3Callback.perform frame d (attempts 0)).1 = false := by
        simp [Callback.perform, Exchange.ok, hx]
      obtain ⟨hcard', hbuffer'⟩ := retryLoop_closed left (fun i => attempts (i + 1)) hfile
      simp only [hok, Bool.false_eq_true, if_false, reduceCtorEq, decide_false]
      exact ⟨hcard' ▸ hcontent, hbuffer'.trans hbuffer⟩

/-! ## One call -/

/-- What the transport is taken to do: every attempt has a connection. -/
def Connected (s : AudioScript) : Prop := ∀ i, (s.attempts i).ending ≠ .unreachable

/-- A call that returns true leaves `/sdcard/media/audio/<name>.mp3` with the header it wrote and the
body of its successful attempt. -/
def ExactCall (d : Downloader) (name : Bytes) (s : AudioScript) : Prop :=
  (d.downloadMp3File name s).1 = true →
    finalFilePath name = audioPath ++ name ++ str ".mp3" ∧
      ∃ x, firstSuccess maxRetryCount s.attempts = some x ∧
        (d.downloadMp3File name s).2.card.content? (finalFilePath name) =
          some (d.headerText name ++ x.body)

/-- The condition on a call that can return true: the name is short enough for the path, and either the
first attempt succeeds and finds the buffer empty, or the whole blocks it leaves are the body of the
attempt that succeeds. -/
def CleanCall (d : Downloader) (name : Bytes) (s : AudioScript) : Prop :=
  (d.card.fopenWrite (tempFilePath name)).isSome = true → s.renames = true →
    ∀ x, firstSuccess maxRetryCount s.attempts = some x →
      name.length ≤ 231 ∧
        if (s.attempts 0).ok then d.downloadBuffer = []
        else full bufferSize (d.downloadBuffer ++ (s.attempts 0).body) = x.body

theorem finalFilePath_eq_iff (name : Bytes) :
    finalFilePath name = audioPath ++ name ++ str ".mp3" ↔ name.length ≤ 231 := by
  have hlen : (audioPath ++ name ++ str ".mp3").length = name.length + 24 := by
    have hpath : audioPath.length = 20 := by decide
    have hsuffix : (str ".mp3").length = 4 := by decide
    simp only [List.length_append, hpath, hsuffix]
    omega
  unfold finalFilePath
  constructor
  · intro h
    have := congrArg List.length h
    unfold snprintf at this
    rw [List.length_take, hlen] at this
    omega
  · exact fun h => snprintf_eq_self (by omega)

/-- The state a call starts receiving in. -/
theorem openTemp_open {d d' : Downloader} {name : Bytes} (h : d.openTemp name = some d')
    (hbuf : d.downloadBuffer.length < bufferSize) :
    Open d' (tempFilePath name) (d.headerText name) ∧ d'.downloadBuffer = d.downloadBuffer := by
  obtain ⟨e, he, rfl⟩ := Option.map_eq_some_iff.1 h
  obtain ⟨c, hc, rfl⟩ := Option.map_eq_some_iff.1 he
  refine ⟨⟨rfl, ?_, hbuf⟩, rfl⟩
  dsimp only
  rw [Card.content?_fwrite, if_pos rfl, Card.content?_fopenWrite hc, if_pos rfl]
  rfl

theorem openTemp_eq_none {d : Downloader} {name : Bytes} (h : d.openTemp name = none) :
    (d.card.fopenWrite (tempFilePath name)).isSome = false := by
  cases hc : d.card.fopenWrite (tempFilePath name) with
  | none => rfl
  | some c =>
      unfold openTemp openWrite at h
      rw [hc] at h
      cases h

theorem openTemp_isSome {d d' : Downloader} {name : Bytes} (h : d.openTemp name = some d') :
    (d.card.fopenWrite (tempFilePath name)).isSome = true := by
  obtain ⟨e, he, -⟩ := Option.map_eq_some_iff.1 h
  obtain ⟨c, hc, -⟩ := Option.map_eq_some_iff.1 he
  rw [hc]
  rfl

/-- When a call returns true. -/
theorem downloadMp3File_ret (d : Downloader) (name : Bytes) (s : AudioScript) :
    (d.downloadMp3File name s).1 = true ↔ (d.card.fopenWrite (tempFilePath name)).isSome = true ∧
      s.renames = true ∧ (firstSuccess maxRetryCount s.attempts).isSome = true := by
  unfold downloadMp3File
  cases hopen : d.openTemp name with
  | none =>
      rw [openTemp_eq_none hopen]
      simp
  | some d' =>
      rw [← retryLoop_ok maxRetryCount d' s.attempts, openTemp_isSome hopen]
      dsimp only
      cases (retryLoop maxRetryCount d' s.attempts).1 <;> cases s.renames <;> simp

/-- A call in full: when it returns true, and what it leaves of file and buffer. -/
theorem downloadMp3File_content {d : Downloader} (name : Bytes) {s : AudioScript}
    (hs : Connected s) (hbuf : d.downloadBuffer.length < bufferSize) :
    ((d.downloadMp3File name s).1 = true ↔ (d.card.fopenWrite (tempFilePath name)).isSome = true ∧
        s.renames = true ∧ (firstSuccess maxRetryCount s.attempts).isSome = true) ∧
      ((d.downloadMp3File name s).1 = true →
        (d.downloadMp3File name s).2.card.content? (finalFilePath name) =
          some (fileAfter d.downloadBuffer (d.headerText name) s.attempts)) ∧
      (d.downloadMp3File name s).2.downloadBuffer.length < bufferSize := by
  refine ⟨downloadMp3File_ret d name s, ?_⟩
  unfold downloadMp3File
  cases hopen : d.openTemp name with
  | none => exact ⟨fun h => absurd h Bool.false_ne_true, hbuf⟩
  | some d' =>
      obtain ⟨hstart, hbuffer⟩ := openTemp_open hopen hbuf
      obtain ⟨hcontent, hafter⟩ := retryLoop_open 2 hstart (hs 0)
      have hloop := (openTemp_receiving hopen).retryLoop maxRetryCount s.attempts
      have hlt : (bufferAfter d.downloadBuffer s.attempts).length < bufferSize := by
        unfold bufferAfter
        split
        · decide
        · exact rest_length_lt (by decide) _
      rw [hbuffer, show (2 : ℕ) + 1 = maxRetryCount from rfl] at hcontent hafter
      dsimp only
      generalize retryLoop maxRetryCount d' s.attempts = r at hcontent hafter hloop ⊢
      cases hr : r.1 with
      | false =>
          simp only [Bool.false_eq_true, if_false, false_implies, true_and]
          rw [hafter]
          exact hlt
      | true =>
          cases hren : s.renames with
          | false =>
              simp only [if_true, Bool.false_eq_true, if_false, false_implies, true_and]
              rw [hafter]
              exact hlt
          | true =>
              simp only [if_true, true_implies]
              refine ⟨?_, hafter ▸ hlt⟩
              have hdir : parentDir (finalFilePath name) ∈ r.2.card.dirs :=
                parentDir_finalFilePath name ▸ Card.parentDir_mem_of_hasFile hloop.tempFile
              rw [Card.content?_rename hcontent hdir, if_pos rfl]

theorem exactCall_iff {d : Downloader} {name : Bytes} {s : AudioScript} (hs : Connected s)
    (hbuf : d.downloadBuffer.length < bufferSize) : d.ExactCall name s ↔ d.CleanCall name s := by
  obtain ⟨hret, hcontent, -⟩ := downloadMp3File_content name hs hbuf
  have hbody : ∀ x, firstSuccess maxRetryCount s.attempts = some x →
      (fileAfter d.downloadBuffer (d.headerText name) s.attempts = d.headerText name ++ x.body ↔
        if (s.attempts 0).ok then d.downloadBuffer = []
        else full bufferSize (d.downloadBuffer ++ (s.attempts 0).body) = x.body) := by
    intro x hx
    unfold fileAfter
    by_cases hok : (s.attempts 0).ok = true
    · have hfirst : x = s.attempts 0 := by
        unfold maxRetryCount firstSuccess at hx
        rw [if_pos hok] at hx
        exact (Option.some.inj hx).symm
      rw [if_pos hok, if_pos hok, hfirst, List.append_cancel_left_eq]
      exact ⟨fun h => by simpa using h, fun h => by rw [h, List.nil_append]⟩
    · rw [if_neg hok, if_neg hok, List.append_cancel_left_eq]
  constructor
  · intro h hopen hren x hx
    have htrue := hret.2 ⟨hopen, hren, by rw [hx]; rfl⟩
    obtain ⟨hpath, y, hy, hfile⟩ := h htrue
    obtain rfl : x = y := Option.some.inj (hx.symm.trans hy)
    refine ⟨(finalFilePath_eq_iff name).1 hpath, (hbody x hx).1 ?_⟩
    rw [hcontent htrue] at hfile
    exact Option.some.inj hfile
  · intro h htrue
    obtain ⟨hopen, hren, hsome⟩ := hret.1 htrue
    obtain ⟨x, hx⟩ := Option.isSome_iff_exists.1 hsome
    obtain ⟨hlen, hclean⟩ := h hopen hren x hx
    refine ⟨(finalFilePath_eq_iff name).2 hlen, x, hx, ?_⟩
    rw [hcontent htrue, (hbody x hx).2 hclean]

/-! ## A sequence of calls -/

/-- One call of a sequence. -/
def callStep (d : Downloader) (call : Bytes × AudioScript) : Downloader :=
  (d.downloadMp3File call.1 call.2).2

/-- **Exactly which sequences of downloads leave exact files.** Every call that returns true leaves the
header and the body of its successful attempt, nothing lost, repeated or left over, if and only if every
call is clean: its first attempt succeeds with an empty buffer, or the whole blocks the first attempt
wrote are the body of the one that succeeds. -/
theorem exactFiles_iff (d : Downloader) (calls : List (Bytes × AudioScript))
    (hd : d.downloadBuffer = []) (hcalls : ∀ call ∈ calls, Connected call.2) :
    Runs.Meets callStep (fun d call => d.ExactCall call.1 call.2) d calls ↔
      Runs.Meets callStep (fun d call => d.CleanCall call.1 call.2) d calls := by
  have hbuf : d.downloadBuffer.length < bufferSize := by
    rw [hd]
    decide
  clear hd
  induction calls generalizing d with
  | nil => exact Iff.rfl
  | cons call calls ih =>
      have hconn := hcalls call List.mem_cons_self
      have hnext : (callStep d call).downloadBuffer.length < bufferSize :=
        (downloadMp3File_content call.1 hconn hbuf).2.2
      exact and_congr (exactCall_iff hconn hbuf)
        (ih _ (fun c hc => hcalls c (List.mem_cons_of_mem _ hc)) hnext)

/-! ## A file without its body -/

/-- A card with the audio folder and nothing else. -/
def audioCard : Card where
  dirs := [str "/sdcard/media/audio"]
  files := []
  files_nodup := List.nodup_nil
  files_in_dirs := by simp

/-- An attempt that passes on these chunks and ends like this. -/
def attempt (chunks : List Bytes) (ending : Ending) (h : ending ≠ .unreachable) : Exchange :=
  ⟨chunks.map HttpEvent.onData, ending, 200, [], fun h' => absurd h' h⟩

def wholeFile : Exchange := attempt [str "abc", str "def"] .finished (by decide)

def lostConnection : Exchange := attempt [str "abc"] .disconnected (by decide)

theorem exactFiles_iff_first :
    Runs.Meets callStep (fun d call => d.ExactCall call.1 call.2) (boot audioCard (Wifi.boot none))
      [(str "a", ⟨fun _ => wholeFile, true⟩)] := by
  have hconn : ∀ call ∈ [(str "a", (⟨fun _ => wholeFile, true⟩ : AudioScript))],
      Connected call.2 := by
    intro call hcall i
    rw [List.mem_singleton.1 hcall]
    exact Ending.noConfusion
  refine (exactFiles_iff _ _ rfl hconn).2 ⟨fun _ _ x hx => ⟨by decide, rfl⟩, trivial⟩

/-- The connection is lost once and the second attempt delivers everything: the call returns true and
the file holds the header only. -/
theorem exactFiles_not_retry :
    ¬ Runs.Meets callStep (fun d call => d.ExactCall call.1 call.2)
      (boot audioCard (Wifi.boot none))
      [(str "a", ⟨fun i => if i = 0 then lostConnection else wholeFile, true⟩)] := by
  rintro ⟨hexact, -⟩
  have hconn : Connected ⟨fun i => if i = 0 then lostConnection else wholeFile, true⟩ := by
    intro i
    dsimp only
    split <;> exact Ending.noConfusion
  have hclean := (exactCall_iff hconn (by decide)).1 hexact
  obtain ⟨-, hblocks⟩ := hclean (by decide) rfl wholeFile rfl
  revert hblocks
  decide

end Downloader

end Cubbies
