import Cubbies.Proofs.WaitDiscipline

set_option autoImplicit false

/-! # A question and its answers

The run of a question from `SYS_PLAY_QNA` up to `SYS_PLAY_NEXT`, with answers at any moment. A step in
`SYS_WAIT_QNA_RESP` that takes a response, or finds that it is too late for one, gives a `Verdict`;
`Phase` says what has been played after which verdicts, and `question_protocol` what follows. -/

namespace Cubbies

open CString

namespace Box

/-! ## Files that are played -/

def location? : PlayerCommand → Option Bytes
  | .play location => some location
  | _ => none

/-- The audio files started so far, the first one first. -/
def plays (b : Box) : List Bytes := (b.commands.filterMap location?).reverse

theorem plays_command {b : Box} {c : PlayerCommand} (hc : location? c = none) :
    (b.command c).plays = b.plays := by
  unfold plays command
  rw [List.filterMap_cons, hc]

theorem plays_play (b : Box) (location : Bytes) :
    (b.play location).plays = b.plays ++ [location] := by
  unfold plays
  rw [commands_play, List.filterMap_cons]
  exact List.reverse_cons

/-- A file of the audio folder. -/
def audioFile (name suffix : Bytes) : Bytes := str "/sdcard/media/audio/" ++ name ++ suffix

/-! ## What the other tasks leave alone -/

/-- The question is where it was: the playlist entry, the attempt, the files played. -/
structure SameQuestion (b b' : Box) : Prop where
  json : b'.json = b.json
  audioIndex : b'.audioIndex = b.audioIndex
  indexx : b'.indexx = b.indexx
  attempt : b'.qnaAttempt = b.qnaAttempt
  plays : b'.plays = b.plays

theorem SameQuestion.trans {b₁ b₂ b₃ : Box} (h : SameQuestion b₁ b₂) (h' : SameQuestion b₂ b₃) :
    SameQuestion b₁ b₃ :=
  ⟨h'.json.trans h.json, h'.audioIndex.trans h.audioIndex, h'.indexx.trans h.indexx,
    h'.attempt.trans h.attempt, h'.plays.trans h.plays⟩

theorem SameQuestion.refl (b : Box) : SameQuestion b b := ⟨rfl, rfl, rfl, rfl, rfl⟩

theorem SameQuestion.command (b : Box) {c : PlayerCommand} (hc : location? c = none) :
    SameQuestion b (b.command c) := ⟨rfl, rfl, rfl, rfl, plays_command hc⟩

theorem SameQuestion.setState (b : Box) (now : ℕ) (s : SystemState) :
    SameQuestion b (b.setState now s) := ⟨rfl, rfl, rfl, rfl, rfl⟩

theorem SameQuestion.playPauseToggle (b : Box) : SameQuestion b b.playPauseToggle := by
  unfold Box.playPauseToggle
  split
  · exact .command b rfl
  · exact .command b rfl
  · exact .refl b

theorem SameQuestion.skipQuestion (b : Box) : SameQuestion b b.skipQuestion := by
  unfold Box.skipQuestion skipCurrentAudio
  split_ifs
  · exact .command b rfl
  · exact .refl b
  · exact .refl b

/-- Every write frame but that of the next and previous buttons. -/
theorem writeFrame_sameQuestion (b : Box) (now address len : ℕ) (data : Bytes)
    (hreg : writeReg? address len ≠ some .nextPrev) :
    SameQuestion b (b.writeFrame now address len data) ∧
      (b.writeFrame now address len data).state = b.state ∧
      (b.writeFrame now address len data).playerGoBackToState = b.playerGoBackToState := by
  unfold writeFrame
  cases hat : writeReg? address len with
  | none => exact ⟨.refl b, rfl, rfl⟩
  | some reg =>
      cases reg with
      | nextPrev => exact absurd hat hreg
      | volumeControl =>
          dsimp only [writeRegister]
          split_ifs <;> exact ⟨⟨rfl, rfl, rfl, rfl, rfl⟩, rfl, rfl⟩
      | playPause =>
          dsimp only [writeRegister]
          split
          · exact ⟨.playPauseToggle b, playPauseToggle_states b⟩
          · exact ⟨.refl b, rfl, rfl⟩
      | answerOption =>
          have hpress : ∀ b', SameQuestion b b' → b'.state = b.state →
              b'.playerGoBackToState = b.playerGoBackToState →
              SameQuestion b b'.skipQuestion ∧ b'.skipQuestion.state = b.state ∧
                b'.skipQuestion.playerGoBackToState = b.playerGoBackToState := by
            intro b' hsame hstate hback
            have hskip := (skipQuestion_keeps b').2
            exact ⟨hsame.trans (.skipQuestion b'), hskip.1.trans hstate, hskip.2.trans hback⟩
          dsimp only [writeRegister]
          split_ifs
          · exact hpress _ ⟨rfl, rfl, rfl, rfl, rfl⟩ rfl rfl
          · exact hpress _ ⟨rfl, rfl, rfl, rfl, rfl⟩ rfl rfl
          · exact ⟨.refl b, rfl, rfl⟩
      | chargingStatus => exact ⟨⟨rfl, rfl, rfl, rfl, rfl⟩, rfl, rfl⟩
      | batteryPercent => exact ⟨⟨rfl, rfl, rfl, rfl, rfl⟩, rfl, rfl⟩
      | turnTablePosition => exact ⟨⟨rfl, rfl, rfl, rfl, rfl⟩, rfl, rfl⟩

/-- The wait for the player ends where it was to go on, or for an ear press. -/
theorem handleWaitForPlayer_sameQuestion (b : Box) (env : HandlerEnv) :
    SameQuestion b (b.handleWaitForPlayer env) := by
  have hcheck : SameQuestion b (b.checkPlayingCompleted env.message).2 := by
    unfold checkPlayingCompleted
    split <;> exact ⟨rfl, rfl, rfl, rfl, rfl⟩
  unfold handleWaitForPlayer
  dsimp only
  split_ifs
  · exact (SameQuestion.playPauseToggle b).trans (.setState _ _ _)
  · exact (SameQuestion.playPauseToggle b).trans (.setState _ _ _)
  · exact hcheck.trans ⟨rfl, rfl, rfl, rfl, rfl⟩
  · exact hcheck

/-! ## Verdicts -/

/-- How an attempt ends. -/
inductive Verdict where
  /-- the response is the answer of the header -/
  | right
  | wrong
  /-- no response in ten seconds -/
  | late
  deriving DecidableEq

/-- The response `SYS_WAIT_QNA_RESP` finds; 5 is none. -/
def response (b : Box) : ℤ :=
  if b.leftEarButtonState then 0 else if b.rightEarButtonState then 1 else 5

/-- The verdict a step in `SYS_WAIT_QNA_RESP` comes to at this time. -/
def verdict? (b : Box) (now : ℕ) : Option Verdict :=
  if b.response ≠ 5 then if b.response = b.headerData.A then some .right else some .wrong
  else if timeSpent now b.responseWaitTick 10000 then some .late
  else none

/-- The verdict of a step of a run. -/
def stepVerdict? : Box × BoxEvent → Option Verdict
  | (b, .handler env) => if b.state = .waitQnaResp then b.verdict? env.now else none
  | _ => none

def verdicts (trace : List (Box × BoxEvent)) : List Verdict := trace.filterMap stepVerdict?

/-- Where a verdict leads. -/
def afterVerdict (attempt : UInt8) (v : Verdict) : SystemState :=
  if v = .right ∨ attempt = 2 then .correctAns else .incorrectAnsTry1

theorem handleWaitQnaResp_eq {b : Box} (now : ℕ) (hattempt : b.qnaAttempt = 1 ∨ b.qnaAttempt = 2) :
    b.handleWaitQnaResp now =
      match b.verdict? now with
      | some v => b.setState now (afterVerdict b.qnaAttempt v)
      | none => b := by
  have hwrong : ∀ v, v ≠ .right →
      b.afterWrongAnswer now = b.setState now (afterVerdict b.qnaAttempt v) := by
    intro v hv
    unfold afterWrongAnswer afterVerdict
    rcases hattempt with h | h
    · rw [if_pos h, if_neg (by rw [h]; simp [hv])]
    · rw [if_neg (by rw [h]; decide), if_pos h, if_pos (.inr h)]
  unfold handleWaitQnaResp verdict?
  show (if b.response ≠ 5 then _ else _) = _
  by_cases hnone : b.response ≠ 5
  · simp only [if_pos hnone]
    by_cases hright : b.response = b.headerData.A
    · simp only [if_pos hright]
      rw [show (if b.leftEarButtonState then (0 : ℤ) else if b.rightEarButtonState then 1 else 5) =
        b.headerData.A from hright, if_pos rfl]
      rfl
    · simp only [if_neg hright]
      rw [if_neg (show ¬ (if b.leftEarButtonState then (0 : ℤ) else if b.rightEarButtonState then 1
        else 5) = b.headerData.A from hright)]
      exact hwrong .wrong (by decide)
  · simp only [if_neg hnone]
    split
    · exact hwrong .late (by decide)
    · rfl

/-! ## The audios of a question -/

theorem playCurrent_spec {b b' : Box} {now : ℕ} {goBack : SystemState}
    (h : b.playCurrent now goBack = some b') :
    ∃ name, b.playlistName b.currentIndex = some name ∧ name.length < 50 ∧
      b' = { b with audioIndex := b.currentIndex }.playThen now (audioFile name (str ".mp3")) goBack := by
  simp only [playCurrent, Option.bind_eq_bind, Option.bind_eq_some_iff] at h
  obtain ⟨name, hname, location, hlocation, playerFilename, hfile, hb⟩ := h
  obtain ⟨-, hlocation⟩ := Option.ite_none_right_eq_some.1 hlocation
  obtain ⟨hshort, -⟩ := Option.ite_none_right_eq_some.1 hfile
  refine ⟨name, hname, hshort, ?_⟩
  rw [← Option.some.inj hb, ← Option.some.inj hlocation]
  rfl

/-- The answers to a question whose name fits `playerFilename` fit their arrays too. -/
theorem playAnswer_eq {b : Box} {name suffix : Bytes} (now : ℕ) (goBack : SystemState)
    (hname : b.playlistName b.audioIndex = some name) (hshort : name.length < 50)
    (hsuffix : suffix.length ≤ 5) :
    b.playAnswer now suffix goBack = some (b.playThen now (audioFile name suffix) goBack) := by
  have hfolder : (str "/sdcard/media/audio/").length = 20 := by decide
  have hfits : (audioFile name suffix).length < 100 := by
    unfold audioFile
    rw [List.length_append, List.length_append, hfolder]
    omega
  have hlocation : audioLocation name suffix = some (audioFile name suffix) := if_pos hfits
  simp only [playAnswer, hname, hlocation, Option.bind_eq_bind, Option.bind_some]
  rfl

theorem plays_playThen (b : Box) (now : ℕ) (location : Bytes) (goBack : SystemState) :
    (b.playThen now location goBack).plays = b.plays ++ [location] := plays_play b location

/-- The question is being asked about the entry `name`, and these files have been started. -/
structure Asking (name : Bytes) (played : List Bytes) (b : Box) : Prop where
  entry : b.playlistName b.audioIndex = some name
  short : name.length < 50
  plays : b.plays = played

theorem Asking.same {name : Bytes} {played : List Bytes} {b b' : Box} (h : Asking name played b)
    (hsame : SameQuestion b b') : Asking name played b' := by
  refine ⟨?_, h.short, hsame.plays.trans h.plays⟩
  have hentry := h.entry
  unfold playlistName at hentry ⊢
  rw [hsame.json, hsame.audioIndex]
  exact hentry

theorem playThen_asking {name : Bytes} {played : List Bytes} {b : Box} (h : Asking name played b)
    (now : ℕ) (location : Bytes) (goBack : SystemState) :
    Asking name (played ++ [location]) (b.playThen now location goBack) := by
  refine ⟨?_, h.short, by rw [plays_playThen, h.plays]⟩
  have hjson : (b.playThen now location goBack).json = b.json := congrArg Core.json (core_play b location)
  have hindex : (b.playThen now location goBack).audioIndex = b.audioIndex := by
    unfold playThen play readVolume
    split <;> rfl
  have hentry := h.entry
  unfold playlistName at hentry ⊢
  rw [hjson, hindex]
  exact hentry

theorem playCurrent_asking {b b' : Box} {now : ℕ} {goBack : SystemState} {name : Bytes}
    (h : b.playCurrent now goBack = some b') (hentry : b.playlistName b.currentIndex = some name) :
    Asking name (b.plays ++ [audioFile name (str ".mp3")]) b' := by
  obtain ⟨name', hname, hshort, hb⟩ := playCurrent_spec h
  obtain rfl : name' = name := Option.some.inj (hname.symm.trans hentry)
  rw [hb]
  exact playThen_asking (b := { b with audioIndex := b.currentIndex }) ⟨hentry, hshort, rfl⟩ now _ _

/-- The question is played. -/
theorem handlePlayQna_asking {b b' : Box} {now : ℕ} {name : Bytes} (h : b.handlePlayQna now = some b')
    (hentry : b.playlistName b.currentIndex = some name) :
    Asking name (b.plays ++ [audioFile name (str ".mp3")]) b' ∧ b'.position = .waitQnaResp ∧
      b'.qnaAttempt = 1 := by
  obtain ⟨b₁, hcommands, hname, hplay⟩ : ∃ b₁ : Box, b₁.commands = b.commands ∧
      b₁.playlistName b₁.currentIndex = b.playlistName b.currentIndex ∧
        b₁.playCurrent now .waitQnaResp = some b' := by
    unfold handlePlayQna at h
    refine ⟨_, ?_, ?_, h⟩
    · rfl
    · rfl
  have hasking := playCurrent_asking hplay (hname.trans hentry)
  have hplays : b₁.plays = b.plays := congrArg (fun cs => (cs.filterMap location?).reverse) hcommands
  rw [hplays] at hasking
  exact ⟨hasking, (handlePlayQna_plays h).position, handlePlayQna_qnaAttempt h⟩

/-- The wrong answer. -/
theorem handleIncorrectAnsTry1_asking {b : Box} {name : Bytes} {played : List Bytes}
    (h : Asking name played b) (now : ℕ) :
    ∃ b', b.handleIncorrectAnsTry1 now = some b' ∧
      Asking name (played ++ [audioFile name (str "W.mp3")]) b' ∧ b'.position = .waitQnaResp ∧
        b'.qnaAttempt = 2 := by
  have hwait : Asking name played (b.awaitResponse now) := ⟨h.entry, h.short, h.plays⟩
  have hplay := playAnswer_eq now .waitQnaResp hwait.entry h.short
    (show (str "W.mp3").length ≤ 5 by decide)
  have hasking := playThen_asking hwait now (audioFile name (str "W.mp3")) .waitQnaResp
  unfold handleIncorrectAnsTry1
  rw [hplay]
  exact ⟨_, rfl, ⟨hasking.entry, hasking.short, hasking.plays⟩, rfl, rfl⟩

/-- The answer. -/
theorem handleCorrectAns_asking {b : Box} {name : Bytes} {played : List Bytes}
    (h : Asking name played b) (now : ℕ) :
    ∃ b', b.handleCorrectAns now = some b' ∧
      Asking name (played ++ [audioFile name (str "C.mp3")]) b' ∧ b'.position = .playNext ∧
        b'.state = .waitForPlayer := by
  have hplay := playAnswer_eq now .playNext h.entry h.short (show (str "C.mp3").length ≤ 5 by decide)
  have hasking := playThen_asking h now (audioFile name (str "C.mp3")) .playNext
  unfold handleCorrectAns
  rw [hplay]
  exact ⟨_, rfl, ⟨hasking.entry, hasking.short, hasking.plays⟩, rfl, rfl⟩

/-! ## Phases -/

/-- How far a question about `name` has come: the files started since `before`, and the verdicts. -/
inductive Phase (before : List Bytes) (name : Bytes) : List Bytes → List Verdict → Box → Prop where
  | asked {b : Box} : b.state = .playQna → b.playlistName b.currentIndex = some name →
      b.plays = before → Phase before name [] [] b
  | first {b : Box} : Asking name (before ++ [audioFile name (str ".mp3")]) b →
      b.position = .waitQnaResp → b.qnaAttempt = 1 →
      Phase before name [audioFile name (str ".mp3")] [] b
  | right {b : Box} : Asking name (before ++ [audioFile name (str ".mp3")]) b →
      b.state = .correctAns → Phase before name [audioFile name (str ".mp3")] [.right] b
  | wrong {b : Box} (v : Verdict) : v ≠ .right →
      Asking name (before ++ [audioFile name (str ".mp3")]) b → b.state = .incorrectAnsTry1 →
      Phase before name [audioFile name (str ".mp3")] [v] b
  | second {b : Box} (v : Verdict) : v ≠ .right →
      Asking name (before ++ [audioFile name (str ".mp3"), audioFile name (str "W.mp3")]) b →
      b.position = .waitQnaResp → b.qnaAttempt = 2 →
      Phase before name [audioFile name (str ".mp3"), audioFile name (str "W.mp3")] [v] b
  | answer {b : Box} (v v' : Verdict) : v ≠ .right →
      Asking name (before ++ [audioFile name (str ".mp3"), audioFile name (str "W.mp3")]) b →
      b.state = .correctAns →
      Phase before name [audioFile name (str ".mp3"), audioFile name (str "W.mp3")] [v, v'] b
  | told {b : Box} : b.position = .playNext →
      Asking name (before ++ [audioFile name (str ".mp3"), audioFile name (str "C.mp3")]) b →
      Phase before name [audioFile name (str ".mp3"), audioFile name (str "C.mp3")] [.right] b
  | toldAfterWrong {b : Box} (v v' : Verdict) : v ≠ .right → b.position = .playNext →
      Asking name (before ++ [audioFile name (str ".mp3"), audioFile name (str "W.mp3"),
        audioFile name (str "C.mp3")]) b →
      Phase before name [audioFile name (str ".mp3"), audioFile name (str "W.mp3"),
        audioFile name (str "C.mp3")] [v, v'] b

/-- A step that leaves the question and the state of the box alone. -/
theorem Phase.same {before : List Bytes} {name : Bytes} {started : List Bytes} {vs : List Verdict}
    {b b' : Box} (h : Phase before name started vs b) (hsame : SameQuestion b b')
    (hstate : b'.state = b.state) (hback : b'.playerGoBackToState = b.playerGoBackToState) :
    Phase before name started vs b' := by
  have hpos : b'.position = b.position := by
    unfold position
    rw [hstate, hback]
  cases h with
  | asked hqna hentry hplays =>
      refine .asked (hstate.trans hqna) ?_ (hsame.plays.trans hplays)
      unfold playlistName currentIndex at hentry ⊢
      rw [hsame.json, hsame.indexx]
      exact hentry
  | first hask hwait hattempt =>
      exact .first (hask.same hsame) (hpos.trans hwait) (hsame.attempt.trans hattempt)
  | right hask hcorrect => exact .right (hask.same hsame) (hstate.trans hcorrect)
  | wrong v hv hask hwrong => exact .wrong v hv (hask.same hsame) (hstate.trans hwrong)
  | second v hv hask hwait hattempt =>
      exact .second v hv (hask.same hsame) (hpos.trans hwait) (hsame.attempt.trans hattempt)
  | answer v v' hv hask hcorrect => exact .answer v v' hv (hask.same hsame) (hstate.trans hcorrect)
  | told hnext hask => exact .told (hpos.trans hnext) (hask.same hsame)
  | toldAfterWrong v v' hv hnext hask =>
      exact .toldAfterWrong v v' hv (hpos.trans hnext) (hask.same hsame)

section

variable [CJson]

/-- **A handler step while the question or the wrong answer waits for a response.** It comes to a verdict
and leaves, or the question goes on waiting. -/
theorem waiting_handler {b b' : Box} {env : HandlerEnv} (h : b.handler env = some b')
    (hpos : b.position = .waitQnaResp) (hattempt : b.qnaAttempt = 1 ∨ b.qnaAttempt = 2) :
    SameQuestion b b' ∧
      (stepVerdict? (b, .handler env) = none ∧ b'.position = .waitQnaResp ∨
        ∃ v, stepVerdict? (b, .handler env) = some v ∧ b'.state = afterVerdict b.qnaAttempt v) := by
  by_cases hwait : b.state = .waitForPlayer
  · rw [handler_waitForPlayer hwait] at h
    obtain rfl := Option.some.inj h
    refine ⟨handleWaitForPlayer_sameQuestion b env, .inl ⟨?_, ?_⟩⟩
    · show (if b.state = .waitQnaResp then _ else _) = _
      rw [if_neg (by rw [hwait]; decide)]
    · rcases (handleWaitForPlayer_keeps env hwait).2 with hsame | ⟨hactivity, -⟩
      · exact hsame.trans hpos
      · rw [hpos] at hactivity
        cases hactivity
  · have hresp : b.state = .waitQnaResp := by
      unfold position at hpos
      rwa [if_neg hwait] at hpos
    have hverdict : stepVerdict? (b, .handler env) = b.verdict? env.now := if_pos hresp
    simp only [handler, hresp] at h
    rw [handleWaitQnaResp_eq env.now hattempt] at h
    rw [hverdict]
    cases hv : b.verdict? env.now with
    | none =>
        simp only [hv] at h
        obtain rfl := Option.some.inj h
        exact ⟨.refl b, .inl ⟨rfl, hpos⟩⟩
    | some v =>
        simp only [hv] at h
        obtain rfl := Option.some.inj h
        exact ⟨.setState b _ _, .inr ⟨v, rfl, rfl⟩⟩

/-- A handler step while the answer plays. -/
theorem telling_handler {b b' : Box} {env : HandlerEnv} (h : b.handler env = some b')
    (hpos : b.position = .playNext) (hok : b.state ≠ .playNext) :
    SameQuestion b b' ∧ b.state ≠ .waitQnaResp ∧ b'.position = .playNext := by
  have hwait : b.state = .waitForPlayer := by
    by_contra hne
    unfold position at hpos
    rw [if_neg hne] at hpos
    exact hok hpos
  rw [handler_waitForPlayer hwait] at h
  obtain rfl := Option.some.inj h
  refine ⟨handleWaitForPlayer_sameQuestion b env, by rw [hwait]; decide, ?_⟩
  rcases (handleWaitForPlayer_keeps env hwait).2 with hsame | ⟨-, hnext⟩
  · exact hsame.trans hpos
  · exact hnext

/-- The steps of a run up to `SYS_PLAY_NEXT`, without a toy, the next and previous buttons and BLE. -/
def QuestionStep (b : Box) (e : BoxEvent) : Prop :=
  b.state ≠ .playNext ∧
    match e with
    | .handler _ | .pipeline _ | .station _ => True
    | .write _ address len _ => writeReg? address len ≠ some .nextPrev
    | .read _ _ | .ble _ _ _ _ => False

/-- A handler step in a phase leads to a phase. -/
theorem Phase.handler {before : List Bytes} {name : Bytes} {started : List Bytes} {vs : List Verdict}
    {b b' : Box} {env : HandlerEnv} (h : Phase before name started vs b) (hok : b.state ≠ .playNext)
    (hstep : b.handler env = some b') :
    ∃ started', Phase before name started'
      (vs ++ (stepVerdict? (b, .handler env)).toList) b' := by
  have hsilent : b.state ≠ .waitQnaResp → (stepVerdict? (b, .handler env)).toList = [] := by
    intro hne
    have hnone : stepVerdict? (b, .handler env) = none := if_neg hne
    rw [hnone, Option.toList_none]
  -- the answer follows a verdict on the first attempt or on the second
  have htells {played : List Bytes} (hask : Asking name played b) (hcorrect : b.state = .correctAns) :
      b.state ≠ .waitQnaResp ∧ Asking name (played ++ [audioFile name (str "C.mp3")]) b' ∧
        b'.position = .playNext := by
    simp only [Box.handler, hcorrect] at hstep
    obtain ⟨b₁, hb₁, htold, hpos, -⟩ := handleCorrectAns_asking hask env.now
    obtain rfl := Option.some.inj (hb₁.symm.trans hstep)
    exact ⟨by rw [hcorrect]; decide, htold, hpos⟩
  cases h with
  | asked hqna hentry hplays =>
      rw [hsilent (by rw [hqna]; decide), List.append_nil]
      simp only [Box.handler, hqna] at hstep
      obtain ⟨hask, hwait, hattempt⟩ := handlePlayQna_asking hstep hentry
      rw [hplays] at hask
      exact ⟨_, .first hask hwait hattempt⟩
  | first hask hwait hattempt =>
      obtain ⟨hsame, ⟨hnone, hpos⟩ | ⟨v, hv, hstate⟩⟩ := waiting_handler hstep hwait (.inl hattempt)
      · rw [hnone]
        exact ⟨_, .first (hask.same hsame) hpos (hsame.attempt.trans hattempt)⟩
      · rw [hv]
        rw [hattempt] at hstate
        by_cases hright : v = .right
        · rw [hright] at hstate ⊢
          exact ⟨_, .right (hask.same hsame) hstate⟩
        · rw [afterVerdict, if_neg (by simp [hright])] at hstate
          exact ⟨_, .wrong v hright (hask.same hsame) hstate⟩
  | right hask hcorrect =>
      obtain ⟨hquiet, htold, hpos⟩ := htells hask hcorrect
      rw [hsilent hquiet, List.append_nil]
      rw [List.append_assoc] at htold
      exact ⟨_, .told hpos htold⟩
  | wrong v hv hask hwrong =>
      rw [hsilent (by rw [hwrong]; decide), List.append_nil]
      simp only [Box.handler, hwrong] at hstep
      obtain ⟨b₁, hb₁, htold, hpos, hattempt⟩ := handleIncorrectAnsTry1_asking hask env.now
      obtain rfl := Option.some.inj (hb₁.symm.trans hstep)
      rw [List.append_assoc] at htold
      exact ⟨_, .second v hv htold hpos hattempt⟩
  | second v hv hask hwait hattempt =>
      obtain ⟨hsame, ⟨hnone, hpos⟩ | ⟨v', hv', hstate⟩⟩ := waiting_handler hstep hwait (.inr hattempt)
      · rw [hnone]
        exact ⟨_, .second v hv (hask.same hsame) hpos (hsame.attempt.trans hattempt)⟩
      · rw [hv']
        rw [afterVerdict, if_pos (.inr hattempt)] at hstate
        exact ⟨_, .answer v v' hv (hask.same hsame) hstate⟩
  | answer v v' hv hask hcorrect =>
      obtain ⟨hquiet, htold, hpos⟩ := htells hask hcorrect
      rw [hsilent hquiet, List.append_nil]
      rw [List.append_assoc] at htold
      exact ⟨_, .toldAfterWrong v v' hv hpos htold⟩
  -- the answer is playing: what follows it is `SYS_PLAY_NEXT`
  | told hnext hask =>
      obtain ⟨hsame, hquiet, hpos⟩ := telling_handler hstep hnext hok
      rw [hsilent hquiet, List.append_nil]
      exact ⟨_, .told hpos (hask.same hsame)⟩
  | toldAfterWrong v v' hv hnext hask =>
      obtain ⟨hsame, hquiet, hpos⟩ := telling_handler hstep hnext hok
      rw [hsilent hquiet, List.append_nil]
      exact ⟨_, .toldAfterWrong v v' hv hpos (hask.same hsame)⟩

/-- **One step.** -/
theorem Phase.step {before : List Bytes} {name : Bytes} {started : List Bytes} {vs : List Verdict}
    {b b' : Box} {e : BoxEvent} (h : Phase before name started vs b) (hok : QuestionStep b e)
    (hstep : b.step e = some b') :
    ∃ started', Phase before name started' (vs ++ (stepVerdict? (b, e)).toList) b' := by
  have hidle : stepVerdict? (b, e) = none → SameQuestion b b' → b'.state = b.state →
      b'.playerGoBackToState = b.playerGoBackToState →
      ∃ started', Phase before name started' (vs ++ (stepVerdict? (b, e)).toList) b' := by
    intro hnone hsame hstate hback
    rw [hnone, Option.toList_none, List.append_nil]
    exact ⟨started, h.same hsame hstate hback⟩
  cases e with
  | handler env => exact h.handler hok.1 hstep
  | pipeline writer =>
      obtain rfl := Option.some.inj hstep
      exact hidle rfl ⟨rfl, rfl, rfl, rfl, rfl⟩ rfl rfl
  | station ev =>
      obtain rfl := Option.some.inj hstep
      exact hidle rfl ⟨rfl, rfl, rfl, rfl, rfl⟩ rfl rfl
  | write now address len data =>
      obtain rfl := Option.some.inj hstep
      obtain ⟨hsame, hstate, hback⟩ := writeFrame_sameQuestion b now address len data hok.2
      exact hidle rfl hsame hstate hback
  | read _ _ => exact hok.2.elim
  | ble _ _ _ _ => exact hok.2.elim

/-! ## The protocol -/

/-- What is right about the files `started` for the question `name`, after the verdicts `vs`. -/
structure QuestionPlayed (name : Bytes) (started : List Bytes) (vs : List Verdict) (b : Box) : Prop where
  order : started <+: [audioFile name (str ".mp3"), audioFile name (str "C.mp3")] ∨
    started <+: [audioFile name (str ".mp3"), audioFile name (str "W.mp3"), audioFile name (str "C.mp3")]
  answered : b.state = .playNext → audioFile name (str "C.mp3") ∈ started
  /-- the answer follows the question only if the first response was right -/
  right : [audioFile name (str ".mp3"), audioFile name (str "C.mp3")] <+: started →
    vs.head? = some .right
  once : started.count (audioFile name (str "W.mp3")) ≤ 1
  /-- the wrong answer is started, or is next, exactly after a first attempt that was not right -/
  wrong : audioFile name (str "W.mp3") ∈ started ∨ b.state = .incorrectAnsTry1 ↔
    ∃ v ∈ vs.head?, v ≠ .right
  next : b.state = .incorrectAnsTry1 → ∀ env, ∃ b', b.handler env = some b' ∧
    b'.plays = b.plays ++ [audioFile name (str "W.mp3")]

omit [CJson] in
theorem audioFile_inj {name s s' : Bytes} : audioFile name s = audioFile name s' ↔ s = s' := by
  exact List.append_right_inj _

theorem Phase.played {before : List Bytes} {name : Bytes} {started : List Bytes} {vs : List Verdict}
    {b : Box} (h : Phase before name started vs b) :
    b.plays = before ++ started ∧ QuestionPlayed name started vs b := by
  have hqw : audioFile name (str ".mp3") ≠ audioFile name (str "W.mp3") := by
    rw [Ne, audioFile_inj]
    decide
  have hwc : audioFile name (str "W.mp3") ≠ audioFile name (str "C.mp3") := by
    rw [Ne, audioFile_inj]
    decide
  have hstate : ∀ {s t}, b.position = s → t ≠ s → t ≠ .waitForPlayer → b.state ≠ t :=
    fun hpos hne hwait heq => hne ((position_of_state heq hwait).symm.trans hpos)
  cases h with
  | asked hqna hentry hplays =>
      refine ⟨by rw [hplays, List.append_nil], ?_⟩
      constructor <;> simp [hqna]
  | first hask hwait hattempt =>
      have hnext := hstate (t := .playNext) hwait (by decide) (by decide)
      have htry := hstate (t := .incorrectAnsTry1) hwait (by decide) (by decide)
      refine ⟨hask.plays, ?_⟩
      constructor <;> simp [hnext, htry, hqw, hqw.symm]
  | right hask hcorrect =>
      refine ⟨hask.plays, ?_⟩
      constructor <;> simp [hcorrect, hqw, hqw.symm]
  | wrong v hv hask hwrong =>
      refine ⟨hask.plays, ?_⟩
      have hnext : ∀ env, ∃ b', b.handler env = some b' ∧
          b'.plays = b.plays ++ [audioFile name (str "W.mp3")] := by
        intro env
        obtain ⟨b', hb', hask', -, -⟩ := handleIncorrectAnsTry1_asking hask env.now
        refine ⟨b', by simp only [Box.handler, hwrong, hb'], ?_⟩
        rw [hask'.plays, hask.plays]
      constructor
      case next => exact fun _ => hnext
      all_goals simp [hwrong, hv, hqw, hqw.symm]
  | second v hv hask hwait hattempt =>
      have hnext := hstate (t := .playNext) hwait (by decide) (by decide)
      have htry := hstate (t := .incorrectAnsTry1) hwait (by decide) (by decide)
      refine ⟨hask.plays, ?_⟩
      constructor <;> simp [hnext, htry, hv, hqw, hwc, hwc.symm]
  | answer v v' hv hask hcorrect =>
      refine ⟨hask.plays, ?_⟩
      constructor <;> simp [hcorrect, hv, hqw, hwc, hwc.symm]
  | told hnext hask =>
      have htry := hstate (t := .incorrectAnsTry1) hnext (by decide) (by decide)
      refine ⟨hask.plays, ?_⟩
      constructor <;> simp [htry, hqw.symm, hwc, hqw, hwc.symm]
  | toldAfterWrong v v' hv hnext hask =>
      have htry := hstate (t := .incorrectAnsTry1) hnext (by decide) (by decide)
      refine ⟨hask.plays, ?_⟩
      constructor <;> simp [htry, hv, hqw, hwc, hwc.symm]

/-- **The question-and-answer protocol.** -/
theorem question_protocol {b₀ b : Box} {name : Bytes} {trace : List (Box × BoxEvent)}
    (hstart : b₀.state = .playQna) (hentry : b₀.playlistName b₀.currentIndex = some name)
    (hrun : Runs.Path (fun b e b' => b.step e = some b') QuestionStep b₀ trace b) :
    ∃ started, b.plays = b₀.plays ++ started ∧ QuestionPlayed name started (verdicts trace) b := by
  have hphase : ∃ started, Phase b₀.plays name started (verdicts trace) b :=
    hrun.invariant (I := fun trace b => ∃ started, Phase b₀.plays name started (verdicts trace) b)
      ⟨[], .asked hstart hentry rfl⟩ fun trace b e b' ⟨started, h⟩ hok hstep => by
        have hsplit : verdicts (trace ++ [(b, e)]) = verdicts trace ++ (stepVerdict? (b, e)).toList :=
          Runs.filterMap_snoc stepVerdict? trace (b, e)
        rw [hsplit]
        exact h.step hok hstep
  obtain ⟨started, h⟩ := hphase
  exact ⟨started, h.played⟩

end

/-! ## A question that is answered in the second attempt -/

instance (b : Box) (e : BoxEvent) : Decidable (QuestionStep b e) :=
  match e with
  | .handler _ => inferInstanceAs (Decidable (_ ∧ True))
  | .pipeline _ => inferInstanceAs (Decidable (_ ∧ True))
  | .station _ => inferInstanceAs (Decidable (_ ∧ True))
  | .write _ _ _ _ => inferInstanceAs (Decidable (_ ∧ _))
  | .read _ _ => inferInstanceAs (Decidable (_ ∧ False))
  | .ble _ _ _ _ => inferInstanceAs (Decidable (_ ∧ False))

/-- A question whose answer is the right ear. -/
def askedBox : Box :=
  { emptyBattery with
    state := .playQna
    json := some (.object [(str "1", .string (str "tone"))])
    headerData :=
      { T := 1, A := 1, L := [0, 0, 0], R := [0, 0, 0], Z := [], L_length := rfl, R_length := rfl } }

def leftEarFrame : BoxEvent := .write 0 0x7000 1 [1]

def rightEarFrame : BoxEvent := .write 0 0x7000 1 [2]

/-- The left ear during the question, the right one during the wrong answer, and the end of the answer. -/
def questionRun : List BoxEvent :=
  [handlerStep, leftEarFrame, handlerStep, handlerStep, handlerStep, rightEarFrame, handlerStep,
    handlerStep, handlerStep, .handler (quietEnv 0 .finished)]

theorem questionRun_played :
    ∃ b, Runs.runList (@step writeParser) askedBox questionRun = some b ∧ b.state = .playNext ∧
      ∃ started, b.plays = askedBox.plays ++ started ∧
        @QuestionPlayed writeParser (str "tone") started
          (verdicts (Runs.history (@step writeParser) askedBox questionRun)) b := by
  let := writeParser
  have hends : (Runs.runGuarded step QuestionStep askedBox questionRun).map Box.state =
      some .playNext := by
    decide +kernel
  obtain ⟨b, hrun, hstate⟩ := Option.map_eq_some_iff.1 hends
  exact ⟨b, Runs.runList_of_runGuarded hrun, hstate,
    question_protocol rfl (by decide +kernel) (Runs.path_of_runGuarded questionRun hrun)⟩

end Box

end Cubbies
