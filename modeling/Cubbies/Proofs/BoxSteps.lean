import Cubbies.Tasks

set_option autoImplicit false

/-! # What a handler step does

A handler step is described by three things: whether it `Keeps` the toy and its playlist, which audio
it starts, and the `position` it leaves the box in, the state it is in or, during a tone, the state it
goes on in. There is one lemma for each state of the handler. -/

namespace Cubbies

open CString

namespace Box

/-! ## Positions -/

/-- Where the box is, a tone or an audio that is playing aside. -/
def position (b : Box) : SystemState :=
  if b.state = .waitForPlayer then b.playerGoBackToState else b.state

theorem position_of_state {b : Box} {s : SystemState} (h : b.state = s) (hs : s ≠ .waitForPlayer) :
    b.position = s := by
  unfold position
  rw [h, if_neg hs]

theorem position_of_wait {b : Box} (h : b.state = .waitForPlayer) :
    b.position = b.playerGoBackToState := if_pos h

theorem position_setState {b : Box} {now : ℕ} {s : SystemState} (hs : s ≠ .waitForPlayer) :
    (b.setState now s).position = s := position_of_state rfl hs

theorem position_toneThen {b : Box} {now : ℕ} {tone : Bytes} {s : SystemState}
    (hs : s ≠ .waitForPlayer) : (b.toneThen now tone s).position = s := by
  unfold toneThen
  split
  · rfl
  · exact position_setState hs

/-! ## What is kept -/

/-- The toy on the box and the playlist that is loaded. -/
structure Core where
  toy : Bytes
  toyPresenseFlag : Bool
  tagPresentFlag : Bool
  json : Option Json
  indexx : UInt8
  loaded : Option Bytes

def core (b : Box) : Core :=
  ⟨b.toy, b.toyPresenseFlag, b.tagPresentFlag, b.json, b.indexx, b.loaded⟩

def audioFolder : Bytes := str "/sdcard/media/audio/"

/-- From `b` to `b'` no audio of a playlist is started. -/
def Quiet (b b' : Box) : Prop :=
  ∃ new, b'.commands = new ++ b.commands ∧
    ∀ location, .play location ∈ new → ¬ audioFolder <+: location

/-- The toy, its playlist and the registrations are as before, and nothing of the playlist was
started. -/
structure Keeps (b b' : Box) : Prop where
  core : b'.core = b.core
  registered : b'.registered = b.registered
  quiet : Quiet b b'

theorem Quiet.of_eq {b b' : Box} (h : b'.commands = b.commands) : Quiet b b' :=
  ⟨[], h, by simp⟩

theorem Quiet.trans {b₁ b₂ b₃ : Box} (h : Quiet b₁ b₂) (h' : Quiet b₂ b₃) : Quiet b₁ b₃ := by
  obtain ⟨new, hnew, hquiet⟩ := h
  obtain ⟨new', hnew', hquiet'⟩ := h'
  refine ⟨new' ++ new, by rw [hnew', hnew, List.append_assoc], ?_⟩
  intro location hmem
  rcases List.mem_append.1 hmem with hmem | hmem
  · exact hquiet' location hmem
  · exact hquiet location hmem

theorem Keeps.refl (b : Box) : Keeps b b := ⟨rfl, rfl, .of_eq rfl⟩

theorem Keeps.trans {b₁ b₂ b₃ : Box} (h : Keeps b₁ b₂) (h' : Keeps b₂ b₃) : Keeps b₁ b₃ :=
  ⟨h'.core.trans h.core, h'.registered.trans h.registered, h.quiet.trans h'.quiet⟩

/-- What changes none of these fields keeps them. -/
theorem Keeps.of_eq {b b' : Box} (hcore : b'.core = b.core) (hreg : b'.registered = b.registered)
    (hcmd : b'.commands = b.commands) : Keeps b b' := ⟨hcore, hreg, .of_eq hcmd⟩

theorem Keeps.setState (b : Box) (now : ℕ) (s : SystemState) : Keeps b (b.setState now s) :=
  .of_eq rfl rfl rfl

theorem Keeps.setWifi (b : Box) (w : Wifi) : Keeps b (b.setWifi w) := .of_eq rfl rfl rfl

theorem Keeps.setCard (b : Box) (c : Card) : Keeps b (b.setCard c) := .of_eq rfl rfl rfl

theorem Keeps.setLandingPadColor (b : Box) (c : Rgb) : Keeps b (b.setLandingPadColor c) :=
  .of_eq rfl rfl rfl

theorem Keeps.setEarColors (b : Box) (l r : Rgb) : Keeps b (b.setEarColors l r) :=
  .of_eq rfl rfl rfl

/-- A command other than `play`. -/
theorem Keeps.command (b : Box) {c : PlayerCommand} (hc : ∀ location, c ≠ .play location) :
    Keeps b (b.command c) :=
  ⟨rfl, rfl, [c], rfl, fun location hmem =>
    absurd (List.mem_singleton.1 hmem).symm (hc location)⟩

theorem Keeps.skipCurrentAudio (b : Box) : Keeps b b.skipCurrentAudio := by
  unfold Box.skipCurrentAudio
  split
  · exact .command b (by simp)
  · exact .refl b

theorem Keeps.pauseCurrentAudio (b : Box) : Keeps b b.pauseCurrentAudio := by
  unfold Box.pauseCurrentAudio
  split
  · exact .command b (by simp)
  · exact .refl b

theorem Keeps.playPauseToggle (b : Box) : Keeps b b.playPauseToggle := by
  unfold Box.playPauseToggle
  split
  · exact .command b (by simp)
  · exact .command b (by simp)
  · exact .refl b

theorem core_play (b : Box) (location : Bytes) : (b.play location).core = b.core := by
  unfold play readVolume
  split <;> rfl

theorem registered_play (b : Box) (location : Bytes) :
    (b.play location).registered = b.registered := by
  unfold play readVolume
  split <;> rfl

theorem commands_play (b : Box) (location : Bytes) :
    (b.play location).commands = .play location :: b.commands := by
  unfold play readVolume
  split <;> rfl

/-- The tones lie outside the audio folder. -/
def IsTone (location : Bytes) : Prop := ¬ audioFolder <+: location

theorem isTone_startupTone : IsTone startupTone := by unfold IsTone; decide

theorem isTone_toyDetectTone : IsTone toyDetectTone := by unfold IsTone; decide

theorem isTone_downloadStartTone : IsTone downloadStartTone := by unfold IsTone; decide

theorem isTone_shutdownTone : IsTone shutdownTone := by unfold IsTone; decide

theorem isTone_batLowTone : IsTone batLowTone := by unfold IsTone; decide

theorem isTone_invalidWifiCredsTone : IsTone invalidWifiCredsTone := by unfold IsTone; decide

theorem isTone_pleaseEnterWifiCredsTone : IsTone pleaseEnterWifiCredsTone := by
  unfold IsTone
  decide

theorem Keeps.toneThen (b : Box) (now : ℕ) {tone : Bytes} (s : SystemState) (htone : IsTone tone) :
    Keeps b (b.toneThen now tone s) := by
  unfold Box.toneThen
  split
  · refine ⟨core_play b tone, registered_play b tone, [.play tone], commands_play b tone, ?_⟩
    intro location hmem
    obtain rfl := PlayerCommand.play.inj (List.mem_singleton.1 hmem)
    exact htone
  · exact .setState b now s

/-! ## One lemma for each state -/

/-- The four outcomes of the battery check. -/
theorem batteryCheck_cases (b : Box) (now : ℕ) (charging full : Box) :
    b.batteryCheck now charging full = charging ∨ b.batteryCheck now charging full = full ∨
      (Keeps b (b.batteryCheck now charging full) ∧
        (b.batteryCheck now charging full).position = .shutMeDown) := by
  unfold batteryCheck
  split
  · split
    · exact .inl rfl
    · exact .inr (.inr ⟨.toneThen b now _ isTone_batLowTone, position_toneThen (by simp)⟩)
  · split
    · exact .inr (.inr ⟨.setState b now _, position_setState (by simp)⟩)
    · exact .inr (.inl rfl)

theorem batteryCheck_keeps {b charging full : Box} (now : ℕ) (hcharging : Keeps b charging)
    (hfull : Keeps b full) : Keeps b (b.batteryCheck now charging full) := by
  rcases batteryCheck_cases b now charging full with h | h | ⟨hkeeps, -⟩
  · rw [h]
    exact hcharging
  · rw [h]
    exact hfull
  · exact hkeeps

/-- A check that goes on in the same state at a low level while charging and at a high one. -/
theorem batteryCheck_goes (b : Box) (now : ℕ) {s : SystemState} (hs : s ≠ .waitForPlayer) :
    Keeps b (b.batteryCheck now (b.setState now s) (b.setState now s)) ∧
      (b.batteryCheck now (b.setState now s) (b.setState now s)).position ∈ [s, .shutMeDown] := by
  refine ⟨batteryCheck_keeps now (.setState b now s) (.setState b now s), ?_⟩
  rcases batteryCheck_cases b now (b.setState now s) (b.setState now s) with h | h | ⟨-, hpos⟩
  · rw [h, position_setState hs]
    simp
  · rw [h, position_setState hs]
    simp
  · rw [hpos]
    simp

theorem handlePost_keeps (b : Box) (now : ℕ) :
    Keeps b (b.handlePost now) ∧ (b.handlePost now).position ∈ [.init, .shutMeDown] :=
  batteryCheck_goes b now (by simp)

theorem handleInit_keeps (b : Box) (now : ℕ) :
    Keeps b (b.handleInit now) ∧ (b.handleInit now).position = .idle :=
  ⟨(Keeps.setEarColors b _ _).trans (.toneThen _ now _ isTone_startupTone),
    position_toneThen (by simp)⟩

/-- The removal tick after `SYS_IDLE`: it is set when no tick is there and the toy is gone. -/
def removalTick (b : Box) (now : ℕ) : UInt32 :=
  if ¬ b.toyPresenseFlag ∧ b.toyPlacedOnce ∧ b.toyRemovalTick = 0 then getStartTime now
  else b.toyRemovalTick

/-- The toy is gone, and was by this tick ten seconds ago. -/
def goneTooLong (b : Box) (now : ℕ) : Bool :=
  ¬ b.toyPresenseFlag ∧ b.toyPlacedOnce ∧ timeSpent now (b.removalTick now) 10000

theorem idleRemoval_eq (b : Box) (now : ℕ) :
    b.idleRemoval now =
      if b.goneTooLong now then
        { b with toyRemovalTick := b.removalTick now }.command .stop
      else { b with toyRemovalTick := b.removalTick now } := by
  unfold idleRemoval goneTooLong removalTick
  by_cases hmark : ¬ b.toyPresenseFlag = true ∧ b.toyPlacedOnce = true ∧ b.toyRemovalTick = 0
  · simp only [if_pos hmark, decide_eq_true_eq]
  · simp only [if_neg hmark, decide_eq_true_eq]

theorem idleRemoval_keeps (b : Box) (now : ℕ) :
    Keeps b (b.idleRemoval now) ∧ (b.idleRemoval now).position = b.position := by
  have hmark : Keeps b { b with toyRemovalTick := b.removalTick now } := .of_eq rfl rfl rfl
  rw [idleRemoval_eq]
  split
  · exact ⟨hmark.trans (.command _ (by simp)), rfl⟩
  · exact ⟨hmark, rfl⟩

theorem idleToy_of_absent {b : Box} (now : ℕ) (h : b.toyPresenseFlag = false) : b.idleToy now = b := by
  unfold idleToy
  rw [if_neg (by simp [h])]

theorem idleToy_keeps (b : Box) (now : ℕ) :
    Keeps b (b.idleToy now) ∧
      (b.idleToy now).position = if b.toyPresenseFlag then .toyDetected else b.position := by
  cases hpresent : b.toyPresenseFlag with
  | true =>
      have hplaced : Keeps b { b with toyPlacedOnce := true } := .of_eq rfl rfl rfl
      unfold idleToy
      rw [if_pos hpresent]
      dsimp only
      split
      · exact ⟨hplaced.trans (.toneThen _ now _ isTone_toyDetectTone), position_toneThen (by simp)⟩
      · exact ⟨hplaced.trans (.setState _ now _), position_setState (by simp)⟩
  | false =>
      rw [idleToy_of_absent now hpresent]
      exact ⟨.refl b, rfl⟩

/-- The battery check of `SYS_IDLE` keeps the toy. -/
theorem idleBattery_keeps (b : Box) (now : ℕ) :
    Keeps b (b.batteryCheck now (b.setState now .init) b) :=
  batteryCheck_keeps now (.setState b now .init) (.refl b)

/-- Where `SYS_IDLE` leads: a toy on the box wins over what the battery check decides. -/
theorem handleIdle_position (b : Box) (now : ℕ) :
    (b.handleIdle now).position =
      if timeSpent now b.idleSinceTick 300000 then .shutMeDown
      else if b.toyPresenseFlag then .toyDetected
      else (b.batteryCheck now (b.setState now .init) b).position := by
  have hpresent := congrArg Core.toyPresenseFlag (idleBattery_keeps b now).core
  unfold handleIdle
  split
  · exact position_setState (by simp)
  · rw [(idleRemoval_keeps _ now).2, (idleToy_keeps _ now).2]
    change (b.batteryCheck now (b.setState now .init) b).toyPresenseFlag = b.toyPresenseFlag at hpresent
    rw [hpresent]

theorem handleIdle_keeps (b : Box) (now : ℕ) :
    Keeps b (b.handleIdle now) ∧
      ((b.handleIdle now).position ∈ [b.position, .init, .shutMeDown] ∨
        (b.handleIdle now).position = .toyDetected ∧ b.toyPresenseFlag = true) := by
  constructor
  · unfold handleIdle
    split
    · exact .setState b now _
    · exact ((idleBattery_keeps b now).trans (idleToy_keeps _ now).1).trans (idleRemoval_keeps _ now).1
  · rw [handleIdle_position]
    split_ifs with hlong hpresent
    · exact .inl (by simp)
    · exact .inr ⟨rfl, hpresent⟩
    · rcases batteryCheck_cases b now (b.setState now .init) b with h | h | ⟨-, hpos⟩
      · exact .inl (by rw [h, position_setState (by simp)]; simp)
      · exact .inl (by rw [h]; simp)
      · exact .inl (by rw [hpos]; simp)

theorem handleWaitForPlayer_keeps {b : Box} (env : HandlerEnv) (hstate : b.state = .waitForPlayer) :
    Keeps b (b.handleWaitForPlayer env) ∧
      ((b.handleWaitForPlayer env).position = b.position ∨
        b.position = .waitActivityResp ∧ (b.handleWaitForPlayer env).position = .playNext) := by
  have hposition := position_of_wait hstate
  unfold handleWaitForPlayer
  dsimp only
  split_ifs with hqna hactivity hcompleted
  · exact ⟨(Keeps.playPauseToggle b).trans (.setState _ _ _),
      .inl (by rw [position_setState (by simp), hposition, hqna.1])⟩
  · exact ⟨(Keeps.playPauseToggle b).trans (.setState _ _ _),
      .inr ⟨hposition.trans hactivity.1, position_setState (by simp)⟩⟩
  -- the audio has ended, or it goes on
  · cases hmessage : env.message with
    | finished =>
        refine ⟨.of_eq rfl rfl rfl, .inl ?_⟩
        rw [hposition]
        by_cases hwait : b.playerGoBackToState = .waitForPlayer
        · exact position_of_wait hwait
        · exact position_of_state rfl hwait
    | stopped => simp [checkPlayingCompleted, hmessage] at hcompleted
    | other => simp [checkPlayingCompleted, hmessage] at hcompleted
  · cases hmessage : env.message with
    | finished => simp [checkPlayingCompleted, hmessage] at hcompleted
    | stopped => exact ⟨.of_eq rfl rfl rfl, .inl rfl⟩
    | other => exact ⟨.refl b, .inl rfl⟩

theorem handleToyDetected_keeps (b : Box) (now : ℕ) :
    Keeps b (b.handleToyDetected now) ∧
      (b.handleToyDetected now).position =
        if b.resumes now then .resumePlaying
        else if b.downloaded then .playToy else .downloadWifiConn := by
  have hnext : (if b.resumes now then SystemState.resumePlaying
      else if b.downloaded then .playToy else .downloadWifiConn) ≠ .waitForPlayer := by
    split_ifs <;> simp
  unfold handleToyDetected
  generalize (if b.resumes now then SystemState.resumePlaying
      else if b.downloaded then .playToy else .downloadWifiConn) = next at hnext ⊢
  dsimp only
  split
  · exact ⟨.of_eq rfl rfl rfl, position_of_state rfl hnext⟩
  · exact ⟨.setState b now _, position_setState hnext⟩

theorem lightTheme_keeps (b : Box) (c : Rgb) :
    Keeps b (b.lightTheme c) ∧ (b.lightTheme c).position = b.position := ⟨.of_eq rfl rfl rfl, rfl⟩

theorem showTheme_keeps (b : Box) : Keeps b b.showTheme ∧ b.showTheme.position = b.position := by
  unfold showTheme
  split
  · split
    · exact ⟨.refl b, rfl⟩
    · exact lightTheme_keeps b _
  · exact ⟨.refl b, rfl⟩

theorem readHeaderFile_keeps (b : Box) (location : Bytes) :
    Keeps b (b.readHeaderFile location) := by
  unfold readHeaderFile
  split
  · exact .of_eq rfl rfl rfl
  · exact .refl b

theorem handleReadAudioHeader_keeps {b b' : Box} {now : ℕ}
    (h : b.handleReadAudioHeader now = some b') :
    Keeps b b' ∧ b'.position ∈ [.playActivity, .playQna, .playNormalAudio] := by
  obtain ⟨b₁, hread, rfl⟩ := Option.map_eq_some_iff.1 h
  obtain ⟨location, -, rfl⟩ := Option.map_eq_some_iff.1 hread
  refine ⟨(readHeaderFile_keeps b location).trans (.setState _ now _), ?_⟩
  generalize b.readHeaderFile location = b₁
  split_ifs
  · rw [position_setState (by simp)]
    simp
  · rw [position_setState (by simp)]
    simp
  · rw [position_setState (by simp)]
    simp

theorem resumePlaying_keeps (b : Box) (now : ℕ) :
    Keeps b (b.resumePlaying now) ∧ (b.resumePlaying now).position = .playNext := by
  unfold resumePlaying
  split
  · exact ⟨(Keeps.command b (by simp)).trans (.of_eq rfl rfl rfl), rfl⟩
  · exact ⟨.setState b now _, position_setState (by simp)⟩

/-- `SYS_WAIT_QNA_RESP` does nothing but change the state. -/
theorem handleWaitQnaResp_cases (b : Box) (now : ℕ) :
    b.handleWaitQnaResp now = b ∨
      ∃ s ∈ [SystemState.incorrectAnsTry1, .correctAns], b.handleWaitQnaResp now = b.setState now s := by
  have hwrong : b.afterWrongAnswer now = b ∨
      ∃ s ∈ [SystemState.incorrectAnsTry1, .correctAns], b.afterWrongAnswer now = b.setState now s := by
    unfold afterWrongAnswer
    split_ifs
    · exact .inr ⟨_, List.mem_cons_self, rfl⟩
    · exact .inr ⟨_, List.mem_cons_of_mem _ List.mem_cons_self, rfl⟩
    · exact .inl rfl
  unfold handleWaitQnaResp
  generalize (if b.leftEarButtonState then (0 : ℤ) else if b.rightEarButtonState then 1 else 5) =
    resp
  dsimp only
  split
  · split
    · exact .inr ⟨_, List.mem_cons_of_mem _ List.mem_cons_self, rfl⟩
    · exact hwrong
  · split
    · exact hwrong
    · exact .inl rfl

theorem handleWaitQnaResp_keeps (b : Box) (now : ℕ) :
    Keeps b (b.handleWaitQnaResp now) ∧
      (b.handleWaitQnaResp now).position ∈ [b.position, .incorrectAnsTry1, .correctAns] := by
  rcases handleWaitQnaResp_cases b now with h | ⟨s, hs, h⟩
  · rw [h]
    exact ⟨.refl b, List.mem_cons_self⟩
  · rw [h, position_setState fun hwait => absurd (hwait ▸ hs) (by decide)]
    exact ⟨.setState b now s, List.mem_cons_of_mem _ hs⟩

theorem handleWaitActivityResp_keeps (b : Box) (now : ℕ) :
    Keeps b (b.handleWaitActivityResp now) ∧
      (b.handleWaitActivityResp now).position ∈ [b.position, .playNext] := by
  unfold handleWaitActivityResp
  split
  · exact ⟨.setState b now _, by rw [position_setState (by simp)]; simp⟩
  · exact ⟨.refl b, by simp⟩

theorem handleDownloadWifiConn_keeps (b : Box) (env : HandlerEnv) :
    Keeps b (b.handleDownloadWifiConn env) ∧
      (b.handleDownloadWifiConn env).position ∈
        [b.position, .downloadToy, .wifiConnectErr, .wifiCredMissingErr] := by
  unfold handleDownloadWifiConn
  dsimp only
  split_ifs
  · exact ⟨(Keeps.setWifi b _).trans (.toneThen _ _ _ isTone_downloadStartTone),
      by rw [position_toneThen (by simp)]; simp⟩
  · exact ⟨(Keeps.setWifi b _).trans (.setState _ _ _),
      by rw [position_setState (by simp)]; simp⟩
  · exact ⟨(Keeps.setWifi b _).trans (.setState _ _ _),
      by rw [position_setState (by simp)]; simp⟩
  · exact ⟨.setWifi b _, List.mem_cons_self⟩

theorem handleShutMeDown_keeps (b : Box) (now : ℕ) :
    Keeps b (b.handleShutMeDown now) ∧ (b.handleShutMeDown now).position = .turnOff :=
  ⟨((Keeps.setLandingPadColor b _).trans (.setEarColors _ _ _)).trans
    (.toneThen _ now _ isTone_shutdownTone), position_toneThen (by simp)⟩

/-! ## The states that load a playlist, step in it or play from it -/

theorem readOrShutDown_keeps (b : Box) (now : ℕ) :
    Keeps b (b.readOrShutDown now) ∧
      (b.readOrShutDown now).position ∈ [.readAudioHeader, .shutMeDown] :=
  batteryCheck_goes b now (by simp)

/-- A step in the playlist changes the index and nothing else of it. -/
theorem setIndexx_spec {b b₀ : Box} (h : Keeps b b₀) (i : UInt8) :
    { b₀ with indexx := i }.core = { b.core with indexx := i } ∧
      { b₀ with indexx := i }.registered = b.registered ∧ Quiet b { b₀ with indexx := i } := by
  refine ⟨?_, h.registered, h.quiet⟩
  rw [← h.core]
  rfl

theorem handlePlayNext_keeps (b : Box) (now : ℕ) :
    Keeps b.advance (b.handlePlayNext now) ∧
      ((b.handlePlayNext now).position = .playingComplete ∨
        b.advance.indexx.toNat < b.advance.playlistSize ∧
          (b.handlePlayNext now).position ∈ [.readAudioHeader, .shutMeDown]) := by
  unfold handlePlayNext
  generalize b.advance = b₁
  dsimp only
  split
  · exact ⟨.setState b₁ now _, .inl (position_setState (by simp))⟩
  · next hmore =>
      obtain ⟨hkeeps, hpos⟩ := readOrShutDown_keeps b₁ now
      exact ⟨hkeeps, .inr ⟨Nat.lt_of_not_le hmore, hpos⟩⟩

theorem handlePlayPrevious_keeps (b : Box) (now : ℕ) :
    ∃ i, Keeps { b.skipCurrentAudio with indexx := i } (b.handlePlayPrevious now) ∧
      (b.handlePlayPrevious now).position = .readAudioHeader :=
  ⟨_, .setState _ now _, position_setState (by simp)⟩

/-- The box goes on with the same playlist at `goBack` after what it plays now. -/
structure Plays (b b' : Box) (goBack : SystemState) : Prop where
  core : b'.core = b.core
  registered : b'.registered = b.registered
  position : b'.position = goBack

theorem playThen_plays (b : Box) (now : ℕ) (location : Bytes) (goBack : SystemState) :
    Plays b (b.playThen now location goBack) goBack :=
  ⟨core_play b location, registered_play b location, rfl⟩

theorem playCurrent_plays {b b' : Box} {now : ℕ} {goBack : SystemState}
    (h : b.playCurrent now goBack = some b') : Plays b b' goBack := by
  simp only [playCurrent, Option.bind_eq_bind, Option.bind_eq_some_iff] at h
  obtain ⟨name, -, location, -, playerFilename, -, hb⟩ := h
  rw [← Option.some.inj hb]
  obtain ⟨hcore, hreg, hpos⟩ := playThen_plays { b with audioIndex := b.currentIndex } now location
    goBack
  exact ⟨hcore, hreg, hpos⟩

theorem playAnswer_plays {b b' : Box} {now : ℕ} {suffix : Bytes} {goBack : SystemState}
    (h : b.playAnswer now suffix goBack = some b') : Plays b b' goBack := by
  simp only [playAnswer, Option.bind_eq_bind, Option.bind_eq_some_iff] at h
  obtain ⟨name, -, location, -, hb⟩ := h
  rw [← Option.some.inj hb]
  exact playThen_plays b now location goBack

theorem handlePlayQna_plays {b b' : Box} {now : ℕ} (h : b.handlePlayQna now = some b') :
    Plays b b' .waitQnaResp := by
  obtain ⟨hcore, hreg, hpos⟩ := playCurrent_plays h
  exact ⟨hcore, hreg, hpos⟩

theorem handlePlayActivity_plays {b b' : Box} {now : ℕ} (h : b.handlePlayActivity now = some b') :
    Plays b b' .waitActivityResp := by
  obtain ⟨hcore, hreg, hpos⟩ := playCurrent_plays h
  exact ⟨hcore, hreg, hpos⟩

theorem handleIncorrectAnsTry1_plays {b b' : Box} {now : ℕ}
    (h : b.handleIncorrectAnsTry1 now = some b') : Plays b b' .waitQnaResp := by
  obtain ⟨b₁, hplay, rfl⟩ := Option.map_eq_some_iff.1 h
  obtain ⟨hcore, hreg, hpos⟩ := playAnswer_plays hplay
  exact ⟨hcore, hreg, hpos⟩

theorem handleCorrectAns_plays {b b' : Box} {now : ℕ} (h : b.handleCorrectAns now = some b') :
    Plays b b' .playNext := by
  obtain ⟨b₁, hplay, rfl⟩ := Option.map_eq_some_iff.1 h
  obtain ⟨hcore, hreg, hpos⟩ := playAnswer_plays hplay
  exact ⟨hcore, hreg, hpos⟩

/-! ## The states that run the WiFi, the server requests and the download -/

/-- What the box remembers of the toy it had before. -/
structure Memory where
  toyRemovalTick : UInt32
  previousToy : Bytes
  toyPlacedOnce : Bool

def memory (b : Box) : Memory := ⟨b.toyRemovalTick, b.previousToy, b.toyPlacedOnce⟩

/-- A step that touches neither the toy, its playlist and its position nor the player and the
memory of the toy before. -/
structure Inert (b b' : Box) : Prop where
  core : b'.core = b.core
  commands : b'.commands = b.commands
  state : b'.state = b.state
  goBack : b'.playerGoBackToState = b.playerGoBackToState
  memory : b'.memory = b.memory

theorem Inert.trans {b₁ b₂ b₃ : Box} (h : Inert b₁ b₂) (h' : Inert b₂ b₃) : Inert b₁ b₃ :=
  ⟨h'.core.trans h.core, h'.commands.trans h.commands, h'.state.trans h.state,
    h'.goBack.trans h.goBack, h'.memory.trans h.memory⟩

theorem Inert.position {b b' : Box} (h : Inert b b') : b'.position = b.position := by
  unfold Box.position
  rw [h.state, h.goBack]

theorem Inert.setWifi (b : Box) (w : Wifi) : Inert b (b.setWifi w) := ⟨rfl, rfl, rfl, rfl, rfl⟩

theorem writeUserID_inert (b : Box) (userIndex : ℕ) (user : Bytes) :
    Inert b (b.writeUserID userIndex user) := by
  unfold writeUserID
  dsimp only
  split
  · exact ⟨rfl, rfl, rfl, rfl, rfl⟩
  · exact ⟨rfl, rfl, rfl, rfl, rfl⟩

/-- An answer that parses writes one of the slots, or nothing. -/
theorem registerUser_writes (b : Box) (json : Json) (body : Bytes) :
    b.registerUser json body = b ∨
      ∃ userIndex user, (userIndex = 1 ∨ userIndex = 2) ∧ b.registerUser json body =
        { b.writeUserID userIndex user with
          registered := ⟨userIndex, user, body⟩ :: b.registered } := by
  unfold registerUser
  dsimp only
  split_ifs
  · exact .inr ⟨1, b.initUser1, .inl rfl, rfl⟩
  · exact .inl rfl
  · exact .inr ⟨2, b.initUser2, .inr rfl, rfl⟩
  · exact .inl rfl
  · exact .inl rfl

theorem registerUser_inert (b : Box) (json : Json) (body : Bytes) :
    Inert b (b.registerUser json body) := by
  rcases registerUser_writes b json body with h | ⟨i, user, -, h⟩
  · rw [h]
    exact ⟨rfl, rfl, rfl, rfl, rfl⟩
  · rw [h]
    obtain ⟨hcore, hcmd, hstate, hback, hmemory⟩ := writeUserID_inert b i user
    exact ⟨hcore, hcmd, hstate, hback, hmemory⟩

/-! ## A verification with the server -/

/-- What `memcpy` of one chunk leaves in the buffer. -/
def overlay (buff data : Bytes) : Bytes := data ++ buff.drop data.length

/-- The box after the answer: the chunks were copied to the start of its buffer, one over the other. -/
def received (b : Box) (x : Exchange) : Box :=
  { b with outputBuff := x.chunks.foldl overlay b.outputBuff }

theorem perform_initializerCallback (b : Box) (x : Exchange) :
    initializerCallback.perform (fun b _ => b) b x = (x.ok, b.received x) := by
  have hevents : ∀ (es : List HttpEvent) (b : Box),
      es.foldl (initializerCallback.handle fun b _ => b) b =
        { b with outputBuff := (es.filterMap Exchange.chunk?).foldl overlay b.outputBuff } := by
    intro es
    induction es with
    | nil => exact fun _ => rfl
    | cons e es ih =>
        intro b
        rw [List.foldl_cons, ih]
        cases e <;> rfl
  have hafter : ∀ (uids : List Uid) (b : Box), uids.foldl (fun b _ => b) b = b := by
    intro uids
    induction uids with
    | nil => exact fun _ => rfl
    | cons uid uids ih => exact ih
  unfold Callback.perform
  rw [hafter]
  refine congrArg (Prod.mk x.ok) (Eq.trans ?_ (hevents x.events b))
  cases x.ending <;> rfl

/-- The box once it has a token, or has asked for one. -/
def withToken (b : Box) (s : VerifyScript) : Box :=
  if b.dl.validTokenFlag then b
  else { b with dl := b.dl.new.downloadToken s.tokenConnect s.token.atomic s.errorTail }

/-- Asking for the token is the downloader's. -/
theorem withToken_eq (b : Box) (s : VerifyScript) : ∃ dl, b.withToken s = { b with dl := dl } := by
  unfold withToken
  split
  · exact ⟨b.dl, rfl⟩
  · exact ⟨_, rfl⟩

/-- The box once the verification has asked for its connection, and once it has given it back. -/
def online (b : Box) (s : VerifyScript) : Box := b.setWifi (b.dl.wifi.connect s.connect).2

def release (b : Box) (s : VerifyScript) : Box := b.setWifi (b.dl.wifi.disconnect s.disconnect).2

theorem handleInitWifiCheck_keeps (b : Box) (env : HandlerEnv) :
    Keeps b (b.handleInitWifiCheck env) ∧
      (b.handleInitWifiCheck env).position ∈ [.initUserIdCheck, .idle] := by
  unfold handleInitWifiCheck
  dsimp only
  split
  · exact ⟨(Keeps.setWifi b _).trans (.setState _ _ _),
      by rw [position_setState (by simp)]; simp⟩
  · exact ⟨(Keeps.setWifi b _).trans (.setState _ _ _),
      by rw [position_setState (by simp)]; simp⟩

section

variable [CJson]

/-- A step in `SYS_INIT`. -/
theorem handler_init {b : Box} (h : b.state = .init) (env : HandlerEnv) :
    b.handler env = some (b.handleInit env.now) := by
  unfold handler
  rw [h]

/-- A step in `SYS_IDLE`. -/
theorem handler_idle {b : Box} (h : b.state = .idle) (env : HandlerEnv) :
    b.handler env = some (b.handleIdle env.now) := by
  unfold handler
  rw [h]

/-- A step in `SYS_WAIT_FOR_PLAYER`. -/
theorem handler_waitForPlayer {b : Box} (h : b.state = .waitForPlayer) (env : HandlerEnv) :
    b.handler env = some (b.handleWaitForPlayer env) := by
  unfold handler
  rw [h]

/-- A step in `SYS_WAIT_ACTIVITY_RESP`. -/
theorem handler_waitActivityResp {b : Box} (h : b.state = .waitActivityResp) (env : HandlerEnv) :
    b.handler env = some (b.handleWaitActivityResp env.now) := by
  unfold handler
  rw [h]

theorem handleGetDirection_spec (b : Box) (now : ℕ) :
    (Keeps b (b.handleGetDirection now) ∧
        (b.handleGetDirection now).position ∈ [.error, .downloadWifiConn]) ∨
      ∃ content, Keeps (b.loadPlaylist content) (b.handleGetDirection now) ∧
        (b.handleGetDirection now).position ∈ [.readAudioHeader, .shutMeDown] := by
  unfold handleGetDirection
  split
  · exact .inl ⟨.setState b now _, by rw [position_setState (by simp)]; simp⟩
  · split
    · next content _ =>
        obtain ⟨hkeeps, hpos⟩ := readOrShutDown_keeps (b.loadPlaylist content) now
        obtain ⟨htheme, hthemepos⟩ :=
          showTheme_keeps ((b.loadPlaylist content).readOrShutDown now)
        exact .inr ⟨content, hkeeps.trans htheme, by rw [hthemepos]; exact hpos⟩
    · obtain ⟨htheme, hthemepos⟩ := showTheme_keeps (b.setState now .downloadWifiConn)
      exact .inl ⟨(Keeps.setState b now _).trans htheme,
        by rw [hthemepos, position_setState (by simp)]; simp⟩

/-- The verification once the token is there, or has been asked for. -/
def verifyWithToken (b : Box) (s : VerifyScript) : Bool × Box :=
  let r := b.dl.wifi.connect s.connect
  let b := b.setWifi r.2
  let release (b : Box) := b.setWifi (b.dl.wifi.disconnect s.disconnect).2
  if r.1 = 0 then
    let r := initializerCallback.perform (fun b _ => b) b s.answer
    if r.1 then
      match CJson.parse (text r.2.outputBuff) with
      | none => (false, r.2)
      | some json => (true, release (r.2.registerUser json s.answer.body))
    else (false, release r.2)
  else (true, release b)

theorem verifyUserIdWithServer_eq (b : Box) (s : VerifyScript) :
    b.verifyUserIdWithServer s = (b.withToken s).verifyWithToken s := rfl

/-- How a verification ends: without a connection, without an answer, with one that does not parse, which
leaves the connection taken up, or with one that does. -/
inductive VerifyEnd (b : Box) (s : VerifyScript) : Bool × Box → Prop where
  | offline : (b.dl.wifi.connect s.connect).1 ≠ 0 → VerifyEnd b s (true, (b.online s).release s)
  | lost : (b.dl.wifi.connect s.connect).1 = 0 → ¬ s.answer.ok = true →
      VerifyEnd b s (false, ((b.online s).received s.answer).release s)
  | invalid : (b.dl.wifi.connect s.connect).1 = 0 → s.answer.ok = true →
      CJson.parse (text (b.received s.answer).outputBuff) = none →
      VerifyEnd b s (false, (b.online s).received s.answer)
  | parsed (json : Json) : (b.dl.wifi.connect s.connect).1 = 0 → s.answer.ok = true →
      CJson.parse (text (b.received s.answer).outputBuff) = some json →
      VerifyEnd b s (true, (((b.online s).received s.answer).registerUser json s.answer.body).release s)

theorem verifyWithToken_end (b : Box) (s : VerifyScript) : VerifyEnd b s (b.verifyWithToken s) := by
  unfold verifyWithToken
  dsimp only
  rw [perform_initializerCallback]
  split_ifs with honline hok
  · dsimp only
    cases hparse : CJson.parse
        (text ((b.setWifi (b.dl.wifi.connect s.connect).2).received s.answer).outputBuff) with
    | none => exact .invalid honline hok hparse
    | some json => exact .parsed json honline hok hparse
  · exact .lost honline hok
  · exact .offline honline

/-- What asking for the token, the connection, the answer, `registerUser` and giving the connection
back keep, the verification keeps. -/
theorem verifyUserIdWithServer_induction {b : Box} {s : VerifyScript} {P : Box → Prop}
    (htoken : P (b.withToken s)) (hwifi : ∀ b : Box, P b → P (b.online s) ∧ P (b.release s))
    (hanswer : ∀ b : Box, P b → P (b.received s.answer))
    (hregister : ∀ (b : Box) (json : Json), P b → P (b.registerUser json s.answer.body)) :
    P (b.verifyUserIdWithServer s).2 := by
  have honline := (hwifi _ htoken).1
  have hreceived := hanswer _ honline
  have hend := verifyWithToken_end (b.withToken s) s
  rw [verifyUserIdWithServer_eq]
  generalize (b.withToken s).verifyWithToken s = r at hend ⊢
  cases hend with
  | offline _ => exact (hwifi _ honline).2
  | lost _ _ => exact (hwifi _ hreceived).2
  | invalid _ _ _ => exact hreceived
  | parsed json _ _ _ => exact (hwifi _ (hregister _ json hreceived)).2

theorem verifyUserIdWithServer_inert (b : Box) (s : VerifyScript) :
    Inert b (b.verifyUserIdWithServer s).2 := by
  refine verifyUserIdWithServer_induction ?_ ?_ ?_ ?_
  · obtain ⟨dl, h⟩ := withToken_eq b s
    rw [h]
    exact ⟨rfl, rfl, rfl, rfl, rfl⟩
  · exact fun b' h => ⟨h.trans (.setWifi _ _), h.trans (.setWifi _ _)⟩
  · exact fun b' h => h.trans ⟨rfl, rfl, rfl, rfl, rfl⟩
  · exact fun b' json h => h.trans (registerUser_inert b' json _)

theorem handleInitUserIdCheck_spec (b : Box) (env : HandlerEnv) :
    (b.handleInitUserIdCheck env).core = b.core ∧ Quiet b (b.handleInitUserIdCheck env) ∧
      (b.handleInitUserIdCheck env).position ∈ [b.position, .idle] := by
  have hinert := verifyUserIdWithServer_inert b env.verify
  unfold handleInitUserIdCheck
  dsimp only
  split
  · exact ⟨hinert.core, .of_eq hinert.commands, by rw [position_setState (by simp)]; simp⟩
  · exact ⟨hinert.core, .of_eq hinert.commands, by rw [hinert.position]; simp⟩

theorem handleDownloadToy_keeps (b : Box) (env : HandlerEnv) :
    Keeps b (b.handleDownloadToy env) ∧ (b.handleDownloadToy env).position = .idle :=
  ⟨.of_eq rfl rfl rfl, position_setState (by simp)⟩

/-! ## The transitions of the handler -/

/-- The positions a step in this state leads to. In `SYS_WAIT_FOR_PLAYER` the return state decides. -/
def nextPositions : SystemState → List SystemState
  | .post => [.init, .shutMeDown]
  | .init => [.idle]
  | .idle => [.idle, .init, .shutMeDown, .toyDetected]
  | .initWifiCheck => [.initUserIdCheck, .idle]
  | .initUserIdCheck => [.initUserIdCheck, .idle]
  | .waitForPlayer => []
  | .toyDetected => [.resumePlaying, .playToy, .downloadWifiConn]
  | .playToy => [.getDirection]
  | .error => [.error]
  | .getDirection => [.error, .downloadWifiConn, .readAudioHeader, .shutMeDown]
  | .readAudioHeader => [.playActivity, .playQna, .playNormalAudio]
  | .playNext => [.playingComplete, .readAudioHeader, .shutMeDown]
  | .playPrevious => [.readAudioHeader]
  | .resumePlaying => [.playNext]
  | .playNormalAudio => [.playNext]
  | .playQna => [.waitQnaResp]
  | .waitQnaResp => [.waitQnaResp, .incorrectAnsTry1, .correctAns]
  | .incorrectAnsTry1 => [.waitQnaResp]
  | .correctAns => [.playNext]
  | .playActivity => [.waitActivityResp]
  | .waitActivityResp => [.waitActivityResp, .playNext]
  | .playingComplete => [.playToy]
  | .downloadWifiConn => [.downloadWifiConn, .downloadToy, .wifiConnectErr, .wifiCredMissingErr]
  | .downloadToy => [.idle]
  | .wifiConnectErr => [.idle]
  | .wifiCredMissingErr => [.idle]
  | .shutMeDown => [.turnOff]
  | .turnOff => [.turnOff]

/-- **The transitions**, but those at the end of an audio. -/
theorem handler_position {b b' : Box} {env : HandlerEnv} (h : b.handler env = some b')
    (hwait : b.state ≠ .waitForPlayer) : b'.position ∈ nextPositions b.state := by
  have hat := position_of_state rfl hwait
  unfold handler at h
  cases hstate : b.state <;> simp only [hstate] at h hat hwait
  case waitForPlayer => exact absurd rfl hwait
  case readAudioHeader => exact (handleReadAudioHeader_keeps h).2
  case playNormalAudio => exact List.mem_singleton.2 (playCurrent_plays h).position
  case playQna => exact List.mem_singleton.2 (handlePlayQna_plays h).position
  case playActivity => exact List.mem_singleton.2 (handlePlayActivity_plays h).position
  case incorrectAnsTry1 => exact List.mem_singleton.2 (handleIncorrectAnsTry1_plays h).position
  case correctAns => exact List.mem_singleton.2 (handleCorrectAns_plays h).position
  -- the states that always step
  all_goals obtain rfl := Option.some.inj h
  case post => exact (handlePost_keeps b env.now).2
  case init => exact List.mem_singleton.2 (handleInit_keeps b env.now).2
  case idle =>
    rcases (handleIdle_keeps b env.now).2 with hpos | ⟨hpos, -⟩
    · rw [hat] at hpos
      exact List.mem_append_left [.toyDetected] hpos
    · rw [hpos]
      decide
  case initWifiCheck => exact (handleInitWifiCheck_keeps b env).2
  case initUserIdCheck =>
    have hpos := (handleInitUserIdCheck_spec b env).2.2
    rwa [hat] at hpos
  case toyDetected =>
    rw [(handleToyDetected_keeps b env.now).2]
    split_ifs <;> decide
  case getDirection =>
    rcases handleGetDirection_spec b env.now with ⟨-, hpos⟩ | ⟨content, -, hpos⟩
    · exact List.mem_append_left [.readAudioHeader, .shutMeDown] hpos
    · exact List.mem_append_right [.error, .downloadWifiConn] hpos
  case playNext =>
    rcases (handlePlayNext_keeps b env.now).2 with hpos | ⟨-, hpos⟩
    · rw [hpos]
      decide
    · exact List.mem_cons_of_mem _ hpos
  case playPrevious =>
    obtain ⟨i, -, hpos⟩ := handlePlayPrevious_keeps b env.now
    exact List.mem_singleton.2 hpos
  case resumePlaying => exact List.mem_singleton.2 (resumePlaying_keeps b env.now).2
  case waitQnaResp =>
    have hpos := (handleWaitQnaResp_keeps b env.now).2
    rwa [hat] at hpos
  case waitActivityResp =>
    have hpos := (handleWaitActivityResp_keeps b env.now).2
    rwa [hat] at hpos
  case downloadWifiConn =>
    have hpos := (handleDownloadWifiConn_keeps b env).2
    rwa [hat] at hpos
  case downloadToy => exact List.mem_singleton.2 (handleDownloadToy_keeps b env).2
  case wifiConnectErr => exact List.mem_singleton.2 (position_toneThen (by simp))
  case wifiCredMissingErr => exact List.mem_singleton.2 (position_toneThen (by simp))
  case shutMeDown => exact List.mem_singleton.2 (handleShutMeDown_keeps b env.now).2
  case error => exact List.mem_singleton.2 hat
  case turnOff => exact List.mem_singleton.2 (position_of_state rfl (by simp))
  all_goals exact List.mem_singleton.2 (position_setState (by simp))

end

end Box

end Cubbies
