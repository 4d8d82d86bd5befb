import Cubbies.Proofs.TaskSteps

set_option autoImplicit false

/-! # Setting the return state

`SYS_WAIT_FOR_PLAYER` goes on in `playerGoBackToState`, which every place that enters it has to set
first. That they do is shown by running the same step with another value in the variable: the box that
waits afterwards is the same one (`Alike`, `handler_sets`). -/

namespace Cubbies

open CString

namespace Box

/-- The states the box returns to from `SYS_WAIT_FOR_PLAYER`. -/
def returnStates : List SystemState :=
  [.idle, .toyDetected, .downloadToy, .playNext, .waitQnaResp, .waitActivityResp, .shutMeDown,
    .turnOff]

/-- The box with another value in `playerGoBackToState`. -/
def withReturn (b : Box) (s : SystemState) : Box := { b with playerGoBackToState := s }

/-! ## Setting the return state -/

/-- `b₁` is `b₂` but for the return state, and is `b₂` if that waits, for a state it may return to. -/
structure Alike (b₁ b₂ : Box) : Prop where
  same : b₁ = b₂ ∨ (b₂.state ≠ .waitForPlayer ∧ ∃ s, b₁ = b₂.withReturn s)
  returns : b₂.state = .waitForPlayer → b₂.playerGoBackToState ∈ returnStates

theorem Alike.of_withReturn {b : Box} (hstate : b.state ≠ .waitForPlayer) (s : SystemState) :
    Alike (b.withReturn s) b := ⟨.inr ⟨hstate, s, rfl⟩, fun h => absurd h hstate⟩

/-- A step that leaves state and return state alone, and does not read the return state. -/
theorem Alike.map {b₁ b₂ : Box} (h : Alike b₁ b₂) (f : Box → Box)
    (hstate : (f b₂).state = b₂.state)
    (hback : (f b₂).playerGoBackToState = b₂.playerGoBackToState)
    (hcomm : ∀ s, f (b₂.withReturn s) = (f b₂).withReturn s) : Alike (f b₁) (f b₂) := by
  refine ⟨?_, by rw [hstate, hback]; exact h.returns⟩
  rcases h.same with rfl | ⟨hne, s, rfl⟩
  · exact .inl rfl
  · exact .inr ⟨by rwa [hstate], s, hcomm s⟩

theorem Alike.setState {b₁ b₂ : Box} (h : Alike b₁ b₂) (now : ℕ) {s : SystemState}
    (hs : s ≠ .waitForPlayer) : Alike (b₁.setState now s) (b₂.setState now s) := by
  refine ⟨?_, fun hwait => absurd hwait hs⟩
  rcases h.same with rfl | ⟨-, back, rfl⟩
  · exact .inl rfl
  · exact .inr ⟨hs, back, rfl⟩

theorem playThen_withReturn (b : Box) (s : SystemState) (now : ℕ) (location : Bytes)
    (goBack : SystemState) :
    (b.withReturn s).playThen now location goBack = b.playThen now location goBack := by
  have hread : (b.withReturn s).readVolume = b.readVolume.withReturn s := by
    have hcard : (b.withReturn s).dl = b.dl := rfl
    unfold readVolume
    rw [hcard]
    split <;> rfl
  unfold playThen play
  rw [hread]
  rfl

theorem Alike.playThen {b₁ b₂ : Box} (h : Alike b₁ b₂) (now : ℕ) (location : Bytes)
    {goBack : SystemState} (hback : goBack ∈ returnStates) :
    Alike (b₁.playThen now location goBack) (b₂.playThen now location goBack) := by
  refine ⟨.inl ?_, fun _ => hback⟩
  rcases h.same with rfl | ⟨-, s, rfl⟩
  · rfl
  · exact playThen_withReturn b₂ s now location goBack

theorem Alike.toneThen {b₁ b₂ : Box} (h : Alike b₁ b₂) (now : ℕ) (tone : Bytes) {s : SystemState}
    (hs : s ≠ .waitForPlayer) (hback : s ∈ returnStates) :
    Alike (b₁.toneThen now tone s) (b₂.toneThen now tone s) := by
  have hcard : b₁.dl = b₂.dl := by
    rcases h.same with rfl | ⟨-, back, rfl⟩ <;> rfl
  unfold Box.toneThen hasFile
  rw [hcard]
  split
  · exact h.playThen now tone hback
  · exact h.setState now hs

theorem Alike.batteryCheck {b₁ b₂ c₁ c₂ f₁ f₂ : Box} (h : Alike b₁ b₂) (now : ℕ)
    (hcharging : Alike c₁ c₂) (hfull : Alike f₁ f₂) :
    Alike (b₁.batteryCheck now c₁ f₁) (b₂.batteryCheck now c₂ f₂) := by
  have hlevel : b₁.batteryLevel = b₂.batteryLevel ∧ b₁.chargingState = b₂.chargingState := by
    rcases h.same with rfl | ⟨-, back, rfl⟩ <;> exact ⟨rfl, rfl⟩
  unfold Box.batteryCheck
  rw [hlevel.1, hlevel.2]
  split_ifs
  · exact hcharging
  · exact h.toneThen now _ (by simp) (by decide)
  · exact h.setState now (by simp)
  · exact hfull

/-! ## The states of the handler that may enter `SYS_WAIT_FOR_PLAYER` -/

theorem handlePost_alike {b₁ b₂ : Box} (h : Alike b₁ b₂) (now : ℕ) :
    Alike (b₁.handlePost now) (b₂.handlePost now) :=
  h.batteryCheck now (h.setState now (by simp)) (h.setState now (by simp))

theorem Alike.setEarColors {b₁ b₂ : Box} (h : Alike b₁ b₂) (l r : Rgb) :
    Alike (b₁.setEarColors l r) (b₂.setEarColors l r) :=
  h.map (·.setEarColors l r) rfl rfl fun _ => rfl

theorem handleInit_alike {b₁ b₂ : Box} (h : Alike b₁ b₂) (now : ℕ) :
    Alike (b₁.handleInit now) (b₂.handleInit now) :=
  (h.setEarColors _ _).toneThen now _ (by simp) (by decide)

theorem idleToy_alike {b₁ b₂ : Box} (h : Alike b₁ b₂) (now : ℕ) :
    Alike (b₁.idleToy now) (b₂.idleToy now) := by
  have hsame : b₁.toyPresenseFlag = b₂.toyPresenseFlag ∧ b₁.toy = b₂.toy ∧
      b₁.previousToy = b₂.previousToy := by
    rcases h.same with rfl | ⟨-, back, rfl⟩ <;> exact ⟨rfl, rfl, rfl⟩
  have hplaced : Alike { b₁ with toyPlacedOnce := true } { b₂ with toyPlacedOnce := true } :=
    h.map (fun b => { b with toyPlacedOnce := true }) rfl rfl fun _ => rfl
  unfold idleToy
  by_cases hpresent : b₂.toyPresenseFlag = true
  · rw [if_pos hpresent, if_pos (hsame.1.trans hpresent)]
    by_cases hnew : b₂.toy ≠ b₂.previousToy
    · have hnew₁ : b₁.toy ≠ b₁.previousToy := by rwa [hsame.2.1, hsame.2.2]
      dsimp only
      rw [if_pos hnew, if_pos hnew₁]
      exact hplaced.toneThen now _ (by simp) (by decide)
    · have hnew₁ : ¬ b₁.toy ≠ b₁.previousToy := by rwa [hsame.2.1, hsame.2.2]
      dsimp only
      rw [if_neg hnew, if_neg hnew₁]
      exact hplaced.setState now (by simp)
  · rw [if_neg hpresent, if_neg (hsame.1 ▸ hpresent)]
    exact h

theorem idleRemoval_alike {b₁ b₂ : Box} (h : Alike b₁ b₂) (now : ℕ) :
    Alike (b₁.idleRemoval now) (b₂.idleRemoval now) := by
  refine h.map (·.idleRemoval now) ?_ ?_ fun s => ?_
  · rw [idleRemoval_eq]
    split <;> rfl
  · rw [idleRemoval_eq]
    split <;> rfl
  · have htick : (b₂.withReturn s).removalTick now = b₂.removalTick now := rfl
    have hgone : (b₂.withReturn s).goneTooLong now = b₂.goneTooLong now := rfl
    rw [idleRemoval_eq, idleRemoval_eq, htick, hgone]
    generalize b₂.removalTick now = tick
    split <;> rfl

theorem handleIdle_alike {b₁ b₂ : Box} (h : Alike b₁ b₂) (now : ℕ) :
    Alike (b₁.handleIdle now) (b₂.handleIdle now) := by
  have htick : b₁.idleSinceTick = b₂.idleSinceTick := by
    rcases h.same with rfl | ⟨-, back, rfl⟩ <;> rfl
  unfold handleIdle
  rw [htick]
  split
  · exact h.setState now (by simp)
  · have hbattery := h.batteryCheck now (h.setState now (s := .init) (by simp)) h
    exact idleRemoval_alike (idleToy_alike hbattery now) now

theorem readOrShutDown_alike {b₁ b₂ : Box} (h : Alike b₁ b₂) (now : ℕ) :
    Alike (b₁.readOrShutDown now) (b₂.readOrShutDown now) :=
  h.batteryCheck now (h.setState now (by simp)) (h.setState now (by simp))

theorem advance_alike {b₁ b₂ : Box} (h : Alike b₁ b₂) : Alike b₁.advance b₂.advance := by
  refine h.map (·.advance) ?_ ?_ fun s => ?_
  · unfold advance skipCurrentAudio
    split <;> rfl
  · unfold advance skipCurrentAudio
    split <;> rfl
  · have hwriter : (b₂.withReturn s).writer = b₂.writer := rfl
    unfold advance skipCurrentAudio
    rw [hwriter]
    split <;> rfl

theorem handlePlayNext_alike {b₁ b₂ : Box} (h : Alike b₁ b₂) (now : ℕ) :
    Alike (b₁.handlePlayNext now) (b₂.handlePlayNext now) := by
  have hadvance := advance_alike h
  have hsize : b₁.advance.playlistSize = b₂.advance.playlistSize ∧
      b₁.advance.indexx = b₂.advance.indexx := by
    rcases hadvance.same with heq | ⟨-, back, heq⟩
    · rw [heq]
      exact ⟨rfl, rfl⟩
    · rw [heq]
      exact ⟨rfl, rfl⟩
  unfold handlePlayNext
  dsimp only
  rw [hsize.1, hsize.2]
  split
  · exact hadvance.setState now (by simp)
  · exact readOrShutDown_alike hadvance now

theorem lightTheme_alike {b₁ b₂ : Box} (h : Alike b₁ b₂) (c : Rgb) :
    Alike (b₁.lightTheme c) (b₂.lightTheme c) :=
  h.map (·.lightTheme c) rfl rfl fun _ => rfl

theorem showTheme_alike {b₁ b₂ : Box} (h : Alike b₁ b₂) : Alike b₁.showTheme b₂.showTheme := by
  have hsame : b₁.dl = b₂.dl ∧ b₁.toy = b₂.toy ∧ b₁.themeColor = b₂.themeColor := by
    rcases h.same with rfl | ⟨-, back, rfl⟩ <;> exact ⟨rfl, rfl, rfl⟩
  unfold showTheme
  rw [hsame.1, hsame.2.1, hsame.2.2]
  split
  · split
    · exact h
    · exact lightTheme_alike h _
  · exact h

theorem handleShutMeDown_alike {b₁ b₂ : Box} (h : Alike b₁ b₂) (now : ℕ) :
    Alike (b₁.handleShutMeDown now) (b₂.handleShutMeDown now) := by
  have hred : Alike (b₁.setLandingPadColor ⟨255, 0, 0⟩) (b₂.setLandingPadColor ⟨255, 0, 0⟩) :=
    h.map (·.setLandingPadColor ⟨255, 0, 0⟩) rfl rfl fun _ => rfl
  exact (hred.setEarColors _ _).toneThen now _ (by simp) (by decide)

theorem handleDownloadWifiConn_alike {b₁ b₂ : Box} (h : Alike b₁ b₂) (env : HandlerEnv) :
    Alike (b₁.handleDownloadWifiConn env) (b₂.handleDownloadWifiConn env) := by
  have hwifi : b₁.dl.wifi = b₂.dl.wifi := by
    rcases h.same with rfl | ⟨-, back, rfl⟩ <;> rfl
  have hset : ∀ w, Alike (b₁.setWifi w) (b₂.setWifi w) := by
    intro w
    exact h.map (·.setWifi w) rfl rfl fun _ => rfl
  unfold handleDownloadWifiConn
  dsimp only
  rw [hwifi]
  split_ifs
  · exact (hset _).toneThen _ _ (by simp) (by decide)
  · exact (hset _).setState _ (by simp)
  · exact (hset _).setState _ (by simp)
  · exact hset _

/-- The audio of the playlist that is played, whatever was in the return state before. -/
theorem playCurrent_withReturn (b : Box) (s : SystemState) (now : ℕ) (goBack : SystemState) :
    (b.withReturn s).playCurrent now goBack = b.playCurrent now goBack := by
  have hplay : ∀ location, { b.withReturn s with audioIndex := b.currentIndex }.playThen now
      location goBack = { b with audioIndex := b.currentIndex }.playThen now location goBack := by
    intro location
    exact playThen_withReturn { b with audioIndex := b.currentIndex } s now location goBack
  have hindex : (b.withReturn s).currentIndex = b.currentIndex := rfl
  unfold playCurrent
  simp only [hindex, hplay]
  rfl

theorem playAnswer_withReturn (b : Box) (s : SystemState) (now : ℕ) (suffix : Bytes)
    (goBack : SystemState) :
    (b.withReturn s).playAnswer now suffix goBack = b.playAnswer now suffix goBack := by
  have hplay : ∀ location, (b.withReturn s).playThen now location goBack =
      b.playThen now location goBack := fun location => playThen_withReturn b s now location goBack
  unfold playAnswer
  simp only [hplay]
  rfl

theorem handlePlayNormalAudio_withReturn (b : Box) (s : SystemState) (now : ℕ) :
    (b.withReturn s).handlePlayNormalAudio now = b.handlePlayNormalAudio now :=
  playCurrent_withReturn b s now _

theorem handlePlayQna_withReturn (b : Box) (s : SystemState) (now : ℕ) :
    (b.withReturn s).handlePlayQna now = b.handlePlayQna now := by
  have hplay := playCurrent_withReturn (awaitResponse (setEarColors { b with qnaAttempt := 1 }
    (rgbOf b.headerData.L) (rgbOf b.headerData.R)) now) s now .waitQnaResp
  exact hplay

theorem handlePlayActivity_withReturn (b : Box) (s : SystemState) (now : ℕ) :
    (b.withReturn s).handlePlayActivity now = b.handlePlayActivity now :=
  playCurrent_withReturn ((b.setEarColors ⟨0, 255, 0⟩ ⟨0, 255, 0⟩).awaitResponse now) s now _

theorem handleIncorrectAnsTry1_withReturn (b : Box) (s : SystemState) (now : ℕ) :
    (b.withReturn s).handleIncorrectAnsTry1 now = b.handleIncorrectAnsTry1 now :=
  congrArg (Option.map _) (playAnswer_withReturn (b.awaitResponse now) s now _ _)

theorem handleCorrectAns_withReturn (b : Box) (s : SystemState) (now : ℕ) :
    (b.withReturn s).handleCorrectAns now = b.handleCorrectAns now :=
  congrArg (Option.map _) (playAnswer_withReturn b s now _ _)

/-- Resuming a paused audio sets the return state as well. -/
theorem resumePlaying_alike (b : Box) (s : SystemState) (now : ℕ) :
    Alike ((b.withReturn s).resumePlaying now) (b.resumePlaying now) := by
  have hwriter : (b.withReturn s).writer = b.writer := rfl
  unfold resumePlaying
  rw [hwriter]
  split
  · have hnext : SystemState.playNext ∈ returnStates := by decide
    exact ⟨.inl rfl, fun _ => hnext⟩
  · exact ⟨.inr ⟨by simp [Box.setState], s, rfl⟩, fun h => by cases h⟩

section

variable [CJson]

theorem handleGetDirection_alike {b₁ b₂ : Box} (h : Alike b₁ b₂) (now : ℕ) :
    Alike (b₁.handleGetDirection now) (b₂.handleGetDirection now) := by
  have hsame : b₁.turnTable = b₂.turnTable ∧ b₁.dl = b₂.dl ∧ b₁.toy = b₂.toy := by
    rcases h.same with rfl | ⟨-, back, rfl⟩ <;> exact ⟨rfl, rfl, rfl⟩
  unfold handleGetDirection
  rw [hsame.1, hsame.2.1, hsame.2.2]
  split
  · exact h.setState now (by simp)
  · split
    · next content _ =>
        have hload : Alike (b₁.loadPlaylist content) (b₂.loadPlaylist content) :=
          h.map (·.loadPlaylist content) rfl rfl fun _ => rfl
        exact showTheme_alike (readOrShutDown_alike hload now)
    · exact showTheme_alike (h.setState now (by simp))

/-! ## Steps that do not enter `SYS_WAIT_FOR_PLAYER` -/

theorem handleInitUserIdCheck_state (b : Box) (env : HandlerEnv) :
    (b.handleInitUserIdCheck env).state ∈ [b.state, .idle] := by
  have hinert := verifyUserIdWithServer_inert b env.verify
  unfold handleInitUserIdCheck
  dsimp only
  split
  · exact List.mem_cons_of_mem _ List.mem_cons_self
  · rw [hinert.state]
    exact List.mem_cons_self

omit [CJson] in
theorem handleToyDetected_state (b : Box) (now : ℕ) :
    (b.handleToyDetected now).state ∈ [.resumePlaying, .playToy, .downloadWifiConn] := by
  unfold handleToyDetected
  dsimp only
  split_ifs <;> simp [setState]

omit [CJson] in
theorem handleWaitQnaResp_state (b : Box) (now : ℕ) :
    (b.handleWaitQnaResp now).state ∈ [b.state, .incorrectAnsTry1, .correctAns] := by
  rcases handleWaitQnaResp_cases b now with h | ⟨s, hs, h⟩
  · rw [h]
    exact List.mem_cons_self
  · rw [h]
    exact List.mem_cons_of_mem _ hs

/-- What is known of a step that ends in `SYS_WAIT_FOR_PLAYER`: the state it returns to is one it may
return to, and was set by the step. -/
def Sets (f : Box → Option Box) (b b' : Box) : Prop :=
  b'.playerGoBackToState ∈ returnStates ∧ ∀ s, f (b.withReturn s) = some b'

omit [CJson] in
theorem Alike.sets {b : Box} (f : Box → Box) (h : ∀ s, Alike (f (b.withReturn s)) (f b))
    (hwait : (f b).state = .waitForPlayer) : Sets (fun b => some (f b)) b (f b) := by
  refine ⟨(h b.state).returns hwait, fun s => ?_⟩
  rcases (h s).same with heq | ⟨hne, -⟩
  · exact congrArg some heq
  · exact absurd hwait hne

omit [CJson] in
theorem Plays.sets {b b' : Box} (f : Box → Option Box) {goBack : SystemState}
    (h : Plays b b' goBack) (hf : f b = some b') (hsame : ∀ s, f (b.withReturn s) = f b)
    (hback : goBack ∈ returnStates) (hwait : b'.state = .waitForPlayer) : Sets f b b' := by
  refine ⟨?_, fun s => (hsame s).trans hf⟩
  rw [← position_of_wait hwait, h.position]
  exact hback

theorem handler_sets {b b' : Box} {env : HandlerEnv} (h : b.handler env = some b')
    (hstate : b.state ≠ .waitForPlayer) (hwait : b'.state = .waitForPlayer) :
    Sets (fun b => b.handler env) b b' := by
  have halike := Alike.of_withReturn hstate
  have hsame : ∀ s, (b.withReturn s).state = b.state := fun _ => rfl
  unfold Sets
  unfold handler at h ⊢
  cases hat : b.state <;> simp only [hat, hsame] at h ⊢
  case post =>
    obtain rfl := Option.some.inj h
    exact Alike.sets (·.handlePost env.now) (fun s => handlePost_alike (halike s) env.now) hwait
  case init =>
    obtain rfl := Option.some.inj h
    exact Alike.sets (·.handleInit env.now) (fun s => handleInit_alike (halike s) env.now) hwait
  case idle =>
    obtain rfl := Option.some.inj h
    exact Alike.sets (·.handleIdle env.now) (fun s => handleIdle_alike (halike s) env.now) hwait
  case initWifiCheck =>
    obtain rfl := Option.some.inj h
    unfold handleInitWifiCheck at hwait
    dsimp only at hwait
    split at hwait <;> cases hwait
  case initUserIdCheck =>
    obtain rfl := Option.some.inj h
    have hmem := handleInitUserIdCheck_state b env
    rw [hwait, hat] at hmem
    exact absurd hmem (by decide)
  case waitForPlayer => exact absurd hat hstate
  case toyDetected =>
    obtain rfl := Option.some.inj h
    have hmem := handleToyDetected_state b env.now
    rw [hwait] at hmem
    exact absurd hmem (by decide)
  case playToy => exact absurd (Option.some.inj h ▸ hwait) (by simp [setState])
  case playingComplete => exact absurd (Option.some.inj h ▸ hwait) (by simp [setState])
  case playNext =>
    obtain rfl := Option.some.inj h
    exact Alike.sets (·.handlePlayNext env.now)
      (fun s => handlePlayNext_alike (halike s) env.now) hwait
  case playPrevious =>
    exact absurd (Option.some.inj h ▸ hwait) (by simp [handlePlayPrevious, setState])
  case resumePlaying =>
    obtain rfl := Option.some.inj h
    exact Alike.sets (·.resumePlaying env.now) (fun s => resumePlaying_alike b s env.now) hwait
  case getDirection =>
    obtain rfl := Option.some.inj h
    exact Alike.sets (·.handleGetDirection env.now)
      (fun s => handleGetDirection_alike (halike s) env.now) hwait
  case error => exact absurd (Option.some.inj h ▸ hwait) hstate
  case readAudioHeader =>
    obtain ⟨b₁, -, rfl⟩ := Option.map_eq_some_iff.1 h
    split_ifs at hwait <;> cases hwait
  case playActivity =>
    exact (handlePlayActivity_plays h).sets (·.handlePlayActivity env.now) h
      (fun s => handlePlayActivity_withReturn b s env.now)
      (by decide) hwait
  case waitActivityResp =>
    obtain rfl := Option.some.inj h
    unfold handleWaitActivityResp at hwait
    split at hwait
    · cases hwait
    · exact absurd hwait hstate
  case playQna =>
    exact (handlePlayQna_plays h).sets (·.handlePlayQna env.now) h
      (fun s => handlePlayQna_withReturn b s env.now)
      (by decide) hwait
  case waitQnaResp =>
    obtain rfl := Option.some.inj h
    have hmem := handleWaitQnaResp_state b env.now
    rw [hwait, hat] at hmem
    exact absurd hmem (by decide)
  case incorrectAnsTry1 =>
    exact (handleIncorrectAnsTry1_plays h).sets (·.handleIncorrectAnsTry1 env.now) h
      (fun s => handleIncorrectAnsTry1_withReturn b s env.now) (by decide) hwait
  case correctAns =>
    exact (handleCorrectAns_plays h).sets (·.handleCorrectAns env.now) h
      (fun s => handleCorrectAns_withReturn b s env.now)
      (by decide) hwait
  case playNormalAudio =>
    exact (playCurrent_plays h).sets (·.handlePlayNormalAudio env.now) h
      (fun s => handlePlayNormalAudio_withReturn b s env.now)
      (by decide) hwait
  case downloadWifiConn =>
    obtain rfl := Option.some.inj h
    exact Alike.sets (·.handleDownloadWifiConn env)
      (fun s => handleDownloadWifiConn_alike (halike s) env) hwait
  case downloadToy =>
    exact absurd (Option.some.inj h ▸ hwait) (by simp [handleDownloadToy, setState])
  case wifiConnectErr =>
    obtain rfl := Option.some.inj h
    exact Alike.sets (·.toneThen env.now _ .idle)
      (fun s => (halike s).toneThen env.now _ (by simp) (by decide)) hwait
  case wifiCredMissingErr =>
    obtain rfl := Option.some.inj h
    exact Alike.sets (·.toneThen env.now _ .idle)
      (fun s => (halike s).toneThen env.now _ (by simp) (by decide)) hwait
  case shutMeDown =>
    obtain rfl := Option.some.inj h
    exact Alike.sets (·.handleShutMeDown env.now)
      (fun s => handleShutMeDown_alike (halike s) env.now) hwait
  case turnOff =>
    obtain rfl := Option.some.inj h
    exact absurd hwait (by simp)

end

end Box

end Cubbies
