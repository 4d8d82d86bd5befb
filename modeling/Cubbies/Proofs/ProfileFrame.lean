import Cubbies.Proofs.TaskSteps

set_option autoImplicit false

/-! # What the box knows about itself

The registered users, the data of an initialisation under way and the request to be switched off.
Playing touches none of it: a handler step changes the users in `SYS_INIT_USER_ID_CHECK` only, and asks
to be switched off in `SYS_TURN_OFF` only; of the other tasks only a BLE write changes anything here. -/

namespace Cubbies

open CString

namespace Box

structure Profile where
  sysUser1 : Bytes
  sysUser2 : Bytes
  initSsid : Bytes
  initPassword : Bytes
  initUser1 : Bytes
  initUser2 : Bytes
  powerState : UInt8

def profile (b : Box) : Profile :=
  ⟨b.sysUser1, b.sysUser2, b.initSsid, b.initPassword, b.initUser1, b.initUser2, b.powerState⟩

/-! ## The player -/

theorem profile_playThen (b : Box) (now : ℕ) (location : Bytes) (goBack : SystemState) :
    (b.playThen now location goBack).profile = b.profile := by
  unfold playThen play readVolume
  split <;> rfl

theorem profile_toneThen (b : Box) (now : ℕ) (tone : Bytes) (goBack : SystemState) :
    (b.toneThen now tone goBack).profile = b.profile := by
  unfold toneThen
  split
  · exact profile_playThen b now tone goBack
  · rfl

theorem profile_batteryCheck {b charging full : Box} (now : ℕ) (hcharging : charging.profile = b.profile)
    (hfull : full.profile = b.profile) : (b.batteryCheck now charging full).profile = b.profile := by
  unfold batteryCheck
  split_ifs
  · exact hcharging
  · exact profile_toneThen b now batLowTone .shutMeDown
  · rfl
  · exact hfull

theorem profile_readOrShutDown (b : Box) (now : ℕ) :
    (b.readOrShutDown now).profile = b.profile := profile_batteryCheck now rfl rfl

theorem profile_skipCurrentAudio (b : Box) : b.skipCurrentAudio.profile = b.profile := by
  unfold skipCurrentAudio
  split <;> rfl

theorem profile_playPauseToggle (b : Box) : b.playPauseToggle.profile = b.profile := by
  unfold playPauseToggle
  split <;> rfl

theorem profile_skipQuestion (b : Box) : b.skipQuestion.profile = b.profile := by
  unfold skipQuestion
  split
  · exact profile_skipCurrentAudio b
  · rfl

theorem profile_playCurrent {b b' : Box} {now : ℕ} {goBack : SystemState}
    (h : b.playCurrent now goBack = some b') : b'.profile = b.profile := by
  simp only [playCurrent, Option.bind_eq_bind, Option.bind_eq_some_iff] at h
  obtain ⟨name, -, location, -, playerFilename, -, hb⟩ := h
  rw [← Option.some.inj hb]
  exact profile_playThen _ now location goBack

theorem profile_playAnswer {b b' : Box} {now : ℕ} {suffix : Bytes} {goBack : SystemState}
    (h : b.playAnswer now suffix goBack = some b') : b'.profile = b.profile := by
  simp only [playAnswer, Option.bind_eq_bind, Option.bind_eq_some_iff] at h
  obtain ⟨name, -, location, -, hb⟩ := h
  rw [← Option.some.inj hb]
  exact profile_playThen b now location goBack

/-! ## The handler -/

theorem profile_handleIdle (b : Box) (now : ℕ) : (b.handleIdle now).profile = b.profile := by
  have htoy : ∀ b : Box, (b.idleToy now).profile = b.profile := by
    intro b
    unfold idleToy
    split
    · dsimp only
      split
      · exact profile_toneThen { b with toyPlacedOnce := true } now toyDetectTone .toyDetected
      · rfl
    · rfl
  have hremoval : ∀ b : Box, (b.idleRemoval now).profile = b.profile := by
    intro b
    rw [idleRemoval_eq]
    split <;> rfl
  unfold handleIdle
  split
  · rfl
  · rw [hremoval, htoy]
    exact profile_batteryCheck now rfl rfl

theorem profile_showTheme (b : Box) : b.showTheme.profile = b.profile := by
  have hlight : ∀ c, (b.lightTheme c).profile = b.profile := by
    intro c
    rfl
  unfold showTheme
  split
  · split
    · rfl
    · exact hlight _
  · rfl

theorem profile_handleWaitForPlayer (b : Box) (env : HandlerEnv) :
    (b.handleWaitForPlayer env).profile = b.profile := by
  have hcheck : (b.checkPlayingCompleted env.message).2.profile = b.profile := by
    unfold checkPlayingCompleted
    split <;> rfl
  unfold handleWaitForPlayer
  dsimp only
  split_ifs
  · exact profile_playPauseToggle b
  · exact profile_playPauseToggle b
  · exact hcheck
  · exact hcheck

theorem profile_resumePlaying (b : Box) (now : ℕ) : (b.resumePlaying now).profile = b.profile := by
  unfold resumePlaying
  split <;> rfl

theorem profile_handlePlayNext (b : Box) (now : ℕ) :
    (b.handlePlayNext now).profile = b.profile := by
  have hadvance : b.advance.profile = b.profile := profile_skipCurrentAudio b
  unfold handlePlayNext
  dsimp only
  split
  · exact hadvance
  · exact (profile_readOrShutDown _ now).trans hadvance

theorem profile_handleReadAudioHeader {b b' : Box} {now : ℕ}
    (h : b.handleReadAudioHeader now = some b') : b'.profile = b.profile := by
  simp only [handleReadAudioHeader, readHeader, Option.map_eq_some_iff] at h
  obtain ⟨b₁, ⟨location, -, rfl⟩, rfl⟩ := h
  show (b.readHeaderFile location).profile = b.profile
  unfold readHeaderFile
  split <;> rfl

theorem profile_handleDownloadWifiConn (b : Box) (env : HandlerEnv) :
    (b.handleDownloadWifiConn env).profile = b.profile := by
  unfold handleDownloadWifiConn
  dsimp only
  split
  · split
    · split
      · exact profile_toneThen _ env.now downloadStartTone .downloadToy
      · rfl
    · rfl
  · rfl

section

variable [CJson]

theorem profile_handleGetDirection (b : Box) (now : ℕ) :
    (b.handleGetDirection now).profile = b.profile := by
  unfold handleGetDirection
  split
  · rfl
  · split
    · exact (profile_showTheme _).trans (profile_readOrShutDown _ now)
    · exact profile_showTheme _

/-- **The handler** changes the profile in two states only. -/
theorem handler_profile {b b' : Box} {env : HandlerEnv} (h : b.handler env = some b')
    (hcheck : b.state ≠ .initUserIdCheck) (hoff : b.state ≠ .turnOff) : b'.profile = b.profile := by
  unfold handler at h
  cases hstate : b.state <;> simp only [hstate] at h
  case initUserIdCheck => exact absurd hstate hcheck
  case turnOff => exact absurd hstate hoff
  case readAudioHeader => exact profile_handleReadAudioHeader h
  case playActivity =>
    rw [profile_playCurrent h]
    rfl
  case playQna =>
    rw [profile_playCurrent h]
    rfl
  case playNormalAudio => exact profile_playCurrent h
  case incorrectAnsTry1 =>
    obtain ⟨b₁, hplay, rfl⟩ := Option.map_eq_some_iff.1 h
    have hanswer : b₁.profile = (b.awaitResponse env.now).profile := profile_playAnswer hplay
    exact hanswer
  case correctAns =>
    obtain ⟨b₁, hplay, rfl⟩ := Option.map_eq_some_iff.1 h
    have hanswer : b₁.profile = b.profile := profile_playAnswer hplay
    exact hanswer
  -- the states that always step
  all_goals obtain rfl := Option.some.inj h
  case post =>
    unfold handlePost
    exact profile_batteryCheck env.now rfl rfl
  case init =>
    unfold handleInit
    rw [profile_toneThen]
    rfl
  case idle => exact profile_handleIdle b env.now
  case initWifiCheck =>
    unfold handleInitWifiCheck
    dsimp only
    split <;> rfl
  case waitForPlayer => exact profile_handleWaitForPlayer b env
  case toyDetected =>
    unfold handleToyDetected
    dsimp only
    split <;> rfl
  case getDirection => exact profile_handleGetDirection b env.now
  case playNext => exact profile_handlePlayNext b env.now
  case playPrevious => exact profile_skipCurrentAudio b
  case resumePlaying => exact profile_resumePlaying b env.now
  case waitQnaResp =>
    rcases handleWaitQnaResp_cases b env.now with h | ⟨s, -, h⟩ <;> rw [h]
    rfl
  case waitActivityResp =>
    unfold handleWaitActivityResp
    split <;> rfl
  case downloadWifiConn => exact profile_handleDownloadWifiConn b env
  case wifiConnectErr => exact profile_toneThen b env.now invalidWifiCredsTone .idle
  case wifiCredMissingErr => exact profile_toneThen b env.now pleaseEnterWifiCredsTone .idle
  case shutMeDown =>
    unfold handleShutMeDown
    rw [profile_toneThen]
    rfl
  all_goals rfl

/-! ## A verification -/

/-- The fields a verification may touch. -/
def CheckFields (b b' : Box) : Prop :=
  ∃ dl buff user1 user2 registered, b' =
    { b with
      dl := dl
      outputBuff := buff
      sysUser1 := user1
      sysUser2 := user2
      registered := registered }

omit [CJson] in
theorem CheckFields.trans {b₁ b₂ b₃ : Box} (h : CheckFields b₁ b₂) (h' : CheckFields b₂ b₃) :
    CheckFields b₁ b₃ := by
  obtain ⟨_, _, _, _, _, rfl⟩ := h
  obtain ⟨_, _, _, _, _, rfl⟩ := h'
  exact ⟨_, _, _, _, _, rfl⟩

omit [CJson] in
theorem registerUser_fields (b : Box) (json : Json) (body : Bytes) :
    CheckFields b (b.registerUser json body) := by
  unfold registerUser
  dsimp only
  split_ifs <;> exact ⟨_, _, _, _, _, rfl⟩

theorem verifyUserIdWithServer_fields (b : Box) (s : VerifyScript) :
    CheckFields b (b.verifyUserIdWithServer s).2 := by
  refine verifyUserIdWithServer_induction ?_ ?_ ?_ ?_
  · obtain ⟨dl, htoken⟩ := withToken_eq b s
    exact ⟨dl, _, _, _, _, htoken⟩
  · exact fun b' h => ⟨h.trans ⟨_, _, _, _, _, rfl⟩, h.trans ⟨_, _, _, _, _, rfl⟩⟩
  · exact fun b' h => h.trans ⟨_, _, _, _, _, rfl⟩
  · exact fun b' json h => h.trans (registerUser_fields b' json _)

/-- A verification changes the users, and nothing else of the profile. -/
theorem handleInitUserIdCheck_profile (b : Box) (env : HandlerEnv) :
    ∃ user1 user2, (b.handleInitUserIdCheck env).profile =
      { b.profile with sysUser1 := user1, sysUser2 := user2 } := by
  obtain ⟨dl, buff, user1, user2, registered, hfields⟩ := verifyUserIdWithServer_fields b env.verify
  refine ⟨user1, user2, ?_⟩
  unfold handleInitUserIdCheck
  dsimp only
  rw [hfields]
  split <;> rfl

end

/-! ## The other tasks -/

theorem profile_readFrame (b : Box) (now : ℕ) (data : Bytes) :
    (b.readFrame now data).profile = b.profile := by
  obtain ⟨state, tick, toy, presense, before, turnTable, commands, dl, battery, charging, uid, present,
    heq⟩ := readFrame_touches b now data
  rw [heq]
  rfl

theorem profile_writeFrame (b : Box) (now address len : ℕ) (data : Bytes) :
    (b.writeFrame now address len data).profile = b.profile := by
  unfold writeFrame
  split
  · next reg _ =>
      cases reg with
      | volumeControl =>
          dsimp only [writeRegister]
          split_ifs <;> rfl
      | playPause =>
          dsimp only [writeRegister]
          split
          · exact profile_playPauseToggle b
          · rfl
      | nextPrev =>
          dsimp only [writeRegister, next, previous]
          split_ifs <;> rfl
      | answerOption =>
          dsimp only [writeRegister]
          split_ifs
          · exact profile_skipQuestion { b with leftEarButtonState := true }
          · exact profile_skipQuestion { b with rightEarButtonState := true }
          · rfl
      | chargingStatus => rfl
      | batteryPercent => rfl
      | turnTablePosition => rfl
  · rfl

/-- A BLE write changes the data of the initialisation only. -/
theorem onWrite_profile [CJson] {b b' : Box} {now : ℕ} {uuid : BleUuid} {value : Bytes}
    {s : Wifi.CredentialsScript} (h : b.onWrite now uuid value s = some b') :
    b'.sysUser1 = b.sysUser1 ∧ b'.sysUser2 = b.sysUser2 ∧ b'.powerState = b.powerState := by
  obtain ⟨state, tick, ssid, password, user1, user2, dl, rfl⟩ := onWrite_fields h
  exact ⟨rfl, rfl, rfl⟩

end Box

end Cubbies
