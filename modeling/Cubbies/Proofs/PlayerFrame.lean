import Cubbies.Proofs.BoxSteps

set_option autoImplicit false

/-! # What playing does to a box

The states that play an audio, wait for it or step in the playlist command the player, and set its
return state and fields of their own. A relation that all of these keep (`PlayerClosed`) holds from
before such a step to after it (`PlayerClosed.handler`). One is that the toy on the box and the one
before, the direction, the battery and everything the downloader holds, the card among it, stay:
`KeepsLasting`. -/

namespace Cubbies

open CString

namespace Box

/-- The toy, the memory of the one before, the direction, the battery and the downloader. -/
structure Lasting where
  toy : Bytes
  memory : Memory
  turnTable : UInt8
  batteryLevel : UInt8
  dl : Downloader

def lasting (b : Box) : Lasting := ⟨b.toy, b.memory, b.turnTable, b.batteryLevel, b.dl⟩

/-- These are as they were. -/
def KeepsLasting (b b' : Box) : Prop := b'.lasting = b.lasting

/-- A relation that holds from before to after whatever is done to play. -/
structure PlayerClosed (R : Box → Box → Prop) : Prop where
  trans : ∀ {b₁ b₂ b₃ : Box}, R b₁ b₂ → R b₂ b₃ → R b₁ b₃
  /-- other fields are set -/
  set : ∀ {b b' : Box}, b'.lasting = b.lasting → b'.commands = b.commands →
    b'.playerGoBackToState = b.playerGoBackToState → R b b'
  command : ∀ (b : Box) {c : PlayerCommand}, (∀ location, c ≠ .play location) → R b (b.command c)
  play : ∀ (b : Box) (now : ℕ) (location : Bytes) (goBack : SystemState),
    R b (b.playThen now location goBack)
  /-- the return state of an audio that is resumed -/
  resume : ∀ b : Box, R b { b with playerGoBackToState := .playNext }

namespace PlayerClosed

variable {R : Box → Box → Prop}

theorem refl (hR : PlayerClosed R) (b : Box) : R b b := hR.set rfl rfl rfl

theorem setState (hR : PlayerClosed R) (b : Box) (now : ℕ) (s : SystemState) :
    R b (b.setState now s) := hR.set rfl rfl rfl

/-! ## The player -/

theorem toneThen (hR : PlayerClosed R) (b : Box) (now : ℕ) (tone : Bytes) (goBack : SystemState) :
    R b (b.toneThen now tone goBack) := by
  unfold Box.toneThen
  split
  · exact hR.play b now tone goBack
  · exact hR.setState b now goBack

theorem batteryCheck (hR : PlayerClosed R) {b charging full : Box} (now : ℕ)
    (hcharging : R b charging) (hfull : R b full) : R b (b.batteryCheck now charging full) := by
  unfold Box.batteryCheck
  split_ifs
  · exact hcharging
  · exact hR.toneThen b now batLowTone .shutMeDown
  · exact hR.setState b now .shutMeDown
  · exact hfull

theorem readOrShutDown (hR : PlayerClosed R) (b : Box) (now : ℕ) : R b (b.readOrShutDown now) :=
  hR.batteryCheck now (hR.setState b now _) (hR.setState b now _)

theorem skipCurrentAudio (hR : PlayerClosed R) (b : Box) : R b b.skipCurrentAudio := by
  unfold Box.skipCurrentAudio
  split
  · exact hR.command b (by simp)
  · exact hR.refl b

theorem playPauseToggle (hR : PlayerClosed R) (b : Box) : R b b.playPauseToggle := by
  unfold Box.playPauseToggle
  split
  · exact hR.command b (by simp)
  · exact hR.command b (by simp)
  · exact hR.refl b

theorem skipQuestion (hR : PlayerClosed R) (b : Box) : R b b.skipQuestion := by
  unfold Box.skipQuestion
  split
  · exact hR.skipCurrentAudio b
  · exact hR.refl b

theorem playCurrent (hR : PlayerClosed R) {b b' : Box} {now : ℕ} {goBack : SystemState}
    (h : b.playCurrent now goBack = some b') : R b b' := by
  simp only [Box.playCurrent, Option.bind_eq_bind, Option.bind_eq_some_iff] at h
  obtain ⟨name, -, location, -, playerFilename, -, hb⟩ := h
  rw [← Option.some.inj hb]
  have hindex : R b { b with audioIndex := b.currentIndex } := hR.set rfl rfl rfl
  exact hR.trans hindex (hR.play _ now location goBack)

theorem playAnswer (hR : PlayerClosed R) {b b' : Box} {now : ℕ} {suffix : Bytes}
    {goBack : SystemState} (h : b.playAnswer now suffix goBack = some b') : R b b' := by
  simp only [Box.playAnswer, Option.bind_eq_bind, Option.bind_eq_some_iff] at h
  obtain ⟨name, -, location, -, hb⟩ := h
  rw [← Option.some.inj hb]
  exact hR.play b now location goBack

/-! ## The states -/

theorem handleWaitForPlayer (hR : PlayerClosed R) (b : Box) (env : HandlerEnv) :
    R b (b.handleWaitForPlayer env) := by
  have hcheck : R b (b.checkPlayingCompleted env.message).2 := by
    unfold checkPlayingCompleted
    split
    · exact hR.set rfl rfl rfl
    · exact hR.set rfl rfl rfl
    · exact hR.refl b
  have htoggle (s : SystemState) : R b (b.playPauseToggle.setState env.now s) :=
    hR.trans (hR.playPauseToggle b) (hR.setState _ env.now s)
  unfold Box.handleWaitForPlayer
  dsimp only
  split_ifs
  · exact htoggle .waitQnaResp
  · exact htoggle .playNext
  · exact hR.trans hcheck (hR.set rfl rfl rfl)
  · exact hcheck

theorem resumePlaying (hR : PlayerClosed R) (b : Box) (now : ℕ) : R b (b.resumePlaying now) := by
  unfold Box.resumePlaying
  split
  · exact hR.trans (hR.command b (by simp)) (hR.trans (hR.resume _) (hR.setState _ now _))
  · exact hR.setState b now .playNext

theorem handlePlayQna (hR : PlayerClosed R) {b b' : Box} {now : ℕ}
    (h : b.handlePlayQna now = some b') : R b b' := by
  unfold Box.handlePlayQna at h
  refine hR.trans ?_ (hR.playCurrent h)
  exact hR.set rfl rfl rfl

theorem handlePlayActivity (hR : PlayerClosed R) {b b' : Box} {now : ℕ}
    (h : b.handlePlayActivity now = some b') : R b b' := by
  unfold Box.handlePlayActivity at h
  refine hR.trans ?_ (hR.playCurrent h)
  exact hR.set rfl rfl rfl

theorem handleIncorrectAnsTry1 (hR : PlayerClosed R) {b b' : Box} {now : ℕ}
    (h : b.handleIncorrectAnsTry1 now = some b') : R b b' := by
  obtain ⟨b₁, hplay, rfl⟩ := Option.map_eq_some_iff.1 h
  have hwait : R b (b.awaitResponse now) := hR.set rfl rfl rfl
  exact hR.trans (hR.trans hwait (hR.playAnswer hplay)) (hR.set rfl rfl rfl)

theorem handleCorrectAns (hR : PlayerClosed R) {b b' : Box} {now : ℕ}
    (h : b.handleCorrectAns now = some b') : R b b' := by
  obtain ⟨b₁, hplay, rfl⟩ := Option.map_eq_some_iff.1 h
  exact hR.trans (hR.playAnswer hplay) (hR.set rfl rfl rfl)

theorem handlePlayNext (hR : PlayerClosed R) (b : Box) (now : ℕ) : R b (b.handlePlayNext now) := by
  have hadvance : R b b.advance := hR.trans (hR.skipCurrentAudio b) (hR.set rfl rfl rfl)
  unfold Box.handlePlayNext
  dsimp only
  split
  · exact hR.trans hadvance (hR.setState _ now _)
  · exact hR.trans hadvance (hR.readOrShutDown _ now)

theorem handlePlayPrevious (hR : PlayerClosed R) (b : Box) (now : ℕ) :
    R b (b.handlePlayPrevious now) :=
  hR.trans (hR.skipCurrentAudio b) (hR.set rfl rfl rfl)

theorem handleShutMeDown (hR : PlayerClosed R) (b : Box) (now : ℕ) :
    R b (b.handleShutMeDown now) := by
  have hred : R b ((b.setLandingPadColor ⟨255, 0, 0⟩).setEarColors ⟨255, 0, 0⟩ ⟨255, 0, 0⟩) :=
    hR.set rfl rfl rfl
  exact hR.trans hred (hR.toneThen _ now shutdownTone .turnOff)

theorem handleReadAudioHeader (hR : PlayerClosed R) {b b' : Box} {now : ℕ}
    (h : b.handleReadAudioHeader now = some b') : R b b' := by
  simp only [Box.handleReadAudioHeader, readHeader, Option.map_eq_some_iff] at h
  obtain ⟨b₁, ⟨location, -, rfl⟩, rfl⟩ := h
  have hread : R b (b.readHeaderFile location) := by
    unfold readHeaderFile
    split
    · exact hR.set rfl rfl rfl
    · exact hR.refl b
  exact hR.trans hread (hR.setState _ now _)

theorem handleWaitQnaResp (hR : PlayerClosed R) (b : Box) (now : ℕ) :
    R b (b.handleWaitQnaResp now) := by
  rcases handleWaitQnaResp_cases b now with h | ⟨s, -, h⟩
  · rw [h]
    exact hR.refl b
  · rw [h]
    exact hR.setState b now s

theorem handleWaitActivityResp (hR : PlayerClosed R) (b : Box) (now : ℕ) :
    R b (b.handleWaitActivityResp now) := by
  unfold Box.handleWaitActivityResp
  split
  · exact hR.setState b now .playNext
  · exact hR.refl b

theorem showTheme (hR : PlayerClosed R) (b : Box) : R b b.showTheme := by
  -- for any colour: the one of the file is not to be computed here
  have hlight : ∀ c, R b (b.lightTheme c) := by
    intro c
    exact hR.set rfl rfl rfl
  unfold Box.showTheme
  split
  · split
    · exact hR.refl b
    · exact hlight _
  · exact hR.refl b

section

variable [CJson]

theorem handleGetDirection (hR : PlayerClosed R) (b : Box) (now : ℕ) :
    R b (b.handleGetDirection now) := by
  unfold Box.handleGetDirection
  split
  · exact hR.setState b now .error
  · split
    · next content _ =>
        have hload : R b (b.loadPlaylist content) := hR.set rfl rfl rfl
        exact hR.trans (hR.trans hload (hR.readOrShutDown _ now)) (hR.showTheme _)
    · exact hR.trans (hR.setState b now .downloadWifiConn) (hR.showTheme _)

end

end PlayerClosed

/-- The states that do something else: the two that watch the toy, and those that use the WiFi object or
the downloader. -/
def changingStates : List SystemState :=
  [.idle, .toyDetected, .initWifiCheck, .initUserIdCheck, .downloadWifiConn, .downloadToy]

/-- **A step in any other state.** -/
theorem PlayerClosed.handler [CJson] {R : Box → Box → Prop} (hR : PlayerClosed R) {b b' : Box}
    {env : HandlerEnv} (h : b.handler env = some b') (hother : b.state ∉ changingStates) : R b b' := by
  unfold Box.handler at h
  cases hstate : b.state <;> simp only [hstate] at h hother
  case idle => exact absurd (by decide) hother
  case toyDetected => exact absurd (by decide) hother
  case initWifiCheck => exact absurd (by decide) hother
  case initUserIdCheck => exact absurd (by decide) hother
  case downloadWifiConn => exact absurd (by decide) hother
  case downloadToy => exact absurd (by decide) hother
  case readAudioHeader => exact hR.handleReadAudioHeader h
  case playActivity => exact hR.handlePlayActivity h
  case playQna => exact hR.handlePlayQna h
  case playNormalAudio => exact hR.playCurrent h
  case incorrectAnsTry1 => exact hR.handleIncorrectAnsTry1 h
  case correctAns => exact hR.handleCorrectAns h
  -- the states that always step
  all_goals obtain rfl := Option.some.inj h
  case post => exact hR.batteryCheck env.now (hR.setState b _ _) (hR.setState b _ _)
  case init =>
    have hears : R b (b.setEarColors ⟨80, 80, 80⟩ ⟨80, 80, 80⟩) := hR.set rfl rfl rfl
    exact hR.trans hears (hR.toneThen _ env.now startupTone .idle)
  case waitForPlayer => exact hR.handleWaitForPlayer b env
  case getDirection => exact hR.handleGetDirection b env.now
  case playNext => exact hR.handlePlayNext b env.now
  case playPrevious => exact hR.handlePlayPrevious b env.now
  case resumePlaying => exact hR.resumePlaying b env.now
  case waitQnaResp => exact hR.handleWaitQnaResp b env.now
  case waitActivityResp => exact hR.handleWaitActivityResp b env.now
  case wifiConnectErr => exact hR.toneThen b env.now invalidWifiCredsTone .idle
  case wifiCredMissingErr => exact hR.toneThen b env.now pleaseEnterWifiCredsTone .idle
  case shutMeDown => exact hR.handleShutMeDown b env.now
  all_goals exact hR.set rfl rfl rfl

/-- What a handler step is: one that plays, or the one of another state. -/
inductive HandlerStep [CJson] (b : Box) (env : HandlerEnv) : Box → Prop
  | playing {b' : Box} : b.state ∉ changingStates → b.handler env = some b' → HandlerStep b env b'
  | idle : b.state = .idle → HandlerStep b env (b.handleIdle env.now)
  | toyDetected : b.state = .toyDetected → HandlerStep b env (b.handleToyDetected env.now)
  | initWifiCheck : b.state = .initWifiCheck → HandlerStep b env (b.handleInitWifiCheck env)
  | initUserIdCheck : b.state = .initUserIdCheck → HandlerStep b env (b.handleInitUserIdCheck env)
  | downloadWifiConn : b.state = .downloadWifiConn → HandlerStep b env (b.handleDownloadWifiConn env)
  | downloadToy : b.state = .downloadToy → HandlerStep b env (b.handleDownloadToy env)

theorem handler_step [CJson] {b b' : Box} {env : HandlerEnv} (h : b.handler env = some b') :
    HandlerStep b env b' := by
  by_cases hother : b.state ∉ changingStates
  · exact .playing hother h
  · unfold handler at h
    cases hstate : b.state <;> simp only [hstate] at h hother
    case idle => exact Option.some.inj h ▸ .idle hstate
    case toyDetected => exact Option.some.inj h ▸ .toyDetected hstate
    case initWifiCheck => exact Option.some.inj h ▸ .initWifiCheck hstate
    case initUserIdCheck => exact Option.some.inj h ▸ .initUserIdCheck hstate
    case downloadWifiConn => exact Option.some.inj h ▸ .downloadWifiConn hstate
    case downloadToy => exact Option.some.inj h ▸ .downloadToy hstate
    all_goals exact absurd (by decide) hother

/-! ## What lasts -/

/-- **What playing leaves alone.** -/
theorem playerClosed_lasting : PlayerClosed KeepsLasting where
  trans h h' := h'.trans h
  set hlasting _ _ := hlasting
  command _ _ _ := rfl
  play b _ location _ := by
    unfold KeepsLasting playThen Box.play readVolume
    split <;> rfl
  resume _ := rfl

end Box

end Cubbies
