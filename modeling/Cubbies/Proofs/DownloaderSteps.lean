import Cubbies.Proofs.BoxToken
import Cubbies.Proofs.PlayerFrame
import Cubbies.Proofs.TaskSteps

set_option autoImplicit false

/-! # What the box does to its downloader

The downloader works in two states of the handler, `SYS_DOWNLOAD_TOY` and `SYS_INIT_USER_ID_CHECK`. In
all others, and in the other tasks, the box writes files, uses the WiFi object and reads tags: a step of
the box is a sequence of the steps `TokenEvent` lists (`step_downloader`), so what each of these keeps of
the downloader the box keeps. -/

namespace Cubbies

open CString Downloader

namespace Box

/-! ## Steps outside the downloader -/

/-- Only the card and the WiFi object may have changed. -/
def Outside (b b' : Box) : Prop := ∃ card wifi, b'.dl = { b.dl with card := card, wifi := wifi }

theorem outside_of_eq {b b' : Box} (h : b'.dl = b.dl) : Outside b b' := ⟨b.dl.card, b.dl.wifi, h⟩

theorem KeepsLasting.outside {b b' : Box} (h : KeepsLasting b b') : Outside b b' :=
  outside_of_eq (congrArg Lasting.dl h)

theorem Outside.trans {b₁ b₂ b₃ : Box} (h : Outside b₁ b₂) (h' : Outside b₂ b₃) : Outside b₁ b₃ := by
  obtain ⟨card, wifi, heq⟩ := h
  obtain ⟨card', wifi', heq'⟩ := h'
  refine ⟨card', wifi', ?_⟩
  rw [heq', heq]

theorem outside_setCard (b : Box) (c : Card) : Outside b (b.setCard c) := ⟨c, b.dl.wifi, rfl⟩

theorem outside_setWifi (b : Box) (w : Wifi) : Outside b (b.setWifi w) := ⟨b.dl.card, w, rfl⟩

theorem handleIdle_outside (b : Box) (now : ℕ) : Outside b (b.handleIdle now) := by
  have htoy : ∀ b : Box, (b.idleToy now).dl = b.dl := by
    intro b
    unfold idleToy
    split
    · dsimp only
      split
      · exact congrArg Lasting.dl
          (playerClosed_lasting.toneThen { b with toyPlacedOnce := true } now toyDetectTone .toyDetected)
      · rfl
    · rfl
  have hremoval : ∀ b : Box, (b.idleRemoval now).dl = b.dl := by
    intro b
    unfold idleRemoval
    dsimp only
    split_ifs <;> rfl
  unfold handleIdle
  split
  · exact (playerClosed_lasting.setState b now _).outside
  · have hbattery : KeepsLasting b (b.batteryCheck now (b.setState now .init) b) :=
      playerClosed_lasting.batteryCheck now (playerClosed_lasting.setState b now .init) rfl
    exact outside_of_eq ((hremoval _).trans ((htoy _).trans (congrArg Lasting.dl hbattery)))

theorem handleInitWifiCheck_outside (b : Box) (env : HandlerEnv) :
    Outside b (b.handleInitWifiCheck env) := by
  unfold handleInitWifiCheck
  dsimp only
  split <;> exact outside_setWifi b _

theorem handleToyDetected_outside (b : Box) (now : ℕ) : Outside b (b.handleToyDetected now) := by
  unfold handleToyDetected
  dsimp only
  split <;> exact outside_of_eq rfl

theorem handleDownloadWifiConn_outside (b : Box) (env : HandlerEnv) :
    Outside b (b.handleDownloadWifiConn env) := by
  have htone (w : Wifi) :
      Outside b ((b.setWifi w).toneThen env.now downloadStartTone .downloadToy) :=
    (outside_setWifi b w).trans
      (playerClosed_lasting.toneThen _ env.now downloadStartTone .downloadToy).outside
  unfold handleDownloadWifiConn
  dsimp only
  split
  · split
    · split
      · exact htone _
      · exact outside_setWifi b _
    · exact outside_setWifi b _
  · exact outside_setWifi b _

theorem registerUser_outside (b : Box) (json : Json) (body : Bytes) :
    Outside b (b.registerUser json body) := by
  rcases registerUser_writes b json body with h | ⟨i, user, -, h⟩
  · rw [h]
    exact outside_of_eq rfl
  · rw [h]
    unfold writeUserID
    dsimp only
    split <;> exact outside_setCard _ _

theorem writeFrame_outside (b : Box) (now address len : ℕ) (data : Bytes) :
    Outside b (b.writeFrame now address len data) := by
  unfold writeFrame
  cases writeReg? address len with
  | none => exact outside_of_eq rfl
  | some reg =>
      cases reg with
      | volumeControl =>
          dsimp only [writeRegister]
          split_ifs
          · exact outside_setCard _ _
          · exact outside_setCard _ _
          · exact outside_of_eq rfl
      | playPause =>
          dsimp only [writeRegister]
          split
          · exact (playerClosed_lasting.playPauseToggle b).outside
          · exact outside_of_eq rfl
      | nextPrev =>
          dsimp only [writeRegister, next, previous]
          split_ifs <;> exact outside_of_eq rfl
      | answerOption =>
          dsimp only [writeRegister]
          split_ifs
          · exact (playerClosed_lasting.skipQuestion { b with leftEarButtonState := true }).outside
          · exact (playerClosed_lasting.skipQuestion { b with rightEarButtonState := true }).outside
          · exact outside_of_eq rfl
      | chargingStatus => exact outside_of_eq rfl
      | batteryPercent => exact outside_of_eq rfl
      | turnTablePosition => exact outside_of_eq rfl

section

variable [CJson]

theorem onWrite_outside {b b' : Box} {now : ℕ} {uuid : BleUuid} {value : Bytes}
    {s : Wifi.CredentialsScript} (h : b.onWrite now uuid value s = some b') : Outside b b' := by
  refine onWrite_cases h ?_ ?_ ?_
  · exact outside_of_eq rfl
  · intro _ ssid password user b' hb
    simp only [systemInitialize, Option.bind_eq_bind, Option.bind_eq_some_iff] at hb
    obtain ⟨s, -, p, -, u, -, hb⟩ := hb
    rw [← Option.some.inj hb]
    exact outside_of_eq rfl
  · intro msgType json _ b' hb
    refine bleCommand_cases hb ?_ (outside_setWifi b) (outside_setCard b) ?_
    · exact outside_of_eq rfl
    · intro _ user userNo b' hb
      rcases verifyUserID_cases hb with ⟨-, rfl⟩ | ⟨-, rfl⟩ | ⟨-, -, rfl⟩
      · exact outside_of_eq rfl
      · exact outside_of_eq rfl
      · exact outside_of_eq rfl

/-! ## The two states that use the downloader -/

/-- A request for the token, if one is needed, and then steps outside the downloader. -/
theorem verifyUserIdWithServer_dl (b : Box) (s : VerifyScript) :
    ∃ b₁ : Box, b₁.dl = (if b.dl.validTokenFlag then b.dl
        else b.dl.tokenStep (.request s.tokenConnect s.token.atomic s.errorTail)) ∧
      Outside b₁ (b.verifyUserIdWithServer s).2 := by
  refine ⟨b.withToken s, ?_, ?_⟩
  · unfold withToken
    split <;> rfl
  · refine verifyUserIdWithServer_induction (outside_of_eq rfl) ?_ ?_ ?_
    · exact fun b' h => ⟨h.trans (outside_setWifi _ _), h.trans (outside_setWifi _ _)⟩
    · exact fun b' h => h.trans (outside_of_eq rfl)
    · exact fun b' json h => h.trans (registerUser_outside b' json _)

/-- One call of `begin`. -/
theorem handleDownloadToy_dl (b : Box) (env : HandlerEnv) :
    (b.handleDownloadToy env).dl = b.dl.tokenStep (.begin b.toy env.download.atomic) := by
  unfold handleDownloadToy tokenStep
  rfl

/-! ## Every step -/

/-- From `b` to `b'` the downloader made these steps. -/
def Steps (b b' : Box) : Prop := ∃ es : List TokenEvent, b'.dl = es.foldl tokenStep b.dl

theorem Outside.steps {b b' : Box} (h : Outside b b') : Steps b b' := by
  obtain ⟨card, wifi, hdl⟩ := h
  exact ⟨[.outside card wifi], hdl⟩

theorem handleInitUserIdCheck_steps (b : Box) (env : HandlerEnv) :
    Steps b (b.handleInitUserIdCheck env) := by
  obtain ⟨b₁, hfirst, card, wifi, hrest⟩ := verifyUserIdWithServer_dl b env.verify
  have hdl : (b.handleInitUserIdCheck env).dl = (b.verifyUserIdWithServer env.verify).2.dl := by
    unfold handleInitUserIdCheck
    dsimp only
    split <;> rfl
  by_cases hvalid : b.dl.validTokenFlag = true
  · rw [if_pos hvalid] at hfirst
    refine ⟨[.outside card wifi], ?_⟩
    rw [hdl, hrest, hfirst]
    rfl
  · rw [if_neg hvalid] at hfirst
    refine ⟨[.request env.verify.tokenConnect env.verify.token.atomic env.verify.errorTail,
      .outside card wifi], ?_⟩
    rw [hdl, hrest, hfirst]
    rfl

theorem handler_steps {b b' : Box} {env : HandlerEnv} (h : b.handler env = some b') : Steps b b' := by
  cases handler_step h with
  | playing hother hstep => exact (playerClosed_lasting.handler hstep hother).outside.steps
  | idle => exact (handleIdle_outside b env.now).steps
  | toyDetected => exact (handleToyDetected_outside b env.now).steps
  | initWifiCheck => exact (handleInitWifiCheck_outside b env).steps
  | initUserIdCheck => exact handleInitUserIdCheck_steps b env
  | downloadWifiConn => exact (handleDownloadWifiConn_outside b env).steps
  | downloadToy => exact ⟨[.begin b.toy env.download.atomic], handleDownloadToy_dl b env⟩

/-! ## The other tasks -/

theorem readFrame_steps (b : Box) (now : ℕ) (data : Bytes) : Steps b (b.readFrame now data) := by
  have htrack : ∀ b : Box, (b.trackTag now).dl = b.dl := by
    intro b
    have hreset : (b.resetToy now).dl = b.dl := by
      obtain ⟨commands, heq⟩ := resetToy_fields b now
      rw [heq]
    unfold trackTag
    dsimp only
    split
    · split
      · exact hreset
      · rfl
    · split <;> rfl
  exact ⟨[.frame (frameUid data)], htrack _⟩

/-! ## Runs of the box -/

theorem step_downloader {b b' : Box} {e : BoxEvent} (h : b.step e = some b') : Steps b b' := by
  cases e with
  | handler env => exact handler_steps h
  | read now data =>
      obtain rfl := Option.some.inj h
      exact readFrame_steps b now data
  | write now address len data =>
      obtain rfl := Option.some.inj h
      exact (writeFrame_outside b now address len data).steps
  | ble now uuid value s => exact (onWrite_outside h).steps
  | pipeline writer =>
      obtain rfl := Option.some.inj h
      exact ⟨[], rfl⟩
  | station e =>
      obtain rfl := Option.some.inj h
      exact (outside_setWifi b _).steps

end

end Box

end Cubbies
