import Cubbies.Proofs.BoxSteps

set_option autoImplicit false

/-! # What the other tasks do to a box

A read frame removes the toy, places one, or changes nothing of it; of the write frames only the
buttons for the next and the previous audio move the box; of the BLE writes only the two that start a
verification do. -/

namespace Cubbies

open CString

namespace Box

/-! ## Read frames -/

/-- The text of the tag a read frame reports. -/
def frameTag (data : Bytes) : Bytes := uidText (frameUid data)

/-- The frame is the first one without the tag. -/
def Removes (b : Box) (data : Bytes) : Prop := b.tagPresentFlag = true ∧ frameTag data = noTag

/-- The frame reports another tag than the frame before. -/
def Exchanges (b : Box) (data : Bytes) : Prop :=
  b.tagPresentFlag = true ∧ frameTag data ≠ noTag ∧
    b.previousTagUid.take 16 ≠ (frameTag data).take 16

instance (b : Box) (data : Bytes) : Decidable (b.Removes data) := inferInstanceAs (Decidable (_ ∧ _))

instance (b : Box) (data : Bytes) : Decidable (b.Exchanges data) :=
  inferInstanceAs (Decidable (_ ∧ _))

/-- The three outcomes of a read frame. -/
inductive ReadOutcome (b : Box) (data : Bytes) (b' : Box) : Prop
  | removed : b.Removes data → b'.state = .idle → b'.toyPresenseFlag = false →
      b'.tagPresentFlag = false → b'.registered = b.registered → ReadOutcome b data b'
  | placed : b.tagPresentFlag = false ∨ b.Exchanges data →
      b'.core = { b.core with
        toy := frameTag data, toyPresenseFlag := true, tagPresentFlag := true } →
      b'.state = b.state → b'.playerGoBackToState = b.playerGoBackToState →
      b'.registered = b.registered → ReadOutcome b data b'
  | same : b'.core = b.core → b'.state = b.state →
      b'.playerGoBackToState = b.playerGoBackToState → b'.registered = b.registered →
      ReadOutcome b data b'

/-- The fields `System::resetToy` writes. -/
theorem resetToy_fields (b : Box) (now : ℕ) : ∃ commands, b.resetToy now =
    { b with
      state := .idle
      idleSinceTick := getStartTime now
      toy := []
      toyPresenseFlag := false
      previousToy := b.toy
      previousTurntable := b.turnTable
      commands := commands } := by
  unfold resetToy toyRemoved pauseCurrentAudio
  dsimp only [setState]
  split
  · exact ⟨_, rfl⟩
  · exact ⟨_, rfl⟩

/-- A frame that removes the toy. -/
theorem readFrame_removal {b : Box} {data : Bytes} (now : ℕ) (h : b.Removes data) :
    ∃ commands, b.readFrame now data =
      { b with
        state := .idle
        idleSinceTick := getStartTime now
        toy := []
        toyPresenseFlag := false
        previousToy := b.toy
        previousTurntable := b.turnTable
        commands := commands
        dl := b.dl.frame (frameUid data)
        batteryLevel := byteAt data 8
        chargingState := byteAt data 9
        tagPresentFlag := false } := by
  obtain ⟨commands, hreset⟩ := resetToy_fields { b with
    dl := b.dl.frame (frameUid data)
    batteryLevel := byteAt data 8
    chargingState := byteAt data 9 } now
  have htag : (b.dl.frame (frameUid data)).tagUid = frameTag data := rfl
  unfold readFrame trackTag
  dsimp only
  rw [htag, if_pos h.2, if_pos h.1, hreset]
  exact ⟨commands, rfl⟩

/-- The fields a read frame may touch that removes no toy. -/
theorem readFrame_fields {b : Box} {data : Bytes} (now : ℕ) (h : ¬ b.Removes data) :
    ∃ dl battery charging toy presense uid present, b.readFrame now data =
      { b with
        dl := dl
        batteryLevel := battery
        chargingState := charging
        toy := toy
        toyPresenseFlag := presense
        previousTagUid := uid
        tagPresentFlag := present } := by
  unfold readFrame
  have htag : (b.dl.frame (frameUid data)).tagUid = frameTag data := rfl
  unfold trackTag
  dsimp only
  rw [htag]
  by_cases hnone : frameTag data = noTag
  · have hflag : ¬ b.tagPresentFlag = true := fun hflag => h ⟨hflag, hnone⟩
    rw [if_pos hnone, if_neg hflag]
    exact ⟨_, _, _, _, _, _, _, rfl⟩
  · rw [if_neg hnone]
    split <;> exact ⟨_, _, _, _, _, _, _, rfl⟩

/-- The fields a read frame may touch. -/
theorem readFrame_touches (b : Box) (now : ℕ) (data : Bytes) :
    ∃ state tick toy presense before turnTable commands dl battery charging uid present,
      b.readFrame now data =
        { b with
          state := state
          idleSinceTick := tick
          toy := toy
          toyPresenseFlag := presense
          previousToy := before
          previousTurntable := turnTable
          commands := commands
          dl := dl
          batteryLevel := battery
          chargingState := charging
          previousTagUid := uid
          tagPresentFlag := present } := by
  by_cases hremoves : b.Removes data
  · obtain ⟨commands, heq⟩ := readFrame_removal now hremoves
    exact ⟨_, _, _, _, _, _, _, _, _, _, _, _, heq⟩
  · obtain ⟨dl, battery, charging, toy, presense, uid, present, heq⟩ := readFrame_fields now hremoves
    exact ⟨_, _, _, _, _, _, _, _, _, _, _, _, heq⟩

theorem readFrame_removes {b : Box} {data : Bytes} (now : ℕ) (h : b.Removes data) :
    (b.readFrame now data).state = .idle := by
  obtain ⟨commands, heq⟩ := readFrame_removal now h
  rw [heq]

theorem readFrame_outcome (b : Box) (now : ℕ) (data : Bytes) :
    ReadOutcome b data (b.readFrame now data) := by
  by_cases hremoves : b.Removes data
  · obtain ⟨commands, heq⟩ := readFrame_removal now hremoves
    rw [heq]
    exact .removed hremoves rfl rfl rfl rfl
  · have htag : (b.dl.frame (frameUid data)).tagUid = frameTag data := rfl
    unfold readFrame trackTag
    dsimp only
    rw [htag]
    by_cases hnone : frameTag data = noTag
    · have hflag : ¬ b.tagPresentFlag = true := fun hflag => hremoves ⟨hflag, hnone⟩
      rw [if_pos hnone, if_neg hflag]
      refine .same ?_ rfl rfl rfl
      simp only [core, Bool.not_eq_true] at hflag ⊢
      rw [hflag]
    · rw [if_neg hnone]
      by_cases hnew : ¬ b.tagPresentFlag = true ∨
          b.previousTagUid.take 16 ≠ (frameTag data).take 16
      · rw [if_pos hnew]
        refine .placed ?_ rfl rfl rfl rfl
        by_cases hflag : b.tagPresentFlag = true
        · exact .inr ⟨hflag, hnone, hnew.resolve_left (not_not_intro hflag)⟩
        · exact .inl (by simpa using hflag)
      · rw [if_neg hnew]
        have hflag : b.tagPresentFlag = true := by simpa using fun h => hnew (.inl h)
        refine .same ?_ rfl rfl rfl
        simp only [core]
        rw [hflag]

/-! ## Write frames -/

/-- The frame is a press of the button for the next audio. -/
def PressesNext (address len : ℕ) (data : Bytes) : Prop :=
  writeReg? address len = some .nextPrev ∧ byteAt data 0 = 1

/-- The frame is a press of the button for the previous audio. -/
def PressesPrevious (address len : ℕ) (data : Bytes) : Prop :=
  writeReg? address len = some .nextPrev ∧ byteAt data 0 = 2

instance (address len : ℕ) (data : Bytes) : Decidable (PressesNext address len data) :=
  inferInstanceAs (Decidable (_ ∧ _))

instance (address len : ℕ) (data : Bytes) : Decidable (PressesPrevious address len data) :=
  inferInstanceAs (Decidable (_ ∧ _))

/-- The outcomes of a write frame. -/
inductive WriteOutcome (b : Box) (now address len : ℕ) (data : Bytes) (b' : Box) : Prop
  | next : PressesNext address len data → b.state = .waitForPlayer →
      b' = b.setState now .playNext → WriteOutcome b now address len data b'
  | previous : PressesPrevious address len data → b.state = .waitForPlayer → b.indexx > 0 →
      b' = b.setState now .playPrevious → WriteOutcome b now address len data b'
  | same : b'.core = b.core → b'.state = b.state →
      b'.playerGoBackToState = b.playerGoBackToState → b'.registered = b.registered →
      WriteOutcome b now address len data b'

theorem playPauseToggle_states (b : Box) : b.playPauseToggle.state = b.state ∧
    b.playPauseToggle.playerGoBackToState = b.playerGoBackToState := by
  unfold playPauseToggle
  split <;> exact ⟨rfl, rfl⟩

theorem skipQuestion_keeps (b : Box) : Keeps b b.skipQuestion ∧ b.skipQuestion.state = b.state ∧
    b.skipQuestion.playerGoBackToState = b.playerGoBackToState := by
  unfold skipQuestion
  split
  · refine ⟨.skipCurrentAudio b, ?_⟩
    unfold skipCurrentAudio
    split <;> exact ⟨rfl, rfl⟩
  · exact ⟨.refl b, rfl, rfl⟩

theorem writeFrame_outcome (b : Box) (now address len : ℕ) (data : Bytes) :
    WriteOutcome b now address len data (b.writeFrame now address len data) := by
  unfold writeFrame
  cases hreg : writeReg? address len with
  | none => exact .same rfl rfl rfl rfl
  | some reg =>
      cases reg with
      | volumeControl =>
          dsimp only [writeRegister]
          split_ifs <;> exact .same rfl rfl rfl rfl
      | playPause =>
          dsimp only [writeRegister]
          split
          · have hkeeps := Keeps.playPauseToggle b
            exact .same hkeeps.core (playPauseToggle_states b).1 (playPauseToggle_states b).2
              hkeeps.registered
          · exact .same rfl rfl rfl rfl
      | nextPrev =>
          dsimp only [writeRegister]
          by_cases hprev : byteAt data 0 = 2
          · rw [if_pos hprev]
            unfold previous
            by_cases hwait : acceptsSkip b.state = true
            · rw [if_pos hwait]
              split
              · next hpos => exact .previous ⟨hreg, hprev⟩ ((acceptsSkip_iff _).1 hwait) hpos rfl
              · exact .same rfl rfl rfl rfl
            · rw [if_neg hwait]
              exact .same rfl rfl rfl rfl
          · rw [if_neg hprev]
            by_cases hnext : byteAt data 0 = 1
            · rw [if_pos hnext]
              unfold Box.next
              by_cases hwait : acceptsSkip b.state = true
              · rw [if_pos hwait]
                exact .next ⟨hreg, hnext⟩ ((acceptsSkip_iff _).1 hwait) rfl
              · rw [if_neg hwait]
                exact .same rfl rfl rfl rfl
            · rw [if_neg hnext]
              exact .same rfl rfl rfl rfl
      | answerOption =>
          dsimp only [writeRegister]
          split_ifs
          · obtain ⟨hkeeps, hstate, hback⟩ := skipQuestion_keeps { b with leftEarButtonState := true }
            exact .same hkeeps.core hstate hback hkeeps.registered
          · obtain ⟨hkeeps, hstate, hback⟩ :=
              skipQuestion_keeps { b with rightEarButtonState := true }
            exact .same hkeeps.core hstate hback hkeeps.registered
          · exact .same rfl rfl rfl rfl
      | chargingStatus => exact .same rfl rfl rfl rfl
      | batteryPercent => exact .same rfl rfl rfl rfl
      | turnTablePosition => exact .same rfl rfl rfl rfl

/-! ## BLE writes -/

section

variable [CJson]

/-- The write is one of the two that start a verification: new credentials with a first user, or a
verified user adding one. -/
def StartsVerification (b : Box) (uuid : BleUuid) (value : Bytes) : Prop :=
  value.length < 200 ∧ ∃ json, CJson.parse (text value) = some json ∧
    match uuid with
    | .writeInitialize => True
    | .writeCommand =>
        json.numberField? (str "msgTyp") = some 6 ∧
          ∃ userID, json.stringField? (str "userID") = some userID ∧ b.verifyUser userID = true
    | .other => False

/-- The outcomes of a BLE write. -/
inductive BleOutcome (b : Box) (uuid : BleUuid) (value : Bytes) (b' : Box) : Prop
  | verifies : b.StartsVerification uuid value → b'.core = b.core →
      b'.state ∈ [SystemState.initWifiCheck, .initUserIdCheck] → b'.registered = b.registered →
      BleOutcome b uuid value b'
  | same : b'.core = b.core → b'.state = b.state →
      b'.playerGoBackToState = b.playerGoBackToState → b'.registered = b.registered →
      BleOutcome b uuid value b'

omit [CJson] in
theorem systemInitialize_spec {b b' : Box} {now : ℕ} {ssid password user : Bytes}
    (h : b.systemInitialize now ssid password user = some b') :
    b'.core = b.core ∧ b'.state = .initWifiCheck ∧ b'.registered = b.registered := by
  simp only [systemInitialize, Option.bind_eq_bind, Option.bind_eq_some_iff] at h
  obtain ⟨s, -, p, -, u, -, hb⟩ := h
  rw [← Option.some.inj hb]
  exact ⟨rfl, rfl, rfl⟩

omit [CJson] in
/-- What `verifyUserID` does: the name goes to the slot it is for, if there is one and it fits. -/
theorem verifyUserID_cases {b b' : Box} {now : ℕ} {user : Bytes} {userNo : UInt8}
    (h : b.verifyUserID now user userNo = some b') :
    (userNo = 1 ∧ b' = { b with initUser1 := user }.setState now .initUserIdCheck) ∨
      (userNo = 2 ∧ b' = { b with initUser2 := user }.setState now .initUserIdCheck) ∨
      (userNo ≠ 1 ∧ userNo ≠ 2 ∧ b' = b.setState now .initUserIdCheck) := by
  obtain ⟨b₁, hslot, rfl⟩ := Option.map_eq_some_iff.1 h
  split_ifs at hslot with hone htwo
  · obtain ⟨u, hu, rfl⟩ := Option.map_eq_some_iff.1 hslot
    rw [eq_of_strcpy hu]
    exact .inl ⟨hone, rfl⟩
  · obtain ⟨u, hu, rfl⟩ := Option.map_eq_some_iff.1 hslot
    rw [eq_of_strcpy hu]
    exact .inr (.inl ⟨htwo, rfl⟩)
  · obtain rfl := Option.some.inj hslot
    exact .inr (.inr ⟨hone, htwo, rfl⟩)

omit [CJson] in
theorem verifyUserID_spec {b b' : Box} {now : ℕ} {user : Bytes} {userNo : UInt8}
    (h : b.verifyUserID now user userNo = some b') :
    b'.core = b.core ∧ b'.state = .initUserIdCheck ∧ b'.registered = b.registered := by
  rcases verifyUserID_cases h with ⟨-, rfl⟩ | ⟨-, rfl⟩ | ⟨-, -, rfl⟩
  · exact ⟨rfl, rfl, rfl⟩
  · exact ⟨rfl, rfl, rfl⟩
  · exact ⟨rfl, rfl, rfl⟩

omit [CJson] in
/-- A command of a verified user changes the card or the WiFi object, starts the verification of a new
user, or leaves the box as it is. -/
theorem bleCommand_cases {P : Box → Prop} {b b' : Box} {now : ℕ} {msgType : ℤ} {json : Json}
    {s : Wifi.CredentialsScript} (h : b.bleCommand now msgType json s = some b') (hsame : P b)
    (hwifi : ∀ w, P (b.setWifi w)) (hcard : ∀ c, P (b.setCard c))
    (hverify : msgType = 6 → ∀ user userNo b', b.verifyUserID now user userNo = some b' → P b') :
    P b' := by
  unfold bleCommand at h
  split at h
  · simp only [Option.bind_eq_bind, Option.bind_eq_some_iff] at h
    obtain ⟨ssid, -, password, -, hb⟩ := h
    rw [← Option.some.inj hb]
    exact hwifi _
  · obtain ⟨volume, -, rfl⟩ := Option.map_eq_some_iff.1 h
    exact hsame
  · simp only [Option.bind_eq_bind, Option.bind_eq_some_iff] at h
    obtain ⟨state, -, duration, -, color, -, blue, -, hb⟩ := h
    rw [← Option.some.inj hb]
    exact hsame
  · simp only [writeBoxName, Option.bind_eq_bind, Option.bind_eq_some_iff] at h
    obtain ⟨name, -, copied, -, hb⟩ := h
    rw [← Option.some.inj hb]
    exact hcard _
  · obtain ⟨url, -, rfl⟩ := Option.map_eq_some_iff.1 h
    exact hsame
  · simp only [Option.bind_eq_bind, Option.bind_eq_some_iff] at h
    obtain ⟨item, -, userNo, -, hb⟩ := h
    split at hb
    · next user _ => exact hverify rfl user _ b' hb
    · split at hb
      · cases hb
      · exact hverify rfl [] _ b' hb
  · obtain rfl := Option.some.inj h
    exact hsame

/-- A BLE write starts the verification of a first user, is the command of a verified user, or leaves the
box as it is. -/
theorem onWrite_cases {P : Box → Prop} {b b' : Box} {now : ℕ} {uuid : BleUuid} {value : Bytes}
    {s : Wifi.CredentialsScript} (h : b.onWrite now uuid value s = some b') (hsame : P b)
    (hinitial : b.StartsVerification uuid value →
      ∀ ssid password user b', b.systemInitialize now ssid password user = some b' → P b')
    (hcommand : ∀ msgType json, (msgType = 6 → b.StartsVerification uuid value) →
      ∀ b', b.bleCommand now msgType json s = some b' → P b') : P b' := by
  unfold onWrite at h
  split at h
  · obtain rfl := Option.some.inj h
    exact hsame
  · next hlen =>
      have hshort : value.length < 200 := Nat.lt_of_not_le hlen
      split at h
      · obtain rfl := Option.some.inj h
        exact hsame
      · next json hparse =>
          cases uuid with
          | writeInitialize =>
              simp only [Option.bind_eq_bind, Option.bind_eq_some_iff] at h
              obtain ⟨ssid, -, password, -, user, -, hb⟩ := h
              exact hinitial ⟨hshort, json, hparse, trivial⟩ ssid password user b' hb
          | writeCommand =>
              dsimp only at h
              split at h
              · next msgType userID htype huser =>
                  split at h
                  · next hverified =>
                      refine hcommand msgType json (fun hsix => ?_) b' h
                      exact ⟨hshort, json, hparse, hsix ▸ htype, userID, huser, hverified⟩
                  · obtain rfl := Option.some.inj h
                    exact hsame
              · obtain rfl := Option.some.inj h
                exact hsame
          | other =>
              obtain rfl := Option.some.inj h
              exact hsame

/-- Only the command to add a user moves the box. -/
theorem bleCommand_outcome {b b' : Box} {now : ℕ} {msgType : ℤ} {json : Json}
    {s : Wifi.CredentialsScript} {uuid : BleUuid} {value : Bytes}
    (hstart : msgType = 6 → b.StartsVerification uuid value)
    (h : b.bleCommand now msgType json s = some b') : BleOutcome b uuid value b' := by
  refine bleCommand_cases h ?_ ?_ ?_ ?_
  · exact .same rfl rfl rfl rfl
  · exact fun w => .same rfl rfl rfl rfl
  · exact fun c => .same rfl rfl rfl rfl
  · intro hsix user userNo b' hb
    obtain ⟨hcore, hstate, hreg⟩ := verifyUserID_spec hb
    exact .verifies (hstart hsix) hcore (by simp [hstate]) hreg

theorem onWrite_outcome {b b' : Box} {now : ℕ} {uuid : BleUuid} {value : Bytes}
    {s : Wifi.CredentialsScript} (h : b.onWrite now uuid value s = some b') :
    BleOutcome b uuid value b' := by
  refine onWrite_cases h ?_ ?_ ?_
  · exact .same rfl rfl rfl rfl
  · intro hstart ssid password user b' hb
    obtain ⟨hcore, hstate, hreg⟩ := systemInitialize_spec hb
    exact .verifies hstart hcore (by simp [hstate]) hreg
  · intro msgType json hstart b' hb
    exact bleCommand_outcome hstart hb

end

/-! ## All other tasks -/

/-- The states to which a task other than the handler sends the box. -/
def taskStates : List SystemState :=
  [.idle, .playNext, .playPrevious, .initWifiCheck, .initUserIdCheck]

/-- **A step of another task** sends the box to one of a few states, or leaves it where it is with the
same audio. -/
theorem task_states [CJson] {b b' : Box} {e : BoxEvent} (he : ∀ env, e ≠ .handler env)
    (h : b.step e = some b') :
    b'.state ∈ taskStates ∨
      b'.state = b.state ∧ b'.playerGoBackToState = b.playerGoBackToState ∧
        b'.indexx = b.indexx := by
  cases e with
  | handler env => exact absurd rfl (he env)
  | read now data =>
      obtain rfl := Option.some.inj h
      rcases readFrame_outcome b now data with ⟨-, hidle, -⟩ | ⟨-, hcore, hstate, hback, -⟩ |
        ⟨hcore, hstate, hback, -⟩
      · exact .inl (hidle ▸ by decide)
      · exact .inr ⟨hstate, hback, congrArg Core.indexx hcore⟩
      · exact .inr ⟨hstate, hback, congrArg Core.indexx hcore⟩
  | write now address len data =>
      obtain rfl := Option.some.inj h
      rcases writeFrame_outcome b now address len data with ⟨-, -, heq⟩ | ⟨-, -, -, heq⟩ |
        ⟨hcore, hstate, hback, -⟩
      · exact .inl (heq ▸ by simp [taskStates, setState])
      · exact .inl (heq ▸ by simp [taskStates, setState])
      · exact .inr ⟨hstate, hback, congrArg Core.indexx hcore⟩
  | ble now uuid value s =>
      rcases onWrite_outcome h with ⟨-, -, hverifies, -⟩ | ⟨hcore, hstate, hback, -⟩
      · have hsub : ∀ s ∈ [SystemState.initWifiCheck, .initUserIdCheck], s ∈ taskStates := by decide
        exact .inl (hsub _ hverifies)
      · exact .inr ⟨hstate, hback, congrArg Core.indexx hcore⟩
  | pipeline writer =>
      obtain rfl := Option.some.inj h
      exact .inr ⟨rfl, rfl, rfl⟩
  | station e =>
      obtain rfl := Option.some.inj h
      exact .inr ⟨rfl, rfl, rfl⟩

/-- The same of the position. -/
theorem task_position [CJson] {b b' : Box} {e : BoxEvent} (he : ∀ env, e ≠ .handler env)
    (h : b.step e = some b') :
    b'.position ∈ taskStates ∨ b'.position = b.position ∧ b'.indexx = b.indexx := by
  rcases task_states he h with hmoved | ⟨hstate, hback, hindexx⟩
  · refine .inl ?_
    rwa [position_of_state rfl fun hwait => absurd (hwait ▸ hmoved) (by decide)]
  · refine .inr ⟨?_, hindexx⟩
    unfold position
    rw [hstate, hback]

/-! ## What only the handler writes -/

/-- Fields that neither a write frame nor a BLE write touches. -/
structure Handled where
  memory : Memory
  qnaAttempt : UInt8

def handled (b : Box) : Handled := ⟨b.memory, b.qnaAttempt⟩

/-- A removal remembers the toy. -/
theorem readFrame_handled (b : Box) (now : ℕ) (data : Bytes) :
    (b.readFrame now data).handled =
      if b.Removes data then { b.handled with memory.previousToy := b.toy } else b.handled := by
  by_cases hremoves : b.Removes data
  · obtain ⟨commands, heq⟩ := readFrame_removal now hremoves
    rw [heq, if_pos hremoves]
    rfl
  · obtain ⟨dl, battery, charging, toy, presense, uid, present, heq⟩ := readFrame_fields now hremoves
    rw [heq, if_neg hremoves]
    rfl

theorem next_handled (b : Box) (now : ℕ) : (b.next now).handled = b.handled := by
  unfold next
  split <;> rfl

theorem previous_handled (b : Box) (now : ℕ) : (b.previous now).handled = b.handled := by
  unfold previous
  split
  · split <;> rfl
  · rfl

theorem playPauseToggle_handled (b : Box) : b.playPauseToggle.handled = b.handled := by
  unfold playPauseToggle
  split <;> rfl

theorem skipQuestion_handled (b : Box) : b.skipQuestion.handled = b.handled := by
  unfold skipQuestion skipCurrentAudio
  split
  · split <;> rfl
  · rfl

theorem writeFrame_handled (b : Box) (now address len : ℕ) (data : Bytes) :
    (b.writeFrame now address len data).handled = b.handled := by
  unfold writeFrame
  split
  · next reg _ =>
      cases reg with
      | volumeControl =>
          dsimp only [writeRegister]
          split_ifs <;> rfl
      | playPause =>
          dsimp only [writeRegister]
          split
          · exact playPauseToggle_handled b
          · rfl
      | nextPrev =>
          dsimp only [writeRegister]
          split_ifs
          · exact previous_handled b now
          · exact next_handled b now
          · rfl
      | answerOption =>
          dsimp only [writeRegister]
          split_ifs
          · exact skipQuestion_handled { b with leftEarButtonState := true }
          · exact skipQuestion_handled { b with rightEarButtonState := true }
          · rfl
      | chargingStatus => rfl
      | batteryPercent => rfl
      | turnTablePosition => rfl
  · rfl

/-- The fields a BLE write may touch. -/
def BleFields (b b' : Box) : Prop :=
  ∃ state tick ssid password user1 user2 dl, b' =
    { b with
      state := state
      idleSinceTick := tick
      initSsid := ssid
      initPassword := password
      initUser1 := user1
      initUser2 := user2
      dl := dl }

theorem BleFields.refl (b : Box) : BleFields b b := ⟨_, _, _, _, _, _, _, rfl⟩

theorem verifyUserID_fields {b b' : Box} {now : ℕ} {user : Bytes} {userNo : UInt8}
    (h : b.verifyUserID now user userNo = some b') : BleFields b b' := by
  rcases verifyUserID_cases h with ⟨-, rfl⟩ | ⟨-, rfl⟩ | ⟨-, -, rfl⟩
  · exact ⟨_, _, _, _, _, _, _, rfl⟩
  · exact ⟨_, _, _, _, _, _, _, rfl⟩
  · exact ⟨_, _, _, _, _, _, _, rfl⟩

theorem systemInitialize_fields {b b' : Box} {now : ℕ} {ssid password user : Bytes}
    (h : b.systemInitialize now ssid password user = some b') : BleFields b b' := by
  simp only [systemInitialize, Option.bind_eq_bind, Option.bind_eq_some_iff] at h
  obtain ⟨s, -, p, -, u, -, hb⟩ := h
  rw [← Option.some.inj hb]
  exact ⟨_, _, _, _, _, _, _, rfl⟩

theorem bleCommand_fields {b b' : Box} {now : ℕ} {msgType : ℤ} {json : Json}
    {s : Wifi.CredentialsScript} (h : b.bleCommand now msgType json s = some b') :
    BleFields b b' := by
  refine bleCommand_cases h ?_ ?_ ?_ ?_
  · exact .refl b
  · exact fun w => ⟨_, _, _, _, _, _, _, rfl⟩
  · exact fun c => ⟨_, _, _, _, _, _, _, rfl⟩
  · exact fun _ user userNo b' hb => verifyUserID_fields hb

theorem onWrite_fields [CJson] {b b' : Box} {now : ℕ} {uuid : BleUuid} {value : Bytes}
    {s : Wifi.CredentialsScript} (h : b.onWrite now uuid value s = some b') : BleFields b b' := by
  refine onWrite_cases h ?_ ?_ ?_
  · exact .refl b
  · exact fun _ ssid password user b' hb => systemInitialize_fields hb
  · exact fun msgType json _ b' hb => bleCommand_fields hb

theorem onWrite_handled [CJson] {b b' : Box} {now : ℕ} {uuid : BleUuid} {value : Bytes}
    {s : Wifi.CredentialsScript} (h : b.onWrite now uuid value s = some b') :
    b'.handled = b.handled := by
  obtain ⟨state, tick, ssid, password, user1, user2, dl, rfl⟩ := onWrite_fields h
  rfl

end Box

end Cubbies
