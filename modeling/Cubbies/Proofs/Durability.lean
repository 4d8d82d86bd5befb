import Cubbies.Lib.Refinement
import Cubbies.Ble
import Cubbies.Proofs.CardOwnership
import Cubbies.Proofs.ProfileFrame
import Cubbies.Proofs.VolumeButtons

set_option autoImplicit false

/-! # What survives

The users, the name of the box, the volume and the credentials are kept on the card, and changed by four
tasks. `Settings` is what they are for: a record with four updates. `settings_durable` says that the card
is this record in all sessions, over any number of power cycles: whatever else is downloaded, played or
written, the card holds the last value asked for, and the users the box knows are those on it. -/

namespace Cubbies

open CString Runs

/-! ## The settings of a box -/

structure Settings where
  user : Slot → Bytes
  boxName : Option Bytes
  volume : Option Bytes
  credentials : Option Credentials

inductive SettingsEvent where
  | user (n : Slot) (id : Bytes)
  | boxName (name : Bytes)
  | volume (volume maxVolume : UInt8)
  | credentials (c : Credentials)

/-- An update replaces what it is about. Of an id 36 characters are kept. -/
def Settings.apply (t : Settings) : SettingsEvent → Settings
  | .user n id => { t with user := Function.update t.user n (text (id.take 36)) }
  | .boxName name => { t with boxName := some (text name) }
  | .volume volume maxVolume => { t with volume := some [volume, maxVolume] }
  | .credentials c => { t with credentials := some c }

/-- The settings on a card, and on the credentials file that is on it too. -/
def storedSettings (c : Card) (credentialsFile : Option Credentials) : Settings where
  user n := Box.readUserID c n.index
  boxName := (c.content? Box.boxNamePath).map text
  volume := c.content? Box.volumePath
  credentials := credentialsFile

def Box.settings (b : Box) : Settings := storedSettings b.dl.card b.dl.wifi.credentialsFile

/-! ## Paths -/

/-- The files of the settings. -/
def settingsPaths : List Bytes := [Box.userIdPath 1, Box.userIdPath 2, Box.boxNamePath, Box.volumePath]

theorem userIdPath_mem (n : Slot) : Box.userIdPath n.index ∈ settingsPaths := by
  cases n <;> simp [settingsPaths, Slot.index]

/-- No settings are stored where downloads go. -/
theorem not_media_of_settings {p : Bytes} (hp : p ∈ settingsPaths) : ¬ Media p := by
  have hall : ∀ p ∈ settingsPaths, ¬ (Downloader.toysPath <+: p ∨ Downloader.audioPath <+: p) := by
    decide +kernel
  exact hall p hp

theorem not_onToysPath_of_settings {p : Bytes} (hp : p ∈ settingsPaths) : ¬ OnToysPath p := by
  have hall : ∀ p ∈ settingsPaths, ¬ (p <+: Downloader.toysPath ∨ Downloader.toysPath <+: p) := by
    decide +kernel
  exact hall p hp

/-- Equal contents, equal settings. -/
theorem storedSettings_congr {c c' : Card} {f : Option Credentials}
    (h : ∀ p ∈ settingsPaths, c'.content? p = c.content? p) :
    storedSettings c' f = storedSettings c f := by
  have huser : ∀ n : Slot, Box.readUserID c' n.index = Box.readUserID c n.index := by
    intro n
    unfold Box.readUserID
    rw [h _ (userIdPath_mem n)]
  unfold storedSettings
  rw [h Box.boxNamePath (by simp [settingsPaths]), h Box.volumePath (by simp [settingsPaths])]
  simp only [huser]

/-! ## The card -/

/-- The folder of the settings. -/
def dataDir : Bytes := str "/sdcard/data"

/-- It is there, and none of their files is a folder. -/
structure Mounted (c : Card) : Prop where
  data : dataDir ∈ c.dirs
  free : ∀ p ∈ settingsPaths, p ∉ c.dirs

theorem Mounted.opens {c : Card} (h : Mounted c) {p : Bytes} (hp : p ∈ settingsPaths) :
    (c.fopenWrite p).isSome = true := by
  have hall : ∀ p ∈ settingsPaths, parentDir p = dataDir := by decide +kernel
  rw [Card.fopenWrite_isSome_iff, hall p hp]
  exact ⟨h.data, h.free p hp⟩

theorem Within.mounted {P T : Bytes → Prop} {c c' : Card} (h : Within P T c c') (hc : Mounted c) :
    Mounted c' where
  data := h.dirs _ hc.data
  free p hp hdir := by
    rcases h.folders p hdir with hold | hnew
    · exact hc.free p hp hold
    · exact not_onToysPath_of_settings hp hnew

/-- A file of the settings that is written holds what was written. -/
theorem Mounted.writeFile {c : Card} (h : Mounted c) {p : Bytes} (hp : p ∈ settingsPaths)
    (bytes q : Bytes) :
    ((c.writeFile p bytes).getD c).content? q = if q = p then some bytes else c.content? q := by
  obtain ⟨c', hwritten, -⟩ := Card.exists_writeFile (h.opens hp) bytes
  rw [hwritten, Option.getD_some]
  exact Card.content?_writeFile hwritten q

namespace Box

/-! ## What is asked for -/

section

variable [CJson]

/-- New credentials count once they have worked and are in their file. -/
def credentialsAsked (b : Box) (s : Wifi.CredentialsScript) (new : Credentials) : List SettingsEvent :=
  if (b.dl.wifi.bleWriteCredentials s new).1 = true ∧ s.opens = true then [.credentials new] else []

/-- What a verification with a token asks for: the user of the slot that is checked, if the answer comes
and confirms it. -/
def usersConfirmed (b : Box) (s : VerifyScript) : List SettingsEvent :=
  match b.slotChecked with
  | some n =>
      if (b.dl.wifi.connect s.connect).1 = 0 ∧ s.answer.ok ∧ b.bufferConfirms s.answer n then
        [.user n (b.pendingName n)]
      else []
  | none => []

/-- A user counts once the server has confirmed it. -/
def usersAsked (b : Box) (s : VerifyScript) : List SettingsEvent := (b.withToken s).usersConfirmed s

/-- What a command of a verified user asks for. -/
def commandAsked (b : Box) (c : Command) (s : Wifi.CredentialsScript) : List SettingsEvent :=
  if c.msgType = 1 then
    match c.json.stringField? (str "ssid"), c.json.stringField? (str "password") with
    | some ssid, some password => b.credentialsAsked s ⟨ssid, password⟩
    | _, _ => []
  else if c.msgType = 4 then
    match c.json.stringField? (str "boxName") with
    | some name => [.boxName name]
    | none => []
  else []

/-- What a step asks to be kept. -/
def asked (b : Box) : BoxEvent → List SettingsEvent
  | .handler env =>
      if b.state = .initWifiCheck then
        b.credentialsAsked env.credentials ⟨b.initSsid, b.initPassword⟩
      else if b.state = .initUserIdCheck then b.usersAsked env.verify
      else []
  | .write _ address len data =>
      if writeReg? address len = some .volumeControl then
        if byteAt data 0 = 2 then [.volume (lowered b.volume) b.maxVolume]
        else if byteAt data 0 = 1 then [.volume (raised b.volume b.maxVolume) b.maxVolume]
        else []
      else []
  | .ble _ uuid value s =>
      if uuid = .writeCommand then
        match b.dispatched? value with
        | some c => b.commandAsked c s
        | none => []
      else []
  | .read _ _ | .pipeline _ | .station _ => []

/-- Losing the power is no reason to change anything. -/
def sessionAsked (b : Box) : SessionEvent → List SettingsEvent
  | .step e => b.asked e
  | .power _ _ _ => []

end

/-! ## Steps that change nothing of it -/

/-- From `b` to `b'` neither the settings nor what the box knows of them has changed. -/
structure SettingsKept (b b' : Box) : Prop where
  settings : b'.settings = b.settings
  user : ∀ n, b'.user n = b.user n

theorem SettingsKept.trans {b₁ b₂ b₃ : Box} (h : SettingsKept b₁ b₂) (h' : SettingsKept b₂ b₃) :
    SettingsKept b₁ b₃ :=
  ⟨h'.settings.trans h.settings, fun n => (h'.user n).trans (h.user n)⟩

theorem SettingsKept.of_eq {b b' : Box}
    (hcontent : ∀ p ∈ settingsPaths, b'.dl.card.content? p = b.dl.card.content? p)
    (hfile : b'.dl.wifi.credentialsFile = b.dl.wifi.credentialsFile)
    (huser1 : b'.sysUser1 = b.sysUser1) (huser2 : b'.sysUser2 = b.sysUser2) :
    SettingsKept b b' where
  settings := by
    unfold Box.settings
    rw [hfile]
    exact storedSettings_congr hcontent
  user n := by
    cases n with
    | first => exact huser1
    | second => exact huser2

section

variable [CJson]

/-! ## The handler -/

omit [CJson] in
/-- Asking for the token leaves the settings and the credentials file alone. -/
theorem downloadToken_settings (d : Downloader) (connect : WaitScript) (x : Exchange) (tail : Bytes) :
    (∀ p ∈ settingsPaths, (d.downloadToken connect x tail).card.content? p = d.card.content? p) ∧
      (d.downloadToken connect x tail).wifi.credentialsFile = d.wifi.credentialsFile := by
  refine ⟨fun p hp => (Downloader.downloadToken_within d connect x tail).content p ?_, ?_⟩
  · rintro rfl
    exact not_media_of_settings hp (.inl (Downloader.toysPath_errorPath d.toy))
  · exact Downloader.downloadToken_credentialsFile d connect x tail

omit [CJson] in
/-- The answer confirms the user of the slot that is checked, or not, or no slot is checked. -/
theorem registerUser_cases (b : Box) (json : Json) (body : Bytes) :
    (b.registerUser json body = b ∧ b.slotChecked = none ∧ b.registerNotified json = []) ∨
      ∃ n, b.slotChecked = some n ∧
        ((json.getObjectItemCaseSensitive n.field).any Json.isTrue = false ∧
            b.registerUser json body = b ∧ b.registerNotified json = [.verificationFailed] ∨
          (json.getObjectItemCaseSensitive n.field).any Json.isTrue = true ∧
            b.registerUser json body =
              { b.writeUserID n.index (b.pendingName n) with
                registered := ⟨n.index, b.pendingName n, body⟩ :: b.registered } ∧
            b.registerNotified json = [.verificationSuccess]) := by
  unfold registerUser registerNotified slotChecked
  dsimp only
  split_ifs with hfirst hyes hsecond hyes
  · exact .inr ⟨.first, rfl, .inr ⟨hyes, rfl, rfl⟩⟩
  · exact .inr ⟨.first, rfl, .inl ⟨Bool.eq_false_iff.2 hyes, rfl, rfl⟩⟩
  · exact .inr ⟨.second, rfl, .inr ⟨hyes, rfl, rfl⟩⟩
  · exact .inr ⟨.second, rfl, .inl ⟨Bool.eq_false_iff.2 hyes, rfl, rfl⟩⟩
  · exact .inl ⟨rfl, rfl, rfl⟩

/-- The notification of a verification once the token is there, or has been asked for. -/
def verifyWithTokenNotified (b : Box) (s : VerifyScript) : List Notification :=
  let r := b.dl.wifi.connect s.connect
  if r.1 = 0 then
    let r := initializerCallback.perform (fun b _ => b) (b.setWifi r.2) s.answer
    if r.1 then
      match CJson.parse (text r.2.outputBuff) with
      | none => []
      | some json => r.2.registerNotified json
    else []
  else []

/-- How a verification ends, with what it notifies and asks to be kept: without a word, with a refusal, or
with a user registered. The last two end the state too. -/
inductive VerifyOutcome (b : Box) : Bool × Box → List Notification → List SettingsEvent → Prop where
  | silent {finished : Bool} {b' : Box} : SettingsKept b b' → VerifyOutcome b (finished, b') [] []
  | failed {b' : Box} : SettingsKept b b' → VerifyOutcome b (true, b') [.verificationFailed] []
  | success {b' : Box} {n : Slot} : b.slotChecked = some n →
      SettingsKept (b.writeUserID n.index (b.pendingName n)) b' →
        VerifyOutcome b (true, b') [.verificationSuccess] [.user n (b.pendingName n)]

theorem usersConfirmed_eq_nil {b : Box} {s : VerifyScript}
    (h : ¬ ((b.dl.wifi.connect s.connect).1 = 0 ∧ s.answer.ok = true ∧
      ∃ n, b.slotChecked = some n ∧ b.bufferConfirms s.answer n = true)) : b.usersConfirmed s = [] := by
  unfold usersConfirmed
  split
  · next n hslot => exact if_neg fun hyes => h ⟨hyes.1, hyes.2.1, n, hslot, hyes.2.2⟩
  · rfl

theorem usersConfirmed_eq_user {b : Box} {s : VerifyScript} {n : Slot}
    (honline : (b.dl.wifi.connect s.connect).1 = 0) (hok : s.answer.ok = true)
    (hslot : b.slotChecked = some n) (hyes : b.bufferConfirms s.answer n = true) :
    b.usersConfirmed s = [.user n (b.pendingName n)] := by
  unfold usersConfirmed
  rw [hslot]
  exact if_pos ⟨honline, hok, hyes⟩

theorem verifyWithToken_outcome (b : Box) (s : VerifyScript) :
    VerifyOutcome b (b.verifyWithToken s) (b.verifyWithTokenNotified s) (b.usersConfirmed s) := by
  have hup := Wifi.credentialsFile_connect b.dl.wifi s.connect
  have hback : ∀ w : Wifi, w.credentialsFile = b.dl.wifi.credentialsFile →
      (w.disconnect s.disconnect).2.credentialsFile = b.dl.wifi.credentialsFile :=
    fun w hw => (Wifi.credentialsFile_disconnect w s.disconnect).trans hw
  -- the buffer confirms what the JSON that is read from it says
  have hconfirms : ∀ n, b.bufferConfirms s.answer n =
      ((CJson.parse
        (text ((b.setWifi (b.dl.wifi.connect s.connect).2).received s.answer).outputBuff)).bind
        (Json.getObjectItemCaseSensitive · n.field)).any Json.isTrue := fun n => rfl
  unfold verifyWithToken verifyWithTokenNotified
  dsimp only
  rw [perform_initializerCallback]
  split_ifs with honline hok
  · dsimp only
    cases hparse : CJson.parse
        (text ((b.setWifi (b.dl.wifi.connect s.connect).2).received s.answer).outputBuff) with
    | none =>
        rw [usersConfirmed_eq_nil]
        · exact .silent (.of_eq (fun _ _ => rfl) hup rfl rfl)
        · rintro ⟨-, -, n, -, hyes⟩
          rw [hconfirms, hparse] at hyes
          cases hyes
    | some json =>
        have hfield : ∀ n, b.bufferConfirms s.answer n =
            (json.getObjectItemCaseSensitive n.field).any Json.isTrue := by
          intro n
          rw [hconfirms, hparse]
          rfl
        have hregister := registerUser_cases
          ((b.setWifi (b.dl.wifi.connect s.connect).2).received s.answer) json s.answer.body
        dsimp only at hregister ⊢
        rcases hregister with ⟨hsame, hslot, hquiet⟩ |
          ⟨n, hslot, ⟨hno, hsame, hfailed⟩ | ⟨hyes, hwrites, hsuccess⟩⟩
        · rw [hsame, hquiet, usersConfirmed_eq_nil]
          · exact .silent (.of_eq (fun _ _ => rfl) (hback _ hup) rfl rfl)
          · rintro ⟨-, -, n, hslot', -⟩
            cases hslot.symm.trans hslot'
        · rw [hsame, hfailed, usersConfirmed_eq_nil]
          · exact .failed (.of_eq (fun _ _ => rfl) (hback _ hup) rfl rfl)
          · rintro ⟨-, -, m, hslot', hyes⟩
            obtain rfl := Option.some.inj (hslot.symm.trans hslot')
            rw [hfield, hno] at hyes
            cases hyes
        · rw [hwrites, hsuccess, usersConfirmed_eq_user honline hok hslot ((hfield n).trans hyes)]
          refine .success (n := n) hslot ?_
          cases n <;> exact .of_eq (fun _ _ => rfl) (hback _ hup) rfl rfl
  · rw [usersConfirmed_eq_nil fun h => hok h.2.1]
    exact .silent (.of_eq (fun _ _ => rfl) (hback _ hup) rfl rfl)
  · rw [usersConfirmed_eq_nil fun h => honline h.1]
    exact .silent (.of_eq (fun _ _ => rfl) (hback _ hup) rfl rfl)

/-- Asking for the token changes neither the settings nor the request. -/
structure TokenAsked (b b₁ : Box) : Prop where
  kept : SettingsKept b b₁
  pending : b₁.initUser1 = b.initUser1 ∧ b₁.initUser2 = b.initUser2
  mounted : Mounted b.dl.card → Mounted b₁.dl.card

omit [CJson] in
theorem tokenAsked (b : Box) (s : VerifyScript) : TokenAsked b (b.withToken s) := by
  unfold withToken
  split
  · exact ⟨⟨rfl, fun _ => rfl⟩, ⟨rfl, rfl⟩, id⟩
  · obtain ⟨hcontent, hfile⟩ :=
      downloadToken_settings b.dl.new s.tokenConnect s.token.atomic s.errorTail
    exact ⟨.of_eq hcontent hfile rfl rfl, ⟨rfl, rfl⟩,
      (Downloader.downloadToken_within b.dl.new s.tokenConnect s.token.atomic s.errorTail).mounted⟩

omit [CJson] in
theorem TokenAsked.pendingName {b b₁ : Box} (h : TokenAsked b b₁) (n : Slot) :
    b₁.pendingName n = b.pendingName n := by
  cases n with
  | first => exact h.pending.1
  | second => exact h.pending.2

omit [CJson] in
theorem TokenAsked.slotChecked {b b₁ : Box} (h : TokenAsked b b₁) : b₁.slotChecked = b.slotChecked := by
  unfold Box.slotChecked
  rw [h.pending.1, h.pending.2]

/-- How a verification ends for the box that starts it. -/
theorem verifyUserIdWithServer_outcome (b : Box) (s : VerifyScript) :
    VerifyOutcome (b.withToken s) (b.verifyUserIdWithServer s) (b.verifyNotified s) (b.usersAsked s) :=
  verifyWithToken_outcome (b.withToken s) s

end

/-! ## Registering a user -/

/-- The settings can be written, and the users the box knows are those on the card. -/
structure Durable (b : Box) : Prop where
  mounted : Mounted b.dl.card
  user : ∀ n, text (b.user n) = b.settings.user n

/-- A step that writes no user's file, and leaves the users alone. -/
theorem Durable.of_within {b b' : Box} {P T : Bytes → Prop} (h : Durable b)
    (hwithin : Within P T b.dl.card b'.dl.card) (hpath : ∀ n : Slot, ¬ P (userIdPath n.index))
    (huser : ∀ n, b'.user n = b.user n) : Durable b' where
  mounted := hwithin.mounted h.mounted
  user n := by
    have hread : b'.settings.user n = b.settings.user n := by
      show readUserID b'.dl.card n.index = readUserID b.dl.card n.index
      unfold readUserID
      rw [hwithin.content _ (hpath n)]
    rw [huser, hread]
    exact h.user n

theorem Durable.kept {b b' : Box} (h : Durable b) (hmounted : Mounted b'.dl.card)
    (hkept : SettingsKept b b') : Durable b' where
  mounted := hmounted
  user n := by
    rw [hkept.user, hkept.settings]
    exact h.user n

/-- What follows the text of a string does not change it if it is zeros. -/
theorem text_append_replicate (s : Bytes) (n : ℕ) : text (s ++ List.replicate n 0) = text s := by
  rcases text_append s (List.replicate n 0) with h | ⟨hs, h⟩
  · exact h
  · have hzeros : text (List.replicate n (0 : UInt8)) = [] :=
      text_append_zeros (s := []) List.not_mem_nil n
    rw [h, hzeros, List.append_nil, hs]

theorem readUserID_writeUserID {b : Box} (h : Mounted b.dl.card) (n m : Slot) (u : Bytes) :
    readUserID (b.writeUserID n.index u).dl.card m.index =
      Function.update b.settings.user n (text (u.take 36)) m := by
  have hcontent := writeUserID_content (h.opens (userIdPath_mem n)) u
  unfold readUserID
  rw [hcontent]
  by_cases hm : m = n
  · subst hm
    have hlength : (u.take 36 ++ List.replicate (36 - (u.take 36).length) 0).length ≤ 36 := by
      rw [List.length_append, List.length_replicate, List.length_take]
      omega
    rw [if_pos rfl, Option.getD_some, List.take_of_length_le hlength, text_append_replicate,
      Function.update_self]
  · have hpath : userIdPath m.index ≠ userIdPath n.index := by
      cases n <;> cases m <;> first | exact absurd rfl hm | decide
    rw [if_neg hpath, Function.update_of_ne hm]
    rfl

theorem writeUserID_settings {b : Box} (h : Mounted b.dl.card) (n : Slot) (u : Bytes) :
    (b.writeUserID n.index u).settings = b.settings.apply (.user n u) := by
  have hcontent := writeUserID_content (h.opens (userIdPath_mem n)) u
  have hname : boxNamePath ≠ userIdPath n.index := by cases n <;> decide
  have hvolume : volumePath ≠ userIdPath n.index := by cases n <;> decide
  have huser : (fun m : Slot => readUserID (b.writeUserID n.index u).dl.card m.index) =
      Function.update b.settings.user n (text (u.take 36)) :=
    funext fun m => readUserID_writeUserID h n m u
  unfold settings storedSettings
  rw [huser, hcontent, if_neg hname, hcontent, if_neg hvolume, writeUserID_wifi]
  rfl

/-- A registered user is on the card, and the box knows it. -/
theorem Durable.writeUserID {b b' : Box} {n : Slot} {u : Bytes} (h : Durable b)
    (hmounted : Mounted b'.dl.card) (hkept : SettingsKept (b.writeUserID n.index u) b') :
    Durable b' ∧ b'.settings = b.settings.apply (.user n u) := by
  have hsettings := hkept.settings.trans (writeUserID_settings h.mounted n u)
  refine ⟨⟨hmounted, fun m => ?_⟩, hsettings⟩
  obtain ⟨hown, hother⟩ := writeUserID_user b n u
  rw [hkept.user, hsettings]
  show text _ = Function.update b.settings.user n (text (u.take 36)) m
  by_cases hm : m = n
  · rw [hm, hown, Function.update_self]
  · have hm' : m = n.other := by
      cases n <;> cases m <;> first | exact absurd rfl hm | rfl
    rw [Function.update_of_ne hm, hm', hother]
    exact h.user n.other

section

variable [CJson]

theorem handleInitUserIdCheck_keeps (b : Box) (env : HandlerEnv) :
    SettingsKept (b.verifyUserIdWithServer env.verify).2 (b.handleInitUserIdCheck env) := by
  unfold handleInitUserIdCheck
  dsimp only
  split <;> exact ⟨rfl, fun n => by cases n <;> rfl⟩

/-- **A verification.** -/
theorem handleInitUserIdCheck_settings {b : Box} (h : Durable b) {env : HandlerEnv}
    (hmounted : Mounted (b.handleInitUserIdCheck env).dl.card) :
    Durable (b.handleInitUserIdCheck env) ∧
      (b.handleInitUserIdCheck env).settings =
        (b.usersAsked env.verify).foldl Settings.apply b.settings := by
  have hasked := tokenAsked b env.verify
  have h₁ := h.kept (hasked.mounted h.mounted) hasked.kept
  have hlast := handleInitUserIdCheck_keeps b env
  have houtcome := verifyUserIdWithServer_outcome b env.verify
  generalize b.verifyUserIdWithServer env.verify = r at hlast houtcome
  generalize b.verifyNotified env.verify = notes at houtcome
  generalize b.usersAsked env.verify = users at houtcome ⊢
  have hsame : SettingsKept (b.withToken env.verify) r.2 →
      Durable (b.handleInitUserIdCheck env) ∧ (b.handleInitUserIdCheck env).settings = b.settings := by
    intro hkept
    have hall := (hasked.kept.trans hkept).trans hlast
    exact ⟨h.kept hmounted hall, hall.settings⟩
  cases houtcome with
  | silent hkept => exact hsame hkept
  | failed hkept => exact hsame hkept
  | success _ hwrites =>
      obtain ⟨hdurable, hsettings⟩ := h₁.writeUserID hmounted (hwrites.trans hlast)
      rw [hasked.kept.settings] at hsettings
      exact ⟨hdurable, hsettings⟩

/-! ## The other states of the handler -/

/-- Only a verification changes the users the box knows. -/
theorem handler_user {b b' : Box} {env : HandlerEnv} (h : b.handler env = some b')
    (hcheck : b.state ≠ .initUserIdCheck) : b'.sysUser1 = b.sysUser1 ∧ b'.sysUser2 = b.sysUser2 := by
  by_cases hoff : b.state = .turnOff
  · simp only [handler, hoff, Option.some.injEq] at h
    subst h
    exact ⟨rfl, rfl⟩
  · have hprofile := handler_profile h hcheck hoff
    exact ⟨congrArg Profile.sysUser1 hprofile, congrArg Profile.sysUser2 hprofile⟩

omit [CJson] in
/-- Trying new credentials stores them, or nothing. -/
theorem handleInitWifiCheck_settings (b : Box) (env : HandlerEnv) :
    (b.handleInitWifiCheck env).settings =
      (b.credentialsAsked env.credentials ⟨b.initSsid, b.initPassword⟩).foldl Settings.apply
        b.settings := by
  have hfile := Wifi.credentialsFile_bleWriteCredentials b.dl.wifi env.credentials
    ⟨b.initSsid, b.initPassword⟩
  have hsettings : (b.handleInitWifiCheck env).settings = storedSettings b.dl.card
      (b.dl.wifi.bleWriteCredentials env.credentials ⟨b.initSsid, b.initPassword⟩).2.credentialsFile := by
    unfold handleInitWifiCheck
    dsimp only
    split <;> rfl
  rw [hsettings, hfile]
  unfold credentialsAsked
  split <;> rfl

/-- **A step of the handler.** -/
theorem handler_settings {b b' : Box} {env : HandlerEnv} (h : Durable b)
    (hstep : b.handler env = some b') : Durable b' ∧
      b'.settings = (b.asked (.handler env)).foldl Settings.apply b.settings := by
  have hwithin := handler_within hstep
  have hmounted := hwithin.mounted h.mounted
  unfold asked
  dsimp only
  by_cases hwifi : b.state = .initWifiCheck
  · rw [if_pos hwifi]
    simp only [handler, hwifi, Option.some.injEq] at hstep
    subst hstep
    refine ⟨h.of_within hwithin ?_ fun n => ?_, handleInitWifiCheck_settings b env⟩
    · rintro n (⟨hstate, -⟩ | ⟨hstate, -⟩)
      · cases hwifi.symm.trans hstate
      · cases hwifi.symm.trans hstate
    · unfold handleInitWifiCheck
      dsimp only
      split <;> cases n <;> rfl
  · by_cases hcheck : b.state = .initUserIdCheck
    · rw [if_neg hwifi, if_pos hcheck]
      simp only [handler, hcheck, Option.some.injEq] at hstep
      subst hstep
      exact handleInitUserIdCheck_settings h hmounted
    · rw [if_neg hwifi, if_neg hcheck]
      obtain ⟨huser1, huser2⟩ := handler_user hstep hcheck
      have hkept : SettingsKept b b' := by
        refine .of_eq (fun p hp => hwithin.content p ?_) (handler_credentialsFile hstep hwifi)
          huser1 huser2
        rintro (⟨hstate, -⟩ | ⟨-, hmedia⟩)
        · exact hcheck hstate
        · exact not_media_of_settings hp hmedia
      exact ⟨h.kept hmounted hkept, hkept.settings⟩

/-! ## The other tasks -/

omit [CJson] in
/-- A press of a volume button writes the volume file. -/
theorem writeVolume_settings {b : Box} (h : Mounted b.dl.card) (volume : UInt8) :
    { b with volume := volume }.writeVolume.settings =
      b.settings.apply (.volume volume b.maxVolume) := by
  have hcontent := h.writeFile (p := volumePath) (by simp [settingsPaths]) [volume, b.maxVolume]
  have huser : ∀ n : Slot, volumePath ≠ userIdPath n.index := fun n => by cases n <;> decide
  unfold settings storedSettings writeVolume setCard readUserID
  simp only [hcontent, if_neg (fun heq => huser _ heq.symm : ¬ userIdPath _ = volumePath),
    if_neg (by decide : ¬ boxNamePath = volumePath), if_true]
  rfl

theorem writeFrame_settings {b : Box} (h : Durable b) (now address len : ℕ) (data : Bytes) :
    (b.writeFrame now address len data).settings =
      (b.asked (.write now address len data)).foldl Settings.apply b.settings := by
  unfold asked
  dsimp only
  by_cases hreg : writeReg? address len = some .volumeControl
  · rw [if_pos hreg]
    unfold writeFrame
    rw [hreg]
    dsimp only [writeRegister]
    split_ifs
    · exact writeVolume_settings h.mounted _
    · exact writeVolume_settings h.mounted _
    · rfl
  · rw [if_neg hreg]
    have hwithin := writeFrame_within b now address len data
    unfold settings
    rw [storedSettings_congr fun p _ => hwithin.content p fun hmay => hreg hmay.1]
    rw [writeFrame_dl hreg]
    rfl

omit [CJson] in
/-- A command asks for what it stores. -/
theorem bleCommand_settings {b b' : Box} (h : Durable b) {now : ℕ} {c : Command}
    {s : Wifi.CredentialsScript} (hb : b.bleCommand now c.msgType c.json s = some b') :
    b'.settings = (b.commandAsked c s).foldl Settings.apply b.settings := by
  unfold commandAsked
  by_cases hcredentials : c.msgType = 1
  · rw [hcredentials] at hb
    obtain ⟨ssid, password, hssid, hpassword, rfl⟩ := bleCommand_credentials hb
    have hfile := Wifi.credentialsFile_bleWriteCredentials b.dl.wifi s ⟨ssid, password⟩
    rw [if_pos hcredentials, hssid, hpassword]
    refine (congrArg (storedSettings b.dl.card) hfile).trans ?_
    dsimp only
    unfold credentialsAsked
    split <;> rfl
  · rw [if_neg hcredentials]
    by_cases hname : c.msgType = 4
    · rw [hname] at hb
      obtain ⟨name, hfield, rfl⟩ := bleCommand_boxName hb
      have hcontent := h.mounted.writeFile (p := boxNamePath) (by simp [settingsPaths])
        (name ++ List.replicate (100 - name.length) 0)
      have huser : ∀ n : Slot, userIdPath n.index ≠ boxNamePath := fun n => by cases n <;> decide
      rw [if_pos hname, hfield]
      unfold settings storedSettings setCard readUserID
      simp only [hcontent, if_neg (huser _), if_neg (by decide : ¬ volumePath = boxNamePath), if_true,
        Option.map_some, text_append_replicate]
      rfl
    · rw [if_neg hname]
      unfold settings
      rw [bleCommand_dl hb hcredentials hname]
      rfl

theorem onWrite_settings {b b' : Box} (h : Durable b) {now : ℕ} {uuid : BleUuid} {value : Bytes}
    {s : Wifi.CredentialsScript} (hb : b.onWrite now uuid value s = some b') :
    b'.settings = (b.asked (.ble now uuid value s)).foldl Settings.apply b.settings := by
  unfold asked
  dsimp only
  by_cases huuid : uuid = .writeCommand
  · subst huuid
    rw [onWrite_command] at hb
    rw [if_pos rfl]
    cases hdispatched : b.dispatched? value with
    | none =>
        rw [hdispatched] at hb
        obtain rfl := Option.some.inj hb
        rfl
    | some c =>
        rw [hdispatched] at hb
        exact bleCommand_settings h hb
  · rw [if_neg huuid]
    unfold settings
    rw [onWrite_dl hb huuid]
    rfl

/-- **One step** changes the settings as it asks, and the box keeps knowing its users. -/
theorem step_settings {b b' : Box} {e : BoxEvent} (h : Durable b) (hstep : b.step e = some b') :
    Durable b' ∧ b'.settings = (b.asked e).foldl Settings.apply b.settings := by
  cases e with
  | handler env => exact handler_settings h hstep
  | read now data =>
      obtain rfl := Option.some.inj hstep
      have hprofile := profile_readFrame b now data
      have hdl := readFrame_dl b now data
      have hkept : SettingsKept b (b.readFrame now data) :=
        .of_eq (fun _ _ => by rw [hdl]; rfl) (by rw [hdl]; rfl) (congrArg Profile.sysUser1 hprofile)
          (congrArg Profile.sysUser2 hprofile)
      exact ⟨h.kept (by rw [hdl]; exact h.mounted) hkept, hkept.settings⟩
  | write now address len data =>
      obtain rfl := Option.some.inj hstep
      have hprofile := profile_writeFrame b now address len data
      refine ⟨h.of_within (writeFrame_within b now address len data) ?_ fun n => ?_,
        writeFrame_settings h now address len data⟩
      · rintro n ⟨-, -, hpath⟩
        cases n <;> exact absurd hpath (by decide)
      · cases n with
        | first => exact congrArg Profile.sysUser1 hprofile
        | second => exact congrArg Profile.sysUser2 hprofile
  | ble now uuid value s =>
      obtain ⟨huser1, huser2, -⟩ := onWrite_profile hstep
      refine ⟨h.of_within (onWrite_within hstep) ?_ fun n => ?_, onWrite_settings h hstep⟩
      · rintro n ⟨-, hpath⟩
        cases n <;> exact absurd hpath (by decide)
      · cases n with
        | first => exact huser1
        | second => exact huser2
  | pipeline writer =>
      obtain rfl := Option.some.inj hstep
      exact ⟨⟨h.mounted, h.user⟩, rfl⟩
  | station e =>
      obtain rfl := Option.some.inj hstep
      have hfile := congrArg Wifi.Settings.credentialsFile (Wifi.unaffected_settings.event b.dl.wifi e)
      exact ⟨⟨h.mounted, h.user⟩, congrArg (storedSettings b.dl.card) hfile⟩

end

end Box

/-! ## Power cycles -/

/-- A card that can be used: it has a root folder, and no entries in the way of the settings. -/
structure Formatted (c : Card) : Prop where
  root : parentDir dataDir ∈ c.dirs
  data : c.content? dataDir = none
  free : ∀ p ∈ settingsPaths, p ∉ c.dirs

namespace Card

theorem makeFolder_cases (c : Card) (path : Bytes) : c.makeFolder path = c ∨
    ((c.makeFolder path).dirs = c.dirs ++ [path] ∧ (c.makeFolder path).files = c.files) := by
  unfold makeFolder
  split
  · next c' h => exact .inr (eq_of_mkdir h)
  · exact .inl rfl

/-- A folder is made where there is nothing yet and something to put it in. -/
theorem mem_makeFolder {c : Card} {path : Bytes} (hparent : parentDir path ∈ c.dirs)
    (hfile : ¬ c.hasFile path) : path ∈ (c.makeFolder path).dirs := by
  unfold makeFolder
  rcases c.mkdir_cases path with ⟨c', hmk, hdirs, -⟩ | ⟨hmk, hentry⟩ | ⟨-, -, -, hnone⟩
  · rw [hmk]
    dsimp only
    rw [hdirs]
    exact List.mem_append_right _ List.mem_cons_self
  · rw [hmk]
    exact hentry.resolve_right hfile
  · exact absurd hparent hnone

/-- What making folders leaves: the files, and the folders that were there. -/
theorem makeFolders_spec (c : Card) (paths : List Bytes) :
    (∀ q, (paths.foldl makeFolder c).content? q = c.content? q) ∧
      (∀ p ∈ c.dirs, p ∈ (paths.foldl makeFolder c).dirs) ∧
        ∀ p ∈ (paths.foldl makeFolder c).dirs, p ∈ c.dirs ∨ p ∈ paths := by
  induction paths generalizing c with
  | nil => exact ⟨fun _ => rfl, fun _ hp => hp, fun _ hp => .inl hp⟩
  | cons path paths ih =>
      obtain ⟨hcontent, hkept, hnew⟩ := ih (c.makeFolder path)
      have hfirst : (∀ q, (c.makeFolder path).content? q = c.content? q) ∧
          (∀ p ∈ c.dirs, p ∈ (c.makeFolder path).dirs) ∧
            ∀ p ∈ (c.makeFolder path).dirs, p ∈ c.dirs ∨ p = path := by
        rcases c.makeFolder_cases path with h | ⟨hdirs, hfiles⟩
        · rw [h]
          exact ⟨fun _ => rfl, fun _ hp => hp, fun _ hp => .inl hp⟩
        · refine ⟨fun q => by unfold content?; rw [hfiles], fun p hp => ?_, fun p hp => ?_⟩
          · rw [hdirs]
            exact List.mem_append_left _ hp
          · rw [hdirs] at hp
            exact (List.mem_append.1 hp).imp_right List.mem_singleton.1
      refine ⟨fun q => (hcontent q).trans (hfirst.1 q), fun p hp => hkept p (hfirst.2.1 p hp), ?_⟩
      intro p hp
      rcases hnew p hp with hold | hlater
      · refine (hfirst.2.2 p hold).imp_right fun heq => ?_
        rw [heq]
        exact List.mem_cons_self
      · exact .inr (List.mem_cons_of_mem _ hlater)

end Card

/-- No file of the settings is one of the folders made at the start. -/
theorem not_setupFolder_of_settings {p : Bytes} (hp : p ∈ settingsPaths) : p ∉ setupFolders := by
  have hall : ∀ p ∈ settingsPaths, p ∉ setupFolders := by decide +kernel
  exact hall p hp

theorem Mounted.setupFiles {c : Card} (h : Mounted c) : Mounted (setupFiles c) := by
  obtain ⟨-, hkept, hnew⟩ := Card.makeFolders_spec c setupFolders
  refine ⟨hkept _ h.data, fun p hp hdir => ?_⟩
  exact (hnew p hdir).elim (h.free p hp) (not_setupFolder_of_settings hp)

/-- A folder with a parent, and no file in its place, is there when it has been its turn. -/
theorem Card.mem_makeFolders {c : Card} {path : Bytes} (hparent : parentDir path ∈ c.dirs)
    (hfile : c.content? path = none) (before after : List Bytes) :
    path ∈ ((before ++ path :: after).foldl makeFolder c).dirs := by
  obtain ⟨hcontent, hkept, -⟩ := c.makeFolders_spec before
  rw [List.foldl_append, List.foldl_cons]
  refine (makeFolders_spec _ after).2.1 _ (mem_makeFolder (hkept _ hparent) ?_)
  unfold hasFile
  rw [hcontent, hfile]
  decide

/-- At the first start the folder of the settings is made. -/
theorem Formatted.mounted {c : Card} (h : Formatted c) : Mounted (setupFiles c) where
  data := Card.mem_makeFolders h.root h.data [str "/sdcard/media"]
    [str "/sdcard/media/audio", str "/sdcard/media/toys"]
  free p hp hdir := ((Card.makeFolders_spec c setupFolders).2.2 p hdir).elim (h.free p hp)
    (not_setupFolder_of_settings hp)

namespace Box

theorem credentialsFile_connectAtStart (w : Wifi) (s : WaitScript) :
    (connectAtStart w s).credentialsFile = w.credentialsFile := by
  have hconfigured : w.init.2.configSdCardCredentials.2.credentialsFile = w.credentialsFile := by
    unfold Wifi.configSdCardCredentials Wifi.readCredentials
    dsimp only
    split <;> rfl
  unfold connectAtStart
  dsimp only
  split
  · split
    · exact (Wifi.credentialsFile_connect _ _).trans hconfigured
    · exact hconfigured
  · rfl

/-- The box that starts reads what is stored. -/
theorem appMain_settings (card : Card) (credentialsFile : Option Credentials) (battery charging : UInt8)
    (s : WaitScript) : (appMain card credentialsFile battery charging s).settings =
      storedSettings card credentialsFile := by
  have hfile := credentialsFile_connectAtStart
    (boot (setupFiles card) (Wifi.boot credentialsFile) battery charging).dl.wifi s
  refine (congrArg (storedSettings (setupFiles card)) hfile).trans ?_
  exact storedSettings_congr fun p _ => (Card.makeFolders_spec card setupFolders).1 p

theorem appMain_durable {card : Card} (h : Mounted (setupFiles card))
    (credentialsFile : Option Credentials) (battery charging : UInt8) (s : WaitScript) :
    Durable (appMain card credentialsFile battery charging s) where
  mounted := h
  user n := by
    have htext : ∀ array, text (text array) = text array :=
      fun array => text_of_no_nul fun hmem => by simpa using List.mem_takeWhile_imp hmem
    cases n <;> exact htext _

variable [CJson]

/-- A step of a session. -/
theorem sessionStep_settings {b b' : Box} {e : SessionEvent} (h : Durable b)
    (hstep : b.sessionStep e = some b') :
    Durable b' ∧ b'.settings = (b.sessionAsked e).foldl Settings.apply b.settings := by
  cases e with
  | step e => exact step_settings h hstep
  | power battery charging s =>
      obtain rfl := Option.some.inj hstep
      exact ⟨appMain_durable h.mounted.setupFiles _ battery charging s, appMain_settings _ _ _ _ _⟩

/-- **Settings last.** From a formatted card on, over any steps of the tasks and any number of power
cycles, the card holds the settings it started with as changed by what was asked for, in order, and by
nothing else; and the users the box knows are those on the card. -/
theorem settings_durable {ok : Box → SessionEvent → Prop} {card : Card}
    {credentialsFile : Option Credentials} {battery charging : UInt8} {s : WaitScript}
    {trace : List (Box × SessionEvent)} {b : Box} (hcard : Formatted card)
    (h : Path (fun b e b' => sessionStep b e = some b') ok
      (appMain card credentialsFile battery charging s) trace b) :
    b.settings = (observed sessionAsked trace).foldl Settings.apply
        (storedSettings card credentialsFile) ∧
      ∀ n, text (b.user n) = b.settings.user n := by
  obtain ⟨hdurable, hsettings⟩ := h.foldl_observed
    (appMain_durable hcard.mounted credentialsFile battery charging s)
    (fun hd _ hstep => (sessionStep_settings hd hstep).1)
    (fun hd _ hstep => (sessionStep_settings hd hstep).2)
  rw [appMain_settings] at hsettings
  exact ⟨hsettings, hdurable.user⟩

omit [CJson] in
/-- The volume is turned down while the startup tone plays, and the power is lost. -/
def volumeSession : List SessionEvent := pressVolume.map .step ++ [.power 100 0 noWaits]

omit [CJson] in
theorem settings_durable_volumeSession :
    ∃ b, runList (@sessionStep writeParser) (appMain startupCard none 100 0 noWaits) volumeSession =
        some b ∧
      b.settings.volume ≠ none ∧
      b.settings = (observed (@sessionAsked writeParser) (history (@sessionStep writeParser)
        (appMain startupCard none 100 0 noWaits) volumeSession)).foldl Settings.apply
          (storedSettings startupCard none) := by
  have hruns : (runGuarded (@sessionStep writeParser) (fun _ _ => True)
      (appMain startupCard none 100 0 noWaits) volumeSession).any
        (fun b => b.settings.volume ≠ none) = true := by decide +kernel
  obtain ⟨b, hb, hvolume⟩ := (Option.any_eq_true _ _).1 hruns
  have hcard : Formatted startupCard := ⟨by decide +kernel, by decide +kernel, by decide +kernel⟩
  exact ⟨b, runList_of_runGuarded hb, of_decide_eq_true hvolume,
    (@settings_durable writeParser _ _ _ _ _ _ _ _ hcard (path_of_runGuarded volumeSession hb)).1⟩

end Box

end Cubbies
