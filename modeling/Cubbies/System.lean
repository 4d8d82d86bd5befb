import Cubbies.Box

set_option autoImplicit false

/-! # The system task (`system.cpp`)

`System::handler`, one definition for each of its states. A step is `none` if it dereferences an entry or a
field that is not there, or copies a text past the end of its array. Other undefined behaviour is not told
apart: the player used before `SYS_INIT` has made its pipeline, and members read that nothing has written
(`Box.boot`). Each step is atomic: no frame is processed while a handler step runs. -/

namespace Cubbies

open CString

/-- What one call of `verifyUserIdWithServer` meets. `memcpy` does not look at the size of
`outputBuff[1024]`: a chunk that leaves no room for the NUL behind it is undefined behaviour, and not part
of a script. -/
structure VerifyScript where
  tokenConnect : WaitScript
  token : Exchange
  errorTail : Bytes
  connect : WaitScript
  answer : Exchange
  disconnect : WaitScript
  answer_fits : ∀ chunk ∈ answer.chunks, chunk.length < 1024

/-- The time of a handler step, and what the step meets if its state asks for it. -/
structure HandlerEnv where
  now : ℕ
  message : PlayerMessage
  connect : WaitScript
  credentials : Wifi.CredentialsScript
  verify : VerifyScript
  download : Downloader.BeginScript

/-- The download with no frame processed meanwhile. -/
def Downloader.BeginScript.atomic (s : Downloader.BeginScript) : Downloader.BeginScript :=
  { s with
    token := s.token.atomic
    master := s.master.atomic
    direction := fun i => { s.direction i with exchange := (s.direction i).exchange.atomic }
    audio := fun i => { s.audio i with attempts := fun n => ((s.audio i).attempts n).atomic } }

namespace Box

/-! ## Tones and the battery -/

def startupTone : Bytes := str "/sdcard/media/startup.mp3"

def toyDetectTone : Bytes := str "/sdcard/media/toydetect.mp3"

def downloadStartTone : Bytes := str "/sdcard/media/downloading.mp3"

def shutdownTone : Bytes := str "/sdcard/media/shutdown.mp3"

def batLowTone : Bytes := str "/sdcard/media/batterylow.mp3"

def invalidWifiCredsTone : Bytes := str "/sdcard/media/unabletoconnect.mp3"

def pleaseEnterWifiCredsTone : Bytes := str "/sdcard/media/plsenterwifi.mp3"

/-- Play an audio file and go on in the state `goBack` when it has ended. -/
def playThen (b : Box) (now : ℕ) (location : Bytes) (goBack : SystemState) : Box :=
  { b.play location with playerGoBackToState := goBack }.setState now .waitForPlayer

/-- The same for a tone, which is left out if the card does not have it. -/
def toneThen (b : Box) (now : ℕ) (tone : Bytes) (goBack : SystemState) : Box :=
  if b.hasFile tone then b.playThen now tone goBack else b.setState now goBack

/-- The battery check four states make: `charging` is what happens at a low level while charging,
`full` what happens at 35 and more. -/
def batteryCheck (b : Box) (now : ℕ) (charging full : Box) : Box :=
  if b.batteryLevel ≥ 28 ∧ b.batteryLevel < 35 then
    if b.chargingState > 0 then charging else b.toneThen now batLowTone .shutMeDown
  else if b.batteryLevel < 28 then b.setState now .shutMeDown
  else full

/-- The check before an audio of the playlist. -/
def readOrShutDown (b : Box) (now : ℕ) : Box :=
  b.batteryCheck now (b.setState now .readAudioHeader) (b.setState now .readAudioHeader)

/-! ## Power on and idle -/

/-- `SYS_POST`. -/
def handlePost (b : Box) (now : ℕ) : Box :=
  b.batteryCheck now (b.setState now .init) (b.setState now .init)

/-- `SYS_INIT`. -/
def handleInit (b : Box) (now : ℕ) : Box :=
  (b.setEarColors ⟨80, 80, 80⟩ ⟨80, 80, 80⟩).toneThen now startupTone .idle

/-- The part of `SYS_IDLE` for a toy on the box. -/
def idleToy (b : Box) (now : ℕ) : Box :=
  if b.toyPresenseFlag then
    let b := { b with toyPlacedOnce := true }
    if b.toy ≠ b.previousToy then b.toneThen now toyDetectTone .toyDetected
    else b.setState now .toyDetected
  else b

/-- The part of `SYS_IDLE` for a toy that was removed. -/
def idleRemoval (b : Box) (now : ℕ) : Box :=
  let b :=
    if ¬ b.toyPresenseFlag ∧ b.toyPlacedOnce ∧ b.toyRemovalTick = 0 then
      { b with toyRemovalTick := getStartTime now }
    else b
  if ¬ b.toyPresenseFlag ∧ b.toyPlacedOnce ∧ timeSpent now b.toyRemovalTick 10000 then
    b.command .stop
  else b

/-- `SYS_IDLE`. The parts follow each other whatever state the earlier ones set. -/
def handleIdle (b : Box) (now : ℕ) : Box :=
  if timeSpent now b.idleSinceTick 300000 then b.setState now .shutMeDown
  else ((b.batteryCheck now (b.setState now .init) b).idleToy now).idleRemoval now

/-! ## New users -/

/-- `System::writeUserID`. -/
def writeUserID (b : Box) (userIndex : ℕ) (user : Bytes) : Box :=
  let user := user.take 36
  let b := if userIndex = 1 then { b with sysUser1 := user } else { b with sysUser2 := user }
  b.setCard ((b.dl.card.writeFile (userIdPath userIndex)
    (user ++ List.replicate (36 - user.length) 0)).getD b.dl.card)

/-- `System::InitializerCallback`: every chunk is copied to the start of `outputBuff`. -/
def initializerCallback : Callback Box where
  onHeader b _ _ := b
  onData b data := { b with outputBuff := data ++ b.outputBuff.drop data.length }
  onFinish b := b
  onDisconnected b := b

/-- The end of a successful request: the field of the first user there is decides. `body` is what the
server sent in this request. -/
def registerUser (b : Box) (json : Json) (body : Bytes) : Box :=
  let confirmed (field : Bytes) : Bool := (json.getObjectItemCaseSensitive field).any Json.isTrue
  if b.initUser1 ≠ [] then
    if confirmed (str "user1") then
      { b.writeUserID 1 b.initUser1 with registered := ⟨1, b.initUser1, body⟩ :: b.registered }
    else b
  else if b.initUser2 ≠ [] then
    if confirmed (str "user2") then
      { b.writeUserID 2 b.initUser2 with registered := ⟨2, b.initUser2, body⟩ :: b.registered }
    else b
  else b

section

variable [CJson]

/-- `System::verifyUserIdWithServer`. -/
def verifyUserIdWithServer (b : Box) (s : VerifyScript) : Bool × Box :=
  let b :=
    if b.dl.validTokenFlag then b
    else { b with dl := b.dl.new.downloadToken s.tokenConnect s.token.atomic s.errorTail }
  let r := b.dl.wifi.connect s.connect
  let b := b.setWifi r.2
  let release (b : Box) := b.setWifi (b.dl.wifi.disconnect s.disconnect).2
  if r.1 = 0 then
    let r := initializerCallback.perform (fun b _ => b) b s.answer
    if r.1 then
      match CJson.parse (text r.2.outputBuff) with
      | none => (false, r.2)
      | some json => (true, release (r.2.registerUser json s.answer.body))
    else (false, release r.2)
  else (true, release b)

/-- `SYS_INIT_WIFI_CHECK`. -/
def handleInitWifiCheck (b : Box) (env : HandlerEnv) : Box :=
  let r := b.dl.wifi.bleWriteCredentials env.credentials ⟨b.initSsid, b.initPassword⟩
  if r.1 then (b.setWifi r.2).setState env.now .initUserIdCheck
  else (b.setWifi r.2).setState env.now .idle

/-- `SYS_INIT_USER_ID_CHECK`. -/
def handleInitUserIdCheck (b : Box) (env : HandlerEnv) : Box :=
  let r := b.verifyUserIdWithServer env.verify
  if r.1 then r.2.setState env.now .idle else r.2

end

/-! ## A toy is placed -/

/-- `SYS_WAIT_FOR_PLAYER`. -/
def handleWaitForPlayer (b : Box) (env : HandlerEnv) : Box :=
  let ear : Bool := b.leftEarButtonState || b.rightEarButtonState
  if b.playerGoBackToState = .waitQnaResp ∧ ear then
    b.playPauseToggle.setState env.now .waitQnaResp
  else if b.playerGoBackToState = .waitActivityResp ∧ ear then
    b.playPauseToggle.setState env.now .playNext
  else
    let r := b.checkPlayingCompleted env.message
    if r.1 then
      { r.2 with responseWaitTick := getStartTime env.now }.setState env.now
        r.2.playerGoBackToState
    else r.2

/-- Whether the toy's folder and its `verify.txt` are there. -/
def downloaded (b : Box) : Bool := sdCardExist b.dl.card b.toy ∧ b.checkDownloadStatus b.toy ≠ 0

/-- Whether `SYS_TOY_DETECTED` resumes: the toy was here before, in the same direction, less than ten
seconds ago. -/
def resumes (b : Box) (now : ℕ) : Bool :=
  b.toy = b.previousToy ∧ b.downloaded ∧ b.previousTurntable = b.turnTable ∧
    ¬ timeSpent now b.toyRemovalTick 10000

/-- `SYS_TOY_DETECTED`. -/
def handleToyDetected (b : Box) (now : ℕ) : Box :=
  let next : SystemState :=
    if b.resumes now then .resumePlaying
    else if b.downloaded then .playToy
    else .downloadWifiConn
  if b.toy = b.previousToy then { b.setState now next with toyRemovalTick := 0 }
  else b.setState now next

/-- The name of the direction `turnTable` stands for. -/
def direction? : UInt8 → Option Bytes
  | 0 => some (str "north")
  | 1 => some (str "east")
  | 2 => some (str "west")
  | 3 => some (str "south")
  | _ => none

def directionPath (toy direction : Bytes) : Bytes :=
  str "/sdcard/media/toys/" ++ toy ++ str "/" ++ direction ++ str ".cubbies"

/-- The theme colours as `sscanf` leaves them. -/
def scanTheme (old : Rgb) (content : Bytes) : Rgb :=
  let theme := assign ((scanFields 3 (text (fgets 16 content))).map toUChar) [old.r, old.g, old.b]
  ⟨theme.getD 0 0, theme.getD 1 0, theme.getD 2 0⟩

/-- The three LEDs in the colour of the theme. -/
def lightTheme (b : Box) (c : Rgb) : Box :=
  ({ b with themeColor := c }.setLandingPadColor c).setEarColors c c

/-- The part of `SYS_GET_DIRECTION` that lights the theme colours. -/
def showTheme (b : Box) : Box :=
  match b.dl.card.content? (str "/sdcard/media/toys/" ++ b.toy ++ str "/colourTheme.cubbies") with
  | some content => if content = [] then b else b.lightTheme (scanTheme b.themeColor content)
  | none => b

section

variable [CJson]

/-- The playlist is read from the toy's folder. -/
def loadPlaylist (b : Box) (content : Bytes) : Box :=
  { b with
    json := CJson.parse (text (content.take 1023))
    loaded := some b.toy
    indexx := 0 }

/-- `SYS_GET_DIRECTION`. -/
def handleGetDirection (b : Box) (now : ℕ) : Box :=
  match direction? b.turnTable with
  | none => b.setState now .error
  | some direction =>
      match b.dl.card.content? (directionPath b.toy direction) with
      | some content =>
          ((b.loadPlaylist content).readOrShutDown now).showTheme
      | none => (b.setState now .downloadWifiConn).showTheme

end

/-! ## The playlist is played -/

/-- `SYS_READ_AUDIO_HEADER`. -/
def handleReadAudioHeader (b : Box) (now : ℕ) : Option Box :=
  b.readHeader.map fun b =>
    b.setState now
      (if b.headerData.T = 2 then .playActivity
      else if b.headerData.T = 1 then .playQna
      else .playNormalAudio)

/-- `cJSON_GetArraySize(json)`. -/
def playlistSize (b : Box) : ℕ := (b.json.map Json.getArraySize).getD 0

/-- The current audio is skipped and the next one is current. -/
def advance (b : Box) : Box := { b.skipCurrentAudio with indexx := b.indexx + 1 }

/-- `SYS_PLAY_NEXT`. -/
def handlePlayNext (b : Box) (now : ℕ) : Box :=
  let b := b.advance
  if b.indexx.toNat ≥ b.playlistSize then b.setState now .playingComplete
  else b.readOrShutDown now

/-- `SYS_PLAY_PREVIOUS`. -/
def handlePlayPrevious (b : Box) (now : ℕ) : Box :=
  { b.skipCurrentAudio with indexx := if b.indexx > 0 then b.indexx - 1 else b.indexx }.setState now
    .readAudioHeader

/-- `location` and `playerFilename[50]` for the current audio, played and followed by `goBack`. -/
def playCurrent (b : Box) (now : ℕ) (goBack : SystemState) : Option Box := do
  let b := { b with audioIndex := b.currentIndex }
  let name ← b.playlistName b.audioIndex
  let location ← audioLocation name (str ".mp3")
  let _playerFilename ← strcpy 50 name
  pure (b.playThen now location goBack)

/-- A part of a question waits for an answer. -/
def awaitResponse (b : Box) (now : ℕ) : Box :=
  { b with
    isResponseRequiredFlag := true
    leftEarButtonState := false
    rightEarButtonState := false
    responseWaitTick := getStartTime now }

/-- The answer audio of the current question, with the file name's suffix. -/
def playAnswer (b : Box) (now : ℕ) (suffix : Bytes) (goBack : SystemState) : Option Box := do
  let name ← b.playlistName b.audioIndex
  let location ← audioLocation name suffix
  pure (b.playThen now location goBack)

/-- `SYS_PLAY_NORMAL_AUDIO`. -/
def handlePlayNormalAudio (b : Box) (now : ℕ) : Option Box := b.playCurrent now .playNext

/-- `SYS_PLAY_QNA`. -/
def handlePlayQna (b : Box) (now : ℕ) : Option Box :=
  let b := { b with qnaAttempt := 1 }
  let b := b.setEarColors (rgbOf b.headerData.L) (rgbOf b.headerData.R)
  (b.awaitResponse now).playCurrent now .waitQnaResp

/-- `SYS_PLAY_ACTIVITY`. -/
def handlePlayActivity (b : Box) (now : ℕ) : Option Box :=
  let b := b.setEarColors ⟨0, 255, 0⟩ ⟨0, 255, 0⟩
  (b.awaitResponse now).playCurrent now .waitActivityResp

/-- What a wrong or missing answer leads to. -/
def afterWrongAnswer (b : Box) (now : ℕ) : Box :=
  if b.qnaAttempt = 1 then b.setState now .incorrectAnsTry1
  else if b.qnaAttempt = 2 then b.setState now .correctAns
  else b

/-- `SYS_WAIT_QNA_RESP`. -/
def handleWaitQnaResp (b : Box) (now : ℕ) : Box :=
  let resp : ℤ := if b.leftEarButtonState then 0 else if b.rightEarButtonState then 1 else 5
  if resp ≠ 5 then
    if resp = b.headerData.A then b.setState now .correctAns else b.afterWrongAnswer now
  else if timeSpent now b.responseWaitTick 10000 then b.afterWrongAnswer now
  else b

/-- `SYS_INCORRECT_ANS_TRY1`. -/
def handleIncorrectAnsTry1 (b : Box) (now : ℕ) : Option Box :=
  ((b.awaitResponse now).playAnswer now (str "W.mp3") .waitQnaResp).map fun b =>
    { b with qnaAttempt := 2 }

/-- `SYS_CORRECT_ANS`. -/
def handleCorrectAns (b : Box) (now : ℕ) : Option Box :=
  (b.playAnswer now (str "C.mp3") .playNext).map fun b => { b with qnaAttempt := 0 }

/-- `SYS_WAIT_ACTIVITY_RESP`. -/
def handleWaitActivityResp (b : Box) (now : ℕ) : Box :=
  if timeSpent now b.responseWaitTick 10000 ∨ b.leftEarButtonState ∨ b.leftEarButtonState then
    b.setState now .playNext
  else b

/-! ## Downloading and shutting down -/

/-- `SYS_DOWNLOAD_WIFI_CONN`. -/
def handleDownloadWifiConn (b : Box) (env : HandlerEnv) : Box :=
  let initialised := b.dl.wifi.init
  if initialised.1 = 0 then
    let configured := initialised.2.configSdCardCredentials
    if configured.1 = 0 then
      let connected := configured.2.connect env.connect
      let b := b.setWifi connected.2
      if connected.1 = 0 then b.toneThen env.now downloadStartTone .downloadToy
      else b.setState env.now .wifiConnectErr
    else (b.setWifi configured.2).setState env.now .wifiCredMissingErr
  else b.setWifi initialised.2

section

variable [CJson]

/-- `SYS_DOWNLOAD_TOY`. -/
def handleDownloadToy (b : Box) (env : HandlerEnv) : Box :=
  let b := b.setLandingPadColor ⟨254, 13, 0⟩
  { b with dl := (b.dl.begin b.toy env.download.atomic).2 }.setState env.now .idle

/-- `SYS_SHUT_ME_DOWN`. -/
def handleShutMeDown (b : Box) (now : ℕ) : Box :=
  let red : Rgb := ⟨255, 0, 0⟩
  ((b.setLandingPadColor red).setEarColors red red).toneThen now shutdownTone .turnOff

/-- `System::handler`. -/
def handler (b : Box) (env : HandlerEnv) : Option Box :=
  match b.state with
  | .post => some (b.handlePost env.now)
  | .init => some (b.handleInit env.now)
  | .idle => some (b.handleIdle env.now)
  | .initWifiCheck => some (b.handleInitWifiCheck env)
  | .initUserIdCheck => some (b.handleInitUserIdCheck env)
  | .waitForPlayer => some (b.handleWaitForPlayer env)
  | .toyDetected => some (b.handleToyDetected env.now)
  | .playToy => some (b.setState env.now .getDirection)
  | .error => some b
  | .getDirection => some (b.handleGetDirection env.now)
  | .readAudioHeader => b.handleReadAudioHeader env.now
  | .playNext => some (b.handlePlayNext env.now)
  | .playPrevious => some (b.handlePlayPrevious env.now)
  | .resumePlaying => some (b.resumePlaying env.now)
  | .playNormalAudio => b.handlePlayNormalAudio env.now
  | .playQna => b.handlePlayQna env.now
  | .waitQnaResp => some (b.handleWaitQnaResp env.now)
  | .incorrectAnsTry1 => b.handleIncorrectAnsTry1 env.now
  | .correctAns => b.handleCorrectAns env.now
  | .playActivity => b.handlePlayActivity env.now
  | .waitActivityResp => some (b.handleWaitActivityResp env.now)
  | .playingComplete => some (b.setState env.now .playToy)
  | .downloadWifiConn => some (b.handleDownloadWifiConn env)
  | .downloadToy => some (b.handleDownloadToy env)
  | .wifiConnectErr => some (b.toneThen env.now invalidWifiCredsTone .idle)
  | .wifiCredMissingErr => some (b.toneThen env.now pleaseEnterWifiCredsTone .idle)
  | .shutMeDown => some (b.handleShutMeDown env.now)
  | .turnOff => some { b with powerState := 1 }

end

end Box

end Cubbies
