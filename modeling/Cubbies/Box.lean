import Cubbies.Downloader
import Cubbies.Qbus

set_option autoImplicit false

/-! # The box and its player (`system.h`, `player.cpp`, `led_app.cpp`)

`System`, `Player` and `LED` are one object each, work on shared globals and on each other's members,
so `Box` is all of them together with the downloader's state, which holds the card and the WiFi
object.

The audio pipeline is not part of the repository. It is given by what it reports: `writer` is the
state `audio_element_get_state(writer)` returns, and changes when the pipeline changes it. What the
program asks of the pipeline is kept in `commands`, latest first. Two more fields are ghost state:
`loaded`, the toy from whose folder the playlist `json` was read, and `registered`, the calls of
`writeUserID` with the answer each was made on. -/

namespace Cubbies

open CString

/-- `system_states_et`. -/
inductive SystemState where
  | post
  | init
  | idle
  | initWifiCheck
  | initUserIdCheck
  | toyDetected
  | playToy
  | waitForPlayer
  | playingComplete
  | playNext
  | playPrevious
  | resumePlaying
  | getDirection
  | error
  | readAudioHeader
  | playActivity
  | waitActivityResp
  | playQna
  | waitQnaResp
  | incorrectAnsTry1
  | correctAns
  | playNormalAudio
  | downloadWifiConn
  | downloadToy
  | wifiConnectErr
  | wifiCredMissingErr
  | shutMeDown
  | turnOff
  deriving DecidableEq

/-- What the program tells apart of `audio_element_state_t`. -/
inductive AelState where
  | running
  | paused
  | other
  deriving DecidableEq

/-- What `CheckPlayingCompleted` tells apart of the pipeline's messages: a status report of the writer,
or anything else, a timeout included. -/
inductive PlayerMessage where
  | stopped
  | finished
  | other
  deriving DecidableEq

inductive PlayerCommand where
  /-- `Player::play`: the pipeline is stopped and run on this file -/
  | play (location : Bytes)
  | stop
  | pause
  | resume
  deriving DecidableEq

structure Rgb where
  r : UInt8
  g : UInt8
  b : UInt8

structure Led where
  /-- the number of the `landing_pad_led_states_et` -/
  padState : UInt8
  leftEarColor : Rgb
  rightEarColor : Rgb
  padColor : Rgb

/-- `Header`: the colours are arrays of three, the date range the text in an array of 20. -/
structure Header where
  T : ℤ
  A : ℤ
  L : List ℤ
  R : List ℤ
  Z : Bytes
  L_length : L.length = 3 := by decide
  R_length : R.length = 3 := by decide

/-- `int` fields scanned into an array of three. -/
def Header.setL (h : Header) (values : List ℤ) : Header :=
  { h with L := assign values h.L, L_length := (length_assign _ _).trans h.L_length }

def Header.setR (h : Header) (values : List ℤ) : Header :=
  { h with R := assign values h.R, R_length := (length_assign _ _).trans h.R_length }

/-- A call of `writeUserID`, and the body of the answer it was made on. -/
structure Registration where
  userIndex : ℕ
  user : Bytes
  body : Bytes

structure Box where
  state : SystemState
  playerGoBackToState : SystemState
  toy : Bytes
  previousToy : Bytes
  turnTable : UInt8
  previousTurntable : UInt8
  json : Option Json
  sysUser1 : Bytes
  sysUser2 : Bytes
  idleSinceTick : UInt32
  toyRemovalTick : UInt32
  initSsid : Bytes
  initPassword : Bytes
  initUser1 : Bytes
  initUser2 : Bytes
  outputBuff : Bytes
  toyPresenseFlag : Bool
  toyPlacedOnce : Bool
  chargingState : UInt8
  powerState : UInt8
  batteryLevel : UInt8
  leftEarButtonState : Bool
  rightEarButtonState : Bool
  indexx : UInt8
  qnaAttempt : UInt8
  themeColor : Rgb
  responseWaitTick : UInt32
  audioIndex : Bytes
  headerData : Header
  isResponseRequiredFlag : Bool
  volume : UInt8
  maxVolume : UInt8
  led : Led
  /-- `tagPresentFlag_qbus` -/
  tagPresentFlag : Bool
  previousTagUid : Bytes
  dl : Downloader
  writer : AelState
  commands : List PlayerCommand
  loaded : Option Bytes
  registered : List Registration

namespace Box

def userIdPath : ℕ → Bytes
  | 1 => str "/sdcard/data/user1.cubbies"
  | _ => str "/sdcard/data/user2.cubbies"

/-- One of the two strings `System::readUserIDs` reads from the card. -/
def readUserID (c : Card) (userIndex : ℕ) : Bytes :=
  text (((c.content? (userIdPath userIndex)).getD []).take 36)

/-- The program as it starts. The battery and charging bytes are not initialised, and may be anything. The
toys, the playlist and the other members the source leaves uninitialised are taken as empty. -/
def boot (card : Card) (wifi : Wifi) (battery charging : UInt8) : Box where
  state := .post
  playerGoBackToState := .post
  toy := []
  previousToy := []
  turnTable := 0
  previousTurntable := 4
  json := none
  sysUser1 := readUserID card 1
  sysUser2 := readUserID card 2
  idleSinceTick := 0
  toyRemovalTick := 0
  initSsid := []
  initPassword := []
  initUser1 := []
  initUser2 := []
  outputBuff := List.replicate 1024 0
  toyPresenseFlag := false
  toyPlacedOnce := false
  chargingState := charging
  powerState := 0
  batteryLevel := battery
  leftEarButtonState := false
  rightEarButtonState := false
  indexx := 0
  qnaAttempt := 0
  themeColor := ⟨0, 0, 0⟩
  responseWaitTick := 0
  audioIndex := []
  headerData := { T := 0, A := 0, L := [0, 0, 0], R := [0, 0, 0], Z := [] }
  isResponseRequiredFlag := false
  volume := 0
  maxVolume := 0
  led := ⟨0, ⟨0, 0, 0⟩, ⟨0, 0, 0⟩, ⟨0, 0, 0⟩⟩
  tagPresentFlag := false
  previousTagUid := []
  dl := Downloader.boot card wifi
  writer := .other
  commands := []
  loaded := none
  registered := []

def setCard (b : Box) (c : Card) : Box := { b with dl := { b.dl with card := c } }

def setWifi (b : Box) (w : Wifi) : Box := { b with dl := { b.dl with wifi := w } }

/-- Whether `fopen(path, "r")` succeeds. -/
abbrev hasFile (b : Box) (path : Bytes) : Prop := b.dl.card.hasFile path

/-- `System::setState` at the time `now`. -/
def setState (b : Box) (now : ℕ) (state : SystemState) : Box :=
  { b with
    idleSinceTick := if state = .idle then getStartTime now else b.idleSinceTick
    state := state }

/-! ## Colours -/

/-- An `int` stored in a `uint8_t`. -/
def toByte (v : ℤ) : UInt8 := UInt8.ofNat (v % 256).toNat

/-- `LED::setLandingPadColor`; 6 is `ESP_LP_LED_DEFINED_BY_RGB`. -/
def setLandingPadColor (b : Box) (c : Rgb) : Box :=
  { b with led := { b.led with padState := 6, padColor := c } }

/-- `LED::setLeftEarColor` and `LED::setRightEarColor`, which the program calls in pairs. -/
def setEarColors (b : Box) (left right : Rgb) : Box :=
  { b with led := { b.led with leftEarColor := left, rightEarColor := right } }

/-- The colour of an `int[3]`. -/
def rgbOf (values : List ℤ) : Rgb :=
  ⟨toByte (values.getD 0 0), toByte (values.getD 1 0), toByte (values.getD 2 0)⟩

/-! ## The player -/

def volumePath : Bytes := str "/sdcard/data/volume.cubbies"

/-- `Player::readVolume`. -/
def readVolume (b : Box) : Box :=
  match b.dl.card.content? volumePath with
  | some data => { b with volume := byteAt data 0, maxVolume := byteAt data 1 }
  | none => { b with volume := 100, maxVolume := 100 }

/-- `Player::writeVolume`. -/
def writeVolume (b : Box) : Box :=
  b.setCard ((b.dl.card.writeFile volumePath [b.volume, b.maxVolume]).getD b.dl.card)

def command (b : Box) (c : PlayerCommand) : Box := { b with commands := c :: b.commands }

/-- `Player::play`. Before `SYS_INIT` there is no pipeline; such a call is not told apart. -/
def play (b : Box) (location : Bytes) : Box := b.readVolume.command (.play location)

/-- `Player::incVolume`. -/
def incVolume (b : Box) : Box :=
  let volume := b.volume + 5
  { b with volume := if volume > b.maxVolume then b.maxVolume else volume }.writeVolume

/-- `Player::decVolume`. -/
def decVolume (b : Box) : Box :=
  { b with volume := if b.volume > 5 then b.volume - 5 else 0 }.writeVolume

/-- `Player::playPauseToggle`. -/
def playPauseToggle (b : Box) : Box :=
  match b.writer with
  | .running => b.command .pause
  | .paused => b.command .resume
  | .other => b

/-- `Player::resumePlaying`. -/
def resumePlaying (b : Box) (now : ℕ) : Box :=
  if b.writer = .paused then
    { b.command .resume with playerGoBackToState := .playNext }.setState now .waitForPlayer
  else b.setState now .playNext

/-- `Player::SkipCurrentAudio`. -/
def skipCurrentAudio (b : Box) : Box :=
  if b.writer = .running ∨ b.writer = .paused then b.command .stop else b

/-- `Player::PauseCurrentAudio`. -/
def pauseCurrentAudio (b : Box) : Box := if b.writer = .running then b.command .pause else b

/-- `Player::skipQuestion`. -/
def skipQuestion (b : Box) : Box := if b.isResponseRequiredFlag then b.skipCurrentAudio else b

/-- `Player::CheckPlayingCompleted` on the message that is there. Without one the source looks at what `msg`
happens to hold, and is taken to find nothing. -/
def checkPlayingCompleted (b : Box) (message : PlayerMessage) : Bool × Box :=
  match message with
  | .finished => (true, { b with isResponseRequiredFlag := false })
  | .stopped => (false, { b with isResponseRequiredFlag := false })
  | .other => (false, b)

def verifyPath (toy : Bytes) : Bytes := str "/sdcard/media/toys/" ++ toy ++ str "/verify.txt"

/-- `Player::checkDownloadStatus`. -/
def checkDownloadStatus (b : Box) (toy : Bytes) : UInt8 :=
  if b.hasFile (verifyPath toy) then 1 else 0

/-- `Player::ToyRemoved`. -/
def toyRemoved (b : Box) (now : ℕ) : Box :=
  let b := b.pauseCurrentAudio
  { b with previousToy := b.toy, previousTurntable := b.turnTable }.setState now .idle

/-- The states in which `Player::next` and `Player::previous` act, by their place in the
enumeration. -/
def acceptsSkip (state : SystemState) : Bool :=
  state.ctorIdx > SystemState.playToy.ctorIdx ∧ state.ctorIdx < SystemState.playingComplete.ctorIdx

theorem acceptsSkip_iff (state : SystemState) :
    acceptsSkip state = true ↔ state = .waitForPlayer := by
  cases state <;> decide

/-- `Player::next`. -/
def next (b : Box) (now : ℕ) : Box :=
  if acceptsSkip b.state then b.setState now .playNext else b

/-- `Player::previous`. -/
def previous (b : Box) (now : ℕ) : Box :=
  if acceptsSkip b.state then
    if b.indexx > 0 then b.setState now .playPrevious else b
  else b

/-! ## The playlist -/

/-- The name `cJSON_GetObjectItem(json, audioIndex)->valuestring` gives to `%s`: a missing entry is a
null pointer dereference, an entry that is not a string prints as `(null)`. -/
def playlistName (b : Box) (audioIndex : Bytes) : Option Bytes :=
  (b.json.bind (Json.getObjectItem · audioIndex)).map fun item =>
    item.valuestring?.getD (str "(null)")

/-- The path of an audio file in `location[100]`. -/
def audioLocation (name suffix : Bytes) : Option Bytes :=
  strcpy 100 (str "/sdcard/media/audio/" ++ name ++ suffix)

/-- `indexx + 1` in decimal, the key of the current audio. -/
def currentIndex (b : Box) : Bytes := unsigned (b.indexx.toNat + 1)

/-- One line of `Player::readHeader`; `none` at the end of the header. -/
def headerLine (h : Header) (line : Bytes) : Option Header :=
  let line := (text line).takeWhile fun b => b ≠ 13 ∧ b ≠ 10
  let values (n : ℕ) := (scanFields n (line.drop 2)).map toInt32
  if line.take 12 = str "HEADER_START" then some h
  else if line.take 10 = str "HEADER_END" then none
  else if line.take 2 = str "T:" then some { h with T := (values 1).headD h.T }
  else if line.take 2 = str "A:" then some { h with A := (values 1).headD h.A }
  else if line.take 2 = str "L:" then some (h.setL (values 3))
  else if line.take 2 = str "R:" then some (h.setR (values 3))
  else if line.take 2 = str "Z:" then some { h with Z := (line.drop 2).take 19 }
  else some h

/-- The loop of `Player::readHeader`. Each line has at least one byte, so the number of bytes is fuel
enough. -/
def headerLoop : ℕ → Header → Bytes → Header
  | 0, h, _ => h
  | fuel + 1, h, s =>
      if s = [] then h
      else
        match headerLine h (fgets 256 s) with
        | some h => headerLoop fuel h (s.drop (fgets 256 s).length)
        | none => h

/-- The part of `Player::readHeader` after the path is known: without the file nothing is read. -/
def readHeaderFile (b : Box) (location : Bytes) : Box :=
  match b.dl.card.content? location with
  | some content => { b with headerData := headerLoop content.length b.headerData content }
  | none => b

/-- `Player::readHeader`. -/
def readHeader (b : Box) : Option Box :=
  ((b.playlistName b.currentIndex).bind (audioLocation · (str ".mp3"))).map b.readHeaderFile

end Box

end Cubbies
