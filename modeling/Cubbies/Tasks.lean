import Cubbies.System
import Cubbies.Lib.Runs

set_option autoImplicit false

/-! # The other tasks that act on the box (`qbus_s.cpp`, `iot_qbus.cpp`, `ble_app.cpp`)

A QBus frame reports the tag, the battery and the buttons; a BLE write brings new users, credentials
or a name. Both call into `System` and `Player` from their own tasks, in any of the handler's states.
`Box.step` is one atomic step of any of the tasks. -/

namespace Cubbies

open CString

namespace Box

/-! ## Tags -/

/-- `System::setToy`. -/
def setToy (b : Box) (toy : Bytes) : Box := { b with toy := toy, toyPresenseFlag := true }

/-- `System::resetToy`. -/
def resetToy (b : Box) (now : ℕ) : Box :=
  { { b with toyPresenseFlag := false }.toyRemoved now with toy := [] }.setState now .idle

/-- The UID bytes of a read frame. -/
def frameUid (data : Bytes) : Uid := ⟨(List.range 8).map (byteAt data), by simp⟩

/-- The text of a frame without a tag. -/
def noTag : Bytes := str "0000000000000000"

/-- What `QBSlaveProcessFrame` makes of the tag it has read. -/
def trackTag (b : Box) (now : ℕ) : Box :=
  let tag := b.dl.tagUid
  if tag = noTag then
    { (if b.tagPresentFlag then b.resetToy now else b) with tagPresentFlag := false }
  else
    let b :=
      if ¬ b.tagPresentFlag ∨ b.previousTagUid.take 16 ≠ tag.take 16 then
        { b with previousTagUid := tag.take 16 }.setToy tag
      else b
    { b with tagPresentFlag := true }

/-- A read frame with these data bytes. -/
def readFrame (b : Box) (now : ℕ) (data : Bytes) : Box :=
  { b with
    dl := b.dl.frame (frameUid data)
    batteryLevel := byteAt data 8
    chargingState := byteAt data 9 }.trackTag now

/-! ## Registers -/

/-- `UpdateDataBuffer`. -/
def registers (b : Box) : Vector UInt8 11 :=
  #v[b.led.padState, b.led.leftEarColor.r, b.led.leftEarColor.g, b.led.leftEarColor.b,
    b.led.rightEarColor.r, b.led.rightEarColor.g, b.led.rightEarColor.b,
    b.led.padColor.r, b.led.padColor.g, b.led.padColor.b, b.powerState]

/-- The registers `QbusRegWriteCb` knows. -/
inductive WriteReg where
  | volumeControl
  | playPause
  | nextPrev
  | answerOption
  | chargingStatus
  | batteryPercent
  | turnTablePosition
  deriving DecidableEq

/-- The register an address stands for, in the order they are asked for. Each has one place. -/
def writeReg? (address len : ℕ) : Option WriteReg :=
  let covers (start : ℕ) := address ≥ start ∧ address + len ≤ start + 1
  if covers 0x3000 then some .volumeControl
  else if covers 0x4000 then some .playPause
  else if covers 0x5000 then some .nextPrev
  else if covers 0x7000 then some .answerOption
  else if covers 0x8000 then some .chargingStatus
  else if covers 0x9000 then some .batteryPercent
  else if covers 0xA000 then some .turnTablePosition
  else none

/-- What `QbusRegWriteCb` does with the first data byte of a register it knows. -/
def writeRegister (b : Box) (now : ℕ) (value : UInt8) : WriteReg → Box
  | .volumeControl =>
      if value = 2 then b.decVolume else if value = 1 then b.incVolume else b
  | .playPause => if b.tagPresentFlag then b.playPauseToggle else b
  | .nextPrev => if value = 2 then b.previous now else if value = 1 then b.next now else b
  | .answerOption =>
      if value = 1 then { b with leftEarButtonState := true }.skipQuestion
      else if value = 2 then { b with rightEarButtonState := true }.skipQuestion
      else b
  | .chargingStatus => { b with chargingState := if value = 0 then 0 else 1 }
  | .batteryPercent => { b with batteryLevel := value }
  | .turnTablePosition => { b with turnTable := value }

/-- What a write frame does. -/
def writeFrame (b : Box) (now address len : ℕ) (data : Bytes) : Box :=
  match writeReg? address len with
  | some reg => b.writeRegister now (byteAt data 0) reg
  | none => b

instance : QBusApp Box where
  readFrame := readFrame
  registers := registers
  regWriteCb b now address len data :=
    (if (writeReg? address len).isSome then .success else .errAddr,
      b.writeFrame now address len data)

/-! ## BLE -/

/-- The characteristics a client can write to. -/
inductive BleUuid where
  | writeInitialize
  | writeCommand
  | other
  deriving DecidableEq

/-- `System::initialize`. -/
def systemInitialize (b : Box) (now : ℕ) (ssid password user1 : Bytes) : Option Box := do
  let ssid ← strcpy 32 ssid
  let password ← strcpy 64 password
  let user1 ← strcpy 50 user1
  pure ({ b with initSsid := ssid, initPassword := password, initUser1 := user1 }.setState now
    .initWifiCheck)

/-- `System::verifyUserID`. -/
def verifyUserID (b : Box) (now : ℕ) (userToCheck : Bytes) (userNo : UInt8) : Option Box :=
  let stored :=
    if userNo = 1 then (strcpy 50 userToCheck).map fun user => { b with initUser1 := user }
    else if userNo = 2 then (strcpy 50 userToCheck).map fun user => { b with initUser2 := user }
    else some b
  stored.map (·.setState now .initUserIdCheck)

/-- `System::verifyUser`. -/
def verifyUser (b : Box) (user : Bytes) : Bool := b.sysUser1 = user ∨ b.sysUser2 = user

def boxNamePath : Bytes := str "/sdcard/data/boxname.cubbies"

/-- `System::WriteBoxName` on the card. -/
def writeBoxName (b : Box) (name : Bytes) : Option Box := do
  let name ← strcpy 100 name
  pure (b.setCard ((b.dl.card.writeFile boxNamePath
    (name ++ List.replicate (100 - name.length) 0)).getD b.dl.card))

/-- The commands of a verified user, by `ble_message_types_et`. A missing field is a null pointer
dereference, a text too long for the arrays it is copied to overruns them. -/
def bleCommand (b : Box) (now : ℕ) (msgType : ℤ) (json : Json) (s : Wifi.CredentialsScript) :
    Option Box :=
  match msgType with
  | 1 => do
      let ssid ← (json.stringField? (str "ssid")).bind (strcpy 32)
      let password ← (json.stringField? (str "password")).bind (strcpy 64)
      pure (b.setWifi (b.dl.wifi.bleWriteCredentials s ⟨ssid, password⟩).2)
  | 2 => (json.getObjectItem (str "volume")).map fun _ => b
  | 3 => do
      let _state ← json.getObjectItem (str "state")
      let _duration ← json.getObjectItem (str "duration")
      let color ← json.getObjectItem (str "color")
      let _b ← color.getArrayItem 2
      pure b
  | 4 => do
      let name ← json.stringField? (str "boxName")
      b.writeBoxName name
  | 5 => (json.getObjectItem (str "url")).map fun _ => b
  | 6 => do
      let user ← json.getObjectItem (str "newUser")
      let userNo ← json.getObjectItem (str "updateUserNo")
      match user.valuestring? with
      | some user => b.verifyUserID now user (toByte userNo.valueint)
      -- `NULL` is printed, and copied only into one of the two slots
      | none =>
          if toByte userNo.valueint = 1 ∨ toByte userNo.valueint = 2 then none
          else b.verifyUserID now [] (toByte userNo.valueint)
  | _ => some b

/-- `BLECallback::onWrite`. -/
def onWrite [CJson] (b : Box) (now : ℕ) (uuid : BleUuid) (value : Bytes)
    (s : Wifi.CredentialsScript) : Option Box :=
  if value.length ≥ 200 then some b
  else
    match CJson.parse (text value) with
    | none => some b
    | some json =>
        match uuid with
        | .writeInitialize => do
            let ssid ← json.stringField? (str "ssid")
            let password ← json.stringField? (str "password")
            let user ← json.stringField? (str "newUser")
            b.systemInitialize now ssid password user
        | .writeCommand =>
            match json.numberField? (str "msgTyp"), json.stringField? (str "userID") with
            | some msgType, some userID =>
                if b.verifyUser userID then b.bleCommand now msgType json s else some b
            | _, _ => some b
        | .other => some b

end Box

/-! ## Steps of the box -/

/-- One atomic step of a task. -/
inductive BoxEvent where
  | handler (env : HandlerEnv)
  /-- a QBus read frame -/
  | read (now : ℕ) (data : Bytes)
  /-- a QBus write frame -/
  | write (now address len : ℕ) (data : Bytes)
  /-- a BLE write -/
  | ble (now : ℕ) (uuid : Box.BleUuid) (value : Bytes) (s : Wifi.CredentialsScript)
  /-- the audio pipeline changes its state -/
  | pipeline (writer : AelState)
  /-- an event of the WiFi station -/
  | station (e : StaEvent)

namespace Box

variable [CJson]

def step (b : Box) : BoxEvent → Option Box
  | .handler env => b.handler env
  | .read now data => some (b.readFrame now data)
  | .write now address len data => some (b.writeFrame now address len data)
  | .ble now uuid value s => b.onWrite now uuid value s
  | .pipeline writer => some { b with writer := writer }
  | .station e => some (b.setWifi (b.dl.wifi.eventHandler e))

/-- The runs from boot with steps that meet `ok`. -/
def Reached (ok : Box → BoxEvent → Prop) (card : Card) (wifi : Wifi) (battery charging : UInt8)
    (b : Box) : Prop :=
  Runs.Reached (fun b e b' => step b e = some b') ok (boot card wifi battery charging) b

/-! ### Single calls

The tasks reach `System` and `Player` through these functions. `call` is any one of them on its own, in
whatever order and state. -/

/-- The setters of `System`. -/
inductive Setter where
  | turnTable (direction : UInt8)
  | batteryLevel (level : UInt8)
  | chargingStatus (state : UInt8)
  | powerStatus (state : UInt8)
  | leftEarButton (state : Bool)
  | rightEarButton (state : Bool)

def set (b : Box) : Setter → Box
  | .turnTable direction => { b with turnTable := direction }
  | .batteryLevel level => { b with batteryLevel := level }
  | .chargingStatus state => { b with chargingState := state }
  | .powerStatus state => { b with powerState := state }
  | .leftEarButton state => { b with leftEarButtonState := state }
  | .rightEarButton state => { b with rightEarButtonState := state }

inductive Call where
  | task (e : BoxEvent)
  | setToy (toy : Bytes)
  | resetToy (now : ℕ)
  | next (now : ℕ)
  | previous (now : ℕ)
  | resumePlaying (now : ℕ)
  | systemInitialize (now : ℕ) (ssid password user1 : Bytes)
  | verifyUserID (now : ℕ) (userToCheck : Bytes) (userNo : UInt8)
  | set (s : Setter)

def call (b : Box) : Call → Option Box
  | .task e => b.step e
  | .setToy toy => some (b.setToy toy)
  | .resetToy now => some (b.resetToy now)
  | .next now => some (b.next now)
  | .previous now => some (b.previous now)
  | .resumePlaying now => some (b.resumePlaying now)
  | .systemInitialize now ssid password user1 => b.systemInitialize now ssid password user1
  | .verifyUserID now userToCheck userNo => b.verifyUserID now userToCheck userNo
  | .set s => some (b.set s)

end Box

end Cubbies
