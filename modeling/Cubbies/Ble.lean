import Cubbies.Lib.Decimal
import Cubbies.Session

set_option autoImplicit false

/-! # The BLE server (`ble_app.cpp`)

A client writes to two characteristics (`Box.onWrite`), reads the others (`Box.onRead`) and is notified.
What a step of a task notifies is computed beside it, along the functions that call `BLE::notify`. The
free clusters of the card are what `f_getfree` finds at the read. -/

namespace Cubbies

open CString

/-- The notifications, by the names the source gives the numbers in its comments. -/
inductive Notification where
  | verificationSuccess
  | verificationFailed
  | credentialsSuccess
  | wifiConnectionFailed
  | jsonParseFailed
  | invalidUserID
  | maxVolumeSet
  | maxVolumeValueError
  | boxNameSet
  deriving DecidableEq

/-- What `BLE::notify` is given. -/
def Notification.payload : Notification → Bytes
  | .verificationSuccess => str "9"
  | .verificationFailed => str "10"
  | .credentialsSuccess => str "11"
  | .wifiConnectionFailed => str "12"
  | .jsonParseFailed => str "JsonParseFailed"
  | .invalidUserID => str "InvalidUserID"
  | .maxVolumeSet => str "MaxVolumeSet"
  | .maxVolumeValueError => str "MaxVolumeValueError"
  | .boxNameSet => str "BoxNameSet"

/-- The notification of `WiFi::bleWriteCredentials`. -/
def Wifi.credentialsNotified (w : Wifi) (s : CredentialsScript) (new : Credentials) :
    List Notification :=
  if (w.bleWriteCredentials s new).1 then [.credentialsSuccess] else [.wifiConnectionFailed]

namespace Box

/-! ## Notifications -/

/-- The notification at the end of `verifyUserIdWithServer`. -/
def registerNotified (b : Box) (json : Json) : List Notification :=
  let verdict (field : Bytes) : List Notification :=
    if (json.getObjectItemCaseSensitive field).any Json.isTrue then [.verificationSuccess]
    else [.verificationFailed]
  if b.initUser1 ≠ [] then verdict (str "user1")
  else if b.initUser2 ≠ [] then verdict (str "user2")
  else []

/-- The notifications of a command, by `ble_message_types_et`. -/
def bleCommandNotified (b : Box) (msgType : ℤ) (json : Json) (s : Wifi.CredentialsScript) :
    List Notification :=
  match msgType with
  | 1 =>
      match json.stringField? (str "ssid"), json.stringField? (str "password") with
      | some ssid, some password => b.dl.wifi.credentialsNotified s ⟨ssid, password⟩
      | _, _ => []
  | 2 =>
      match json.getObjectItem (str "volume") with
      | some volume =>
          if 0 ≤ volume.valueint ∧ volume.valueint ≤ 100 then [.maxVolumeSet]
          else [.maxVolumeValueError]
      | none => []
  | 4 => if (json.stringField? (str "boxName")).isSome then [.boxNameSet] else []
  | _ => []

section

variable [CJson]

/-- The notification of `System::verifyUserIdWithServer`. -/
def verifyNotified (b : Box) (s : VerifyScript) : List Notification :=
  let b :=
    if b.dl.validTokenFlag then b
    else { b with dl := b.dl.new.downloadToken s.tokenConnect s.token.atomic s.errorTail }
  let r := b.dl.wifi.connect s.connect
  if r.1 = 0 then
    let r := initializerCallback.perform (fun b _ => b) (b.setWifi r.2) s.answer
    if r.1 then
      match CJson.parse (text r.2.outputBuff) with
      | none => []
      | some json => r.2.registerNotified json
    else []
  else []

/-- The notifications of `BLECallback::onWrite`. -/
def onWriteNotified (b : Box) (uuid : BleUuid) (value : Bytes) (s : Wifi.CredentialsScript) :
    List Notification :=
  if value.length ≥ 200 then []
  else
    match CJson.parse (text value) with
    | none => [.jsonParseFailed]
    | some json =>
        match uuid with
        | .writeCommand =>
            match json.numberField? (str "msgTyp"), json.stringField? (str "userID") with
            | some msgType, some userID =>
                if b.verifyUser userID then b.bleCommandNotified msgType json s
                else [.invalidUserID]
            | _, _ => []
        | .writeInitialize | .other => []

/-- The notifications of a step. -/
def notified (b : Box) : BoxEvent → List Notification
  | .handler env =>
      match b.state with
      | .initWifiCheck => b.dl.wifi.credentialsNotified env.credentials ⟨b.initSsid, b.initPassword⟩
      | .initUserIdCheck => b.verifyNotified env.verify
      | _ => []
  | .ble _ uuid value s => b.onWriteNotified uuid value s
  | .read _ _ | .write _ _ _ _ | .pipeline _ | .station _ => []

def sessionNotified (b : Box) : SessionEvent → List Notification
  | .step e => b.notified e
  | .power _ _ _ => []

end

/-! ## Reads -/

/-- The characteristics a client can read. -/
inductive ReadUuid where
  | macID
  | battery
  | storageInfo
  | wifiStat
  | volume
  | user1
  | user2
  | boxID
  | lampInfo

def boxIdPath : Bytes := str "/sdcard/data/boxid.cubbies"

/-- `System::ReadBoxUniqueID`, and the text then in `uniqueBoxID`. -/
def uniqueBoxID (c : Card) : Bytes := text (((c.content? boxIdPath).getD []).take 36)

/-- `SdCard::getFreeMemory`: `f_getfree` gives the free clusters and the sectors of one, or fails. -/
def getFreeMemory (free : Option (UInt32 × UInt16)) : ℕ :=
  match free with
  | none => 0
  | some (freeCluster, csize) => (freeCluster * csize.toUInt32).toNat * 512

/-- `BLECallback::onRead`: what it prints into `responseBuff[80]`. -/
def onRead (b : Box) (macID : Bytes) (free : Option (UInt32 × UInt16)) : ReadUuid → Option Bytes
  | .macID => strcpy 80 (str "\x7b\"macID\":\"" ++ macID ++ str "\"\x7d")
  | .battery => strcpy 80 (str "\x7b\"battery\":" ++ unsigned b.batteryLevel.toNat ++ str "\x7d")
  | .storageInfo =>
      -- Only the `float` rounds: dividing by 1024.0 is exact.
      strcpy 80 (str "\x7b\"freeBytes\":\"" ++
        fixed (toFloat (getFreeMemory free)) (1024 * 1024) ++ str "\"\x7d")
  | .wifiStat =>
      strcpy 80 (str "\x7b\"wifi\":\"" ++
        (if b.dl.wifi.isConnected then str "connected" else str "notConnected") ++ str "\"\x7d")
  | .volume =>
      strcpy 80 (str "\x7b\"V\":" ++ unsigned b.volume.toNat ++ str ", \"maxV\":" ++
        unsigned b.maxVolume.toNat ++ str "\x7d")
  | .user1 => strcpy 80 (str "\x7b\"user1\":\"" ++ text b.sysUser1 ++ str "\"\x7d")
  | .user2 => strcpy 80 (str "\x7b\"user2\":\"" ++ text b.sysUser2 ++ str "\"\x7d")
  | .boxID => strcpy 80 (str "\x7b\"boxid\":\"" ++ uniqueBoxID b.dl.card ++ str "\"\x7d")
  | .lampInfo => strcpy 80 (str "\x7b\"state\":1,\"duration\":300,\"color\":[255,128,0]\x7d")

end Box

end Cubbies
