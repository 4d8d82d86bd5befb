import Cubbies.Tasks

set_option autoImplicit false

/-! # Power cycles (`main.cpp`, `SdCard::setupFiles`)

`app_main` mounts the card, makes the folders it needs, reads the users from it, and connects to the
network it finds credentials for. A session is steps of the tasks with the power lost and switched on
again in between: all that is left then is the card and the credentials file on it. The power is lost
between two steps. The source starts the tasks before it mounts the card; here `app_main` is one step
that comes before theirs. -/

namespace Cubbies

open CString

/-- The folders `SdCard::setupFiles` makes. -/
def setupFolders : List Bytes :=
  [str "/sdcard/media", str "/sdcard/data", str "/sdcard/media/audio", str "/sdcard/media/toys"]

/-- `mkdir` with its result ignored. -/
def Card.makeFolder (c : Card) (path : Bytes) : Card :=
  match c.mkdir path with
  | .ok c => c
  | _ => c

/-- `SdCard::setupFiles`. -/
def setupFiles (c : Card) : Card := setupFolders.foldl Card.makeFolder c

namespace Box

/-- What `app_main` does with the WiFi object. -/
def connectAtStart (w : Wifi) (s : WaitScript) : Wifi :=
  let initialised := w.init
  if initialised.1 = 0 then
    let configured := initialised.2.configSdCardCredentials
    if configured.1 = 0 then (configured.2.connect s).2 else configured.2
  else initialised.2

/-- `app_main` with this card and the credentials file on it. -/
def appMain (card : Card) (credentialsFile : Option Credentials) (battery charging : UInt8)
    (s : WaitScript) : Box :=
  let b := boot (setupFiles card) (Wifi.boot credentialsFile) battery charging
  b.setWifi (connectAtStart b.dl.wifi s)

end Box

inductive SessionEvent where
  | step (e : BoxEvent)
  /-- the power goes off and on -/
  | power (battery charging : UInt8) (s : WaitScript)

def Box.sessionStep [CJson] (b : Box) : SessionEvent → Option Box
  | .step e => b.step e
  | .power battery charging s =>
      some (appMain b.dl.card b.dl.wifi.credentialsFile battery charging s)

end Cubbies
