import Cubbies.Session

set_option autoImplicit false

/-! # A download in progress (`downloader.cpp`, `system.cpp`)

`Downloader.begin` is one call, and `Box.step` takes it as one step. In the program it takes minutes: the
other tasks go on meanwhile, and the power can be lost. Here the call is a machine that stops wherever the
source waits for the server. `Progress` is where it stands; `advance` takes it on by one event of its
request, or from one wait to the next. An event is handled as a whole, as in `Callback.perform`, and so is a
call of the WiFi object.

`LiveBox` is the box with the download its handler is in, if any. Its steps are those of the download,
those of the other tasks at any point of it, and the power going off and on at any point of it. Checking a
user stays one step of the handler. -/

namespace Cubbies

open CString

namespace Downloader

/-! ## The call of `begin` as a machine -/

/-- The request `begin` waits for, and what it goes on with afterwards. -/
inductive Awaited where
  | token
  | masterJson
  | directionFile (dirFileName : Bytes) (slots : List (Option Bytes))
  /-- `left` more attempts are made if this one fails -/
  | audioFile (mp3FileName : Bytes) (left : ℕ) (names : List Bytes)

/-- Where a call of `begin` stands. -/
inductive Progress where
  /-- before `downloadToken` -/
  | login
  | waiting (a : Awaited)
  /-- `esp_http_client_perform` has returned -/
  | answered (a : Awaited) (ok : Bool) (status : ℤ)
  /-- in the loop of `process_direction_files` -/
  | directions (slots : List (Option Bytes))
  /-- before `process_audio_files` -/
  | listing
  /-- in its loop; `asked` says whether it had any file to download -/
  | audioFiles (names : List Bytes) (asked : Bool)
  | done (success : Bool)

/-- What the program meets on the way to its next wait, if it asks for it. -/
structure ResumeScript where
  connect : WaitScript
  errorTail : Bytes
  /-- the name in a slot that was never written -/
  junk : Option Bytes
  renames : Bool
  seconds : ℕ

/-- `download_file` up to its request. -/
def requestDirection (d : Downloader) (dirFileName : Bytes) : Downloader :=
  { d with
    outputBuffer := []
    outputLen := 0
    requests :=
      .directionFile dirFileName (snprintf 256 (d.baseUrl ++ dirFileName)) :: d.requests }

/-- The rest of `download_file`. -/
def saveDirection (d : Downloader) (dirFileName : Bytes) (ok : Bool) : Downloader :=
  if ok then
    match directionPart? dirFileName with
    | some direction => d.saveFileToSd direction (text d.outputBuffer)
    | none => d
  else d

/-- `process_audio_files` returns, and with it `begin`. -/
def leave (d : Downloader) : Downloader := { d with nServer := [], toy := [] }

/-- `begin` up to the call of `downloadToken`, or to its end without a connection. -/
def enter (d : Downloader) (toy : Bytes) (connect : WaitScript) : Progress × Downloader :=
  let r := d.wifi.connect connect
  let d := { d with toy := toy, wifi := r.2 }
  if r.1 = 0 then (.login, d.createFolders) else (.done false, d)

/-- From one wait to the next. The loops go round once a step. -/
def resume (d : Downloader) (s : ResumeScript) : Progress → Progress × Downloader
  | .login =>
      if d.validTokenFlag then (.waiting .masterJson, d)
      else
        let r := d.wifi.connect s.connect
        let d := { d with wifi := r.2 }
        if r.1 = 0 then (.waiting .token, { d with tokenRequestFlag := true })
        else (.waiting .masterJson, d)
  | .answered .token ok status =>
      (.waiting .masterJson,
        { d.writeTokenError (if ok then status else 0) s.errorTail with tokenRequestFlag := false })
  | .answered .masterJson _ _ => (.directions d.directionFileNames, d)
  | .directions [] => (.listing, d)
  | .directions (slot :: slots) =>
      match slot <|> s.junk with
      | some dirFileName =>
          (.waiting (.directionFile dirFileName slots), d.requestDirection dirFileName)
      | none => (.directions slots, d)
  | .answered (.directionFile dirFileName slots) ok _ =>
      (.directions slots, d.saveDirection dirFileName ok)
  | .listing =>
      match listFiles d.card audioPath with
      | none => (.done false, { d with toy := [] })
      | some sdFiles =>
          let filesToDownload := d.nServer.filter fun name => ¬ isDuplicate sdFiles name
          (.audioFiles filesToDownload (filesToDownload ≠ []), d)
  | .audioFiles [] asked =>
      (.done true, (if asked then d.createVerifiedFile s.seconds else d).leave)
  | .audioFiles (name :: names) _ =>
      match d.openTemp name with
      | none => (.done false, { d with file := none }.leave)
      | some d => (.waiting (.audioFile name (maxRetryCount - 1) names), d)
  | .answered (.audioFile name left names) ok _ =>
      if ok then
        if s.renames then
          (.audioFiles names true,
            { d with card := d.card.rename (tempFilePath name) (finalFilePath name) })
        else (.done false, d.leave)
      else if left = 0 then (.done false, { d with file := none }.leave)
      else (.waiting (.audioFile name (left - 1) names), d)
  | .waiting a => (.waiting a, d)
  | .done success => (.done success, d)

/-- Whether the program runs, and does not wait for an answer. -/
def Progress.runs : Progress → Bool
  | .waiting _ | .done _ => false
  | _ => true

def Progress.awaited? : Progress → Option Awaited
  | .waiting a => some a
  | _ => none

inductive Advance where
  | resume (s : ResumeScript)
  /-- `HTTP_EVENT_ON_HEADER` -/
  | header (key value : Bytes)
  /-- `HTTP_EVENT_ON_DATA` -/
  | data (data : Bytes)
  /-- the request ends -/
  | close (ending : Ending) (status : ℤ)

section

variable [CJson]

/-- The event handler of a request. -/
def Awaited.callback : Awaited → Callback Downloader
  | .token => tokenCallback
  | .masterJson => masterJsonCallback
  | .directionFile _ _ => directionCallback
  | .audioFile _ _ _ => mp3Callback

def advance (p : Progress) (d : Downloader) : Advance → Option (Progress × Downloader)
  | .resume s => if p.runs then some (d.resume s p) else none
  | .header key value => p.awaited?.map fun a => (p, a.callback.onHeader d key value)
  | .data data => p.awaited?.map fun a => (p, a.callback.onData d data)
  | .close ending status =>
      p.awaited?.map fun a => (.answered a (ending = .finished) status, a.callback.close d ending)

end

end Downloader

/-! ## The box meanwhile -/

structure LiveBox where
  box : Box
  /-- where the download stands that the handler is in -/
  download : Option Downloader.Progress

inductive LiveEvent where
  /-- a step of a task; the handler makes none while it is in a download -/
  | task (e : BoxEvent)
  /-- `SYS_DOWNLOAD_TOY` calls `begin` -/
  | enter (connect : WaitScript)
  | advance (a : Downloader.Advance)
  /-- `begin` has returned -/
  | leave (now : ℕ)
  /-- the power goes off and on -/
  | power (battery charging : UInt8) (s : WaitScript)

def BoxEvent.isHandler : BoxEvent → Bool
  | .handler _ => true
  | _ => false

namespace LiveBox

/-- The handler is in a download, or about to enter one. -/
def Downloads (l : LiveBox) : Prop := l.download.isSome ∨ l.box.state = .downloadToy

instance (l : LiveBox) : Decidable l.Downloads := inferInstanceAs (Decidable (_ ∨ _))

/-- `app_main`: no download yet. -/
def appMain (card : Card) (credentialsFile : Option Credentials) (battery charging : UInt8)
    (s : WaitScript) : LiveBox :=
  ⟨.appMain card credentialsFile battery charging s, none⟩

def step [CJson] (l : LiveBox) : LiveEvent → Option LiveBox
  | .task e =>
      if e.isHandler ∧ l.Downloads then none else (l.box.step e).map fun b => { l with box := b }
  | .enter connect =>
      if l.download.isNone ∧ l.box.state = .downloadToy then
        let b := l.box.setLandingPadColor ⟨254, 13, 0⟩
        let r := b.dl.enter b.toy connect
        some ⟨{ b with dl := r.2 }, some r.1⟩
      else none
  | .advance a =>
      l.download.bind fun p =>
        (Downloader.advance p l.box.dl a).map fun r => ⟨{ l.box with dl := r.2 }, some r.1⟩
  | .leave now =>
      match l.download with
      | some (.done _) => some ⟨l.box.setState now .idle, none⟩
      | _ => none
  | .power battery charging s =>
      some (appMain l.box.dl.card l.box.dl.wifi.credentialsFile battery charging s)

end LiveBox

end Cubbies
