import Cubbies.Http
import Cubbies.Json
import Cubbies.SdCard
import Cubbies.Wifi

set_option autoImplicit false

/-! # The downloader (`downloader.cpp`)

`Downloader::begin` asks the server for a toy's master JSON, its direction files and its audio files.
Most of what it works on is global and outlives the call: the lists taken from the last master JSON,
the open files, the buffers. `Downloader` is all of it, together with the card and the WiFi object it
uses.

What the server and the other tasks do during a call is in its `BeginScript`. Four fields are ghost
state: the master JSONs that were parsed with the toy they were requested for (`received`), the
requests made, the paths opened for writing (all three latest first; the metadata file counts again
with each later chunk), and for each `verify.txt` what held when it was written (`verified`). -/

namespace Cubbies

open CString

/-- A request for a file, with the URL it went to. -/
inductive Request where
  | directionFile (name url : Bytes)
  | audioFile (name url : Bytes)
  deriving DecidableEq

/-- A `verify.txt`: the toy it was written for, and the card and the master JSONs received by then. -/
structure Marker where
  toy : Bytes
  card : Card
  received : List (Bytes × Json)

structure Downloader where
  card : Card
  wifi : Wifi
  /-- the text in `tagUid_qbus` -/
  tagUid : Bytes
  /-- the member `toy` -/
  toy : Bytes
  tokenRequestFlag : Bool
  accessToken : Bytes
  validTokenFlag : Bool
  /-- `response_buffer`, `none` when it is `NULL` -/
  responseBuffer : Option Bytes
  /-- the static `file` of `MasterjsonCallback`: the tag in whose folder it is open -/
  metadataFile : Option Bytes
  baseUrl : Bytes
  /-- `direction_file_names`; a slot that was never written is `none` -/
  directionFileNames : List (Option Bytes)
  nServer : List Bytes
  mediaJson : Option Json
  /-- the bytes stored in `output_buffer` since it was last started -/
  outputBuffer : Bytes
  outputLen : ℕ
  /-- `Downloader::file` while an audio file is received: the path it is open on -/
  file : Option Bytes
  /-- the first `buffer_pos` bytes of `download_buffer` -/
  downloadBuffer : Bytes
  received : List (Bytes × Json)
  requests : List Request
  written : List Bytes
  verified : List Marker

namespace Downloader

/-- The globals as the program starts, with any card and WiFi object. -/
def boot (card : Card) (wifi : Wifi) : Downloader where
  card := card
  wifi := wifi
  tagUid := []
  toy := []
  tokenRequestFlag := false
  accessToken := []
  validTokenFlag := false
  responseBuffer := none
  metadataFile := none
  baseUrl := []
  directionFileNames := []
  nServer := []
  mediaJson := none
  outputBuffer := []
  outputLen := 0
  file := none
  downloadBuffer := []
  received := []
  requests := []
  written := []
  verified := []

/-- A QBus read frame as the downloader sees it: `QBSlaveProcessFrame` prints the UID. -/
def frame (d : Downloader) (uid : Uid) : Downloader := { d with tagUid := uidText uid }

/-- `fopen(path, "w")`. -/
def openWrite (d : Downloader) (path : Bytes) : Option Downloader :=
  (d.card.fopenWrite path).map fun c => { d with card := c, written := path :: d.written }

/-- `fopen(path, "w")`, one `fwrite` or `fprintf`, `fclose`: nothing happens when it cannot be
opened. `create_file`, `write_array_to_file` and `save_file_to_sd` are of this form. -/
def writeFile (d : Downloader) (path content : Bytes) : Downloader :=
  match d.openWrite path with
  | none => d
  | some d => { d with card := d.card.fwrite path content }

/-- `/sdcard/media/toys/` and `/sdcard/media/audio/`. -/
def toysPath : Bytes := str "/sdcard/media/toys/"

def audioPath : Bytes := str "/sdcard/media/audio/"

/-- `new Downloader()`, with the globals there are. -/
def new (d : Downloader) : Downloader := { d with toy := [] }

/-- `Downloader::createFolders`. -/
def createFolders (d : Downloader) : Downloader :=
  match d.card.mkdir (toysPath ++ d.toy) with
  | .ok c => { d with card := c }
  | _ => d

/-! ## The box token -/

/-- `Downloader::TokenCallback`. -/
def tokenCallback : Callback Downloader where
  onHeader d key value :=
    if d.tokenRequestFlag ∧ ¬ d.validTokenFlag then
      if key.take 19 = str "x-cubbies-box-token" then
        if value.length > 40 then d
        else { d with accessToken := value.take 39, validTokenFlag := true }
      else d
    else d
  onData d _ := d
  onFinish d := d
  onDisconnected d := d

/-- `errUrl` of `downloadToken`. FAT takes the two slashes around an empty toy for one. -/
def errorPath (toy : Bytes) : Bytes :=
  if toy = [] then toysPath ++ str "err.cubbies" else toysPath ++ toy ++ str "/err.cubbies"

/-- The file `downloadToken` leaves after an HTTP error. It writes an `int` read at the address of a
byte, so three bytes of it, `tail`, are whatever lies behind it. -/
def writeTokenError (d : Downloader) (httpResponseCode : ℤ) (tail : Bytes) : Downloader :=
  if httpResponseCode < 200 ∨ httpResponseCode > 299 then
    d.writeFile (errorPath d.toy) (1 :: tail)
  else d

/-- `Downloader::downloadToken`. -/
def downloadToken (d : Downloader) (connect : WaitScript) (x : Exchange) (tail : Bytes) :
    Downloader :=
  if d.validTokenFlag then d
  else
    let r := d.wifi.connect connect
    let d := { d with wifi := r.2 }
    if r.1 = 0 then
      let r := tokenCallback.perform frame { d with tokenRequestFlag := true } x
      let httpResponseCode := if r.1 then x.status else 0
      { r.2.writeTokenError httpResponseCode tail with tokenRequestFlag := false }
    else d

/-! ## The master JSON -/

/-- The prefixes of a path that end before a `/`, the leading one aside; `done` is the part read. -/
def slashPrefixes (done : Bytes) : Bytes → List Bytes
  | [] => []
  | b :: rest =>
      if b = 47 ∧ done ≠ [] then done :: slashPrefixes (done ++ [b]) rest
      else slashPrefixes (done ++ [b]) rest

/-- `mkdir` on one path after the other, up to the first error that is not `EEXIST`. -/
def mkdirAll (c : Card) : List Bytes → Card × Bool
  | [] => (c, true)
  | path :: paths =>
      match c.mkdir path with
      | .ok c => mkdirAll c paths
      | .eexist => mkdirAll c paths
      | .enoent => (c, false)

/-- `Downloader::create_directory`: the card, and whether it returned `ESP_OK`. -/
def createDirectory (c : Card) (path : Bytes) : Card × Bool :=
  let path := snprintf 256 path
  let path := if path.getLast? = some 47 then path.dropLast else path
  mkdirAll c (slashPrefixes [] path ++ [path])

/-- The names one item of the `media` array asks for. -/
def itemNames (item : Json) : List Bytes :=
  match item.stringField? (str "N"), item.numberField? (str "T") with
  | some n, some t => if t = 1 then [n, n ++ str "C", n ++ str "W"] else [n]
  | _, _ => []

/-- What `N_server` is filled with. -/
def mediaNames (media : Json) : List Bytes := media.children.flatMap itemNames

/-- The array of `write_array_to_file` as text. -/
def arrayText (values : List ℤ) : Bytes := (str ",").intercalate (values.map decimal)

/-- The lists `parse_and_store_metadata` takes from the master JSON `j`: each one is replaced only
when `j` gives it, and `N_server` is built from whatever `media_json` is then. -/
def storeLists (d : Downloader) (j : Json) : Downloader :=
  let d :=
    match j.stringField? (str "baseUrl") with
    | some url => { d with baseUrl := url.take 255 }
    | none => d
  let d :=
    match j.arrayField? (str "directionFiles") with
    | some files => { d with directionFileNames := files.map Json.valuestring? }
    | none => d
  let d :=
    match j.arrayField? (str "media") with
    | some items => { d with mediaJson := some (.array items) }
    | none => d
  match d.mediaJson with
  | some media => { d with nServer := mediaNames media }
  | none => d

/-- One small file, written when the master JSON has the field it is made from. -/
def storeField (d : Downloader) (path : Bytes) : Option Bytes → Downloader
  | some content => d.writeFile path content
  | none => d

/-- The four small files written from the master JSON, into the folder of the tag on the box. -/
def storeFiles (d : Downloader) (j : Json) : Downloader :=
  let basePath := snprintf 256 (toysPath ++ d.tagUid)
  let d := d.storeField (basePath ++ str "/version.cubbies")
    ((j.numberField? (str "version")).map fun v => snprintf 16 (decimal v))
  let d := d.storeField (basePath ++ str "/productCode.cubbies") (j.stringField? (str "productCode"))
  let d := d.storeField (basePath ++ str "/recordable.cubbies")
    ((j.numberField? (str "recordable")).map fun v => snprintf 16 (decimal v))
  d.storeField (basePath ++ str "/colourTheme.cubbies")
    ((j.arrayField? (str "colourTheme")).map fun items => arrayText (items.map Json.valueint))

def metadataPath (tag : Bytes) : Bytes := toysPath ++ tag ++ str "/" ++ str "metadata.cubbies"

/-- The `HTTP_EVENT_ON_DATA` branch of `MasterjsonCallback`. The metadata file is opened in the folder
of the tag on the box, and only if it is not open already. -/
def masterData (d : Downloader) (data : Bytes) : Downloader :=
  if data = [] then d
  else
    let d := { d with responseBuffer := some (d.responseBuffer.getD [] ++ data) }
    match d.metadataFile with
    | some tag =>
        { d with
          card := d.card.fwrite (metadataPath tag) data
          written := metadataPath tag :: d.written }
    | none =>
        let r := createDirectory d.card (toysPath ++ d.tagUid ++ str "/")
        let d := { d with card := r.1 }
        if r.2 then
          match d.openWrite (metadataPath d.tagUid) with
          | none => d
          | some d =>
              { d with
                card := d.card.fwrite (metadataPath d.tagUid) data
                metadataFile := some d.tagUid }
        else d

section

variable [CJson]

/-- `Downloader::parse_and_store_metadata`. -/
def parseAndStoreMetadata (d : Downloader) (response : Bytes) : Downloader :=
  match CJson.parse response with
  | none => d
  | some j => ({ d with received := (d.toy, j) :: d.received }.storeLists j).storeFiles j

/-- What `HTTP_EVENT_ON_FINISH` gives to `parse_and_store_metadata`: the response, if the metadata file
is open. A `NULL` response does not parse. -/
def responseAtFinish (d : Downloader) : Option Bytes :=
  if d.metadataFile.isSome then d.responseBuffer else none

/-- The `HTTP_EVENT_ON_FINISH` branch. -/
def masterFinish (d : Downloader) : Downloader :=
  let closed := { d with metadataFile := none }
  let d :=
    match d.responseAtFinish with
    | some response => closed.parseAndStoreMetadata response
    | none => closed
  { d with responseBuffer := none }

/-- `Downloader::MasterjsonCallback`. A lost connection leaves the metadata file open. -/
def masterJsonCallback : Callback Downloader where
  onHeader d _ _ := d
  onData := masterData
  onFinish := masterFinish
  onDisconnected d := { d with responseBuffer := none }

/-- `Downloader::download_master_json`. -/
def downloadMasterJson (d : Downloader) (x : Exchange) : Downloader :=
  (masterJsonCallback.perform frame d x).2

end

/-! ## Direction files -/

/-- `sizeof(output_buffer)` and `BUFFER_SIZE`. -/
def bufferSize : ℕ := 4096

/-- `Downloader::DirectionCallback`: a chunk that does not fit is dropped. -/
def directionCallback : Callback Downloader where
  onHeader d _ _ := d
  onData d data :=
    if d.outputLen + data.length < bufferSize then
      { d with
        outputBuffer := d.outputBuffer.take d.outputLen ++ data
        outputLen := d.outputLen + data.length }
    else d
  onFinish d := { d with outputLen := 0 }
  onDisconnected d := { d with outputLen := 0 }

/-- `Downloader::save_file_to_sd`. -/
def saveFileToSd (d : Downloader) (directionName data : Bytes) : Downloader :=
  d.writeFile
    (snprintf 256 (toysPath ++ d.toy ++ str "/" ++ directionName ++ str ".cubbies")) data

/-- The direction part of a file name: what follows its last `_`, up to the next `.`. -/
def directionPart? (dirFileName : Bytes) : Option Bytes :=
  (afterLast? 95 (snprintf 256 dirFileName)).map (beforeFirst 46)

/-- `Downloader::download_file`. -/
def downloadFile (d : Downloader) (dirFileName : Bytes) (x : Exchange) : Downloader :=
  let url := snprintf 256 (d.baseUrl ++ dirFileName)
  let d :=
    { d with
      outputBuffer := []
      outputLen := 0
      requests := .directionFile dirFileName url :: d.requests }
  let r := directionCallback.perform frame d x
  let d := r.2
  if r.1 then
    match directionPart? dirFileName with
    | some direction => d.saveFileToSd direction (text d.outputBuffer)
    | none => d
  else d

/-- What a call of `download_file` meets: its exchange, and what the name in a slot that was never
written happens to be (`none` for `NULL`). -/
structure DirectionScript where
  junk : Option Bytes
  exchange : Exchange

/-- `Downloader::process_direction_files` on the slots that are left. -/
def processDirectionFiles (d : Downloader) (s : ℕ → DirectionScript) :
    List (Option Bytes) → Downloader
  | [] => d
  | slot :: slots =>
      let d :=
        match slot <|> (s 0).junk with
        | some dirFileName => d.downloadFile dirFileName (s 0).exchange
        | none => d
      d.processDirectionFiles (fun i => s (i + 1)) slots

/-! ## Audio files -/

/-- `Downloader::flush_buffer`. -/
def flushBuffer (d : Downloader) : Downloader :=
  match d.file with
  | some path =>
      if d.downloadBuffer = [] then d
      else { d with card := d.card.fwrite path d.downloadBuffer, downloadBuffer := [] }
  | none => d

/-- The copy loop of `Downloadmp3Callback`. Each round takes at least one byte, so the number of bytes
is fuel enough. -/
def copyLoop : ℕ → Downloader → Bytes → Downloader
  | 0, d, _ => d
  | fuel + 1, d, data =>
      if data = [] then d
      else
        let toCopy := min data.length (bufferSize - d.downloadBuffer.length)
        let d := { d with downloadBuffer := d.downloadBuffer ++ data.take toCopy }
        let d := if d.downloadBuffer.length = bufferSize then d.flushBuffer else d
        copyLoop fuel d (data.drop toCopy)

/-- `Downloader::Downloadmp3Callback`. -/
def mp3Callback : Callback Downloader where
  onHeader d _ _ := d
  onData d data :=
    match d.file with
    | some _ => copyLoop data.length d data
    | none => d
  onFinish d :=
    match d.file with
    | some _ => { d.flushBuffer with file := none }
    | none => d
  onDisconnected d := { d with file := none }

/-- `Downloader::find_metadata_for_file`. -/
def findMetadataForFile (d : Downloader) (mp3FileName : Bytes) : Option Json :=
  d.mediaJson.bind fun media =>
    media.children.find? fun item => item.stringField? (str "N") = some mp3FileName

/-- The `size` integers of the array field `name`, or zeros. -/
def intArray (metadata : Json) (name : Bytes) (size : ℕ) : List ℤ :=
  match metadata.arrayField? name with
  | some items => if items.length = size then items.map Json.valueint else List.replicate size 0
  | none => List.replicate size 0

/-- One header line of up to three fields. -/
def headerLine (name : String) (values : List ℤ) : Bytes :=
  str name ++ str ":" ++ (str ",").intercalate (values.map decimal3) ++ str "\n"

/-- The text of `Downloader::write_metadata_to_file`. -/
def metadataText (metadata : Json) : Bytes :=
  let t := (metadata.numberField? (str "T")).getD 0
  let a := if t = 1 then (metadata.numberField? (str "A")).getD 0 else 0
  let l := if t = 1 then intArray metadata (str "L") 3 else [0, 0, 0]
  let r := if t = 1 then intArray metadata (str "R") 3 else [0, 0, 0]
  let z := intArray metadata (str "Z") 2
  str "HEADER_START\n" ++ headerLine "T" [t] ++ headerLine "A" [a] ++ headerLine "L" l ++
    headerLine "R" r ++ headerLine "Z" z ++ str "HEADER_END\n"

/-- The header text `download_mp3_file` writes before the request. -/
def headerText (d : Downloader) (mp3FileName : Bytes) : Bytes :=
  match d.findMetadataForFile mp3FileName with
  | some metadata => metadataText metadata
  | none => str "0\n0,0\n"

/-- The retry loop, with the number of attempts left: whether one succeeded. -/
def retryLoop : ℕ → Downloader → (ℕ → Exchange) → Bool × Downloader
  | 0, d, _ => (false, d)
  | left + 1, d, attempts =>
      let r := mp3Callback.perform frame d (attempts 0)
      if r.1 then (true, r.2) else retryLoop left r.2 fun i => attempts (i + 1)

/-- `MAX_RETRY_COUNT`. -/
def maxRetryCount : ℕ := 3

/-- What a call of `download_mp3_file` meets: its attempts, and whether the file could be renamed. -/
structure AudioScript where
  attempts : ℕ → Exchange
  renames : Bool

def tempFilePath (mp3FileName : Bytes) : Bytes :=
  snprintf 256 (audioPath ++ mp3FileName ++ str "temp.mp3")

def finalFilePath (mp3FileName : Bytes) : Bytes :=
  snprintf 256 (audioPath ++ mp3FileName ++ str ".mp3")

/-- The first part of `download_mp3_file`: the temporary file is opened and gets its header, and the
request is set up. -/
def openTemp (d : Downloader) (mp3FileName : Bytes) : Option Downloader :=
  (d.openWrite (tempFilePath mp3FileName)).map fun d =>
    { d with
      file := some (tempFilePath mp3FileName)
      card := d.card.fwrite (tempFilePath mp3FileName) (d.headerText mp3FileName)
      requests :=
        .audioFile mp3FileName (snprintf 260 (d.baseUrl ++ mp3FileName ++ str ".mp3")) :: d.requests }

/-- `Downloader::download_mp3_file`. -/
def downloadMp3File (d : Downloader) (mp3FileName : Bytes) (s : AudioScript) :
    Bool × Downloader :=
  match d.openTemp mp3FileName with
  | none => (false, { d with file := none })
  | some d =>
      let r := retryLoop maxRetryCount d s.attempts
      let d := r.2
      if r.1 then
        if s.renames then
          (true, { d with
            card := d.card.rename (tempFilePath mp3FileName) (finalFilePath mp3FileName) })
        else (false, d)
      else (false, { d with file := none })

/-- The comparison of `process_audio_files`: the names agree up to their last `.`. -/
def sameStem (name sdName : Bytes) : Bool := beforeLast 46 name = beforeLast 46 sdName

/-- Whether some file of the listing counts as the audio file `name`. -/
def isDuplicate (sdFiles : List Bytes) (name : Bytes) : Bool := sdFiles.any (sameStem name)

/-- The download loop of `process_audio_files`: it stops at the first failure. -/
def downloadAll (d : Downloader) (s : ℕ → AudioScript) : List Bytes → Bool × Downloader
  | [] => (true, d)
  | name :: names =>
      let r := d.downloadMp3File name (s 0)
      if r.1 then r.2.downloadAll (fun i => s (i + 1)) names else (false, r.2)

/-- `Downloader::create_verified_file` at the time `seconds`. -/
def createVerifiedFile (d : Downloader) (seconds : ℕ) : Downloader :=
  let path := toysPath ++ d.tagUid ++ str "/verify.txt"
  match d.openWrite path with
  | none => d
  | some d' =>
      { d' with
        card :=
          d'.card.fwrite path
            (str "All files downloaded successfully at: " ++ unsigned seconds ++ str "\n")
        verified := ⟨d.tagUid, d.card, d.received⟩ :: d.verified }

/-- `Downloader::process_audio_files` on the audio folder. -/
def processAudioFiles (d : Downloader) (s : ℕ → AudioScript) (seconds : ℕ) : Bool × Downloader :=
  match listFiles d.card audioPath with
  | none => (false, d)
  | some sdFiles =>
      let filesToDownload := d.nServer.filter fun name => ¬ isDuplicate sdFiles name
      let r := d.downloadAll s filesToDownload
      let d := if r.1 ∧ filesToDownload ≠ [] then r.2.createVerifiedFile seconds else r.2
      (r.1, { d with nServer := [] })

/-! ## A whole download -/

/-- What one call of `begin` meets, in the order of its requests. -/
structure BeginScript where
  connect : WaitScript
  tokenConnect : WaitScript
  token : Exchange
  errorTail : Bytes
  master : Exchange
  direction : ℕ → DirectionScript
  audio : ℕ → AudioScript
  seconds : ℕ

/-- `begin` up to the call of `download_master_json`. -/
def requestToken (d : Downloader) (s : BeginScript) : Downloader :=
  d.createFolders.downloadToken s.tokenConnect s.token s.errorTail

section

variable [CJson]

/-- `begin` up to the call of `process_direction_files`. -/
def requestMasterJson (d : Downloader) (s : BeginScript) : Downloader :=
  (d.requestToken s).downloadMasterJson s.master

/-- `process_direction_files` and `process_audio_files`, with what is left of `begin`. -/
def processFiles (d : Downloader) (s : BeginScript) : Bool × Downloader :=
  let d := d.processDirectionFiles s.direction d.directionFileNames
  let r := d.processAudioFiles s.audio s.seconds
  (r.1, { r.2 with toy := [] })

/-- `Downloader::begin`. -/
def begin (d : Downloader) (toy : Bytes) (s : BeginScript) : Bool × Downloader :=
  let r := d.wifi.connect s.connect
  let d := { d with toy := toy, wifi := r.2 }
  if r.1 = 0 then (d.requestMasterJson s).processFiles s else (false, d)

/-- The downloader's part of a run: calls of `begin`, and read frames between them. -/
inductive Event where
  | begin (toy : Bytes) (s : BeginScript)
  | frame (uid : Uid)

def step (d : Downloader) : Event → Downloader
  | .begin toy s => (d.begin toy s).2
  | .frame uid => d.frame uid

end

end Downloader

end Cubbies
