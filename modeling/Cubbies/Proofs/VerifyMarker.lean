import Cubbies.Lib.Runs
import Cubbies.Proofs.AudioStage

set_option autoImplicit false

/-! # What `verify.txt` vouches for

`process_audio_files` writes the marker when everything it had to download was downloaded. Whether the
marker tells the truth depends on three things it does not look at: whose folder `tagUid_qbus` names by
then, whether a listed file with the same stem is the audio file it is taken for, and whether one name's
temporary file is another name's audio file. `SoundBegin` is the condition on a call;
`verified_markerSound` says that in runs of such calls every marker is sound. -/

namespace Cubbies

open CString

namespace Downloader

/-- The file an audio name stands for. -/
def audioFile (name : Bytes) : Bytes := audioPath ++ name ++ str ".mp3"

/-- Every audio file the master JSON `j` asks for is on the card. -/
def MediaPresent (c : Card) (j : Json) : Prop :=
  ∀ items, j.arrayField? (str "media") = some items → ∀ item ∈ items, ∀ n t,
    item.stringField? (str "N") = some n → item.numberField? (str "T") = some t →
      c.hasFile (audioFile n) ∧
        (t = 1 → c.hasFile (audioFile (n ++ str "C")) ∧ c.hasFile (audioFile (n ++ str "W")))

/-- The master JSON received last for the marker's toy asks for nothing that is not on the card. -/
def MarkerSound (m : Marker) : Prop :=
  ∃ j, ((m.received.find? fun r => r.1 = m.toy).map Prod.snd) = some j ∧ MediaPresent m.card j

/-- The audio names `j` asks for. -/
def neededNames (j : Json) : List Bytes := ((givenMedia j).map mediaNames).getD []

theorem mediaPresent_of_neededNames {c : Card} {j : Json}
    (h : ∀ n ∈ neededNames j, c.hasFile (audioFile n)) : MediaPresent c j := by
  intro items hitems item hitem n t hn ht
  have hneeded : neededNames j = mediaNames (.array items) := by
    simp [neededNames, givenMedia, hitems]
  have hnames : ∀ name ∈ itemNames item, c.hasFile (audioFile name) := fun name hname =>
    h name (hneeded ▸ List.mem_flatMap.2 ⟨item, hitem, hname⟩)
  unfold itemNames at hnames
  rw [hn, ht] at hnames
  by_cases hone : t = 1
  · simp only [if_pos hone] at hnames
    exact ⟨hnames _ (by simp), fun _ => ⟨hnames _ (by simp), hnames _ (by simp)⟩⟩
  · simp only [if_neg hone] at hnames
    exact ⟨hnames _ (by simp), fun h => absurd h hone⟩

/-! ## The condition on a call -/

/-- The names of a list no listed file stands for. -/
def missingNames (sdFiles names : List Bytes) : List Bytes :=
  names.filter fun name => ¬ isDuplicate sdFiles name

/-- On this card the names of a list can be told from their stems and downloaded side by side: a name
that counts as present is, and its file is no missing name's temporary file; a missing name is short
enough for its path, and its file is no later name's temporary file. -/
def NamesSafe (c : Card) (names : List Bytes) : Prop :=
  ∀ sdFiles, listFiles c audioPath = some sdFiles → ∀ n ∈ names,
    (isDuplicate sdFiles n = true →
      c.hasFile (audioFile n) ∧ ∀ m ∈ missingNames sdFiles names, tempFilePath m ≠ audioFile n) ∧
    (isDuplicate sdFiles n = false →
      n.length ≤ 231 ∧ ∃ l r, missingNames sdFiles names = l ++ n :: r ∧
        ∀ m ∈ r, tempFilePath m ≠ audioFile n)

/-- The state in which a call of `begin` has connected. -/
def entered (d : Downloader) (toy : Bytes) (s : BeginScript) : Downloader :=
  { d with toy := toy, wifi := (d.wifi.connect s.connect).2 }

section

variable [CJson]

/-- The names a call of `begin` works on. -/
def workList (d : Downloader) (toy : Bytes) (s : BeginScript) : List Bytes :=
  match (d.entered toy s).storedJson s with
  | some j => (((givenMedia j).or d.mediaJson).map mediaNames).getD d.nServer
  | none => d.nServer

/-- A call whose marker, if it writes one, can be believed: when it has something to download, the tag
on the box at its end is the toy it was called for, and the names its master JSON asks for are safe. -/
structure SoundBegin (d : Downloader) (toy : Bytes) (s : BeginScript) : Prop where
  tag : (∃ sdFiles, listFiles d.card audioPath = some sdFiles ∧
      missingNames sdFiles (d.workList toy s) ≠ []) → (d.begin toy s).2.tagUid = toy
  names : ∀ j, (d.entered toy s).storedJson s = some j → NamesSafe d.card (neededNames j)

/-- The guard of a run. -/
def SoundStep (d : Downloader) (e : Event) : Prop :=
  ∀ toy s, e = .begin toy s → d.SoundBegin toy s

end

theorem finalFilePath_eq {name : Bytes} (h : name.length ≤ 231) :
    finalFilePath name = audioFile name := by
  refine snprintf_eq_self ?_
  have hpath : audioPath.length = 20 := by decide
  have hsuffix : (str ".mp3").length = 4 := by decide
  simp only [List.length_append, hpath, hsuffix]
  omega

/-- After successful downloads of the missing ones, the files of all safe names are there. -/
theorem downloadAll_complete {c : Card} {d : Downloader} {s : ℕ → AudioScript}
    {names sdFiles : List Bytes} (hsafe : NamesSafe c names)
    (hlist : listFiles c audioPath = some sdFiles) (hcard : ToyWrite c d.card)
    (hret : (d.downloadAll s (missingNames sdFiles names)).1 = true) :
    ∀ n ∈ names, (d.downloadAll s (missingNames sdFiles names)).2.card.hasFile (audioFile n) := by
  intro n hn
  obtain ⟨hpresent, hmissing⟩ := hsafe sdFiles hlist n hn
  cases hdup : isDuplicate sdFiles n with
  | true =>
      obtain ⟨hfile, htemp⟩ := hpresent hdup
      exact downloadAll_keeps hret (hcard.hasFile _ hfile) htemp
  | false =>
      obtain ⟨hlen, l, r, hsplit, htemp⟩ := hmissing hdup
      rw [← finalFilePath_eq hlen] at htemp ⊢
      rw [hsplit] at hret ⊢
      exact downloadAll_hasFile hret htemp

/-! ## One call -/

theorem createVerifiedFile_verified (d : Downloader) (seconds : ℕ) :
    (d.createVerifiedFile seconds).verified = d.verified ∨
      (d.createVerifiedFile seconds).verified = ⟨d.tagUid, d.card, d.received⟩ :: d.verified := by
  unfold createVerifiedFile
  dsimp only
  split
  · exact Or.inl rfl
  · next d' h =>
      obtain ⟨c, -, rfl⟩ := Option.map_eq_some_iff.1 h
      exact Or.inr rfl

theorem createVerifiedFile_tagUid (d : Downloader) (seconds : ℕ) :
    (d.createVerifiedFile seconds).tagUid = d.tagUid := by
  unfold createVerifiedFile
  dsimp only
  split
  · rfl
  · next d' h =>
      have htag := openWrite_tagUid h
      exact htag

/-- The marker `process_audio_files` writes, if any. -/
theorem processAudioFiles_verified (d : Downloader) (s : ℕ → AudioScript) (seconds : ℕ) :
    (d.processAudioFiles s seconds).2.verified = d.verified ∨
      ∃ sdFiles, listFiles d.card audioPath = some sdFiles ∧
        missingNames sdFiles d.nServer ≠ [] ∧
        (d.downloadAll s (missingNames sdFiles d.nServer)).1 = true ∧
        (d.processAudioFiles s seconds).2.verified =
          ⟨(d.processAudioFiles s seconds).2.tagUid,
            (d.downloadAll s (missingNames sdFiles d.nServer)).2.card, d.received⟩ ::
              d.verified := by
  unfold processAudioFiles
  cases hlist : listFiles d.card audioPath with
  | none => exact Or.inl rfl
  | some sdFiles =>
      have hkept := (downloadAll_kept d s (missingNames sdFiles d.nServer)).1
      simp only [kept, Kept.mk.injEq] at hkept
      obtain ⟨-, -, -, -, -, -, hreceived, hverified⟩ := hkept
      dsimp only
      change _ ∨ ∃ sd, some sdFiles = some sd ∧ _
      generalize hd' : d.downloadAll s (missingNames sdFiles d.nServer) = r at hreceived hverified
      have hr : d.downloadAll s (d.nServer.filter fun name => ¬ isDuplicate sdFiles name) = r := hd'
      rw [hr]
      by_cases hwrite : r.1 = true ∧
          (d.nServer.filter fun name => ¬ isDuplicate sdFiles name) ≠ []
      · rw [if_pos hwrite]
        rcases createVerifiedFile_verified r.2 seconds with h | h
        · exact Or.inl (h.trans hverified)
        · refine Or.inr ⟨sdFiles, rfl, hwrite.2, ?_, ?_⟩
          · rw [hd']
            exact hwrite.1
          · rw [hd', createVerifiedFile_tagUid, ← hreceived, ← hverified]
            exact h
      · rw [if_neg hwrite]
        exact Or.inl hverified

/-- The list is empty afterwards, unless the audio folder could not be listed. -/
theorem processAudioFiles_nServer (d : Downloader) (s : ℕ → AudioScript) (seconds : ℕ) :
    (d.processAudioFiles s seconds).2.nServer = [] ∨
      (listFiles d.card audioPath = none ∧ d.processAudioFiles s seconds = (false, d)) := by
  unfold processAudioFiles
  cases hlist : listFiles d.card audioPath with
  | none => exact Or.inr ⟨rfl, rfl⟩
  | some sdFiles => exact Or.inl rfl

section

variable [CJson]

theorem begin_eq (d : Downloader) (toy : Bytes) (s : BeginScript) :
    d.begin toy s =
      if (d.wifi.connect s.connect).1 = 0 then
        ((d.entered toy s).requestMasterJson s).processFiles s
      else (false, d.entered toy s) := rfl

/-- The state in which `process_audio_files` runs. -/
def beforeAudio (d : Downloader) (toy : Bytes) (s : BeginScript) : Downloader :=
  ((d.entered toy s).requestMasterJson s).processDirectionFiles s.direction
    ((d.entered toy s).requestMasterJson s).directionFileNames

theorem beforeAudio_spec (d : Downloader) (toy : Bytes) (s : BeginScript) :
    ToyWrite d.card (d.beforeAudio toy s).card ∧
      (d.beforeAudio toy s).dropResponse.kept =
        match (d.entered toy s).storedJson s with
        | some j => (d.entered toy s).dropResponse.kept.store j
        | none => (d.entered toy s).dropResponse.kept := by
  obtain ⟨hcard, hkept⟩ := requestMasterJson_spec (d.entered toy s) s
  have hdir := SideStep.processDirectionFiles ((d.entered toy s).requestMasterJson s) s.direction
    ((d.entered toy s).requestMasterJson s).directionFileNames
  refine ⟨hcard.trans hdir.card, Eq.trans ?_ hkept⟩
  have hk := hdir.kept
  simp only [kept, Kept.mk.injEq] at hk
  simp only [beforeAudio, dropResponse, kept, Kept.mk.injEq, true_and]
  exact ⟨hk.1, hk.2.2⟩

theorem beforeAudio_nServer (d : Downloader) (toy : Bytes) (s : BeginScript) :
    (d.beforeAudio toy s).nServer = d.workList toy s := by
  have h := congrArg Kept.nServer (beforeAudio_spec d toy s).2
  unfold workList
  cases hj : (d.entered toy s).storedJson s with
  | none => rw [hj] at h; exact h
  | some j => rw [hj] at h; exact h

theorem beforeAudio_verified (d : Downloader) (toy : Bytes) (s : BeginScript) :
    (d.beforeAudio toy s).verified = d.verified := by
  have h := congrArg Kept.verified (beforeAudio_spec d toy s).2
  cases hj : (d.entered toy s).storedJson s with
  | none => rw [hj] at h; exact h
  | some j => rw [hj] at h; exact h

theorem processFiles_eq (d : Downloader) (toy : Bytes) (s : BeginScript)
    (hconn : (d.wifi.connect s.connect).1 = 0) :
    d.begin toy s =
      (((d.beforeAudio toy s).processAudioFiles s.audio s.seconds).1,
        { ((d.beforeAudio toy s).processAudioFiles s.audio s.seconds).2 with toy := [] }) := by
  rw [begin_eq, if_pos hconn]
  rfl

/-- With nothing left over from a call that could not list the audio folder, a call that writes a
marker has stored a master JSON. -/
theorem begin_markers {d : Downloader} {toy : Bytes} {s : BeginScript}
    (hleft : d.nServer = [] ∨ listFiles d.card audioPath = none) (hsound : d.SoundBegin toy s)
    (hmarkers : ∀ m ∈ d.verified, MarkerSound m) :
    ∀ m ∈ (d.begin toy s).2.verified, MarkerSound m := by
  by_cases hconn : (d.wifi.connect s.connect).1 = 0
  · have htag := hsound.tag
    rw [processFiles_eq d toy s hconn] at htag ⊢
    obtain ⟨hcard, hkept⟩ := beforeAudio_spec d toy s
    have hnames := beforeAudio_nServer d toy s
    have hverified := beforeAudio_verified d toy s
    generalize hd' : d.beforeAudio toy s = d' at *
    rcases processAudioFiles_verified d' s.audio s.seconds with h | ⟨sdFiles, hlist, hne, hret, h⟩
    · rw [show (({ (d'.processAudioFiles s.audio s.seconds).2 with toy := [] } : Downloader)).verified
        = d.verified from h.trans hverified]
      exact hmarkers
    · intro m hm
      have hlist' : listFiles d.card audioPath = some sdFiles := hcard.listing.symm.trans hlist
      rw [hnames] at hne hret h
      have htoy := htag ⟨sdFiles, hlist', hne⟩
      rw [show (({ (d'.processAudioFiles s.audio s.seconds).2 with toy := [] } : Downloader)).verified
        = _ from h] at hm
      rcases List.mem_cons.1 hm with rfl | hm
      · cases hj : (d.entered toy s).storedJson s with
        | none =>
            -- nothing stored: the list is the one left over, and that is empty
            rcases hleft with hnil | hnone
            · refine absurd ?_ hne
              simp [missingNames, workList, hj, hnil]
            · rw [hnone] at hlist'
              cases hlist'
        | some j =>
            rw [hj] at hkept
            have hreceived : d'.received = (toy, j) :: d.received := congrArg Kept.received hkept
            refine ⟨j, ?_, ?_⟩
            · dsimp only
              rw [hreceived, htoy]
              simp
            · dsimp only
              cases hmedia : givenMedia j with
              | none =>
                  refine mediaPresent_of_neededNames fun n hn => ?_
                  simp [neededNames, hmedia] at hn
              | some media =>
                  have hwork : d.workList toy s = neededNames j := by
                    simp [workList, hj, hmedia, neededNames]
                  rw [hwork] at hret ⊢
                  exact mediaPresent_of_neededNames
                    (downloadAll_complete (hsound.names j hj) hlist' hcard hret)
      · exact hmarkers m (hverified ▸ hm)
  · rw [begin_eq, if_neg hconn]
    exact hmarkers

/-- A call leaves names behind only where the audio folder cannot be listed. -/
theorem begin_leftover {d : Downloader} {toy : Bytes} {s : BeginScript}
    (hleft : d.nServer = [] ∨ listFiles d.card audioPath = none) :
    (d.begin toy s).2.nServer = [] ∨ listFiles (d.begin toy s).2.card audioPath = none := by
  by_cases hconn : (d.wifi.connect s.connect).1 = 0
  · rw [processFiles_eq d toy s hconn]
    rcases processAudioFiles_nServer (d.beforeAudio toy s) s.audio s.seconds with h | ⟨hlist, h⟩
    · exact Or.inl h
    · refine Or.inr ?_
      rw [h]
      exact hlist
  · rw [begin_eq, if_neg hconn]
    exact hleft

/-! ## Runs -/

/-- The runs of calls and frames from boot, with steps that meet `ok`. -/
def Reached (ok : Downloader → Event → Prop) (card : Card) (wifi : Wifi) (d : Downloader) : Prop :=
  Runs.Reached (fun d e d' => d' = d.step e) ok (boot card wifi) d

/-- **Markers are sound in runs of sound calls.** Whenever `verify.txt` was written for a toy, a master
JSON had been received for that toy and every audio file it asks for was on the card. -/
theorem verified_markerSound {card : Card} {wifi : Wifi} {d : Downloader}
    (h : Reached SoundStep card wifi d) : ∀ m ∈ d.verified, MarkerSound m := by
  refine (Runs.Reached.invariant (I := fun d : Downloader =>
    (d.nServer = [] ∨ listFiles d.card audioPath = none) ∧ ∀ m ∈ d.verified, MarkerSound m)
    h ⟨Or.inl rfl, by simp [boot]⟩ ?_).2
  rintro d e _ ⟨hleft, hmarkers⟩ hok rfl
  cases e with
  | begin toy s => exact ⟨begin_leftover hleft, begin_markers hleft (hok toy s rfl) hmarkers⟩
  | frame uid => exact ⟨hleft, hmarkers⟩

end

/-! ## A marker for the wrong toy -/

/-- A master JSON with one audio file, as text and parsed. -/
def sampleText : Bytes := str "\x7b\"media\":[\x7b\"N\":\"a\",\"T\":0\x7d]\x7d"

def sampleJson : Json :=
  .object [(str "media", .array [.object [(str "N", .string (str "a")), (str "T", .number 0)]])]

def emptyText : Bytes := str "\x7b\x7d"

/-- A parser that knows this text and the empty object. -/
@[reducible] def sampleParser : CJson :=
  ⟨fun s => if s = sampleText then some sampleJson
    else if s = emptyText then some (.object []) else none⟩

def uidX : Uid := ⟨[1, 2, 3, 4, 5, 6, 7, 8], rfl⟩

def uidY : Uid := ⟨[8, 7, 6, 5, 4, 3, 2, 1], rfl⟩

/-- A card with the folders the box expects, one for the toy `uidY`, and no files. -/
def sampleCard : Card where
  dirs := [str "/sdcard", str "/sdcard/media", str "/sdcard/media/toys", str "/sdcard/media/audio",
    toysPath ++ uidText uidY]
  files := []
  files_nodup := List.nodup_nil
  files_in_dirs := by simp

def sampleWifi : Wifi :=
  { Wifi.boot none with credentials := ⟨str "home", str "secret"⟩, connected := true }

/-- A request answered with these events and a status of 200. -/
def answered (events : List HttpEvent) : Exchange := ⟨events, .finished, 200, [], by simp⟩

/-- A call in which the server has everything; `frames` are read while the audio file arrives. -/
def sampleScript (frames : List HttpEvent) : BeginScript where
  connect := ⟨[], []⟩
  tokenConnect := ⟨[], []⟩
  token := answered []
  errorTail := []
  master := answered [.onData sampleText]
  direction _ := ⟨none, answered []⟩
  audio _ := ⟨fun _ => answered (frames ++ [.onData (str "abc")]), true⟩
  seconds := 1

def markerRun (frames : List HttpEvent) : Downloader :=
  [Event.frame uidX, .begin (uidText uidX) (sampleScript frames)].foldl (@step sampleParser)
    (boot sampleCard sampleWifi)

theorem reached_markerRun (frames : List HttpEvent) :
    @Reached sampleParser (fun _ _ => True) sampleCard sampleWifi (markerRun frames) :=
  Runs.reached_foldl _ _ _

theorem namesSafe_sample : NamesSafe sampleCard [str "a"] := by
  intro sdFiles hlist n hn
  have hsd : listFiles sampleCard audioPath = some [] := by decide
  obtain rfl : [] = sdFiles := Option.some.inj (hsd.symm.trans hlist)
  obtain rfl := List.mem_singleton.1 hn
  exact ⟨fun h => absurd h (by decide),
    fun _ => ⟨by decide, [], [], by decide, fun m hm => absurd hm List.not_mem_nil⟩⟩

theorem soundBegin_sample :
    @SoundBegin sampleParser ((boot sampleCard sampleWifi).frame uidX) (uidText uidX)
      (sampleScript []) := by
  refine @SoundBegin.mk sampleParser _ _ _ (fun _ => by decide +kernel) fun j hj => ?_
  have hneeded : (@storedJson sampleParser
      (((boot sampleCard sampleWifi).frame uidX).entered (uidText uidX) (sampleScript []))
      (sampleScript [])).map neededNames = some [str "a"] := by
    decide +kernel
  rw [hj, Option.map_some, Option.some.injEq] at hneeded
  rw [hneeded]
  exact namesSafe_sample

/-- A call with the tag in place writes one marker, and it is sound. -/
theorem verified_markerSound_sample :
    (markerRun []).verified.length = 1 ∧ ∀ m ∈ (markerRun []).verified, MarkerSound m := by
  have hframe : @SoundStep sampleParser (boot sampleCard sampleWifi) (.frame uidX) := by
    intro toy s h
    cases h
  have hbegin : @SoundStep sampleParser ((boot sampleCard sampleWifi).frame uidX)
      (.begin (uidText uidX) (sampleScript [])) := by
    intro toy s h
    obtain ⟨rfl, rfl⟩ := Event.begin.inj h
    exact soundBegin_sample
  have hreached : @Reached sampleParser (@SoundStep sampleParser) sampleCard sampleWifi
      (markerRun []) :=
    Runs.reached_foldl_of (@step sampleParser) _ _ ⟨hframe, hbegin, trivial⟩
  exact ⟨by decide +kernel, @verified_markerSound sampleParser _ _ _ hreached⟩

/-- The tag is replaced while the only audio file is downloaded: `verify.txt` goes to a toy for which
no master JSON was ever received. -/
theorem marker_not_sound :
    @Reached sampleParser (fun _ _ => True) sampleCard sampleWifi (markerRun [.frame uidY]) ∧
      ∃ m ∈ (markerRun [.frame uidY]).verified, ¬ MarkerSound m := by
  refine ⟨reached_markerRun _, ?_⟩
  have hrun : (markerRun [.frame uidY]).verified.map
      (fun m => (m.toy, m.received.map Prod.fst)) = [(uidText uidY, [uidText uidX])] := by
    decide +kernel
  obtain ⟨m, hm, hmark⟩ := List.mem_map.1 (hrun ▸ List.mem_singleton_self _)
  refine ⟨m, hm, ?_⟩
  rintro ⟨j, hj, -⟩
  rw [Option.map_eq_some_iff] at hj
  obtain ⟨r, hr, -⟩ := hj
  have htoy : r.1 = m.toy := by simpa using List.find?_some hr
  have hmem : r.1 ∈ m.received.map Prod.fst := List.mem_map_of_mem (List.mem_of_find?_eq_some hr)
  rw [Prod.mk.injEq] at hmark
  rw [htoy, hmark.1, hmark.2, List.mem_singleton] at hmem
  revert hmem
  decide

end Downloader

end Cubbies
