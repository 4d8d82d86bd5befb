import Cubbies.Proofs.VerifyMarker

set_option autoImplicit false

/-! # Whose lists a download works on

The base URL, the direction file names and the audio names are globals that a master JSON replaces one
by one, each only if it has the field. `ownLists_iff` says exactly when a call of `begin` works on
nothing but what its own response gives: each list is in the response that was stored, or what is left
over is empty. `begin_requests` ties the lists to the requests: no other file is asked for. -/

namespace Cubbies

open CString

namespace Downloader

/-- A list that is empty, or is the one the response gives. -/
def FromResponse {α : Type*} (value : List α) (given : Option (List α)) : Prop :=
  value = [] ∨ given = some value

/-- A list that is replaced when the stored response gives it, and left over otherwise. -/
theorem fromResponse_iff {α : Type*} {stored given : Option (List α)} (leftover : List α)
    (hstored : ∀ v, stored = some v → given = some v) :
    FromResponse (stored.getD leftover) given ↔ stored ≠ none ∨ FromResponse leftover given := by
  cases hs : stored with
  | none => simp
  | some v => exact iff_of_true (Or.inr (hstored v hs)) (Or.inl (by simp))

def givenNames (j : Json) : Option (List Bytes) := (givenMedia j).map mediaNames

/-! ## Requests come from the lists -/

/-- A request built from the lists `d` holds. In a slot of the direction list that was never written
stands whatever name is read there. -/
def FromLists (d : Downloader) : Request → Prop
  | .directionFile name url =>
      url = snprintf 256 (d.baseUrl ++ name) ∧
        (some name ∈ d.directionFileNames ∨ none ∈ d.directionFileNames)
  | .audioFile name url =>
      url = snprintf 260 (d.baseUrl ++ name ++ str ".mp3") ∧ name ∈ d.nServer

theorem writeFile_requests (d : Downloader) (path content : Bytes) :
    (d.writeFile path content).requests = d.requests := by
  unfold writeFile openWrite
  cases d.card.fopenWrite path <;> rfl

theorem directionCallback_requests (d : Downloader) (x : Exchange) :
    (directionCallback.perform frame d x).2.requests = d.requests := by
  refine Callback.perform_induction (P := fun d' : Downloader => d'.requests = d.requests) rfl
    (fun _ _ _ h => h) ?_ (fun _ h => h) (fun _ h => h) fun _ _ _ h => h
  intro d' data h
  dsimp only [directionCallback]
  split <;> exact h

theorem downloadFile_requests (d : Downloader) (name : Bytes) (x : Exchange) :
    (d.downloadFile name x).requests =
      .directionFile name (snprintf 256 (d.baseUrl ++ name)) :: d.requests := by
  unfold downloadFile
  dsimp only
  split
  · split
    · rw [saveFileToSd, writeFile_requests, directionCallback_requests]
    · rw [directionCallback_requests]
  · rw [directionCallback_requests]

theorem processDirectionFiles_requests (d : Downloader) (s : ℕ → DirectionScript)
    (slots : List (Option Bytes)) :
    ∀ r ∈ (d.processDirectionFiles s slots).requests, r ∈ d.requests ∨
      ∃ name, r = .directionFile name (snprintf 256 (d.baseUrl ++ name)) ∧
        (some name ∈ slots ∨ none ∈ slots) := by
  induction slots generalizing d s with
  | nil => exact fun r hr => Or.inl hr
  | cons slot slots ih =>
      intro r hr
      unfold processDirectionFiles at hr
      dsimp only at hr
      cases hname : slot <|> (s 0).junk with
      | none =>
          rw [hname] at hr
          rcases ih _ _ r hr with h | ⟨name, h, hmem⟩
          · exact Or.inl h
          · exact Or.inr ⟨name, h, hmem.imp (List.mem_cons_of_mem _) (List.mem_cons_of_mem _)⟩
      | some name =>
          rw [hname] at hr
          have hurl : (d.downloadFile name (s 0).exchange).baseUrl = d.baseUrl :=
            congrArg Kept.baseUrl (SideStep.downloadFile d name (s 0).exchange).kept
          rcases ih _ _ r hr with h | ⟨n, h, hmem⟩
          · rw [downloadFile_requests] at h
            rcases List.mem_cons.1 h with rfl | h
            · refine Or.inr ⟨name, rfl, ?_⟩
              cases slot with
              | none => exact Or.inr List.mem_cons_self
              | some n =>
                  obtain rfl : n = name := Option.some.inj hname
                  exact Or.inl List.mem_cons_self
            · exact Or.inl h
          · exact Or.inr ⟨n, hurl ▸ h, hmem.imp (List.mem_cons_of_mem _) (List.mem_cons_of_mem _)⟩

theorem openTemp_requests {d d' : Downloader} {name : Bytes} (h : d.openTemp name = some d') :
    d'.requests = .audioFile name (snprintf 260 (d.baseUrl ++ name ++ str ".mp3")) :: d.requests := by
  obtain ⟨e, he, rfl⟩ := Option.map_eq_some_iff.1 h
  obtain ⟨c, -, rfl⟩ := Option.map_eq_some_iff.1 he
  rfl

theorem downloadAll_requests (d : Downloader) (s : ℕ → AudioScript) (names : List Bytes) :
    ∀ r ∈ (d.downloadAll s names).2.requests, r ∈ d.requests ∨
      ∃ name ∈ names, r = .audioFile name (snprintf 260 (d.baseUrl ++ name ++ str ".mp3")) := by
  -- the base URL of each request is the one of the first state
  refine (downloadAll_induction (P := fun d' : Downloader => d'.baseUrl = d.baseUrl ∧
    ∀ r ∈ d'.requests, r ∈ d.requests ∨
      ∃ name ∈ names, r = .audioFile name (snprintf 260 (d.baseUrl ++ name ++ str ".mp3")))
    ?_ ?_ ?_ ?_).2
  · exact fun d' card buffer file h => h
  · exact ⟨rfl, fun r hr => Or.inl hr⟩
  · rintro d₁ d₂ name hname hopen ⟨hurl, hrequests⟩
    refine ⟨(congrArg Kept.baseUrl (openTemp_receiving hopen).kept).trans hurl, ?_⟩
    intro r hr
    rw [openTemp_requests hopen, hurl] at hr
    rcases List.mem_cons.1 hr with rfl | hr
    · exact Or.inr ⟨name, hname, rfl⟩
    · exact hrequests r hr
  · exact fun d' i k uid _ h => h

theorem createVerifiedFile_requests (d : Downloader) (seconds : ℕ) :
    (d.createVerifiedFile seconds).requests = d.requests := by
  unfold createVerifiedFile openWrite
  dsimp only
  cases d.card.fopenWrite (toysPath ++ d.tagUid ++ str "/verify.txt") <;> rfl

/-- `process_direction_files` and `process_audio_files` ask for what is in the lists. -/
theorem processFiles_requests (d : Downloader) (s : BeginScript) :
    ∀ r ∈ (d.processFiles s).2.requests, r ∈ d.requests ∨ FromLists d r := by
  intro r hr
  have hdir := SideStep.processDirectionFiles d s.direction d.directionFileNames
  have hurl : (d.processDirectionFiles s.direction d.directionFileNames).baseUrl = d.baseUrl :=
    congrArg Kept.baseUrl hdir.kept
  have hnames : (d.processDirectionFiles s.direction d.directionFileNames).nServer = d.nServer :=
    congrArg Kept.nServer hdir.kept
  have hdirection := processDirectionFiles_requests d s.direction d.directionFileNames r
  have hrest : r ∈ (d.processDirectionFiles s.direction d.directionFileNames).requests →
      r ∈ d.requests ∨ FromLists d r := by
    intro h
    rcases hdirection h with h | ⟨name, rfl, hmem⟩
    · exact Or.inl h
    · exact Or.inr ⟨rfl, hmem⟩
  unfold processFiles processAudioFiles at hr
  dsimp only at hr
  cases hlist : listFiles (d.processDirectionFiles s.direction d.directionFileNames).card
      audioPath with
  | none =>
      rw [hlist] at hr
      exact hrest hr
  | some sdFiles =>
      rw [hlist] at hr
      dsimp only at hr
      have haudio : r ∈ ((d.processDirectionFiles s.direction d.directionFileNames).downloadAll
          s.audio ((d.processDirectionFiles s.direction d.directionFileNames).nServer.filter
            fun name => ¬ isDuplicate sdFiles name)).2.requests →
          r ∈ d.requests ∨ FromLists d r := by
        intro h
        rcases downloadAll_requests _ _ _ r h with h | ⟨name, hmem, rfl⟩
        · exact hrest h
        · refine Or.inr ⟨?_, ?_⟩
          · exact congrArg (fun url => snprintf 260 (url ++ name ++ str ".mp3")) hurl
          · exact hnames ▸ (List.mem_filter.1 hmem).1
      split at hr
      · rw [createVerifiedFile_requests] at hr
        exact haudio hr
      · exact haudio hr

section

variable [CJson]

/-! ## The condition on a call -/

/-- The master JSON the server's answer to a call is, whether or not the call stores it. -/
def answer (s : BeginScript) : Option Json :=
  if s.master.ok then CJson.parse s.master.body else none

/-- The lists `d` holds come from the answer to the call. -/
structure OwnLists (d : Downloader) (s : BeginScript) : Prop where
  url : FromResponse d.baseUrl ((answer s).bind givenUrl)
  directions : FromResponse d.directionFileNames ((answer s).bind givenDirections)
  names : FromResponse d.nServer ((answer s).bind givenNames)

/-- A call of `begin` that connects works on lists from its own answer. -/
def OwnCall (d : Downloader) (toy : Bytes) (s : BeginScript) : Prop :=
  (d.wifi.connect s.connect).1 = 0 → OwnLists ((d.entered toy s).requestMasterJson s) s

/-- The audio names that are there when the call's master JSON does not give them: a JSON that is
stored without a `media` array has them built from the last one. -/
def leftoverNames (d : Downloader) (toy : Bytes) (s : BeginScript) : List Bytes :=
  if ((d.entered toy s).storedJson s).isSome then (d.mediaJson.map mediaNames).getD d.nServer
  else d.nServer

/-- Each list is given by the response the call stores, or the one left over is none (or, when the
response could not be stored, the same). -/
structure FreshLists (d : Downloader) (toy : Bytes) (s : BeginScript) : Prop where
  url : ((d.entered toy s).storedJson s).bind givenUrl ≠ none ∨
    FromResponse d.baseUrl ((answer s).bind givenUrl)
  directions : ((d.entered toy s).storedJson s).bind givenDirections ≠ none ∨
    FromResponse d.directionFileNames ((answer s).bind givenDirections)
  names : ((d.entered toy s).storedJson s).bind givenNames ≠ none ∨
    FromResponse (d.leftoverNames toy s) ((answer s).bind givenNames)

/-- The condition on a call: the lists matter only once it has connected. -/
def FreshCall (d : Downloader) (toy : Bytes) (s : BeginScript) : Prop :=
  (d.wifi.connect s.connect).1 = 0 → d.FreshLists toy s

def OwnStep (d : Downloader) (e : Event) : Prop := ∀ toy s, e = .begin toy s → d.OwnCall toy s

def FreshStep (d : Downloader) (e : Event) : Prop := ∀ toy s, e = .begin toy s → d.FreshCall toy s

/-! ## One call -/

theorem storedJson_answer {d : Downloader} {toy : Bytes} {s : BeginScript} {α : Type*}
    {given : Json → Option α} (hd : d.responseBuffer = none) {v : α}
    (h : ((d.entered toy s).storedJson s).bind given = some v) : (answer s).bind given = some v := by
  obtain ⟨j, hj, hv⟩ := Option.bind_eq_some_iff.1 h
  obtain ⟨hok, hparse⟩ := storedJson_parse (d := d.entered toy s) hd hj
  unfold answer
  rw [if_pos hok, hparse]
  exact hv

/-- The lists the call works on. -/
theorem requestMasterJson_lists (d : Downloader) (toy : Bytes) (s : BeginScript) :
    ((d.entered toy s).requestMasterJson s).baseUrl =
        (((d.entered toy s).storedJson s).bind givenUrl).getD d.baseUrl ∧
      ((d.entered toy s).requestMasterJson s).directionFileNames =
        (((d.entered toy s).storedJson s).bind givenDirections).getD d.directionFileNames ∧
      ((d.entered toy s).requestMasterJson s).nServer =
        (((d.entered toy s).storedJson s).bind givenNames).getD (d.leftoverNames toy s) := by
  have hkept := (requestMasterJson_spec (d.entered toy s) s).2
  unfold leftoverNames
  cases hj : (d.entered toy s).storedJson s with
  | none =>
      rw [hj] at hkept
      exact ⟨congrArg Kept.baseUrl hkept, congrArg Kept.directionFileNames hkept,
        congrArg Kept.nServer hkept⟩
  | some j =>
      rw [hj] at hkept
      refine ⟨congrArg Kept.baseUrl hkept, congrArg Kept.directionFileNames hkept,
        (congrArg Kept.nServer hkept).trans ?_⟩
      cases hmedia : givenMedia j with
      | none => simp [Kept.store, givenNames, hmedia, dropResponse, kept, entered]
      | some media => simp [Kept.store, givenNames, hmedia]

theorem ownCall_iff {d : Downloader} (toy : Bytes) (s : BeginScript)
    (hd : d.responseBuffer = none) : d.OwnCall toy s ↔ d.FreshCall toy s := by
  obtain ⟨hurl, hdirections, hnames⟩ := requestMasterJson_lists d toy s
  refine imp_congr_right fun _ => ⟨fun h => ?_, fun h => ?_⟩
  · refine ⟨?_, ?_, ?_⟩
    · exact (fromResponse_iff _ fun _ => storedJson_answer hd).1 (hurl ▸ h.url)
    · exact (fromResponse_iff _ fun _ => storedJson_answer hd).1 (hdirections ▸ h.directions)
    · exact (fromResponse_iff _ fun _ => storedJson_answer hd).1 (hnames ▸ h.names)
  · refine ⟨?_, ?_, ?_⟩
    · exact hurl ▸ (fromResponse_iff _ fun _ => storedJson_answer hd).2 h.url
    · exact hdirections ▸ (fromResponse_iff _ fun _ => storedJson_answer hd).2 h.directions
    · exact hnames ▸ (fromResponse_iff _ fun _ => storedJson_answer hd).2 h.names

/-- Between calls no part of a response is left over. -/
theorem step_responseBuffer {d : Downloader} (e : Event) (hd : d.responseBuffer = none) :
    (d.step e).responseBuffer = none := by
  cases e with
  | frame uid => exact hd
  | begin toy s =>
      have hbefore : (d.beforeAudio toy s).responseBuffer = none := by
        have hkept := (SideStep.processDirectionFiles ((d.entered toy s).requestMasterJson s)
          s.direction ((d.entered toy s).requestMasterJson s).directionFileNames).kept
        exact (congrArg Kept.responseBuffer hkept).trans
          (requestMasterJson_responseBuffer (d.entered toy s) s hd)
      by_cases hconn : (d.wifi.connect s.connect).1 = 0
      · change (d.begin toy s).2.responseBuffer = none
        rw [processFiles_eq d toy s hconn]
        exact (processAudioFiles_responseBuffer _ _ _).trans hbefore
      · change (d.begin toy s).2.responseBuffer = none
        rw [begin_eq, if_neg hconn]
        exact hd

/-! ## Runs -/

/-- **Exactly which runs keep the toys' master JSONs apart.** In a run from boot every call of `begin`
works on base URL, direction names and audio names from its own answer, or on none, if and only if in
every call each list is given by the JSON stored or nothing is left over of it. What a call asks the
server for is built from the lists it works on. -/
theorem ownLists_iff (card : Card) (wifi : Wifi) (es : List Event) :
    (Runs.Meets step OwnStep (boot card wifi) es ↔ Runs.Meets step FreshStep (boot card wifi) es) ∧
      ∀ d : Downloader, ∀ s, ∀ r ∈ (d.processFiles s).2.requests, r ∈ d.requests ∨ FromLists d r := by
  refine ⟨?_, processFiles_requests⟩
  have h : ∀ d : Downloader, d.responseBuffer = none →
      (Runs.Meets step OwnStep d es ↔ Runs.Meets step FreshStep d es) := by
    induction es with
    | nil => exact fun d _ => Iff.rfl
    | cons e es ih =>
        intro d hd
        refine and_congr ?_ (ih _ (step_responseBuffer e hd))
        exact forall_congr' fun toy => forall_congr' fun s => imp_congr_right fun _ =>
          ownCall_iff toy s hd
  exact h _ rfl

end

/-! ## A list that stays -/

/-- Two toys, the second of which has a master JSON without a `media` array. -/
def leakRun : List Event :=
  [.frame uidX, .begin (uidText uidX) (sampleScript []), .frame uidY,
    .begin (uidText uidY) { sampleScript [] with master := answered [.onData emptyText] }]

/-- The audio names of the first toy are the ones the second call works on. -/
theorem leakRun_not_own :
    ¬ Runs.Meets (@step sampleParser) (@OwnStep sampleParser) (boot sampleCard sampleWifi) leakRun := by
  rintro ⟨-, -, -, hcall, -⟩
  have hown := hcall _ _ rfl (by decide +kernel)
  rcases @OwnLists.names sampleParser _ _ hown with h | h
  · revert h
    decide +kernel
  · revert h
    decide +kernel

end Downloader

end Cubbies
