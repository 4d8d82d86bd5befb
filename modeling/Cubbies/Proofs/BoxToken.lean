import Cubbies.Lib.Runs
import Cubbies.Proofs.VerifyMarker

set_option autoImplicit false

/-! # The box token

`TokenCallback` takes the first header whose name begins with `x-cubbies-box-token` and whose value has
at most 40 characters, keeps 39 of them and sets `validTokenFlag`, which nothing ever clears; nothing
else writes either of the two. So a token that is valid is the whole value of a header of that name in
every run in which no value of exactly 40 characters is taken, and none of a longer name
(`validToken_whole`). -/

namespace Cubbies

open CString

namespace Downloader

/-- `accessToken` and `validTokenFlag`. -/
structure Token where
  text : Bytes
  valid : Bool

def token (d : Downloader) : Token := ⟨d.accessToken, d.validTokenFlag⟩

theorem of_token {d : Downloader} {t : Token} (h : d.token = t) :
    d.accessToken = t.text ∧ d.validTokenFlag = t.valid := by
  rw [← h]
  exact ⟨rfl, rfl⟩

/-! ## What leaves the token alone -/

theorem openWrite_token {d d' : Downloader} {path : Bytes} (h : d.openWrite path = some d') :
    d'.token = d.token := by
  obtain ⟨c, -, rfl⟩ := Option.map_eq_some_iff.1 h
  rfl

theorem writeFile_token (d : Downloader) (path content : Bytes) :
    (d.writeFile path content).token = d.token := by
  unfold writeFile
  split
  · rfl
  · next d' h =>
      have htoken := openWrite_token h
      exact htoken

theorem createFolders_token (d : Downloader) : d.createFolders.token = d.token := by
  unfold createFolders
  split <;> rfl

/-- An exchange whose handler leaves the token alone. -/
theorem perform_token {cb : Callback Downloader} (d : Downloader) (x : Exchange)
    (hheader : ∀ d key value, (cb.onHeader d key value).token = d.token)
    (hdata : ∀ d data, (cb.onData d data).token = d.token) (hfinish : ∀ d, (cb.onFinish d).token = d.token)
    (hdisconnected : ∀ d, (cb.onDisconnected d).token = d.token) :
    (cb.perform frame d x).2.token = d.token :=
  Callback.perform_induction (P := fun d' : Downloader => d'.token = d.token) rfl
    (fun _ _ _ h => (hheader _ _ _).trans h) (fun _ _ h => (hdata _ _).trans h)
    (fun _ h => (hfinish _).trans h) (fun _ h => (hdisconnected _).trans h) fun _ _ _ h => h

theorem masterData_token (d : Downloader) (data : Bytes) : (d.masterData data).token = d.token := by
  unfold masterData
  split
  · rfl
  · dsimp only
    split
    · rfl
    · split
      · split
        · rfl
        · next d' h =>
            have htoken := openWrite_token h
            exact htoken
      · rfl

theorem storeLists_token (d : Downloader) (j : Json) : (d.storeLists j).token = d.token := by
  unfold storeLists
  cases j.stringField? (str "baseUrl") <;> cases j.arrayField? (str "directionFiles") <;>
    cases j.arrayField? (str "media") <;> cases hmedia : d.mediaJson <;> simp [token, hmedia]

theorem storeField_token (d : Downloader) (path : Bytes) (content : Option Bytes) :
    (d.storeField path content).token = d.token := by
  cases content with
  | none => rfl
  | some content => exact writeFile_token d path content

theorem storeFiles_token (d : Downloader) (j : Json) : (d.storeFiles j).token = d.token := by
  unfold storeFiles
  dsimp only
  rw [storeField_token, storeField_token, storeField_token, storeField_token]

theorem processDirectionFiles_token (d : Downloader) (s : ℕ → DirectionScript)
    (slots : List (Option Bytes)) : (d.processDirectionFiles s slots).token = d.token := by
  refine processDirectionFiles_induction (P := fun d' => d'.token = d.token) ?_ rfl ?_
  · exact fun d' card written outputBuffer outputLen requests h => h
  · exact fun d' i uid _ h => h

theorem openTemp_token {d d' : Downloader} {name : Bytes} (h : d.openTemp name = some d') :
    d'.token = d.token := by
  obtain ⟨e, he, rfl⟩ := Option.map_eq_some_iff.1 h
  have htoken := openWrite_token he
  exact htoken

theorem downloadAll_token (d : Downloader) (s : ℕ → AudioScript) (names : List Bytes) :
    (d.downloadAll s names).2.token = d.token := by
  refine downloadAll_induction (P := fun d' => d'.token = d.token) ?_ rfl ?_ ?_
  · exact fun d' card buffer file h => h
  · intro d₁ d₂ name _ hopen h
    exact (openTemp_token hopen).trans h
  · exact fun d' i k uid _ h => h

theorem createVerifiedFile_token (d : Downloader) (seconds : ℕ) :
    (d.createVerifiedFile seconds).token = d.token := by
  unfold createVerifiedFile openWrite
  dsimp only
  cases d.card.fopenWrite (toysPath ++ d.tagUid ++ str "/verify.txt") <;> rfl

theorem processAudioFiles_token (d : Downloader) (s : ℕ → AudioScript) (seconds : ℕ) :
    (d.processAudioFiles s seconds).2.token = d.token := by
  unfold processAudioFiles
  cases listFiles d.card audioPath with
  | none => rfl
  | some sdFiles =>
      have hall := downloadAll_token d s (d.nServer.filter fun name => ¬ isDuplicate sdFiles name)
      dsimp only
      split
      · exact (createVerifiedFile_token _ seconds).trans hall
      · exact hall

theorem processFiles_token (d : Downloader) (s : BeginScript) :
    (d.processFiles s).2.token = d.token := by
  have haudio := processAudioFiles_token (d.processDirectionFiles s.direction d.directionFileNames)
    s.audio s.seconds
  exact haudio.trans (processDirectionFiles_token d s.direction d.directionFileNames)

section

variable [CJson]

theorem parseAndStoreMetadata_token (d : Downloader) (response : Bytes) :
    (d.parseAndStoreMetadata response).token = d.token := by
  unfold parseAndStoreMetadata
  split
  · rfl
  · rw [storeFiles_token, storeLists_token]
    rfl

theorem downloadMasterJson_token (d : Downloader) (x : Exchange) :
    (d.downloadMasterJson x).token = d.token := by
  refine perform_token d x (fun _ _ _ => rfl) masterData_token ?_ fun _ => rfl
  intro d
  show (masterFinish d).token = d.token
  unfold masterFinish
  dsimp only
  split
  · next response _ =>
      exact parseAndStoreMetadata_token { d with metadataFile := none } response
  · rfl

end

/-! ## What a request for the token does -/

/-- The name of the header. -/
def tokenName : Bytes := str "x-cubbies-box-token"

/-- The header that is taken: the first whose name begins like that and whose value is not refused. -/
def accepted? : List HttpEvent → Option (Bytes × Bytes)
  | [] => none
  | .onHeader key value :: es =>
      if key.take 19 = tokenName ∧ value.length ≤ 40 then some (key, value) else accepted? es
  | .onData _ :: es => accepted? es
  | .frame _ :: es => accepted? es

theorem accepted?_mem {es : List HttpEvent} {key value : Bytes} (h : accepted? es = some (key, value)) :
    HttpEvent.onHeader key value ∈ es := by
  induction es with
  | nil => cases h
  | cons e es ih =>
      cases e with
      | onHeader k v =>
          unfold accepted? at h
          split at h
          · obtain ⟨rfl, rfl⟩ := Prod.mk.inj (Option.some.inj h)
            exact List.mem_cons_self
          · exact List.mem_cons_of_mem _ (ih h)
      | onData data => exact List.mem_cons_of_mem _ (ih h)
      | frame uid => exact List.mem_cons_of_mem _ (ih h)

theorem accepted?_length {es : List HttpEvent} {key value : Bytes}
    (h : accepted? es = some (key, value)) : value.length ≤ 40 := by
  induction es with
  | nil => cases h
  | cons e es ih =>
      cases e with
      | onHeader k v =>
          unfold accepted? at h
          split at h
          · next htaken =>
              obtain ⟨rfl, rfl⟩ := Prod.mk.inj (Option.some.inj h)
              exact htaken.2
          · exact ih h
      | onData data => exact ih h
      | frame uid => exact ih h

/-- What these events make of a token that is not valid yet. -/
def Token.receive (t : Token) (es : List HttpEvent) : Token :=
  match accepted? es with
  | some header => ⟨header.2.take 39, true⟩
  | none => t

/-- While the flag is set no header changes the token. -/
theorem tokenEvents_valid (es : List HttpEvent) {d : Downloader} (hvalid : d.validTokenFlag = true) :
    (es.foldl (tokenCallback.handle frame) d).token = d.token := by
  induction es generalizing d with
  | nil => rfl
  | cons e es ih =>
      cases e with
      | onHeader key value =>
          have hsame : tokenCallback.handle frame d (.onHeader key value) = d :=
            if_neg fun h => h.2 hvalid
          rw [List.foldl_cons, hsame]
          exact ih hvalid
      | onData data => exact ih hvalid
      | frame uid => exact ih (d := d.frame uid) hvalid

/-- Until then the first header that is accepted counts. -/
theorem tokenEvents (es : List HttpEvent) {d : Downloader} (hrequest : d.tokenRequestFlag = true)
    (hvalid : d.validTokenFlag = false) :
    (es.foldl (tokenCallback.handle frame) d).token = d.token.receive es := by
  induction es generalizing d with
  | nil => rfl
  | cons e es ih =>
      rw [List.foldl_cons]
      cases e with
      | onHeader key value =>
          have hopen : d.tokenRequestFlag = true ∧ ¬ d.validTokenFlag = true :=
            ⟨hrequest, by rw [hvalid]; exact Bool.false_ne_true⟩
          have hstep : tokenCallback.handle frame d (.onHeader key value) =
              if key.take 19 = tokenName then
                if value.length > 40 then d
                else { d with accessToken := value.take 39, validTokenFlag := true }
              else d := if_pos hopen
          rw [hstep]
          unfold Token.receive accepted?
          by_cases hkey : key.take 19 = tokenName
          · by_cases hlong : value.length > 40
            · rw [if_pos hkey, if_pos hlong, if_neg fun h => absurd h.2 (Nat.not_le.2 hlong)]
              exact ih hrequest hvalid
            · rw [if_pos hkey, if_neg hlong, if_pos ⟨hkey, Nat.not_lt.1 hlong⟩]
              exact tokenEvents_valid es rfl
          · rw [if_neg hkey, if_neg fun h => hkey h.1]
            exact ih hrequest hvalid
      | onData data => exact ih hrequest hvalid
      | frame uid => exact ih (d := d.frame uid) hrequest hvalid

theorem writeTokenError_token (d : Downloader) (code : ℤ) (tail : Bytes) :
    (d.writeTokenError code tail).token = d.token := by
  unfold writeTokenError
  split
  · exact writeFile_token d _ _
  · rfl

/-- Without a valid token, and with a connection, the server is asked for one. -/
theorem downloadToken_token (d : Downloader) (connect : WaitScript) (x : Exchange) (tail : Bytes) :
    (d.downloadToken connect x tail).token =
      if d.validTokenFlag = false ∧ (d.wifi.connect connect).1 = 0 then d.token.receive x.events
      else d.token := by
  unfold downloadToken
  by_cases hvalid : d.validTokenFlag = true
  · rw [if_pos hvalid, if_neg fun h => Bool.false_ne_true (h.1.symm.trans hvalid)]
  · have hunset : d.validTokenFlag = false := Bool.eq_false_iff.2 hvalid
    rw [if_neg hvalid]
    dsimp only
    by_cases hconnected : (d.wifi.connect connect).1 = 0
    · have hasked : d.validTokenFlag = false ∧ (d.wifi.connect connect).1 = 0 := ⟨hunset, hconnected⟩
      rw [if_pos hconnected, if_pos hasked]
      have hframes : ∀ (uids : List Uid) (d : Downloader), (uids.foldl frame d).token = d.token := by
        intro uids d
        exact Callback.foldl_frame_induction (P := fun d' : Downloader => d'.token = d.token) rfl
          fun _ _ _ h => h
      have hclose : ∀ (d : Downloader) (ending : Ending), tokenCallback.close d ending = d := by
        intro d ending
        cases ending <;> rfl
      have hevents := tokenEvents x.events
        (d := { d with wifi := (d.wifi.connect connect).2, tokenRequestFlag := true }) rfl hunset
      refine (writeTokenError_token _ _ _).trans ?_
      unfold Callback.perform
      rw [hframes, hclose]
      exact hevents
    · rw [if_neg hconnected, if_neg fun h => hconnected h.2]
      rfl

/-! ## Runs -/

/-- What happens to a downloader: calls of `begin`, requests for the token that `verifyUserIdWithServer`
makes, read frames, and whatever else the box does to the card and the WiFi object. -/
inductive TokenEvent where
  | begin (toy : Bytes) (s : BeginScript)
  | request (connect : WaitScript) (x : Exchange) (tail : Bytes)
  | frame (uid : Uid)
  | outside (card : Card) (wifi : Wifi)

/-- The exchange of the request for the token that is made, if one is. -/
def tokenExchange? (d : Downloader) : TokenEvent → Option Exchange
  | .begin _ s =>
      let r := d.wifi.connect s.connect
      if r.1 = 0 ∧ d.validTokenFlag = false ∧ (r.2.connect s.tokenConnect).1 = 0 then some s.token
      else none
  | .request connect x _ =>
      if d.validTokenFlag = false ∧ (d.wifi.connect connect).1 = 0 then some x else none
  | .frame _ => none
  | .outside _ _ => none

/-- A token is only asked for while there is no valid one. -/
theorem validTokenFlag_eq_false {d : Downloader} {e : TokenEvent} {x : Exchange}
    (h : d.tokenExchange? e = some x) : d.validTokenFlag = false := by
  cases e with
  | begin toy s =>
      unfold tokenExchange? at h
      dsimp only at h
      split at h
      · next hasked => exact hasked.2.1
      · cases h
  | request connect y tail =>
      unfold tokenExchange? at h
      dsimp only at h
      split at h
      · next hasked => exact hasked.1
      · cases h
  | frame uid => cases h
  | outside card wifi => cases h

/-- The server sent this value in the request of this step. -/
def SentToken (d : Downloader) (e : TokenEvent) (value : Bytes) : Prop :=
  ∃ x, d.tokenExchange? e = some x ∧ HttpEvent.onHeader tokenName value ∈ x.events

/-- The header that is taken in this step has the name in full, and not the one length that is accepted
and does not fit. -/
def TakesWhole (d : Downloader) (e : TokenEvent) : Prop :=
  ∀ x, d.tokenExchange? e = some x → ∀ key value, accepted? x.events = some (key, value) →
    key = tokenName ∧ value.length ≠ 40

section

variable [CJson]

def tokenStep (d : Downloader) : TokenEvent → Downloader
  | .begin toy s => (d.begin toy s).2
  | .request connect x tail => d.new.downloadToken connect x tail
  | .frame uid => d.frame uid
  | .outside card wifi => { d with card := card, wifi := wifi }

/-- One step changes the token only by a request for it. -/
theorem tokenStep_token (d : Downloader) (e : TokenEvent) :
    (d.tokenStep e).token =
      match d.tokenExchange? e with
      | some x => d.token.receive x.events
      | none => d.token := by
  cases e with
  | frame uid => rfl
  | outside card wifi => rfl
  | request connect x tail =>
      refine (downloadToken_token d.new connect x tail).trans ?_
      unfold tokenExchange?
      change (if d.validTokenFlag = false ∧ (d.wifi.connect connect).1 = 0 then _ else _) = _
      dsimp only
      split <;> rfl
  | begin toy s =>
      show (d.begin toy s).2.token = _
      unfold begin tokenExchange?
      dsimp only
      by_cases hconnected : (d.wifi.connect s.connect).1 = 0
      · rw [if_pos hconnected, processFiles_token]
        unfold requestMasterJson requestToken
        rw [downloadMasterJson_token, downloadToken_token, createFolders_token]
        have hsame : ∀ d : Downloader, d.createFolders.validTokenFlag = d.validTokenFlag ∧
            d.createFolders.wifi = d.wifi := by
          intro d
          unfold createFolders
          split <;> exact ⟨rfl, rfl⟩
        rw [(hsame _).1, (hsame _).2]
        dsimp only
        by_cases hrequest : d.validTokenFlag = false ∧
            ((d.wifi.connect s.connect).2.connect s.tokenConnect).1 = 0
        · rw [if_pos hrequest, if_pos ⟨hconnected, hrequest⟩]
          rfl
        · rw [if_neg hrequest, if_neg fun h => hrequest h.2]
          rfl
      · rw [if_neg hconnected, if_neg fun h => hconnected h.1]
        rfl

/-- **A valid token is the whole token** in every run whose requests take no value of exactly 40
characters, and no header of a longer name: it is the value of an `x-cubbies-box-token` header the
server sent in one of the requests. -/
theorem validToken_whole {card : Card} {wifi : Wifi} {trace : List (Downloader × TokenEvent)}
    {d : Downloader}
    (h : Runs.Path (fun d e d' => d' = d.tokenStep e) TakesWhole (boot card wifi) trace d) :
    d.validTokenFlag = true → ∃ x ∈ trace, SentToken x.1 x.2 d.accessToken := by
  refine h.invariant (I := fun trace d =>
    d.token.valid = true → ∃ x ∈ trace, SentToken x.1 x.2 d.token.text) ?_ ?_
  · intro hvalid
    cases hvalid
  · rintro trace d e _ hsent hwhole rfl hvalid
    have hstep := d.tokenStep_token e
    cases hexchange : d.tokenExchange? e with
    | none =>
        rw [hexchange] at hstep
        rw [hstep] at hvalid ⊢
        obtain ⟨x, hx, htoken⟩ := hsent hvalid
        exact ⟨x, List.mem_append_left _ hx, htoken⟩
    | some x =>
        rw [hexchange] at hstep
        unfold Token.receive at hstep
        dsimp only at hstep
        cases htaken : accepted? x.events with
        | none =>
            rw [htaken] at hstep
            rw [hstep] at hvalid
            exact absurd ((validTokenFlag_eq_false hexchange).symm.trans hvalid) Bool.false_ne_true
        | some header =>
            obtain ⟨key, value⟩ := header
            obtain ⟨rfl, hlen⟩ := hwhole x hexchange key value htaken
            rw [htaken] at hstep
            rw [hstep]
            have hfits : value.take 39 = value := by
              refine List.take_of_length_le ?_
              have hle := accepted?_length htaken
              omega
            refine ⟨(d, e), List.mem_append_right _ (List.mem_singleton_self _), x, hexchange, ?_⟩
            show HttpEvent.onHeader tokenName (value.take 39) ∈ x.events
            rw [hfits]
            exact accepted?_mem htaken

end

/-! ## A token of forty characters -/

/-- A call of `begin` in which the server sends this token. -/
def tokenCall (value : Bytes) : TokenEvent :=
  .begin (uidText uidX)
    { sampleScript [] with token := answered [.onHeader tokenName value] }

theorem tokenExchange?_tokenCall (value : Bytes) :
    (boot sampleCard sampleWifi).tokenExchange? (tokenCall value) =
      some (answered [.onHeader tokenName value]) := by
  have hconnect : (sampleWifi.connect ⟨[], []⟩).1 = 0 := by decide
  have hagain : ((sampleWifi.connect ⟨[], []⟩).2.connect ⟨[], []⟩).1 = 0 := by decide
  unfold tokenExchange? tokenCall
  exact if_pos ⟨hconnect, rfl, hagain⟩

/-- The run of this one call. -/
theorem path_tokenCall (value : Bytes) {ok : Downloader → TokenEvent → Prop}
    (h : ok (boot sampleCard sampleWifi) (tokenCall value)) :
    Runs.Path (fun d e d' => d' = @tokenStep sampleParser d e) ok (boot sampleCard sampleWifi)
      [(boot sampleCard sampleWifi, tokenCall value)]
      (@tokenStep sampleParser (boot sampleCard sampleWifi) (tokenCall value)) :=
  .step .start h rfl

theorem token_tokenCall {value : Bytes} (hlen : value.length ≤ 40) :
    (@tokenStep sampleParser (boot sampleCard sampleWifi) (tokenCall value)).token =
      ⟨value.take 39, true⟩ := by
  have haccepted : accepted? [.onHeader tokenName value] = some (tokenName, value) :=
    if_pos ⟨by decide, hlen⟩
  rw [@tokenStep_token sampleParser, tokenExchange?_tokenCall]
  show Token.receive _ [.onHeader tokenName value] = _
  unfold Token.receive
  rw [haccepted]

/-- A token of 39 characters. -/
def wholeToken : Bytes := List.replicate 39 97

theorem takesWhole_tokenCall :
    (boot sampleCard sampleWifi).TakesWhole (tokenCall wholeToken) := by
  intro x hx key value haccepted
  rw [tokenExchange?_tokenCall] at hx
  obtain rfl := Option.some.inj hx
  have htaken : accepted? [.onHeader tokenName wholeToken] = some (tokenName, wholeToken) := by decide
  obtain ⟨rfl, rfl⟩ := Prod.mk.inj (Option.some.inj (htaken.symm.trans haccepted))
  exact ⟨rfl, by decide⟩

theorem validToken_whole_sample :
    ∃ x ∈ [(boot sampleCard sampleWifi, tokenCall wholeToken)], SentToken x.1 x.2
      (@tokenStep sampleParser (boot sampleCard sampleWifi) (tokenCall wholeToken)).accessToken :=
  @validToken_whole sampleParser _ _ _ _ (path_tokenCall wholeToken takesWhole_tokenCall)
    (of_token (token_tokenCall (by decide))).2

/-- Of 40 characters the last one is lost, and the token counts as valid. -/
theorem validToken_cut :
    ¬ ∀ (parser : CJson) (card : Card) (wifi : Wifi) (trace : List (Downloader × TokenEvent))
      (d : Downloader),
      Runs.Path (fun d e d' => d' = @tokenStep parser d e) (fun _ _ => True) (boot card wifi) trace d →
        d.validTokenFlag = true → ∃ x ∈ trace, SentToken x.1 x.2 d.accessToken := by
  intro h
  have hlen : (List.replicate 40 (97 : UInt8)).length = 40 := List.length_replicate
  generalize List.replicate 40 (97 : UInt8) = value at hlen
  obtain ⟨htext, hvalid⟩ := of_token (token_tokenCall hlen.le)
  obtain ⟨x, hx, y, hy, hsent⟩ := h sampleParser _ _ _ _ (path_tokenCall value trivial) hvalid
  obtain rfl := List.mem_singleton.1 hx
  rw [tokenExchange?_tokenCall] at hy
  obtain rfl := Option.some.inj hy
  have hvalue := (HttpEvent.onHeader.inj (List.mem_singleton.1 hsent)).2
  have hcut := htext.symm.trans hvalue
  have hshort := congrArg List.length hcut
  rw [List.length_take, hlen] at hshort
  exact absurd hshort (by decide)

end Downloader

end Cubbies
