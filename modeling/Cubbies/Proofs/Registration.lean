import Cubbies.Proofs.ContentOfToy

set_option autoImplicit false

/-! # On whose word a user is registered

`verifyUserIdWithServer` parses what is in `outputBuff` after its request. `InitializerCallback` copies
each chunk of the answer to the start of that buffer and never clears it, so an answer in two chunks
loses the first one, and what a shorter answer leaves of an earlier one is read after it. An answer
that `ReadsAlone` is read as it was sent; `registered_confirmed` says that in runs of such answers every
user was confirmed by the body received in the call that registered it. -/

namespace Cubbies

open CString

/-- `cJSON_Parse` reads the first value of a text and ignores what follows. A longer text can continue a
number, but no value but an object becomes an object. -/
structure ReadsFirstValue [CJson] : Prop where
  object {s : Bytes} {fields : List (Bytes × Json)} (t : Bytes) :
    CJson.parse s = some (.object fields) → CJson.parse (s ++ t) = some (.object fields)
  other {s t : Bytes} {j : Json} {fields : List (Bytes × Json)} :
    CJson.parse s = some j → CJson.parse (s ++ t) = some (.object fields) →
      ∃ fields', j = .object fields'

namespace Json

/-- Only an object has fields. -/
theorem object_of_field {j : Json} {name : Bytes}
    (h : (j.getObjectItemCaseSensitive name).any isTrue = true) : ∃ fields, j = .object fields := by
  cases j with
  | object fields => exact ⟨fields, rfl⟩
  | _ => cases h

end Json

namespace Box

/-! ## The buffer -/

/-- The text in the buffer after a chunk starts with the chunk's, and goes on with what was behind it. -/
theorem text_overlay (buff data : Bytes) :
    ∃ t, text (overlay buff data) = text data ++ t ∧ t <+: text (buff.drop data.length) := by
  unfold overlay
  rcases text_append data (buff.drop data.length) with h | ⟨hdata, h⟩
  · exact ⟨[], by rw [h, List.append_nil], List.nil_prefix⟩
  · exact ⟨_, by rw [h, hdata], List.prefix_refl _⟩

section

variable [CJson]

/-! ## Answers that are read as they were sent -/

/-- An answer that is read as it was sent: one chunk that fits the buffer, and either parses by itself
or has no text behind it; or no chunk, with no text in the buffer. -/
def ReadsAlone (buff : Bytes) (x : Exchange) : Prop :=
  x.ok = true →
    x.chunks = [] ∧ text buff = [] ∨
      x.chunks.length = 1 ∧ x.body.length < 1024 ∧
        ((CJson.parse (text x.body)).isSome = true ∨ text (buff.drop x.body.length) = [])

instance (buff : Bytes) (x : Exchange) : Decidable (ReadsAlone buff x) :=
  inferInstanceAs (Decidable (_ → _))

/-- The field that speaks for the user of a registration. -/
def userField (userIndex : ℕ) : Bytes := str "user" ++ unsigned userIndex

/-- The body received in the call parses to an object in which the user's field is `true`. -/
def Confirmed (r : Registration) : Prop :=
  ∃ fields, CJson.parse r.body = some (.object fields) ∧
    ((Json.object fields).getObjectItemCaseSensitive (userField r.userIndex)).any Json.isTrue = true

theorem confirmed_iff (r : Registration) : Confirmed r ↔
    ((CJson.parse r.body).bind (Json.getObjectItemCaseSensitive · (userField r.userIndex))).any
      Json.isTrue = true := by
  unfold Confirmed
  cases hparse : CJson.parse r.body with
  | none => simp
  | some j =>
      refine ⟨?_, fun h => ?_⟩
      · rintro ⟨fields, hj, hfield⟩
        obtain rfl := Option.some.inj hj
        exact hfield
      · obtain ⟨fields, rfl⟩ := Json.object_of_field h
        exact ⟨fields, rfl, h⟩

instance (r : Registration) : Decidable (Confirmed r) := decidable_of_iff _ (confirmed_iff r).symm

/-- What the buffer of such an answer parses to, the body does. -/
theorem parse_body_of_readsAlone (hparser : ReadsFirstValue) {buff : Bytes} {x : Exchange}
    {fields : List (Bytes × Json)} (hreads : ReadsAlone buff x) (hok : x.ok = true)
    (hparse : CJson.parse (text (x.chunks.foldl overlay buff)) = some (.object fields)) :
    CJson.parse x.body = some (.object fields) := by
  rcases hreads hok with ⟨hnone, hempty⟩ | ⟨hone, -, hrest⟩
  · rw [hnone, List.foldl_nil, hempty] at hparse
    rw [x.body_eq_flatten, hnone]
    exact hparse
  · obtain ⟨data, hdata⟩ := List.length_eq_one_iff.1 hone
    have hbody : x.body = data := by
      rw [x.body_eq_flatten, hdata, List.flatten_singleton]
    rw [hdata, List.foldl_cons, List.foldl_nil] at hparse
    rw [hbody] at hrest ⊢
    obtain ⟨t, ht, hbehind⟩ := text_overlay buff data
    obtain ⟨tail, htail⟩ := text_prefix data
    rw [ht] at hparse
    -- the chunk's own text parses to the object the buffer parses to
    have htext : CJson.parse (text data) = some (.object fields) := by
      rcases hrest with hsome | hnil
      · obtain ⟨j, hj⟩ := Option.isSome_iff_exists.1 hsome
        obtain ⟨fields', rfl⟩ := hparser.other hj hparse
        exact hj.trans ((hparser.object t hj).symm.trans hparse)
      · rw [hnil, List.prefix_nil] at hbehind
        rwa [hbehind, List.append_nil] at hparse
    rw [← htail]
    exact hparser.object tail htext

/-! ## One call -/

omit [CJson] in
/-- What `writeUserID` is called on, if it is. -/
theorem registerUser_registered (b : Box) (json : Json) (body : Bytes) :
    (b.registerUser json body).registered = b.registered ∨
      ∃ r : Registration, (b.registerUser json body).registered = r :: b.registered ∧
        r.body = body ∧
        (json.getObjectItemCaseSensitive (userField r.userIndex)).any Json.isTrue = true := by
  unfold registerUser
  dsimp only
  by_cases hfirst : b.initUser1 ≠ []
  · rw [if_pos hfirst]
    by_cases hone : (json.getObjectItemCaseSensitive (str "user1")).any Json.isTrue = true
    · rw [if_pos hone]
      exact .inr ⟨⟨1, b.initUser1, body⟩, rfl, rfl, hone⟩
    · rw [if_neg hone]
      exact .inl rfl
  · rw [if_neg hfirst]
    by_cases hsecond : b.initUser2 ≠ []
    · rw [if_pos hsecond]
      by_cases htwo : (json.getObjectItemCaseSensitive (str "user2")).any Json.isTrue = true
      · rw [if_pos htwo]
        exact .inr ⟨⟨2, b.initUser2, body⟩, rfl, rfl, htwo⟩
      · rw [if_neg htwo]
        exact .inl rfl
    · rw [if_neg hsecond]
      exact .inl rfl

/-- A call registers a user only on what it finds in the buffer after a successful request. -/
theorem verifyUserIdWithServer_registered (b : Box) (s : VerifyScript) :
    (b.verifyUserIdWithServer s).2.registered = b.registered ∨
      ∃ (r : Registration) (json : Json),
        (b.verifyUserIdWithServer s).2.registered = r :: b.registered ∧
        r.body = s.answer.body ∧ s.answer.ok = true ∧
        CJson.parse (text (s.answer.chunks.foldl overlay b.outputBuff)) = some json ∧
        (json.getObjectItemCaseSensitive (userField r.userIndex)).any Json.isTrue = true := by
  obtain ⟨dl, htoken⟩ := withToken_eq b s
  have hregistered : (b.withToken s).registered = b.registered := by rw [htoken]
  have hbuff : ((b.withToken s).received s.answer).outputBuff =
      s.answer.chunks.foldl overlay b.outputBuff := by rw [htoken]; rfl
  have hend := verifyWithToken_end (b.withToken s) s
  rw [verifyUserIdWithServer_eq, ← hbuff]
  generalize (b.withToken s).verifyWithToken s = r at hend ⊢
  cases hend with
  | offline _ => exact .inl hregistered
  | lost _ _ => exact .inl hregistered
  | invalid _ _ _ => exact .inl hregistered
  | parsed json _ hok hparse =>
      rcases registerUser_registered (((b.withToken s).online s).received s.answer) json s.answer.body with
        hnone | ⟨r, hr, hbody, hfield⟩
      · exact .inl (hnone.trans hregistered)
      · exact .inr ⟨r, json, hr.trans (congrArg _ hregistered), hbody, hok, hparse, hfield⟩

/-! ## Runs -/

/-- The steps whose answer, if they ask the server about a user, is read as it was sent. -/
def AnswersAlone (b : Box) : BoxEvent → Prop
  | .handler env => b.state = .initUserIdCheck → ReadsAlone b.outputBuff env.verify.answer
  | _ => True

instance (b : Box) : ∀ e : BoxEvent, Decidable (b.AnswersAlone e)
  | .handler _ => inferInstanceAs (Decidable (_ → _))
  | .read _ _ | .write _ _ _ _ | .ble _ _ _ _ | .pipeline _ | .station _ =>
      inferInstanceAs (Decidable True)

/-- Only `SYS_INIT_USER_ID_CHECK` registers users. -/
theorem handler_registered {b b' : Box} {env : HandlerEnv} (h : b.handler env = some b') :
    b'.registered = b.registered ∨
      b.state = .initUserIdCheck ∧ b' = b.handleInitUserIdCheck env := by
  rcases handler_outcome h with ⟨hkeeps, -⟩ | ⟨-, -, hkeeps, -⟩ | ⟨content, -, hkeeps, -⟩ |
    ⟨-, hkeeps, -⟩ | ⟨i, -, hkeeps, -⟩ | ⟨goBack, -, hplays, -⟩ | ⟨hstate, heq⟩
  · exact .inl hkeeps.registered
  · exact .inl hkeeps.registered
  · exact .inl hkeeps.registered
  · exact .inl (hkeeps.registered.trans
      (setIndexx_spec (Keeps.skipCurrentAudio b) (b.indexx + 1)).2.1)
  · exact .inl (hkeeps.registered.trans (setIndexx_spec (Keeps.skipCurrentAudio b) i).2.1)
  · exact .inl hplays.registered
  · exact .inr ⟨hstate, heq⟩

theorem step_registered {b b' : Box} {e : BoxEvent} (h : b.step e = some b') :
    b'.registered = b.registered ∨
      ∃ env, e = .handler env ∧ b.state = .initUserIdCheck ∧ b' = b.handleInitUserIdCheck env := by
  cases e with
  | handler env =>
      rcases handler_registered h with hreg | ⟨hstate, heq⟩
      · exact .inl hreg
      · exact .inr ⟨env, rfl, hstate, heq⟩
  | read now data =>
      obtain rfl := Option.some.inj h
      rcases readFrame_outcome b now data with ⟨-, -, -, -, hreg⟩ | ⟨-, -, -, -, hreg⟩ |
        ⟨-, -, -, hreg⟩
      · exact .inl hreg
      · exact .inl hreg
      · exact .inl hreg
  | write now address len data =>
      obtain rfl := Option.some.inj h
      rcases writeFrame_outcome b now address len data with ⟨-, -, heq⟩ | ⟨-, -, -, heq⟩ |
        ⟨-, -, -, hreg⟩
      · exact .inl (by rw [heq]; rfl)
      · exact .inl (by rw [heq]; rfl)
      · exact .inl hreg
  | ble now uuid value s =>
      rcases onWrite_outcome h with ⟨-, -, -, hreg⟩ | ⟨-, -, -, hreg⟩
      · exact .inl hreg
      · exact .inl hreg
  | pipeline writer =>
      obtain rfl := Option.some.inj h
      exact .inl rfl
  | station e =>
      obtain rfl := Option.some.inj h
      exact .inl rfl

/-- **One step** registers only users its own answer confirms. -/
theorem step_confirmed (hparser : ReadsFirstValue) {b b' : Box} {e : BoxEvent}
    (h : b.step e = some b') (halone : b.AnswersAlone e)
    (hinv : ∀ r ∈ b.registered, Confirmed r) : ∀ r ∈ b'.registered, Confirmed r := by
  rcases step_registered h with hreg | ⟨env, rfl, hstate, rfl⟩
  · rwa [hreg]
  · have hreg : (b.handleInitUserIdCheck env).registered =
        (b.verifyUserIdWithServer env.verify).2.registered := by
      unfold handleInitUserIdCheck
      dsimp only
      split <;> rfl
    rw [hreg]
    rcases verifyUserIdWithServer_registered b env.verify with
      hnone | ⟨r, json, hr, hbody, hok, hparse, hfield⟩
    · rwa [hnone]
    · rw [hr]
      refine List.forall_mem_cons.2 ⟨?_, hinv⟩
      obtain ⟨fields, rfl⟩ := Json.object_of_field hfield
      exact ⟨fields, hbody ▸ parse_body_of_readsAlone hparser (halone hstate) hok hparse, hfield⟩

/-- **Registered users were confirmed.** In runs in which the server's answers are read as they were
sent, every user was registered in a call whose own answer confirms it. -/
theorem registered_confirmed (hparser : ReadsFirstValue) {card : Card} {wifi : Wifi}
    {battery charging : UInt8} {b : Box} (hb : Reached AnswersAlone card wifi battery charging b) :
    ∀ r ∈ b.registered, Confirmed r :=
  Runs.Reached.invariant (I := fun b : Box => ∀ r ∈ b.registered, Confirmed r) hb
    (fun _ hr => absurd hr List.not_mem_nil) fun _ _ _ hinv halone hs => step_confirmed hparser hs halone hinv

end

/-! ## A parser for samples -/

/-- The value of the first entry whose text the input starts with. -/
def tableParse : List (Bytes × Json) → Bytes → Option Json
  | [], _ => none
  | e :: table, s => if e.1 <+: s then some e.2 else tableParse table s

theorem mem_of_tableParse {table : List (Bytes × Json)} {s : Bytes} {j : Json}
    (h : tableParse table s = some j) : ∃ e ∈ table, e.1 <+: s := by
  induction table with
  | nil => cases h
  | cons e table ih =>
      unfold tableParse at h
      split at h
      · next he => exact ⟨e, List.mem_cons_self, he⟩
      · obtain ⟨e', hmem, hpre⟩ := ih h
        exact ⟨e', List.mem_cons_of_mem _ hmem, hpre⟩

/-- Where no text of the table starts another one, what follows the text that was read is ignored. -/
theorem tableParse_append {table : List (Bytes × Json)}
    (hapart : table.Pairwise fun e e' => ¬ e.1 <+: e'.1 ∧ ¬ e'.1 <+: e.1) {s : Bytes} {j : Json}
    (t : Bytes) (h : tableParse table s = some j) : tableParse table (s ++ t) = some j := by
  induction table with
  | nil => cases h
  | cons e table ih =>
      obtain ⟨hfirst, hrest⟩ := List.pairwise_cons.1 hapart
      unfold tableParse at h ⊢
      split at h
      · next he => rwa [if_pos (he.trans (List.prefix_append s t))]
      · have hlater : ¬ e.1 <+: s ++ t := by
          intro hpre
          obtain ⟨e', hmem, he'⟩ := mem_of_tableParse h
          rcases List.prefix_or_prefix_of_prefix hpre (he'.trans (List.prefix_append s t)) with
            hle | hle
          · exact (hfirst e' hmem).1 hle
          · exact (hfirst e' hmem).2 hle
        rw [if_neg hlater]
        exact ih hrest h

/-- The second user's command, sent by the first one. -/
def addSecondText : Bytes :=
  str "\x7b\"msgTyp\":6,\"userID\":\"c\",\"newUser\":\"d\",\"updateUserNo\":1\x7d"

def addSecondJson : Json :=
  .object [(str "msgTyp", .number 6), (str "userID", .string (str "c")),
    (str "newUser", .string (str "d")), (str "updateUserNo", .number 1)]

def yesText : Bytes := str "\x7b\"user1\":true\x7d"

def noText : Bytes := str "\x7b\"user1\":false\x7d"

def answerTable : List (Bytes × Json) :=
  [(addUserText, addUserJson), (addSecondText, addSecondJson),
    (yesText, .object [(str "user1", .bool true)]), (noText, .object [(str "user1", .bool false)])]

@[reducible] def answerParser : CJson := ⟨tableParse answerTable⟩

theorem answerParser_readsFirstValue : @ReadsFirstValue answerParser := by
  have happend : ∀ {s : Bytes} {j : Json} (t : Bytes), tableParse answerTable s = some j →
      tableParse answerTable (s ++ t) = some j :=
    tableParse_append (by decide)
  refine @ReadsFirstValue.mk answerParser (fun t h => happend t h) ?_
  intro s t j fields hs ht
  exact ⟨fields, Option.some.inj ((happend t hs).symm.trans ht)⟩

/-! ## A leftover answer and one in two chunks -/

/-- A box with a charged battery, whose station is connected. -/
def connectedBox : Box := boot Downloader.sampleCard Downloader.sampleWifi 100 0

/-- A client adds a user. -/
def addUser (text : Bytes) : BoxEvent := .ble 0 .writeCommand text quietCredentials

/-- A check that the server answers with these chunks. -/
def answeredCheck (chunks : List Bytes) (h : ∀ chunk ∈ chunks, chunk.length < 1024) : VerifyScript :=
  { (quietEnv 0 .other).verify with
    answer := Downloader.answered (chunks.map .onData)
    answer_fits := by
      intro chunk hchunk
      obtain ⟨e, he, hdata⟩ := List.mem_filterMap.1 hchunk
      obtain ⟨data, hmem, rfl⟩ := List.mem_map.1 he
      obtain rfl := Option.some.inj hdata
      exact h data hmem }

/-- The handler asks the server, which answers with these chunks. -/
def serverAnswers (chunks : List Bytes) (h : ∀ chunk ∈ chunks, chunk.length < 1024) : BoxEvent :=
  .handler { quietEnv 0 .other with verify := answeredCheck chunks h }

/-- One user is added, and the server's answer confirms it. -/
def firstUser : List BoxEvent := [addUser addUserText, serverAnswers [yesText] (by decide)]

/-- A registered user whose answer confirms it. -/
theorem registered_confirmed_firstUser : ∃ b : Box, b.registered.map Registration.user = [str "c"] ∧
    ∀ r ∈ b.registered, @Confirmed answerParser r := by
  have hrun : (@Runs.runGuarded _ _ (@step answerParser) (@AnswersAlone answerParser)
      _ connectedBox firstUser).map
        (fun b => b.registered.map Registration.user) = some [str "c"] := by
    decide +kernel
  obtain ⟨b, hb, husers⟩ := Option.map_eq_some_iff.1 hrun
  exact ⟨b, husers, @registered_confirmed answerParser answerParser_readsFirstValue _ _ _ _ _
    (Runs.reached_of_runGuarded firstUser hb)⟩

/-- A run at whose end a user is registered whom its answer does not confirm. -/
def RegistersUnconfirmed (run : List BoxEvent) : Prop :=
  ∃ b, @Reached answerParser (fun _ _ => True) Downloader.sampleCard Downloader.sampleWifi 100 0 b ∧
    Runs.runList (@step answerParser) connectedBox run = some b ∧
    ∃ r ∈ b.registered, ¬ @Confirmed answerParser r

theorem registersUnconfirmed_of_run {run : List BoxEvent}
    (h : (Runs.runList (@step answerParser) connectedBox run).map
      (fun b => b.registered.all fun r => decide (@Confirmed answerParser r)) = some false) :
    RegistersUnconfirmed run := by
  obtain ⟨b, hb, hall⟩ := Option.map_eq_some_iff.1 h
  obtain ⟨r, hr, hdenied⟩ := List.all_eq_false.1 hall
  exact ⟨b, Runs.reached_of_runList run hb, hb, r, hr, by simpa using hdenied⟩

/-- The second user is registered on an empty answer, by what is left of the first one's. The first
user is registered on an answer whose first chunk denies it and is lost. -/
theorem registers_unconfirmed :
    RegistersUnconfirmed (firstUser ++ [addUser addSecondText, serverAnswers [] (by decide)]) ∧
      RegistersUnconfirmed [addUser addUserText, serverAnswers [noText, yesText] (by decide)] :=
  ⟨registersUnconfirmed_of_run (by decide +kernel), registersUnconfirmed_of_run (by decide +kernel)⟩

end Box

end Cubbies
