import Cubbies.Proofs.UserSlots

set_option autoImplicit false

/-! # The fields of BLE messages

`BLECallback::onWrite` checks `msgTyp` and `userID` before it uses them, and nothing else: it reads the
other fields of a message without a look at what `cJSON_GetObjectItem` returned, and hands their texts
to `strcpy` whatever their length. `accesses` lists what it does with the nodes of the document, and
`validated_iff` says for which messages that is right. -/

namespace Cubbies

open CString

/-- A text field of an object, short enough for an array of `size` characters. -/
def Json.HasText (json : Json) (name : Bytes) (size : ℕ) : Prop :=
  ∃ s, json.stringField? name = some s ∧ s.length < size

def Json.HasNumber (json : Json) (name : Bytes) : Prop := ∃ v, json.numberField? name = some v

theorem Json.valuestring?_eq_some {node : Json} {s : Bytes} :
    node.valuestring? = some s ↔ node = .string s := by
  cases node <;> simp [valuestring?]

theorem Json.number?_eq_some {node : Json} {v : ℤ} : node.number? = some v ↔ node = .number v := by
  cases node <;> simp [number?]

theorem Json.array?_eq_some {node : Json} {items : List Json} :
    node.array? = some items ↔ node = .array items := by
  cases node <;> simp [array?]

theorem Json.stringField?_eq_some {json : Json} {name s : Bytes} :
    json.stringField? name = some s ↔ json.getObjectItem name = some (.string s) := by
  simp only [stringField?, Option.bind_eq_some_iff, valuestring?_eq_some, exists_eq_right]

theorem Json.numberField?_eq_some {json : Json} {name : Bytes} {v : ℤ} :
    json.numberField? name = some v ↔ json.getObjectItem name = some (.number v) := by
  simp only [numberField?, Option.bind_eq_some_iff, number?_eq_some, exists_eq_right]

theorem Json.arrayField?_eq_some {json : Json} {name : Bytes} {items : List Json} :
    json.arrayField? name = some items ↔ json.getObjectItem name = some (.array items) := by
  simp only [arrayField?, Option.bind_eq_some_iff, array?_eq_some, exists_eq_right]

/-- `strcpy` copies it whole. -/
theorem Json.HasText.copied {json : Json} {name : Bytes} {size : ℕ} (h : json.HasText name size) :
    ∃ s, json.stringField? name = some s ∧ strcpy size s = some s :=
  h.imp fun _ => And.imp_right fun hfits => if_pos hfits

namespace Box

/-! ## Accesses -/

/-- What `onWrite` does with a node, which may be `NULL`. -/
inductive Access where
  /-- its `valuestring` is used -/
  | text (node : Option Json)
  /-- its `valueint` is used -/
  | number (node : Option Json)
  /-- `cJSON_GetArrayItem` of it -/
  | array (node : Option Json)
  /-- its `valuestring` is copied to an array of `size` characters -/
  | copy (node : Option Json) (size : ℕ)

/-- The node is there and of the type it is used with, and what is copied fits. -/
def Access.Ok : Access → Prop
  | .text node => ∃ s, node = some (.string s)
  | .number node => ∃ v, node = some (.number v)
  | .array node => ∃ items, node = some (.array items)
  | .copy node size => ∃ s, node = some (.string s) ∧ s.length < size

/-- The call of `System::initialize`. -/
def initializeAccesses (json : Json) : List Access :=
  let ssid := json.getObjectItem (str "ssid")
  let password := json.getObjectItem (str "password")
  let newUser := json.getObjectItem (str "newUser")
  [.text ssid, .text password, .text newUser, .copy ssid 32, .copy password 64, .copy newUser 50]

/-- The case of the `switch` for this message type. The texts of `eBLE_WRITE_CREDENTIALS` may be copied
once more, to arrays of the same sizes. -/
def commandAccesses (msgType : ℤ) (json : Json) : List Access :=
  match msgType with
  | 1 =>
      let ssid := json.getObjectItem (str "ssid")
      let password := json.getObjectItem (str "password")
      [.text ssid, .text password, .copy ssid 32, .copy password 64]
  | 2 => [.number (json.getObjectItem (str "volume"))]
  | 3 =>
      let color := json.getObjectItem (str "color")
      [.number (json.getObjectItem (str "state")), .number (json.getObjectItem (str "duration")),
        .array color, .number (color.bind (Json.getArrayItem · 0)),
        .array color, .number (color.bind (Json.getArrayItem · 1)),
        .array color, .number (color.bind (Json.getArrayItem · 2))]
  | 4 =>
      let boxName := json.getObjectItem (str "boxName")
      [.text boxName, .copy boxName 100]
  | 5 => [.text (json.getObjectItem (str "url"))]
  | 6 =>
      let newUser := json.getObjectItem (str "newUser")
      let updateUserNo := json.getObjectItem (str "updateUserNo")
      -- `verifyUserID` copies the name only if it has a slot for it
      let copied := updateUserNo.any fun no => toByte no.valueint = 1 ∨ toByte no.valueint = 2
      [.text newUser, .number updateUserNo] ++ if copied then [.copy newUser 50] else []
  | _ => []

/-! ## Messages that carry their fields -/

/-- A message type with a case of its own in the `switch`. -/
def IsCommand (msgType : ℤ) : Prop := 1 ≤ msgType ∧ msgType ≤ 6

instance (msgType : ℤ) : Decidable (IsCommand msgType) := inferInstanceAs (Decidable (_ ∧ _))

/-- The fields the command of this type reads are there, with their types and lengths. -/
def Carries (json : Json) (msgType : ℤ) : Prop :=
  match msgType with
  | 1 => json.HasText (str "ssid") 32 ∧ json.HasText (str "password") 64
  | 2 => json.HasNumber (str "volume")
  | 3 =>
      json.HasNumber (str "state") ∧ json.HasNumber (str "duration") ∧
        ∃ r g b rest, json.arrayField? (str "color") =
          some (.number r :: .number g :: .number b :: rest)
  | 4 => json.HasText (str "boxName") 100
  | 5 => ∃ url, json.stringField? (str "url") = some url
  | 6 =>
      ∃ user no, json.stringField? (str "newUser") = some user ∧
        json.numberField? (str "updateUserNo") = some no ∧
        (toByte no = 1 ∨ toByte no = 2 → user.length < 50)
  | _ => False

theorem Access.ok_text {json : Json} {name : Bytes} :
    (Access.text (json.getObjectItem name)).Ok ↔ ∃ s, json.stringField? name = some s :=
  exists_congr fun _ => Json.stringField?_eq_some.symm

theorem Access.ok_number {json : Json} {name : Bytes} :
    (Access.number (json.getObjectItem name)).Ok ↔ json.HasNumber name :=
  exists_congr fun _ => Json.numberField?_eq_some.symm

theorem Access.ok_copy {json : Json} {name : Bytes} {size : ℕ} :
    (Access.copy (json.getObjectItem name) size).Ok ↔ json.HasText name size :=
  exists_congr fun _ => and_congr_left' Json.stringField?_eq_some.symm

/-- A text that may be copied is a text. -/
theorem Access.ok_text_of {json : Json} {name : Bytes} {size : ℕ} (h : json.HasText name size) :
    (Access.text (json.getObjectItem name)).Ok :=
  Access.ok_text.2 (h.imp fun _ => And.left)

theorem initializeAccesses_ok {json : Json} :
    (∀ a ∈ initializeAccesses json, a.Ok) ↔ json.HasText (str "ssid") 32 ∧
      json.HasText (str "password") 64 ∧ json.HasText (str "newUser") 50 := by
  simp only [initializeAccesses, List.forall_mem_cons, Access.ok_copy]
  constructor
  · rintro ⟨-, -, -, hssid, hpassword, huser, -⟩
    exact ⟨hssid, hpassword, huser⟩
  · rintro ⟨hssid, hpassword, huser⟩
    exact ⟨Access.ok_text_of hssid, Access.ok_text_of hpassword, Access.ok_text_of huser, hssid,
      hpassword, huser, by simp⟩

/-- The colour of a lamp is an array that starts with three numbers. -/
theorem colorAccesses_ok {color : Option Json} :
    (Access.array color).Ok ∧ (Access.number (color.bind (Json.getArrayItem · 0))).Ok ∧
        (Access.number (color.bind (Json.getArrayItem · 1))).Ok ∧
        (Access.number (color.bind (Json.getArrayItem · 2))).Ok ↔
      ∃ r g b rest, color = some (.array (.number r :: .number g :: .number b :: rest)) := by
  constructor
  · rintro ⟨⟨items, rfl⟩, ⟨r, hr⟩, ⟨g, hg⟩, ⟨b, hb⟩⟩
    match items, hr, hg, hb with
    | x :: y :: z :: rest, hr, hg, hb =>
        obtain rfl := Option.some.inj hr
        obtain rfl := Option.some.inj hg
        obtain rfl := Option.some.inj hb
        exact ⟨r, g, b, rest, rfl⟩
  · rintro ⟨r, g, b, rest, rfl⟩
    exact ⟨⟨_, rfl⟩, ⟨r, rfl⟩, ⟨g, rfl⟩, ⟨b, rfl⟩⟩

/-- A new user's name is copied if it is for one of the two slots. -/
theorem addUserAccesses_ok (json : Json) :
    (∀ a ∈ commandAccesses 6 json, a.Ok) ↔ Carries json 6 := by
  simp only [commandAccesses, List.forall_mem_append, List.forall_mem_cons, Access.ok_text,
    Access.ok_number]
  constructor
  · rintro ⟨⟨⟨user, huser⟩, ⟨no, hno⟩, -⟩, hcopy⟩
    refine ⟨user, no, huser, hno, fun hslot => ?_⟩
    rw [Json.numberField?_eq_some.1 hno, Option.any_some] at hcopy
    simp only [Json.valueint, hslot, decide_true, if_true] at hcopy
    obtain ⟨user', huser', hfits⟩ := Access.ok_copy.1 (hcopy _ List.mem_cons_self)
    rwa [← Option.some.inj (huser.symm.trans huser')] at hfits
  · rintro ⟨user, no, huser, hno, hfits⟩
    refine ⟨⟨⟨user, huser⟩, ⟨no, hno⟩, by simp⟩, ?_⟩
    rw [Json.numberField?_eq_some.1 hno, Option.any_some]
    split
    · next hslot =>
        have hcopy : json.HasText (str "newUser") 50 :=
          ⟨user, huser, hfits (of_decide_eq_true hslot)⟩
        exact List.forall_mem_singleton.2 (Access.ok_copy.2 hcopy)
    · exact List.forall_mem_nil _

/-- **The accesses of a command.** -/
theorem commandAccesses_ok {msgType : ℤ} {json : Json} :
    (∀ a ∈ commandAccesses msgType json, a.Ok) ↔ Carries json msgType ∨ ¬ IsCommand msgType := by
  by_cases hkind : IsCommand msgType
  · rw [or_iff_left (not_not_intro hkind)]
    obtain ⟨hlow, hhigh⟩ := hkind
    obtain rfl | rfl | rfl | rfl | rfl | rfl : msgType = 1 ∨ msgType = 2 ∨ msgType = 3 ∨ msgType = 4 ∨
        msgType = 5 ∨ msgType = 6 := by
      omega
    · simp only [commandAccesses, List.forall_mem_cons, Access.ok_copy]
      constructor
      · rintro ⟨-, -, hssid, hpassword, -⟩
        exact ⟨hssid, hpassword⟩
      · rintro ⟨hssid, hpassword⟩
        exact ⟨Access.ok_text_of hssid, Access.ok_text_of hpassword, hssid, hpassword, by simp⟩
    · simp only [commandAccesses, List.forall_mem_singleton, Access.ok_number]
      exact Iff.rfl
    · simp only [commandAccesses, List.forall_mem_cons, Access.ok_number]
      have hcolor := @colorAccesses_ok (json.getObjectItem (str "color"))
      constructor
      · rintro ⟨hstate, hduration, harray, hr, -, hg, -, hb, -⟩
        obtain ⟨r, g, b, rest, h⟩ := hcolor.1 ⟨harray, hr, hg, hb⟩
        exact ⟨hstate, hduration, r, g, b, rest, Json.arrayField?_eq_some.2 h⟩
      · rintro ⟨hstate, hduration, r, g, b, rest, h⟩
        obtain ⟨harray, hr, hg, hb⟩ := hcolor.2 ⟨r, g, b, rest, Json.arrayField?_eq_some.1 h⟩
        exact ⟨hstate, hduration, harray, hr, harray, hg, harray, hb, by simp⟩
    · simp only [commandAccesses, List.forall_mem_cons, Access.ok_copy]
      constructor
      · rintro ⟨-, hname, -⟩
        exact hname
      · intro hname
        exact ⟨Access.ok_text_of hname, hname, by simp⟩
    · simp only [commandAccesses, List.forall_mem_singleton, Access.ok_text]
      exact Iff.rfl
    · exact addUserAccesses_ok json
  · have hnone : commandAccesses msgType json = [] := by
      unfold commandAccesses
      split
      case h_7 => rfl
      all_goals exact absurd (by decide) hkind
    rw [hnone]
    exact iff_of_true (List.forall_mem_nil _) (.inr hkind)

section

variable [CJson]

/-! ## The accesses of a message -/

/-- The document `onWrite` looks at. -/
def document? (value : Bytes) : Option Json :=
  if value.length ≥ 200 then none else CJson.parse (text value)

/-- What `onWrite` does with the nodes of the document, in its order. -/
def accesses (b : Box) (uuid : BleUuid) (value : Bytes) : List Access :=
  match document? value with
  | none => []
  | some json =>
      match uuid with
      | .writeInitialize => initializeAccesses json
      | .writeCommand =>
          let msgTypeJson := json.getObjectItem (str "msgTyp")
          let userIDJson := json.getObjectItem (str "userID")
          match json.numberField? (str "msgTyp"), json.stringField? (str "userID") with
          | some msgType, some userID =>
              [.number msgTypeJson, .text userIDJson] ++
                if b.verifyUser userID then commandAccesses msgType json else []
          | some _, none => [.number msgTypeJson]
          | none, _ => []
      | .other => []

/-- The message carries all that is read of it, and so is accepted. -/
def Complete (b : Box) (uuid : BleUuid) (value : Bytes) : Prop :=
  match uuid with
  | .writeInitialize =>
      ∃ json, document? value = some json ∧ json.HasText (str "ssid") 32 ∧
        json.HasText (str "password") 64 ∧ json.HasText (str "newUser") 50
  | .writeCommand => ∃ c, b.dispatched? value = some c ∧ Carries c.json c.msgType
  | .other => False

/-- `onWrite` itself refuses the message: it is too long, no JSON, without a registered user or the
type of a command. -/
def Refused (b : Box) (uuid : BleUuid) (value : Bytes) : Prop :=
  match uuid with
  | .writeInitialize => document? value = none
  | .writeCommand => ∀ c, b.dispatched? value = some c → ¬ IsCommand c.msgType
  | .other => True

/-- The checks before the `switch`. -/
theorem dispatched?_eq (b : Box) (value : Bytes) :
    b.dispatched? value = (document? value).bind fun json =>
      (json.numberField? (str "msgTyp")).bind fun msgType =>
        (json.stringField? (str "userID")).bind fun userID =>
          if b.verifyUser userID = true then some ⟨msgType, userID, json⟩ else none := by
  unfold dispatched? command? document?
  by_cases hlong : value.length ≥ 200
  · rw [if_pos hlong, if_pos hlong]
    rfl
  · rw [if_neg hlong, if_neg hlong]
    cases CJson.parse (text value) with
    | none => rfl
    | some json =>
        dsimp only [Option.bind_some]
        cases json.numberField? (str "msgTyp") with
        | none => rfl
        | some msgType =>
            cases json.stringField? (str "userID") with
            | none => rfl
            | some userID => exact Option.filter_some

/-- **The accesses of a message.** -/
theorem accesses_ok (b : Box) (uuid : BleUuid) (value : Bytes) :
    (∀ a ∈ b.accesses uuid value, a.Ok) ↔ b.Complete uuid value ∨ b.Refused uuid value := by
  unfold accesses Complete Refused
  cases uuid with
  | writeInitialize =>
      cases document? value with
      | none => simp
      | some json => simp [initializeAccesses_ok]
  | writeCommand =>
      rw [dispatched?_eq]
      cases document? value with
      | none => simp
      | some json =>
          dsimp only [Option.bind_some]
          cases htype : json.numberField? (str "msgTyp") with
          | none => simp
          | some msgType =>
              have hnumber := Access.ok_number.2 ⟨msgType, htype⟩
              cases huser : json.stringField? (str "userID") with
              | none => simp [hnumber]
              | some userID =>
                  have htext := Access.ok_text.2 ⟨userID, huser⟩
                  by_cases hverified : b.verifyUser userID = true
                  · simp [hnumber, htext, hverified, commandAccesses_ok]
                  · simp [hnumber, htext, hverified]
  | other =>
      cases document? value with
      | none => simp
      | some json => simp

/-! ## What `onWrite` makes of them -/

omit [CJson] in
theorem verifyUserID_returns (b : Box) (now : ℕ) {user : Bytes} {userNo : UInt8}
    (hfits : userNo = 1 ∨ userNo = 2 → user.length < 50) :
    ∃ b', b.verifyUserID now user userNo = some b' := by
  have hcopied (hslot : userNo = 1 ∨ userNo = 2) : strcpy 50 user = some user := if_pos (hfits hslot)
  unfold verifyUserID
  dsimp only
  split_ifs with hone htwo
  · rw [hcopied (.inl hone)]
    exact ⟨_, rfl⟩
  · rw [hcopied (.inr htwo)]
    exact ⟨_, rfl⟩
  · exact ⟨_, rfl⟩

omit [CJson] in
/-- A command that carries its fields is carried out. -/
theorem bleCommand_carries (b : Box) (now : ℕ) {msgType : ℤ} {json : Json} (s : Wifi.CredentialsScript)
    (h : Carries json msgType) : ∃ b', b.bleCommand now msgType json s = some b' := by
  unfold Carries at h
  split at h
  · obtain ⟨hssid, hpassword⟩ := h
    obtain ⟨ssid, hssid, hssidFits⟩ := hssid.copied
    obtain ⟨password, hpassword, hpasswordFits⟩ := hpassword.copied
    simp [bleCommand, hssid, hpassword, hssidFits, hpasswordFits]
  · obtain ⟨volume, hvolume⟩ := h
    simp [bleCommand, Json.numberField?_eq_some.1 hvolume]
  · obtain ⟨⟨state, hstate⟩, ⟨duration, hduration⟩, r, g, blue, rest, hcolor⟩ := h
    simp [bleCommand, Json.numberField?_eq_some.1 hstate, Json.numberField?_eq_some.1 hduration,
      Json.arrayField?_eq_some.1 hcolor, Json.getArrayItem, Json.children]
  · obtain ⟨name, hname, hfits⟩ := h.copied
    simp [bleCommand, writeBoxName, hname, hfits]
  · obtain ⟨url, hurl⟩ := h
    simp [bleCommand, Json.stringField?_eq_some.1 hurl]
  · obtain ⟨user, no, huser, hno, hfits⟩ := h
    simp only [bleCommand, Json.stringField?_eq_some.1 huser, Json.numberField?_eq_some.1 hno,
      Option.bind_eq_bind, Option.bind_some, Json.valuestring?, Json.valueint]
    exact verifyUserID_returns b now hfits
  · exact h.elim

/-- The call of `System::initialize`. -/
theorem onWrite_initial (b : Box) (now : ℕ) (value : Bytes) (s : Wifi.CredentialsScript) :
    b.onWrite now .writeInitialize value s =
      match document? value with
      | none => some b
      | some json =>
          (json.stringField? (str "ssid")).bind fun ssid =>
            (json.stringField? (str "password")).bind fun password =>
              (json.stringField? (str "newUser")).bind fun user =>
                b.systemInitialize now ssid password user := by
  unfold onWrite document?
  split_ifs
  · rfl
  · rfl

/-- What `onWrite` refuses changes nothing. -/
theorem onWrite_refused {b : Box} {uuid : BleUuid} {value : Bytes} (now : ℕ)
    (s : Wifi.CredentialsScript) (h : b.Refused uuid value) :
    b.onWrite now uuid value s = some b := by
  cases uuid with
  | writeInitialize =>
      have hnone : document? value = none := h
      rw [onWrite_initial, hnone]
  | writeCommand =>
      rw [onWrite_command]
      cases hc : b.dispatched? value with
      | none => rfl
      | some c =>
          -- a type without a case of the `switch`
          have hkind : ¬ IsCommand c.msgType := h c hc
          dsimp only
          unfold bleCommand
          split
          case h_7 => rfl
          all_goals
            next htype => exact absurd (by rw [htype]; decide) hkind
  | other =>
      unfold onWrite
      split_ifs
      · rfl
      · split <;> rfl

theorem onWrite_complete {b : Box} {uuid : BleUuid} {value : Bytes} (now : ℕ)
    (s : Wifi.CredentialsScript) (h : b.Complete uuid value) :
    ∃ b', b.onWrite now uuid value s = some b' := by
  cases uuid with
  | writeInitialize =>
      obtain ⟨json, hjson, hssid, hpassword, huser⟩ := h
      obtain ⟨ssid, hssid, hssidFits⟩ := hssid.copied
      obtain ⟨password, hpassword, hpasswordFits⟩ := hpassword.copied
      obtain ⟨user, huser, huserFits⟩ := huser.copied
      rw [onWrite_initial, hjson]
      simp [hssid, hpassword, huser, systemInitialize, hssidFits, hpasswordFits, huserFits]
  | writeCommand =>
      obtain ⟨c, hc, hcarries⟩ := h
      rw [onWrite_command, hc]
      exact bleCommand_carries b now s hcarries
  | other => exact h.elim

/-! ## Validation -/

/-- The system state, the credentials and the user slots. -/
structure Entrusted where
  state : SystemState
  initSsid : Bytes
  initPassword : Bytes
  credentials : Credentials
  credentialsFile : Option Credentials
  initUser1 : Bytes
  initUser2 : Bytes
  sysUser1 : Bytes
  sysUser2 : Bytes

omit [CJson] in
def entrusted (b : Box) : Entrusted where
  state := b.state
  initSsid := b.initSsid
  initPassword := b.initPassword
  credentials := b.dl.wifi.credentials
  credentialsFile := b.dl.wifi.credentialsFile
  initUser1 := b.initUser1
  initUser2 := b.initUser2
  sysUser1 := b.sysUser1
  sysUser2 := b.sysUser2

/-- A write is validated: whatever the message is, `onWrite` uses only nodes that are there and of the
type they are used with, copies only what fits and returns; and what is not complete changes nothing. -/
structure Validated (b : Box) (now : ℕ) (uuid : BleUuid) (value : Bytes)
    (s : Wifi.CredentialsScript) : Prop where
  accesses : ∀ a ∈ b.accesses uuid value, a.Ok
  returns : ∃ b', b.onWrite now uuid value s = some b'
  rejects : ¬ b.Complete uuid value →
    ∀ b', b.onWrite now uuid value s = some b' → b'.entrusted = b.entrusted

/-- **Which writes are validated**: those that `onWrite` itself refuses and those that carry every field
that is read of them, with its type and a length that fits. -/
theorem validated_iff (b : Box) (now : ℕ) (uuid : BleUuid) (value : Bytes)
    (s : Wifi.CredentialsScript) :
    b.Validated now uuid value s ↔ b.Complete uuid value ∨ b.Refused uuid value := by
  constructor
  · exact fun h => (accesses_ok b uuid value).1 h.accesses
  · intro h
    refine ⟨(accesses_ok b uuid value).2 h, ?_, ?_⟩
    · rcases h with h | h
      · exact onWrite_complete now s h
      · exact ⟨b, onWrite_refused now s h⟩
    · intro hnot b' hb'
      rw [onWrite_refused now s (h.resolve_left hnot)] at hb'
      rw [← Option.some.inj hb']

end

/-! ## An object without fields -/

def emptyObjectText : Bytes := str "\x7b\x7d"

@[reducible] def emptyObjectParser : CJson := ⟨tableParse [(emptyObjectText, .object [])]⟩

/-- The empty object, written to the characteristic for the initialisation. -/
theorem emptyObject_unchecked :
    ¬ ∀ value : Bytes, value.length < 200 →
      @Validated emptyObjectParser emptyBattery 0 .writeInitialize value quietCredentials := by
  let := emptyObjectParser
  intro h
  obtain ⟨b', hb'⟩ := (h emptyObjectText (by decide)).returns
  have hnull : emptyBattery.onWrite 0 .writeInitialize emptyObjectText quietCredentials = none := by
    rw [onWrite_initial, show document? emptyObjectText = some (.object []) from rfl]
    rfl
  rw [hnull] at hb'
  cases hb'

end Box

end Cubbies
