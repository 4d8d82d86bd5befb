import Cubbies.Proofs.Registration

set_option autoImplicit false

/-! # The two user slots

Who may give commands, and which slot a new user reaches. An empty slot is the empty string, and
`verifyUser` compares with it as with any other (`dispatched_iff`). The names `init_user1` and
`init_user2` stay from command to command, and the check looks at the first one whenever there is one
(`slot_of_addUser`). -/

namespace Cubbies

open CString

/-- The slots of `writeUserID`. -/
inductive Slot where
  | first
  | second
  deriving DecidableEq

namespace Slot

def userNo : Slot → UInt8
  | .first => 1
  | .second => 2

def other : Slot → Slot
  | .first => .second
  | .second => .first

/-- The field of the server's answer. -/
def field : Slot → Bytes
  | .first => str "user1"
  | .second => str "user2"

end Slot

namespace Box

/-- The user stored in a slot. -/
def user (b : Box) : Slot → Bytes
  | .first => b.sysUser1
  | .second => b.sysUser2

/-! ## Who may give commands -/

section

variable [CJson]

/-- What `onWrite` takes from the text of a command before it looks at the users. -/
structure Command where
  msgType : ℤ
  userID : Bytes
  json : Json

def command? (value : Bytes) : Option Command :=
  if value.length ≥ 200 then none
  else
    match CJson.parse (text value) with
    | none => none
    | some json =>
        match json.numberField? (str "msgTyp"), json.stringField? (str "userID") with
        | some msgType, some userID => some ⟨msgType, userID, json⟩
        | _, _ => none

/-- The command for which `onWrite` reaches the `switch`. -/
def dispatched? (b : Box) (value : Bytes) : Option Command :=
  (command? value).filter fun c => b.verifyUser c.userID

/-- `onWrite` runs the command it reaches the `switch` with, and does nothing otherwise. -/
theorem onWrite_command (b : Box) (now : ℕ) (value : Bytes) (s : Wifi.CredentialsScript) :
    b.onWrite now .writeCommand value s =
      match b.dispatched? value with
      | some c => b.bleCommand now c.msgType c.json s
      | none => some b := by
  unfold onWrite dispatched? command?
  by_cases hlong : value.length ≥ 200
  · rw [if_pos hlong, if_pos hlong]
    rfl
  · rw [if_neg hlong, if_neg hlong]
    cases CJson.parse (text value) with
    | none => rfl
    | some json =>
        dsimp only
        cases json.numberField? (str "msgTyp") with
        | none => rfl
        | some msgType =>
            cases json.stringField? (str "userID") with
            | none => rfl
            | some userID =>
                dsimp only
                by_cases huser : b.verifyUser userID = true
                · rw [if_pos huser, Option.filter_some, if_pos huser]
                · rw [if_neg huser, Option.filter_some, if_neg huser]

omit [CJson] in
theorem verifyUser_iff (b : Box) (userID : Bytes) :
    b.verifyUser userID = true ↔ userID = b.user .first ∨ userID = b.user .second := by
  unfold verifyUser
  rw [decide_eq_true_eq]
  exact or_congr eq_comm eq_comm

/-- **Commands of registered users.** The user of every command that is dispatched is registered
exactly if no command with an empty user comes while a slot is empty. -/
theorem dispatched_iff (b : Box) (value : Bytes) :
    (∀ c, b.dispatched? value = some c →
        c.userID ≠ [] ∧ (c.userID = b.user .first ∨ c.userID = b.user .second)) ↔
      ∀ c, command? value = some c → c.userID = [] →
        b.user .first ≠ [] ∧ b.user .second ≠ [] := by
  have hdispatched : ∀ c, b.dispatched? value = some c ↔
      command? value = some c ∧ (c.userID = b.user .first ∨ c.userID = b.user .second) := by
    intro c
    unfold dispatched?
    rw [Option.filter_eq_some_iff, verifyUser_iff]
  constructor
  · intro h c hc hempty
    -- an empty slot would accept the empty user
    have hnone : ∀ n : Slot, b.user n ≠ [] := by
      intro n hn
      have haccepted : c.userID = b.user .first ∨ c.userID = b.user .second := by
        rw [hempty]
        cases n with
        | first => exact .inl hn.symm
        | second => exact .inr hn.symm
      exact (h c ((hdispatched c).2 ⟨hc, haccepted⟩)).1 hempty
    exact ⟨hnone .first, hnone .second⟩
  · intro h c hc
    obtain ⟨hcommand, hslot⟩ := (hdispatched c).1 hc
    refine ⟨fun hempty => ?_, hslot⟩
    obtain ⟨hfirst, hsecond⟩ := h c hcommand hempty
    rw [hempty] at hslot
    rcases hslot with hslot | hslot
    · exact hfirst hslot.symm
    · exact hsecond hslot.symm

end

/-- A box without users takes the command of an empty user. -/
theorem dispatched_without_user :
    ¬ ∀ b, @Reached writeParser (fun _ _ => True) toneCard (Wifi.boot none) 0 0 b → ∀ value c,
      @dispatched? writeParser b value = some c →
        c.userID ≠ [] ∧ (c.userID = b.user .first ∨ c.userID = b.user .second) := by
  intro h
  have hdispatched : (@dispatched? writeParser emptyBattery addUserText).map Command.userID =
      some [] := by
    decide +kernel
  obtain ⟨c, hc, hempty⟩ := Option.map_eq_some_iff.1 hdispatched
  exact (h emptyBattery .start addUserText c hc).1 hempty

/-! ## Which slot a new user reaches -/

/-- The commands that name users. -/
inductive UserCommand where
  | systemInitialize (now : ℕ) (ssid password user1 : Bytes)
  | verifyUserID (now : ℕ) (userToCheck : Bytes) (userNo : UInt8)

def userCommand (b : Box) : UserCommand → Option Box
  | .systemInitialize now ssid password user1 => b.systemInitialize now ssid password user1
  | .verifyUserID now userToCheck userNo => b.verifyUserID now userToCheck userNo

/-- The name a command leaves in `init_user1`. -/
def UserCommand.first? : UserCommand → Option Bytes
  | .systemInitialize _ _ _ user1 => some user1
  | .verifyUserID _ userToCheck userNo => if userNo = 1 then some userToCheck else none

/-- What is in `init_user1` after the commands `cs`. -/
def pendingFirst (start : Bytes) (cs : List UserCommand) : Bytes :=
  cs.foldl (fun name c => c.first?.getD name) start

/-- `verifyUserID` leaves the name for its slot, and the other name alone. -/
theorem verifyUserID_names {b b' : Box} {now : ℕ} {user : Bytes} {userNo : UInt8}
    (h : b.verifyUserID now user userNo = some b') :
    b'.initUser1 = (if userNo = 1 then user else b.initUser1) ∧
      b'.initUser2 = (if userNo = 2 then user else b.initUser2) := by
  rcases verifyUserID_cases h with ⟨rfl, rfl⟩ | ⟨rfl, rfl⟩ | ⟨hone, htwo, rfl⟩
  · exact ⟨rfl, rfl⟩
  · exact ⟨rfl, rfl⟩
  · rw [if_neg hone, if_neg htwo]
    exact ⟨rfl, rfl⟩

theorem userCommand_initUser1 {b b' : Box} {c : UserCommand} (h : b.userCommand c = some b') :
    b'.initUser1 = c.first?.getD b.initUser1 := by
  cases c with
  | systemInitialize now ssid password user1 =>
      simp only [userCommand, systemInitialize, Option.bind_eq_bind, Option.bind_eq_some_iff] at h
      obtain ⟨s, -, p, -, u, hu, hb⟩ := h
      rw [← Option.some.inj hb]
      exact eq_of_strcpy hu
  | verifyUserID now user userNo =>
      rw [(verifyUserID_names h).1]
      show _ = (if userNo = 1 then some user else none).getD b.initUser1
      split <;> rfl

theorem runList_initUser1 {b b' : Box} {cs : List UserCommand}
    (h : Runs.runList userCommand b cs = some b') :
    b'.initUser1 = pendingFirst b.initUser1 cs := by
  induction cs generalizing b with
  | nil => exact congrArg initUser1 (Option.some.inj h).symm
  | cons c cs ih =>
      obtain ⟨b₁, hb₁, hrest⟩ := Option.bind_eq_some_iff.1 h
      rw [ih hrest, userCommand_initUser1 hb₁]
      rfl

/-- The name a check would store in a slot. -/
def pendingName (b : Box) : Slot → Bytes
  | .first => b.initUser1
  | .second => b.initUser2

/-- The slot a check looks at: the first one that has a name. -/
def slotChecked (b : Box) : Option Slot :=
  if b.initUser1 ≠ [] then some .first else if b.initUser2 ≠ [] then some .second else none

section

variable [CJson]

/-- The buffer, with the answer copied to it, reads as an object that has `true` for the slot. -/
def bufferConfirms (b : Box) (x : Exchange) (n : Slot) : Bool :=
  ((CJson.parse (text (x.chunks.foldl overlay b.outputBuff))).bind
    (Json.getObjectItemCaseSensitive · n.field)).any Json.isTrue

omit [CJson] in
/-- `registerUser` writes the slot that is checked, if the answer confirms it. -/
theorem registerUser_user (b : Box) (json : Json) (body : Bytes) (n : Slot) :
    (b.registerUser json body).user n =
      if b.slotChecked = some n ∧
          (json.getObjectItemCaseSensitive n.field).any Json.isTrue = true then
        (b.pendingName n).take 36
      else b.user n := by
  unfold registerUser slotChecked
  by_cases hfirst : b.initUser1 ≠ []
  · simp only [if_pos hfirst]
    cases n with
    | first =>
        simp only [true_and, Slot.field]
        split_ifs <;> rfl
    | second =>
        rw [if_neg (show ¬ (some Slot.first = some Slot.second ∧ _) from fun h => by cases h.1)]
        split_ifs <;> rfl
  · simp only [if_neg hfirst]
    by_cases hsecond : b.initUser2 ≠ []
    · simp only [if_pos hsecond]
      cases n with
      | first =>
          rw [if_neg (show ¬ (some Slot.second = some Slot.first ∧ _) from fun h => by cases h.1)]
          split_ifs <;> rfl
      | second =>
          simp only [true_and, Slot.field]
          split_ifs <;> rfl
    · simp only [if_neg hsecond]
      rw [if_neg fun h => by cases h.1]

/-- **One check** with a token and a connection: the slot that is checked gets its name if the buffer
confirms it, and nothing else changes. -/
theorem verifyUserIdWithServer_user {b : Box} {s : VerifyScript}
    (htoken : b.dl.validTokenFlag = true) (honline : (b.dl.wifi.connect s.connect).1 = 0)
    (hok : s.answer.ok = true) (n : Slot) :
    (b.verifyUserIdWithServer s).2.user n =
      if b.slotChecked = some n ∧ b.bufferConfirms s.answer n = true then
        (b.pendingName n).take 36
      else b.user n := by
  have hsame : b.withToken s = b := if_pos htoken
  have hend := verifyWithToken_end b s
  rw [verifyUserIdWithServer_eq, hsame]
  unfold bufferConfirms
  rw [show s.answer.chunks.foldl overlay b.outputBuff = (b.received s.answer).outputBuff from rfl]
  generalize b.verifyWithToken s = r at hend ⊢
  cases hend with
  | offline hoffline => exact absurd honline hoffline
  | lost _ hlost => exact absurd hok hlost
  | invalid _ _ hparse =>
      rw [hparse, if_neg (by simp)]
      cases n <;> rfl
  | parsed json _ _ hparse =>
      have hregister := registerUser_user ((b.online s).received s.answer) json s.answer.body n
      rw [hparse]
      have hrelease : ∀ c : Box, (c.release s).user n = c.user n := by
        intro c
        cases n <;> rfl
      refine (hrelease _).trans (hregister.trans ?_)
      cases n <;> rfl

/-- **Adding a user.** After any commands `cs` and one that adds `u` to the slot `n`, the check stores
`u` there, and leaves the other slot alone, exactly if it looks at that slot, the buffer confirms it
and `u` has at most 36 bytes; or the slots held all this already, and the check does not undo it. The
answer may have any chunks that fit the buffer (`VerifyScript.answer_fits`). -/
theorem slot_of_addUser {start b : Box} {cs : List UserCommand} {now : ℕ} {u : Bytes} {n : Slot}
    (hu : u ≠ [])
    (hrun : Runs.runList userCommand start (cs ++ [.verifyUserID now u n.userNo]) = some b)
    {s : VerifyScript} (htoken : b.dl.validTokenFlag = true)
    (honline : (b.dl.wifi.connect s.connect).1 = 0) (hok : s.answer.ok = true) :
    ((b.verifyUserIdWithServer s).2.user n = u ∧
        (b.verifyUserIdWithServer s).2.user n.other = b.user n.other) ↔
      if n = .first ∨ pendingFirst start.initUser1 cs = [] then
        if b.bufferConfirms s.answer n then u.length ≤ 36 else b.user n = u
      else
        b.user n = u ∧ (b.bufferConfirms s.answer .first = true →
          b.user .first = (pendingFirst start.initUser1 cs).take 36) := by
  rw [Runs.runList_append] at hrun
  obtain ⟨b₀, hcs, hlast⟩ := Option.bind_eq_some_iff.1 hrun
  obtain ⟨b₁, hcommand, hb⟩ := Option.bind_eq_some_iff.1 hlast
  obtain rfl := Option.some.inj hb
  obtain ⟨hfirst, hsecond⟩ := verifyUserID_names hcommand
  have hpending := (runList_initUser1 hcs).symm
  have htake : u.take 36 = u ↔ u.length ≤ 36 := List.take_eq_self_iff u
  rw [verifyUserIdWithServer_user htoken honline hok, verifyUserIdWithServer_user htoken honline hok,
    hpending]
  by_cases hown : n = .first ∨ b₀.initUser1 = []
  -- the check looks at the slot of the command
  · have hchecked : b₁.slotChecked = some n ∧ b₁.pendingName n = u := by
      cases n with
      | first =>
          rw [show Slot.first.userNo = 1 from rfl, if_pos rfl] at hfirst
          exact ⟨if_pos (by rw [hfirst]; exact hu), hfirst⟩
      | second =>
          have hnone : b₀.initUser1 = [] := hown.resolve_left (by decide)
          rw [show Slot.second.userNo = 2 from rfl, if_neg (by decide), hnone] at hfirst
          rw [show Slot.second.userNo = 2 from rfl, if_pos rfl] at hsecond
          refine ⟨?_, hsecond⟩
          unfold slotChecked
          rw [if_neg (by rw [hfirst]; simp), if_pos (by rw [hsecond]; exact hu)]
    have hother : n ≠ n.other := by cases n <;> decide
    rw [if_pos hown, hchecked.1, hchecked.2,
      if_neg (show ¬ (some n = some n.other ∧ _) from fun h => hother (Option.some.inj h.1))]
    by_cases hconfirms : b₁.bufferConfirms s.answer n = true
    · rw [if_pos ⟨rfl, hconfirms⟩, if_pos hconfirms, htake]
      exact and_iff_left rfl
    · rw [if_neg fun h => hconfirms h.2, if_neg hconfirms]
      exact and_iff_left rfl
  -- an earlier name for the first slot is in the way
  · obtain ⟨hn, hname⟩ := not_or.1 hown
    obtain rfl : n = .second := by cases n with
      | first => exact absurd rfl hn
      | second => rfl
    rw [show Slot.second.userNo = 2 from rfl, if_neg (by decide)] at hfirst
    have hchecked : b₁.slotChecked = some .first := if_pos (by rw [hfirst]; exact hname)
    rw [if_neg hown, hchecked, show Slot.second.other = .first from rfl,
      if_neg (show ¬ (some Slot.first = some Slot.second ∧ _) from fun h => by cases h.1),
      show b₁.pendingName .first = b₀.initUser1 from hfirst]
    refine and_congr_right fun _ => ?_
    by_cases hconfirms : b₁.bufferConfirms s.answer .first = true
    · rw [if_pos ⟨rfl, hconfirms⟩]
      exact ⟨fun h _ => h.symm, fun h => (h hconfirms).symm⟩
    · rw [if_neg fun h => hconfirms h.2]
      exact ⟨fun _ h => absurd h hconfirms, fun _ => rfl⟩

end

/-! ## A second user after the first -/

def confirmText : Bytes := str "\x7b\"user1\":true,\"user2\":true\x7d"

def confirmSecondText : Bytes := str "\x7b\"user2\":true\x7d"

@[reducible] def confirmParser : CJson :=
  ⟨tableParse [(confirmText, .object [(str "user1", .bool true), (str "user2", .bool true)]),
    (confirmSecondText, .object [(str "user2", .bool true)])]⟩

/-- A box that is online and has a token. -/
def tokenBox : Box := { connectedBox with dl := { connectedBox.dl with validTokenFlag := true } }

def nameFirst : UserCommand := .systemInitialize 0 (str "a") (str "b") (str "c")

def addSecond : UserCommand := .verifyUserID 0 (str "d") Slot.second.userNo

/-- The name of the first user is still there when the second one is added, and the server's word for
the second one is not looked at. -/
theorem second_user_lost :
    ¬ ∀ (cs : List UserCommand) (b : Box) (now : ℕ) (u : Bytes) (n : Slot) (s : VerifyScript), u ≠ [] →
      Runs.runList userCommand tokenBox (cs ++ [.verifyUserID now u n.userNo]) = some b →
      b.dl.validTokenFlag = true → (b.dl.wifi.connect s.connect).1 = 0 → s.answer.ok = true →
      ((confirmParser.parse s.answer.body).bind
        (Json.getObjectItemCaseSensitive · n.field)).any Json.isTrue = true →
      (@verifyUserIdWithServer confirmParser b s).2.user n = u ∧
        (@verifyUserIdWithServer confirmParser b s).2.user n.other = b.user n.other := by
  intro h
  have hrun : (Runs.runList userCommand tokenBox [nameFirst, addSecond]).map (fun b =>
      (b.dl.validTokenFlag, (b.dl.wifi.connect (answeredCheck [confirmSecondText] (by decide)).connect).1,
        (@verifyUserIdWithServer confirmParser b (answeredCheck [confirmSecondText] (by decide))).2.user .second)) =
      some (true, 0, []) := by
    decide +kernel
  obtain ⟨b, hb, hfacts⟩ := Option.map_eq_some_iff.1 hrun
  simp only [Prod.mk.injEq] at hfacts
  obtain ⟨htoken, honline, hslot⟩ := hfacts
  obtain ⟨hstored, -⟩ := h [nameFirst] b 0 (str "d") .second (answeredCheck [confirmSecondText] (by decide))
    (by decide) hb htoken honline (by decide) (by decide +kernel)
  rw [hslot] at hstored
  revert hstored
  decide

/-- Without the first user's name the second one is stored. -/
theorem slot_of_addUser_alone : ∃ b,
    Runs.runList userCommand tokenBox [addSecond] = some b ∧
      (@verifyUserIdWithServer confirmParser b (answeredCheck [confirmText] (by decide))).2.user .second = str "d" := by
  have hrun : (Runs.runList userCommand tokenBox [addSecond]).map (fun b =>
      (b.dl.validTokenFlag, (b.dl.wifi.connect (answeredCheck [confirmText] (by decide)).connect).1,
        @bufferConfirms confirmParser b (answeredCheck [confirmText] (by decide)).answer .second)) =
      some (true, 0, true) := by
    decide +kernel
  obtain ⟨b, hb, hfacts⟩ := Option.map_eq_some_iff.1 hrun
  simp only [Prod.mk.injEq] at hfacts
  obtain ⟨htoken, honline, hconfirms⟩ := hfacts
  refine ⟨b, hb, ((@slot_of_addUser confirmParser tokenBox b [] 0 (str "d") .second (by decide) hb
    (answeredCheck [confirmText] (by decide)) htoken honline (by decide)).2 ?_).1⟩
  rw [if_pos (.inr (by decide)), if_pos hconfirms]
  decide

end Box

end Cubbies
