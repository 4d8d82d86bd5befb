import Cubbies.Proofs.TaskSteps
import Cubbies.Proofs.VerifyMarker

set_option autoImplicit false

/-! # Leaving a shutdown

After the handler has run `SYS_SHUT_ME_DOWN`, the handler itself goes on to `SYS_TURN_OFF` and stays
there. `setState` has no guard, so three kinds of other steps lead out: the removal of the toy, a button
for the next or the previous audio while the shutdown tone plays, and the BLE writes that start a
verification. In runs without them the shutdown is final. -/

namespace Cubbies

open CString

namespace Box

/-- The box is shutting down or off. -/
def ShutDown (b : Box) : Prop :=
  b.state = .shutMeDown ∨
    (b.state = .waitForPlayer ∧ b.playerGoBackToState = .turnOff) ∨ b.state = .turnOff

instance (b : Box) : Decidable b.ShutDown := inferInstanceAs (Decidable (_ ∨ _ ∨ _))

theorem ShutDown.of_eq {b b' : Box} (h : b.ShutDown) (hstate : b'.state = b.state)
    (hback : b'.playerGoBackToState = b.playerGoBackToState) : b'.ShutDown := by
  unfold ShutDown
  rw [hstate, hback]
  exact h

/-- The position after the tone decides. -/
theorem shutDown_of_position {b : Box} (h : b.position = .turnOff) : b.ShutDown := by
  by_cases hwait : b.state = .waitForPlayer
  · exact .inr (.inl ⟨hwait, (position_of_wait hwait).symm.trans h⟩)
  · exact .inr (.inr ((position_of_state rfl hwait).symm.trans h))

section

variable [CJson]

/-- The steps that leave a shutdown alone. -/
def KeepsShutDown (b : Box) : BoxEvent → Prop
  | .read _ data => ¬ b.Removes data
  | .write _ address len data =>
      b.state = .waitForPlayer →
        ¬ PressesNext address len data ∧ (PressesPrevious address len data → b.indexx = 0)
  | .ble _ uuid value _ => ¬ b.StartsVerification uuid value
  | _ => True

theorem handler_shutDown {b b' : Box} {env : HandlerEnv} (h : b.handler env = some b')
    (hdown : b.ShutDown) : b'.ShutDown := by
  rcases hdown with hstate | ⟨hstate, hback⟩ | hstate
  · simp only [handler, hstate, Option.some.injEq] at h
    exact h ▸ shutDown_of_position (handleShutMeDown_keeps b env.now).2
  · rw [handler_waitForPlayer hstate, Option.some.injEq] at h
    have hpos : b.position = .turnOff := (position_of_wait hstate).trans hback
    rcases (handleWaitForPlayer_keeps env hstate).2 with hsame | ⟨hactivity, -⟩
    · exact h ▸ shutDown_of_position (hsame.trans hpos)
    · rw [hpos] at hactivity
      exact absurd hactivity (by simp)
  · simp only [handler, hstate, Option.some.injEq] at h
    exact h ▸ .inr (.inr rfl)

/-- **One step** of a task that leaves a shutdown alone. -/
theorem step_shutDown {b b' : Box} {e : BoxEvent} (h : b.step e = some b')
    (hok : b.KeepsShutDown e) (hdown : b.ShutDown) : b'.ShutDown := by
  cases e with
  | handler env => exact handler_shutDown h hdown
  | read now data =>
      obtain rfl := Option.some.inj h
      rcases readFrame_outcome b now data with ⟨hremoves, -⟩ | ⟨-, -, hstate, hback, -⟩ |
        ⟨-, hstate, hback, -⟩
      · exact absurd hremoves hok
      · exact hdown.of_eq hstate hback
      · exact hdown.of_eq hstate hback
  | write now address len data =>
      obtain rfl := Option.some.inj h
      rcases writeFrame_outcome b now address len data with ⟨hpress, hwait, -⟩ |
        ⟨hpress, hwait, hpos, -⟩ | ⟨-, hstate, hback, -⟩
      · exact absurd hpress (hok hwait).1
      · rw [(hok hwait).2 hpress] at hpos
        exact absurd hpos (by simp)
      · exact hdown.of_eq hstate hback
  | ble now uuid value s =>
      rcases onWrite_outcome h with ⟨hstart, -⟩ | ⟨-, hstate, hback, -⟩
      · exact absurd hstart hok
      · exact hdown.of_eq hstate hback
  | pipeline writer =>
      obtain rfl := Option.some.inj h
      exact hdown.of_eq rfl rfl
  | station e =>
      obtain rfl := Option.some.inj h
      exact hdown.of_eq rfl rfl

/-- **Shutdown is final** in every continuation that leaves it alone. -/
theorem shutDown_final {b b₁ b₂ : Box} {env : HandlerEnv} (hstate : b.state = .shutMeDown)
    (hstep : b.handler env = some b₁)
    (hrun : Runs.Reached (fun b e b' => step b e = some b') KeepsShutDown b₁ b₂) :
    b₂.ShutDown :=
  hrun.invariant (handler_shutDown hstep (.inl hstate)) fun _ _ _ hdown hok hs =>
    step_shutDown hs hok hdown

/-- In some run from `b₀` the step `e` leads out of a shutdown. -/
def LeavesBy (b₀ : Box) (e : BoxEvent) : Prop :=
  ∃ b b₁ b₂ env, Runs.Reached (fun b e b' => step b e = some b') (fun _ _ => True) b₀ b ∧
    b.state = .shutMeDown ∧ b.handler env = some b₁ ∧ b₁.step e = some b₂ ∧ ¬ b₂.ShutDown

/-- Two evaluations show that a step leads out of a shutdown. -/
theorem leavesBy_of_runs {b₀ : Box} {e : BoxEvent} (before : List BoxEvent) (env : HandlerEnv)
    (hbefore : (Runs.runList step b₀ before).map Box.state = some .shutMeDown)
    (hafter : (Runs.runList step b₀ (before ++ [.handler env, e])).map
      (fun b => decide b.ShutDown) = some false) : LeavesBy b₀ e := by
  obtain ⟨b, hb, hstate⟩ := Option.map_eq_some_iff.1 hbefore
  obtain ⟨b₂, hb₂, hleft⟩ := Option.map_eq_some_iff.1 hafter
  rw [Runs.runList_append, hb, Option.bind_some] at hb₂
  obtain ⟨b₁, hb₁, hrest⟩ := Option.bind_eq_some_iff.1 hb₂
  obtain ⟨b₃, hb₃, hlast⟩ := Option.bind_eq_some_iff.1 hrest
  obtain rfl := Option.some.inj hlast
  exact ⟨b, b₁, b₃, env, Runs.reached_of_runList _ hb, hstate, hb₁, hb₃, of_decide_eq_false hleft⟩

end

/-! ## The steps that lead out -/

/-- New credentials with a first user, as text and parsed. -/
def credentialsText : Bytes :=
  str "\x7b\"ssid\":\"a\",\"password\":\"b\",\"newUser\":\"c\"\x7d"

def credentialsJson : Json :=
  .object [(str "ssid", .string (str "a")), (str "password", .string (str "b")),
    (str "newUser", .string (str "c"))]

/-- A user added by the empty user ID, which a box without users accepts. -/
def addUserText : Bytes :=
  str "\x7b\"msgTyp\":6,\"userID\":\"\",\"newUser\":\"c\",\"updateUserNo\":1\x7d"

def addUserJson : Json :=
  .object [(str "msgTyp", .number 6), (str "userID", .string []),
    (str "newUser", .string (str "c")), (str "updateUserNo", .number 1)]

/-- A parser that knows these texts. -/
@[reducible] def writeParser : CJson :=
  ⟨fun s =>
    if s = credentialsText then some credentialsJson
    else if s = addUserText then some addUserJson
    else none⟩

/-- A card with the shutdown tone. -/
def toneCard : Card where
  dirs := [str "/sdcard", str "/sdcard/media"]
  files := [(shutdownTone, [])]
  files_nodup := List.nodup_singleton _
  files_in_dirs := by decide

def noWaits : WaitScript := ⟨[], []⟩

def quietCredentials : Wifi.CredentialsScript := ⟨noWaits, [], noWaits, noWaits, false, noWaits⟩

/-- A handler step at this time that sees this message, and no network. -/
def quietEnv (now : ℕ) (message : PlayerMessage) : HandlerEnv where
  now := now
  message := message
  connect := noWaits
  credentials := quietCredentials
  verify := ⟨noWaits, Downloader.answered [], [], noWaits, Downloader.answered [], noWaits, by decide⟩
  download := Downloader.sampleScript []

/-- A read frame with this tag and battery level. -/
def tagFrame (uid : Uid) (battery : UInt8) : BoxEvent := .read 0 (uid.val ++ [battery, 0])

def noUid : Uid := ⟨List.replicate 8 0, rfl⟩

/-- A power-on with an empty battery: the first handler step shuts down. -/
def emptyBattery : Box := boot toneCard (Wifi.boot none) 0 0

def handlerStep : BoxEvent := .handler (quietEnv 0 .other)

def nextFrame : BoxEvent := .write 0 0x5000 1 [1]

def previousFrame : BoxEvent := .write 0 0x5000 1 [2]

/-- A power-on with a charged one. -/
def chargedBox : Box := boot toneCard (Wifi.boot none) 50 0

/-- The charged box comes up, its battery is used up, and it shuts down. -/
def runsDown : List BoxEvent := [handlerStep, handlerStep, tagFrame noUid 20, handlerStep]

/-- Another shutdown, with `indexx` at 1: the button for the next audio was pressed in the first one. -/
def secondShutdown : List BoxEvent :=
  runsDown ++ [handlerStep, nextFrame] ++ List.replicate 7 handlerStep

/-- A box about to run `SYS_SHUT_ME_DOWN`, and the same box after it. -/
def shuttingDown : Box := { emptyBattery with state := .shutMeDown }

def playingShutdown : Box := shuttingDown.handleShutMeDown 0

/-- To the end of the shutdown tone. -/
theorem shutDown_final_tone :
    (playingShutdown.handleWaitForPlayer (quietEnv 0 .finished)).ShutDown := by
  have hok : @KeepsShutDown writeParser playingShutdown (.handler (quietEnv 0 .finished)) := trivial
  exact @shutDown_final writeParser shuttingDown playingShutdown _ (quietEnv 0 .other) rfl rfl
    (.step .start hok rfl)

/-- From a shutdown by a battery that is used up the box goes on: to idle when the toy is removed, to the
playlist when a button for the next or the previous audio is pressed during the tone, and to a
verification when a client initialises the box or adds a user. -/
theorem shutDown_not_final :
    @LeavesBy writeParser chargedBox (tagFrame noUid 20) ∧
      @LeavesBy writeParser chargedBox nextFrame ∧
      @LeavesBy writeParser chargedBox previousFrame ∧
      @LeavesBy writeParser chargedBox
        (.ble 0 .writeInitialize credentialsText quietCredentials) ∧
      @LeavesBy writeParser chargedBox (.ble 0 .writeCommand addUserText quietCredentials) := by
  refine ⟨?_, ?_, ?_, ?_, ?_⟩
  · exact @leavesBy_of_runs writeParser _ _ (runsDown ++ [tagFrame Downloader.uidX 20])
      (quietEnv 0 .other) (by decide +kernel) (by decide +kernel)
  · exact @leavesBy_of_runs writeParser _ _ runsDown (quietEnv 0 .other)
      (by decide +kernel) (by decide +kernel)
  · exact @leavesBy_of_runs writeParser _ _ secondShutdown (quietEnv 0 .other)
      (by decide +kernel) (by decide +kernel)
  · exact @leavesBy_of_runs writeParser _ _ runsDown (quietEnv 0 .other)
      (by decide +kernel) (by decide +kernel)
  · exact @leavesBy_of_runs writeParser _ _ runsDown (quietEnv 0 .other)
      (by decide +kernel) (by decide +kernel)

end Box

end Cubbies
