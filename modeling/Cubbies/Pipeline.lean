import Cubbies.Tasks

set_option autoImplicit false

/-! # The box with its audio pipeline (`player.cpp`)

The audio framework is not part of the repository; `Box` only sees the state of its writer and the
message that is there. `AudioBox` is a box with a pipeline that behaves as the player relies on: it runs
one audio at a time, the writer reports when an audio has ended or was stopped, the reports wait in the
event interface, and `audio_event_iface_listen` takes one in order. A step of a task is that of the box;
what it asked of the pipeline happens with it. -/

namespace Cubbies

/-- A message in the event interface, with the number of the audio that was the current one when it was
queued. -/
structure Report where
  message : PlayerMessage
  audio : ℕ
  deriving DecidableEq

structure AudioBox where
  box : Box
  /-- the current audio, by how often `audio_pipeline_run` was called -/
  audio : ℕ
  /-- the event interface, first message first -/
  reports : List Report

namespace Box

/-- `SYS_WAIT_FOR_PLAYER` leaves the audio for an ear that was pressed. -/
def LeavesOnEar (b : Box) : Prop :=
  (b.playerGoBackToState = .waitQnaResp ∨ b.playerGoBackToState = .waitActivityResp) ∧
    (b.leftEarButtonState || b.rightEarButtonState) = true

instance (b : Box) : Decidable b.LeavesOnEar := inferInstanceAs (Decidable (_ ∧ _))

/-- A handler step now asks the player whether the audio has ended. -/
def Listens (b : Box) : Prop := b.state = .waitForPlayer ∧ ¬ b.LeavesOnEar

instance (b : Box) : Decidable b.Listens := inferInstanceAs (Decidable (_ ∧ _))

end Box

namespace AudioBox

def boot (card : Card) (wifi : Wifi) (battery charging : UInt8) : AudioBox :=
  ⟨Box.boot card wifi battery charging, 0, []⟩

/-! ## The pipeline -/

def setWriter (a : AudioBox) (writer : AelState) : AudioBox :=
  { a with box := { a.box with writer := writer } }

/-- A message of the current audio is queued. -/
def report (a : AudioBox) (message : PlayerMessage) : AudioBox :=
  { a with reports := a.reports ++ [⟨message, a.audio⟩] }

/-- `audio_pipeline_stop`: an audio that runs or is paused reports that it was stopped. -/
def stop (a : AudioBox) : AudioBox :=
  if a.box.writer = .other then a else (a.report .stopped).setWriter .other

/-- What the pipeline does. A file that cannot be opened does not run. -/
def execute (a : AudioBox) : PlayerCommand → AudioBox
  | .play location =>
      { a.stop with audio := a.audio + 1 }.setWriter
        (if a.box.hasFile location then .running else .other)
  | .stop => a.stop
  | .pause => if a.box.writer = .running then a.setWriter .paused else a
  | .resume => if a.box.writer = .paused then a.setWriter .running else a

/-- Commands are kept latest first. -/
def executeAll (a : AudioBox) (commands : List PlayerCommand) : AudioBox :=
  commands.foldr (fun c a => a.execute c) a

/-! ## Steps -/

/-- What `audio_event_iface_listen` returns now; it times out without a message. -/
def heard (a : AudioBox) : PlayerMessage := (a.reports.head?.map Report.message).getD .other

/-- The step of a task, before the pipeline follows. The box's commands are then those of this step. -/
def taskStep [CJson] (a : AudioBox) : BoxEvent → Option Box
  | .handler env => { a.box with commands := [] }.step (.handler { env with message := a.heard })
  -- the pipeline's state is not theirs to change
  | .pipeline _ => none
  | e => { a.box with commands := [] }.step e

/-- The reports that are left: a handler step that listens takes one. -/
def remaining (a : AudioBox) : BoxEvent → List Report
  | .handler _ => if a.box.Listens then a.reports.tail else a.reports
  | _ => a.reports

end AudioBox

inductive AudioEvent where
  | task (e : BoxEvent)
  /-- the audio that runs has come to its end -/
  | ends
  /-- a message of the framework that is no report of an end -/
  | message

namespace AudioBox

variable [CJson]

def step (a : AudioBox) : AudioEvent → Option AudioBox
  | .task e =>
      (a.taskStep e).map fun b => { a with box := b, reports := a.remaining e }.executeAll b.commands
  | .ends =>
      if a.box.writer = .running then some ((a.report .finished).setWriter .other) else none
  | .message => some (a.report .other)

/-- The runs from a state with steps that meet `ok`. -/
def Reached (ok : AudioBox → AudioEvent → Prop) (a₀ a : AudioBox) : Prop :=
  Runs.Reached (fun a e a' => step a e = some a') ok a₀ a

end AudioBox

end Cubbies
