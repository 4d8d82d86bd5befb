import Cubbies.Pipeline
import Cubbies.Proofs.ContentOfToy
import Cubbies.Proofs.Questions

set_option autoImplicit false

/-! # Whose end a completion is

`SYS_WAIT_FOR_PLAYER` goes on when it takes a `FINISHED` report, whichever audio that is of. A report is
left in the event interface when the wait is left early, and `Player::play` does not empty it. Where none
is left when an audio starts, the report taken is that of the current audio (`completion_current`). In
`pressedAtEnd` an ear is pressed when the question has just ended. -/

namespace Cubbies

open CString

namespace Box

/-! ## The wait for the player -/

/-- A handler step that listens does what the message says. -/
theorem handleWaitForPlayer_listens {b : Box} (env : HandlerEnv) (h : b.Listens) :
    b.handleWaitForPlayer env =
      match env.message with
      | .finished =>
          { b with
            isResponseRequiredFlag := false
            responseWaitTick := getStartTime env.now }.setState env.now b.playerGoBackToState
      | .stopped => { b with isResponseRequiredFlag := false }
      | .other => b := by
  obtain ⟨-, hear⟩ := h
  unfold handleWaitForPlayer
  dsimp only
  rw [if_neg fun hqna => hear ⟨.inl hqna.1, hqna.2⟩,
    if_neg fun hactivity => hear ⟨.inr hactivity.1, hactivity.2⟩]
  cases env.message <;> rfl

/-- An ear leads out of the wait. -/
theorem handleWaitForPlayer_leaves {b : Box} (env : HandlerEnv) (h : b.LeavesOnEar) :
    ∃ s ∈ [SystemState.waitQnaResp, .playNext],
      b.handleWaitForPlayer env = b.playPauseToggle.setState env.now s := by
  obtain ⟨hback, hear⟩ := h
  unfold handleWaitForPlayer
  dsimp only
  by_cases hqna : b.playerGoBackToState = .waitQnaResp
  · rw [if_pos ⟨hqna, hear⟩]
    exact ⟨_, List.mem_cons_self, rfl⟩
  · rw [if_neg fun h => hqna h.1, if_pos ⟨hback.resolve_left hqna, hear⟩]
    exact ⟨_, List.mem_cons_of_mem _ List.mem_cons_self, rfl⟩

theorem not_mem_of_plays {b : Box} (h : b.plays = []) (location : Bytes) :
    .play location ∉ b.commands := by
  intro hmem
  have hplayed : location ∈ b.plays :=
    List.mem_reverse.2 (List.mem_filterMap.2 ⟨_, hmem, rfl⟩)
  rw [h] at hplayed
  exact absurd hplayed List.not_mem_nil

end Box

namespace AudioBox

/-! ## What the pipeline does to the box -/

theorem stop_box (a : AudioBox) : a.stop.box = { a.box with writer := a.stop.box.writer } := by
  unfold stop
  split <;> rfl

theorem execute_box (a : AudioBox) (c : PlayerCommand) :
    (a.execute c).box = { a.box with writer := (a.execute c).box.writer } := by
  cases c with
  | play location =>
      have hstop := congrArg
        (fun b : Box => { b with writer := (a.execute (.play location)).box.writer }) a.stop_box
      exact hstop
  | stop => exact a.stop_box
  | pause =>
      dsimp only [execute]
      split <;> rfl
  | resume =>
      dsimp only [execute]
      split <;> rfl

/-- Only the state of the writer changes. -/
theorem executeAll_box (a : AudioBox) (commands : List PlayerCommand) :
    (a.executeAll commands).box =
      { a.box with writer := (a.executeAll commands).box.writer } := by
  induction commands with
  | nil => rfl
  | cons c commands ih =>
      have hlast := (a.executeAll commands).execute_box c
      rw [ih] at hlast
      exact hlast

/-! ## The reports that are queued -/

/-- No `FINISHED` report is queued. -/
def Drained (a : AudioBox) : Prop := ∀ r ∈ a.reports, r.message ≠ .finished

/-- Every `FINISHED` report that is queued is of the current audio. -/
def OwnReports (a : AudioBox) : Prop := ∀ r ∈ a.reports, r.message = .finished → r.audio = a.audio

instance (a : AudioBox) : Decidable a.Drained := inferInstanceAs (Decidable (∀ r ∈ a.reports, _))

theorem Drained.own {a : AudioBox} (h : a.Drained) : a.OwnReports := by
  intro r hr hfinished
  exact absurd hfinished (h r hr)

theorem mem_report {a : AudioBox} {message : PlayerMessage} {r : Report} :
    r ∈ (a.report message).reports ↔ r ∈ a.reports ∨ r = ⟨message, a.audio⟩ := by
  show r ∈ a.reports ++ [_] ↔ _
  rw [List.mem_append, List.mem_singleton]

theorem OwnReports.report {a : AudioBox} (h : a.OwnReports) (message : PlayerMessage) :
    (a.report message).OwnReports := by
  intro r hr hfinished
  rcases mem_report.1 hr with hr | rfl
  · exact h r hr hfinished
  · rfl

/-- Stopping the current audio queues at most that it was stopped. -/
theorem mem_stop {a : AudioBox} {r : Report} (h : r ∈ a.stop.reports) :
    r ∈ a.reports ∨ r = ⟨.stopped, a.audio⟩ := by
  unfold stop at h
  split at h
  · exact .inl h
  · exact mem_report.1 h

theorem stop_audio (a : AudioBox) : a.stop.audio = a.audio := by
  unfold stop
  split <;> rfl

theorem Drained.stop {a : AudioBox} (h : a.Drained) : a.stop.Drained := by
  intro r hr
  rcases mem_stop hr with hr | rfl
  · exact h r hr
  · simp

theorem OwnReports.stop {a : AudioBox} (h : a.OwnReports) : a.stop.OwnReports := by
  intro r hr hfinished
  rw [stop_audio]
  rcases mem_stop hr with hr | rfl
  · exact h r hr hfinished
  · rfl

/-- No command queues a `FINISHED` report. -/
theorem Drained.execute {a : AudioBox} (h : a.Drained) (c : PlayerCommand) :
    (a.execute c).Drained := by
  cases c with
  | play location => exact h.stop
  | stop => exact h.stop
  | pause =>
      dsimp only [AudioBox.execute]
      split <;> exact h
  | resume =>
      dsimp only [AudioBox.execute]
      split <;> exact h

theorem OwnReports.execute {a : AudioBox} (h : a.OwnReports) {c : PlayerCommand}
    (hc : ∀ location, c ≠ .play location) : (a.execute c).OwnReports := by
  cases c with
  | play location => exact absurd rfl (hc location)
  | stop => exact h.stop
  | pause =>
      dsimp only [AudioBox.execute]
      split <;> exact h
  | resume =>
      dsimp only [AudioBox.execute]
      split <;> exact h

theorem Drained.executeAll {a : AudioBox} (h : a.Drained) (commands : List PlayerCommand) :
    (a.executeAll commands).Drained := by
  induction commands with
  | nil => exact h
  | cons c commands ih => exact ih.execute c

theorem OwnReports.executeAll {a : AudioBox} (h : a.OwnReports) {commands : List PlayerCommand}
    (hc : ∀ location, .play location ∉ commands) : (a.executeAll commands).OwnReports := by
  induction commands with
  | nil => exact h
  | cons c commands ih =>
      have hrest := ih fun location hmem => hc location (List.mem_cons_of_mem c hmem)
      refine hrest.execute ?_
      rintro location rfl
      exact hc location List.mem_cons_self

/-! ## Steps of the box and of the pipeline -/

section

variable [CJson]

/-- A step of a task is one of the box. -/
theorem taskStep_step {a : AudioBox} {e : BoxEvent} {b : Box} (h : a.taskStep e = some b) :
    ∃ e', Box.step { a.box with commands := [] } e' = some b := by
  cases e with
  | pipeline writer => cases h
  | handler env => exact ⟨.handler { env with message := a.heard }, h⟩
  | read now data => exact ⟨.read now data, h⟩
  | write now address len data => exact ⟨.write now address len data, h⟩
  | ble now uuid value s => exact ⟨.ble now uuid value s, h⟩
  | station e => exact ⟨.station e, h⟩

/-! ## Runs -/

/-- A step that starts an audio finds the event interface without a `FINISHED` report. -/
def StartsDrained (a : AudioBox) : AudioEvent → Prop
  | .task e => ∀ b ∈ a.taskStep e, b.plays ≠ [] → a.Drained
  | _ => True

/-- `SYS_WAIT_FOR_PLAYER` takes this `FINISHED` report in a handler step now. -/
def TakesFinished (a : AudioBox) (r : Report) : Prop :=
  a.box.Listens ∧ a.reports.head? = some r ∧ r.message = .finished

omit [CJson] in
theorem mem_remaining {a : AudioBox} {e : BoxEvent} {r : Report} (h : r ∈ a.remaining e) :
    r ∈ a.reports := by
  unfold remaining at h
  split at h
  · split at h
    · exact List.mem_of_mem_tail h
    · exact h
  · exact h

/-- **One step.** -/
theorem step_ownReports {a a' : AudioBox} {e : AudioEvent} (h : a.step e = some a')
    (hok : a.StartsDrained e) (hinv : a.OwnReports) : a'.OwnReports := by
  cases e with
  | task e =>
      obtain ⟨b, hb, rfl⟩ := Option.map_eq_some_iff.1 h
      by_cases hplays : b.plays = []
      -- the current audio stays the current one
      · have hleft : OwnReports { a with box := b, reports := a.remaining e } :=
          fun r hr => hinv r (mem_remaining hr)
        exact hleft.executeAll (Box.not_mem_of_plays hplays)
      -- another one starts, with no `FINISHED` report of the one before
      · have hdrained := hok b hb hplays
        have hleft : Drained { a with box := b, reports := a.remaining e } :=
          fun r hr => hdrained r (mem_remaining hr)
        exact (hleft.executeAll b.commands).own
  | ends =>
      obtain ⟨-, heq⟩ := Option.ite_none_right_eq_some.1 h
      obtain rfl := Option.some.inj heq
      exact hinv.report .finished
  | message =>
      obtain rfl := Option.some.inj h
      exact hinv.report .other

theorem taskStep_wait {a : AudioBox} (env : HandlerEnv) (hstate : a.box.state = .waitForPlayer) :
    a.taskStep (.handler env) =
      some (Box.handleWaitForPlayer { a.box with commands := [] }
        { env with message := a.heard }) := by
  unfold taskStep Box.step Box.handler
  simp only [hstate]

/-- Taking a `FINISHED` report, the wait goes on in its return state. -/
theorem takesFinished_goesOn {a a' : AudioBox} {env : HandlerEnv} {r : Report}
    (htakes : a.TakesFinished r) (h : a.step (.task (.handler env)) = some a') :
    a'.box.state = a.box.playerGoBackToState := by
  obtain ⟨⟨hstate, hear⟩, hhead, hfinished⟩ := htakes
  obtain ⟨b, hb, rfl⟩ := Option.map_eq_some_iff.1 h
  have hheard : a.heard = .finished := by
    unfold heard
    rw [hhead, Option.map_some, hfinished]
    rfl
  rw [taskStep_wait env hstate, hheard, Box.handleWaitForPlayer_listens] at hb
  · have hbox : b.state = a.box.playerGoBackToState := by
      rw [← Option.some.inj hb]
      rfl
    have hend := executeAll_box { a with box := b, reports := a.remaining (.handler env) } b.commands
    rw [hend]
    exact hbox
  · exact ⟨hstate, hear⟩

/-- **A completion is that of the current audio**, in runs in which every audio starts with no
`FINISHED` report left: a report that makes `SYS_WAIT_FOR_PLAYER` go on in its return state is of the
audio started last. -/
theorem completion_current {card : Card} {wifi : Wifi} {battery charging : UInt8}
    {a a' : AudioBox} {env : HandlerEnv} {r : Report}
    (hrun : Reached StartsDrained (boot card wifi battery charging) a) (htakes : a.TakesFinished r)
    (h : a.step (.task (.handler env)) = some a') :
    a'.box.state = a.box.playerGoBackToState ∧ r.audio = a.audio := by
  have hinv : a.OwnReports :=
    hrun.invariant (by simp [OwnReports, boot]) fun _ _ _ hinv hok hs => step_ownReports hs hok hinv
  exact ⟨takesFinished_goesOn htakes h,
    hinv r (List.mem_of_mem_head? htakes.2.1) htakes.2.2⟩

end

/-! ## A question that ends while an ear is pressed -/

instance [CJson] (a : AudioBox) : ∀ e : AudioEvent, Decidable (a.StartsDrained e)
  | .task e => inferInstanceAs (Decidable (∀ b ∈ a.taskStep e, b.plays ≠ [] → a.Drained))
  | .ends => inferInstanceAs (Decidable True)
  | .message => inferInstanceAs (Decidable True)

instance (a : AudioBox) (r : Report) : Decidable (a.TakesFinished r) :=
  inferInstanceAs (Decidable (_ ∧ _ ∧ _))

/-- A card with a toy whose first audio is a question, answered with the left ear, and with the tone of
the empty battery. -/
def questionToyCard : Card where
  dirs := [str "/sdcard", str "/sdcard/media", str "/sdcard/media/audio", str "/sdcard/media/toys",
    Box.toyFolder Downloader.uidX]
  files := [(Box.directionPath (uidText Downloader.uidX) (str "north"), Box.listText),
    (Box.verifyPath (uidText Downloader.uidX), []),
    (str "/sdcard/media/audio/a.mp3", str "HEADER_START\nT:1\nA:0\nHEADER_END\n"),
    (str "/sdcard/media/audio/aW.mp3", []),
    (str "/sdcard/media/audio/aC.mp3", []),
    (str "/sdcard/media/audio/b.mp3", []), (Box.batLowTone, [])]
  files_nodup := by decide +kernel
  files_in_dirs := by decide +kernel

def questionToy : AudioBox := boot questionToyCard (Wifi.boot none) 0 0

def handlerSteps (n : ℕ) : List AudioEvent := List.replicate n (.task Box.handlerStep)

/-- The toy is placed, and its question has been played to the end. -/
def questionEnded : List AudioEvent :=
  [.task (Box.tagFrame Downloader.uidX 100)] ++ handlerSteps 8 ++ [.ends]

/-- An ear is pressed before the handler looks; it is the right answer, and the audio for that starts. -/
def pressedAtEnd : List AudioEvent :=
  questionEnded ++ [.task Box.leftEarFrame] ++ handlerSteps 3

/-- The end of the question. -/
theorem questionEnded_completes : ∃ a a' r,
    @Reached Box.listParser (@StartsDrained Box.listParser) questionToy a ∧ a.TakesFinished r ∧
      @step Box.listParser a (.task Box.handlerStep) = some a' ∧
      a'.box.state = .waitQnaResp ∧ r.audio = a.audio := by
  let := Box.listParser
  have hends : (Runs.runGuarded step StartsDrained questionToy questionEnded).bind
      (fun a => (a.step (.task Box.handlerStep)).map fun _ =>
        decide (a.TakesFinished ⟨.finished, 1⟩ ∧ a.box.playerGoBackToState = .waitQnaResp)) =
      some true := by
    decide +kernel
  obtain ⟨a, ha, hlast⟩ := Option.bind_eq_some_iff.1 hends
  obtain ⟨a', ha', hready⟩ := Option.map_eq_some_iff.1 hlast
  obtain ⟨htakes, hback⟩ := of_decide_eq_true hready
  have hrun : Reached StartsDrained questionToy a := Runs.reached_of_runGuarded _ ha
  obtain ⟨hstate, haudio⟩ := completion_current hrun htakes ha'
  exact ⟨a, a', ⟨.finished, 1⟩, hrun, htakes, ha', hstate.trans hback, haudio⟩

/-- The wait for the audio of the answer takes the report of the question and goes on, while the
answer is still running. -/
theorem pressedAtEnd_completes : ∃ a a' r,
    @Reached Box.listParser (fun _ _ => True) questionToy a ∧ a.TakesFinished r ∧
      @step Box.listParser a (.task Box.handlerStep) = some a' ∧ a.box.writer = .running ∧
      a'.box.state = .playNext ∧ r.audio ≠ a.audio := by
  let := Box.listParser
  have hends : (Runs.runList step questionToy pressedAtEnd).bind
      (fun a => (a.step (.task Box.handlerStep)).map fun a' =>
        decide (a.TakesFinished ⟨.finished, 1⟩ ∧ a.box.writer = .running ∧
          a'.box.state = .playNext ∧ 1 ≠ a.audio)) = some true := by
    decide +kernel
  obtain ⟨a, ha, hlast⟩ := Option.bind_eq_some_iff.1 hends
  obtain ⟨a', ha', hready⟩ := Option.map_eq_some_iff.1 hlast
  obtain ⟨htakes, hwriter, hstate, haudio⟩ := of_decide_eq_true hready
  exact ⟨a, a', ⟨.finished, 1⟩, Runs.reached_of_runList _ ha, htakes, ha', hwriter, hstate, haudio⟩

end AudioBox

end Cubbies
