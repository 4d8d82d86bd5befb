import Cubbies.Proofs.Completions
import Cubbies.Proofs.ResumeWindow

set_option autoImplicit false

/-! # An interrupted question

`Player::resumePlaying` makes `SYS_PLAY_NEXT` the return state of whatever audio it resumes. A handler step
that starts no audio keeps the return state or is such a resumption (`handler_turns`), so that the end of
a question that was resumed is never followed by the wait for its answer
(`interrupted_loses_question`). -/

namespace Cubbies

open CString

namespace Box

/-! ## The return state and the audio files -/

/-- Where no audio is started, the return state stays, or becomes that of `Player::resumePlaying`. -/
structure Turns (b b' : Box) : Prop where
  plays : b.plays <+: b'.plays
  goBack : b'.plays = b.plays → b'.playerGoBackToState ∈ [b.playerGoBackToState, .playNext]

theorem Turns.of_eq {b b' : Box} (hplays : b'.plays = b.plays)
    (hback : b'.playerGoBackToState = b.playerGoBackToState) : Turns b b' := by
  refine ⟨?_, fun _ => ?_⟩
  · rw [hplays]
  · rw [hback]
    exact List.mem_cons_self

theorem Turns.refl (b : Box) : Turns b b := .of_eq rfl rfl

theorem Turns.trans {b₁ b₂ b₃ : Box} (h : Turns b₁ b₂) (h' : Turns b₂ b₃) : Turns b₁ b₃ := by
  refine ⟨h.plays.trans h'.plays, fun hplays => ?_⟩
  -- no audio in both together is none in each
  have hfirst : b₂.plays = b₁.plays :=
    (hplays ▸ h'.plays).eq_of_length_le h.plays.length_le
  have hback := h.goBack hfirst
  rcases List.mem_cons.1 (h'.goBack (hplays.trans hfirst.symm)) with hsame | hnext
  · rw [hsame]
    exact hback
  · exact List.mem_cons_of_mem _ hnext

theorem Turns.of_inert {b b' : Box} (h : Inert b b') : Turns b b' := by
  refine .of_eq ?_ h.goBack
  unfold Box.plays
  rw [h.commands]

/-- An audio is started: nothing is said of the return state. -/
theorem Turns.of_play {b b' : Box} {location : Bytes} (h : b'.plays = b.plays ++ [location]) :
    Turns b b' := by
  refine ⟨?_, fun hplays => ?_⟩
  · rw [h]
    exact List.prefix_append _ _
  · rw [h] at hplays
    exact absurd hplays (by simp)

/-- **What playing does to it.** -/
theorem playerClosed_turns : PlayerClosed Turns where
  trans := Turns.trans
  set _ hcommands hback := by
    refine .of_eq ?_ hback
    unfold Box.plays
    rw [hcommands]
  command b c hc := by
    cases c with
    | play location => exact absurd rfl (hc location)
    | _ => exact .of_eq (plays_command rfl) rfl
  play b now location goBack := .of_play (plays_playThen b now location goBack)
  resume _ := ⟨List.prefix_rfl, fun _ => List.mem_cons_of_mem _ List.mem_cons_self⟩

/-! ## The other states -/

theorem handleIdle_turns (b : Box) (now : ℕ) : Turns b (b.handleIdle now) := by
  have htoy (b : Box) : Turns b (b.idleToy now) := by
    unfold idleToy
    split
    · have hplaced : Turns b { b with toyPlacedOnce := true } := .of_eq rfl rfl
      dsimp only
      split
      · exact hplaced.trans (playerClosed_turns.toneThen _ now toyDetectTone .toyDetected)
      · exact .of_eq rfl rfl
    · exact .refl b
  have hremoval (b : Box) : Turns b (b.idleRemoval now) := by
    rw [idleRemoval_eq]
    split
    · exact .of_eq rfl rfl
    · exact .of_eq rfl rfl
  unfold handleIdle
  split
  · exact .of_eq rfl rfl
  · have hbattery : Turns b (b.batteryCheck now (b.setState now .init) b) :=
      playerClosed_turns.batteryCheck now (.of_eq rfl rfl) (.refl b)
    exact (hbattery.trans (htoy _)).trans (hremoval _)

theorem handleToyDetected_turns (b : Box) (now : ℕ) : Turns b (b.handleToyDetected now) := by
  unfold handleToyDetected
  dsimp only
  split
  · exact .of_eq rfl rfl
  · exact .of_eq rfl rfl

theorem handleInitWifiCheck_turns (b : Box) (env : HandlerEnv) :
    Turns b (b.handleInitWifiCheck env) := by
  unfold handleInitWifiCheck
  dsimp only
  split
  · exact .of_eq rfl rfl
  · exact .of_eq rfl rfl

theorem handleDownloadWifiConn_turns (b : Box) (env : HandlerEnv) :
    Turns b (b.handleDownloadWifiConn env) := by
  have hwifi : ∀ w, Turns b (b.setWifi w) := by
    intro w
    exact .of_eq rfl rfl
  unfold handleDownloadWifiConn
  dsimp only
  split_ifs
  · exact (hwifi _).trans (playerClosed_turns.toneThen _ env.now downloadStartTone .downloadToy)
  · exact .of_eq rfl rfl
  · exact .of_eq rfl rfl
  · exact .of_eq rfl rfl

section

variable [CJson]

theorem handleInitUserIdCheck_turns (b : Box) (env : HandlerEnv) :
    Turns b (b.handleInitUserIdCheck env) := by
  have hverify : Turns b (b.verifyUserIdWithServer env.verify).2 :=
    .of_inert (verifyUserIdWithServer_inert b env.verify)
  unfold handleInitUserIdCheck
  dsimp only
  split
  · exact hverify.trans (.of_eq rfl rfl)
  · exact hverify

/-- **A handler step** that starts no audio keeps the return state, or is a resumption. -/
theorem handler_turns {b b' : Box} {env : HandlerEnv} (h : b.handler env = some b') : Turns b b' := by
  cases handler_step h with
  | playing hother hstep => exact playerClosed_turns.handler hstep hother
  | idle => exact handleIdle_turns b env.now
  | toyDetected => exact handleToyDetected_turns b env.now
  | initWifiCheck => exact handleInitWifiCheck_turns b env
  | initUserIdCheck => exact handleInitUserIdCheck_turns b env
  | downloadWifiConn => exact handleDownloadWifiConn_turns b env
  | downloadToy => exact .of_eq rfl rfl

/-! ## The other tasks -/

/-- The other tasks leave the return state alone. -/
theorem task_goBack {b b' : Box} {e : BoxEvent} (he : ∀ env, e ≠ .handler env)
    (h : b.step e = some b') : b'.playerGoBackToState = b.playerGoBackToState := by
  cases e with
  | handler env => exact absurd rfl (he env)
  | read now data =>
      obtain rfl := Option.some.inj h
      obtain ⟨state, tick, toy, presense, before, turnTable, commands, dl, battery, charging, uid,
        present, heq⟩ := readFrame_touches b now data
      rw [heq]
  | write now address len data =>
      obtain rfl := Option.some.inj h
      rcases writeFrame_outcome b now address len data with ⟨-, -, heq⟩ | ⟨-, -, -, heq⟩ |
        ⟨-, -, hback, -⟩
      · rw [heq]
        rfl
      · rw [heq]
        rfl
      · exact hback
  | ble now uuid value s =>
      obtain ⟨state, tick, ssid, password, user1, user2, dl, rfl⟩ := onWrite_fields h
      rfl
  | pipeline writer =>
      obtain rfl := Option.some.inj h
      rfl
  | station e =>
      obtain rfl := Option.some.inj h
      rfl

/-! ## Interruptions -/

/-- The step starts no audio. -/
def StartsNone (b : Box) (e : BoxEvent) : Prop := ∀ b' ∈ b.step e, b'.plays = b.plays

/-- A run of all tasks in which the audio that was started last stays the current one. -/
def Silently (b b' : Box) : Prop := Runs.Reached (fun b e b' => b.step e = some b') StartsNone b b'

omit [CJson] in
/-- A question or an activity is playing. -/
structure Prompts (b : Box) : Prop where
  state : b.state = .waitForPlayer
  goBack : b.playerGoBackToState ∈ [.waitQnaResp, .waitActivityResp]
  writer : b.writer = .running

/-- `SYS_TOY_DETECTED` finds this toy back in time, and in the direction it was removed in. -/
def FindsBack (b : Box) (toy : Bytes) (now : ℕ) : Prop :=
  b.state = .toyDetected ∧ b.toy = toy ∧ b.resumes now = true

/-- `SYS_RESUME_PLAYING` finds the audio paused. -/
def ResumesAudio (b : Box) : Prop := b.state = .resumePlaying ∧ b.writer = .paused

/-- `SYS_WAIT_FOR_PLAYER` takes the report that the audio has finished, and goes on. -/
def Finishes (b b' : Box) : Prop :=
  b.Listens ∧ ∃ env : HandlerEnv, env.message = .finished ∧ b.handler env = some b'

/-- The toy is removed and comes back in time; then its audio is resumed, and finishes. -/
inductive Interrupted (prompting : Box) (b' : Box) : Prop
  | resumed {now : ℕ} {data : Bytes} {back detected paused resumed ended : Box}
      {detects resumes : HandlerEnv} :
      prompting.Removes data → Silently (prompting.readFrame now data) back →
      back.FindsBack prompting.toy detects.now → back.handler detects = some detected →
      Silently detected paused → paused.ResumesAudio → paused.handler resumes = some resumed →
      Silently resumed ended → ended.Finishes b' → Interrupted prompting b'

/-- The run goes on in `SYS_WAIT_FOR_PLAYER` until the audio finishes. -/
inductive Uninterrupted (prompting : Box) (b' : Box) : Prop
  | finished {ended : Box} :
      Runs.Reached (fun b e b' => b.step e = some b') (fun b _ => b.state = .waitForPlayer) prompting
        ended →
      ended.Finishes b' → Uninterrupted prompting b'

theorem Finishes.state {b b' : Box} (h : b.Finishes b') : b'.state = b.playerGoBackToState := by
  obtain ⟨hlistens, env, hfinished, hstep⟩ := h
  rw [handler_waitForPlayer hlistens.1] at hstep
  obtain rfl := Option.some.inj hstep
  rw [handleWaitForPlayer_listens env hlistens, hfinished]
  rfl

/-- **After a resumption** the return state is `SYS_PLAY_NEXT`, until another audio is started. -/
theorem Silently.goBack {b b' : Box} (h : Silently b b') (hback : b.playerGoBackToState = .playNext) :
    b'.playerGoBackToState = .playNext := by
  refine h.invariant (I := fun b => b.playerGoBackToState = .playNext) hback ?_
  intro b e b' hnext hsilent hstep
  cases e with
  | handler env =>
      have hmem := (handler_turns hstep).goBack (hsilent b' hstep)
      rw [hnext] at hmem
      simpa using hmem
  | _ => exact (task_goBack (by simp) hstep).trans hnext

/-- While the box waits for the player, the return state stays. -/
theorem Uninterrupted.state {prompting b' : Box} (h : Uninterrupted prompting b') :
    b'.state = prompting.playerGoBackToState := by
  obtain ⟨hrun, hfinishes⟩ := h
  rw [hfinishes.state]
  refine hrun.invariant (I := fun b => b.playerGoBackToState = prompting.playerGoBackToState) rfl ?_
  intro b e b' hsame hwait hstep
  cases e with
  | handler env =>
      rw [step, handler_waitForPlayer hwait] at hstep
      obtain rfl := Option.some.inj hstep
      exact (handleWaitForPlayer_same b env).2.trans hsame
  | _ => exact (task_goBack (by simp) hstep).trans hsame

/-- The audio may finish right away. -/
theorem exists_uninterrupted {prompting : Box} (hlistens : prompting.Listens) :
    ∃ c, Uninterrupted prompting c := by
  have hstep := handler_waitForPlayer hlistens.1 (quietEnv 0 .finished)
  exact ⟨_, .finished .start ⟨hlistens, _, rfl, hstep⟩⟩

/-- The end of the resumed audio. -/
theorem Interrupted.state {prompting b' : Box} (h : Interrupted prompting b') :
    b'.state = .playNext := by
  obtain ⟨-, -, -, -, -, ⟨hstate, hpaused⟩, hresume, hsilent, hfinishes⟩ := h
  simp only [handler, hstate] at hresume
  obtain rfl := Option.some.inj hresume
  rw [hfinishes.state]
  refine hsilent.goBack ?_
  unfold Box.resumePlaying
  rw [if_pos hpaused]
  rfl

/-- **No interrupted question is asked to its end.** Whichever run it is, the end of the resumed audio is
followed by `SYS_PLAY_NEXT`; the end of the same audio without the interruption is followed by the wait
for the response. -/
theorem interrupted_loses_question {prompting b' : Box} (hprompts : prompting.Prompts)
    (h : Interrupted prompting b') :
    b'.state = .playNext ∧ b'.state ≠ prompting.playerGoBackToState ∧
      (∀ c, Uninterrupted prompting c → c.state = prompting.playerGoBackToState) ∧
      (prompting.Listens → ∃ c, Uninterrupted prompting c) := by
  have hnext := h.state
  refine ⟨hnext, ?_, fun c hc => hc.state, exists_uninterrupted⟩
  rw [hnext]
  intro hsame
  have hmem := hprompts.goBack
  rw [← hsame] at hmem
  exact absurd hmem (by decide)

end

/-! ## A question interrupted for a second -/

instance [CJson] (b : Box) (e : BoxEvent) : Decidable (b.StartsNone e) :=
  inferInstanceAs (Decidable (∀ b' ∈ b.step e, _))

instance (b : Box) (toy : Bytes) (now : ℕ) : Decidable (b.FindsBack toy now) :=
  inferInstanceAs (Decidable (_ ∧ _ ∧ _))

instance (b : Box) : Decidable b.ResumesAudio := inferInstanceAs (Decidable (_ ∧ _))

/-- The toy is placed, and its question starts. -/
def questionStarts : List BoxEvent :=
  [tagFrame Downloader.uidX 100] ++ List.replicate 8 handlerStep ++ [.pipeline .running]

/-- The frame in which the toy is gone, after a minute. -/
def goneFrame : Bytes := noUid.val ++ [100, 0]

/-- The audio is paused, and a second later the toy is back. -/
def secondAway : List BoxEvent :=
  [.pipeline .paused, .handler (quietEnv 60000000 .other)] ++ frameAndStep 61 Downloader.uidX

theorem question_interrupted : ∃ prompting b',
    @Reached listParser (fun _ _ => True) AudioBox.questionToyCard (Wifi.boot none) 0 0 prompting ∧
      prompting.Prompts ∧ prompting.Listens ∧ prompting.playerGoBackToState = .waitQnaResp ∧
      @Interrupted listParser prompting b' := by
  let := listParser
  have hends : ((Runs.runList step (boot AudioBox.questionToyCard (Wifi.boot none) 0 0)
      questionStarts).bind fun prompting =>
        (Runs.runGuarded step StartsNone (prompting.readFrame 60000000 goneFrame) secondAway).bind
          fun back => (back.handler backEnv).bind fun detected =>
            (detected.handler backEnv).bind fun resumed =>
              (Runs.runGuarded step StartsNone resumed [.pipeline .running]).bind fun ended =>
                (ended.handler (quietEnv 62000000 .finished)).map fun _ =>
                  decide ((prompting.state = .waitForPlayer ∧
                    prompting.playerGoBackToState = .waitQnaResp ∧ prompting.writer = .running) ∧
                    prompting.Listens ∧ prompting.Removes goneFrame ∧
                    back.FindsBack prompting.toy backEnv.now ∧ detected.ResumesAudio ∧
                    ended.Listens)) = some true := by
    decide +kernel
  obtain ⟨prompting, hstart, hends⟩ := Option.bind_eq_some_iff.1 hends
  obtain ⟨back, hback, hends⟩ := Option.bind_eq_some_iff.1 hends
  obtain ⟨detected, hdetects, hends⟩ := Option.bind_eq_some_iff.1 hends
  obtain ⟨resumed, hresumes, hends⟩ := Option.bind_eq_some_iff.1 hends
  obtain ⟨ended, hended, hends⟩ := Option.bind_eq_some_iff.1 hends
  obtain ⟨b', hfinish, hready⟩ := Option.map_eq_some_iff.1 hends
  obtain ⟨⟨hstate, hgoBack, hwriter⟩, hlistens, hremoves, hfinds, hpaused, hlast⟩ :=
    of_decide_eq_true hready
  refine ⟨prompting, b', Runs.reached_of_runList _ hstart, ⟨hstate, ?_, hwriter⟩, hlistens, hgoBack, ?_⟩
  · rw [hgoBack]
    exact List.mem_cons_self
  · exact .resumed hremoves (Runs.reached_of_runGuarded _ hback) hfinds hdetects .start hpaused
      hresumes (Runs.reached_of_runGuarded _ hended) ⟨hlast, _, rfl, hfinish⟩

/-- The next entry of the playlist follows, where the question would have waited for its answer. -/
theorem interrupted_loses_question_second : ∃ prompting b' : Box,
    @Reached listParser (fun _ _ => True) AudioBox.questionToyCard (Wifi.boot none) 0 0 prompting ∧
      b'.state = .playNext ∧ ∃ c, @Uninterrupted listParser prompting c ∧ c.state = .waitQnaResp := by
  obtain ⟨prompting, b', hreached, hprompts, hlistens, hgoBack, h⟩ := question_interrupted
  obtain ⟨hnext, -, hsame, hexists⟩ := @interrupted_loses_question listParser _ _ hprompts h
  obtain ⟨c, hc⟩ := hexists hlistens
  exact ⟨prompting, b', hreached, hnext, c, hc, (hsame c hc).trans hgoBack⟩

theorem question_lost : ¬ ∀ prompting b' c : Box,
    @Reached listParser (fun _ _ => True) AudioBox.questionToyCard (Wifi.boot none) 0 0 prompting →
      prompting.Prompts → @Interrupted listParser prompting b' → @Uninterrupted listParser prompting c →
      b'.state = c.state := by
  let := listParser
  intro hall
  obtain ⟨prompting, b', hreached, hprompts, hlistens, hgoBack, h⟩ := question_interrupted
  obtain ⟨c, hc⟩ := exists_uninterrupted hlistens
  have hsame := hall prompting b' c hreached hprompts h hc
  rw [h.state, hc.state, hgoBack] at hsame
  exact absurd hsame (by decide)

end Box

end Cubbies
