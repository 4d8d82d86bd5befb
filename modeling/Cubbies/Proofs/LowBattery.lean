import Cubbies.Proofs.Shutdown

set_option autoImplicit false

/-! # The low battery policy

Four states of the handler check the battery, each with its own copy of the same code. Two of the ways
towards playing are left open: `SYS_IDLE` goes on to the toy after its check, which overwrites the
decision to shut down, and `SYS_PLAY_PREVIOUS` does not check at all. `lowBattery_policy` says that
these are the only ones. -/

namespace Cubbies

open CString

namespace Box

/-- The states from which the box can go towards playing. -/
def decisionStates : List SystemState := [.post, .idle, .getDirection, .playNext, .playPrevious]

/-- The states in which the box is about to play, or to look for something to play. -/
def contentStates : List SystemState := [.init, .toyDetected, .readAudioHeader]

/-- The battery is below 28, or below 35 with the charger absent. -/
def LowBattery (b : Box) : Prop :=
  b.batteryLevel < 28 ∨ (28 ≤ b.batteryLevel ∧ b.batteryLevel ≤ 34 ∧ b.chargingState = 0)

instance (b : Box) : Decidable b.LowBattery := inferInstanceAs (Decidable (_ ∨ _))

/-- What the policy asks of a step from `b` to `b'`: the box does not move towards playing, at once or
after a tone, and from power-on and idle it shuts down. -/
structure Spares (b b' : Box) : Prop where
  content : b'.position ∉ contentStates
  shutDown : b.state ∈ [SystemState.post, .idle] → b'.position = .shutMeDown

/-! ## The check -/

/-- **The battery check** with a low battery decides for the shutdown. -/
theorem batteryCheck_low {b : Box} (hlow : b.LowBattery) (now : ℕ) (charging full : Box) :
    Keeps b (b.batteryCheck now charging full) ∧
      (b.batteryCheck now charging full).position = .shutMeDown := by
  have hshut : Keeps b (b.setState now .shutMeDown) ∧
      (b.setState now .shutMeDown).position = .shutMeDown :=
    ⟨.setState b now _, position_setState (by simp)⟩
  have htone : Keeps b (b.toneThen now batLowTone .shutMeDown) ∧
      (b.toneThen now batLowTone .shutMeDown).position = .shutMeDown :=
    ⟨.toneThen b now _ isTone_batLowTone, position_toneThen (by simp)⟩
  unfold batteryCheck
  rcases hlow with hlevel | ⟨hlower, hupper, hcharging⟩
  · rw [if_neg fun h => absurd hlevel (UInt8.not_lt.2 h.1), if_pos hlevel]
    exact hshut
  · have hrange : b.batteryLevel ≥ 28 ∧ b.batteryLevel < 35 := by
      refine ⟨hlower, ?_⟩
      rw [UInt8.lt_iff_toNat_lt]
      rw [UInt8.le_iff_toNat_le] at hupper
      exact Nat.lt_succ_of_le hupper
    rw [if_pos hrange, if_neg (by rw [hcharging]; decide)]
    exact htone

theorem readOrShutDown_low {b : Box} (hlow : b.LowBattery) (now : ℕ) :
    (b.readOrShutDown now).position = .shutMeDown := (batteryCheck_low hlow now _ _).2

/-! ## One lemma for each state -/

theorem spares_of_position {b b' : Box} (h : b'.position = .shutMeDown) : b.Spares b' :=
  ⟨by rw [h]; decide, fun _ => h⟩

/-- **Idle with a low battery**: the toy on the box wins over the check. -/
theorem handleIdle_low {b : Box} (hlow : b.LowBattery) (now : ℕ) :
    (b.handleIdle now).position =
      if timeSpent now b.idleSinceTick 300000 ∨ b.toyPresenseFlag = false then .shutMeDown
      else .toyDetected := by
  rw [handleIdle_position, (batteryCheck_low hlow now _ _).2]
  cases timeSpent now b.idleSinceTick 300000 with
  | true => simp
  | false => cases b.toyPresenseFlag <;> simp

theorem handleGetDirection_low [CJson] {b : Box} (hlow : b.LowBattery) (now : ℕ) :
    (b.handleGetDirection now).position ∉ contentStates := by
  unfold handleGetDirection
  split
  · rw [position_setState (by simp)]
    decide
  · split
    · next content _ =>
        have hloaded : (b.loadPlaylist content).LowBattery := hlow
        rw [(showTheme_keeps _).2, readOrShutDown_low hloaded now]
        decide
    · rw [(showTheme_keeps _).2, position_setState (by simp)]
      decide

theorem handlePlayNext_low {b : Box} (hlow : b.LowBattery) (now : ℕ) :
    (b.handlePlayNext now).position ∉ contentStates := by
  have hadvanced : b.advance.LowBattery := by
    unfold advance skipCurrentAudio
    split <;> exact hlow
  unfold handlePlayNext
  dsimp only
  split
  · rw [position_setState (by simp)]
    decide
  · rw [readOrShutDown_low hadvanced now]
    decide

/-! ## The policy -/

section

variable [CJson]

/-- A handler step from one of these states with a low battery meets the policy. -/
def KeepsPolicy (b : Box) : BoxEvent → Prop
  | .handler env =>
      b.state ∈ decisionStates → b.LowBattery → ∃ b', b.handler env = some b' ∧ b.Spares b'
  | _ => True

/-- With a low battery the handler does not step back in the playlist, and runs `SYS_IDLE` with a toy on
the box only once the box has been idle for five minutes. -/
def ChecksBattery (b : Box) : BoxEvent → Prop
  | .handler env =>
      b.LowBattery → b.state ≠ .playPrevious ∧
        (b.state = .idle →
          timeSpent env.now b.idleSinceTick 300000 = true ∨ b.toyPresenseFlag = false)
  | _ => True

/-- **One step** keeps the policy exactly if a check of the battery has the last word in it. -/
theorem keepsPolicy_iff (b : Box) (env : HandlerEnv) (hstate : b.state ∈ decisionStates)
    (hlow : b.LowBattery) :
    (∃ b', b.handler env = some b' ∧ b.Spares b') ↔
      b.state ≠ .playPrevious ∧
        (b.state = .idle →
          timeSpent env.now b.idleSinceTick 300000 = true ∨ b.toyPresenseFlag = false) := by
  have hcases : b.state = .post ∨ b.state = .idle ∨ b.state = .getDirection ∨ b.state = .playNext ∨
      b.state = .playPrevious := by
    simpa [decisionStates] using hstate
  rcases hcases with h | h | h | h | h
  · refine iff_of_true ⟨b.handlePost env.now, by rw [handler, h], ?_⟩ ?_
    · exact spares_of_position (batteryCheck_low hlow env.now _ _).2
    · rw [h]
      exact ⟨by simp, fun hidle => by cases hidle⟩
  · have hidle := handleIdle_low hlow env.now
    have hstep : b.handler env = some (b.handleIdle env.now) := by rw [handler, h]
    by_cases hshut : timeSpent env.now b.idleSinceTick 300000 = true ∨ b.toyPresenseFlag = false
    · rw [if_pos hshut] at hidle
      refine iff_of_true ⟨_, hstep, spares_of_position hidle⟩ ⟨?_, fun _ => hshut⟩
      rw [h]
      simp
    · rw [if_neg hshut] at hidle
      refine iff_of_false ?_ fun hok => hshut (hok.2 h)
      rintro ⟨b', hb', hspares⟩
      obtain rfl := Option.some.inj (hstep.symm.trans hb')
      exact hspares.content (hidle ▸ by decide)
  · refine iff_of_true ⟨b.handleGetDirection env.now, by rw [handler, h], ?_⟩ ?_
    · refine ⟨handleGetDirection_low hlow env.now, fun hmem => ?_⟩
      rw [h] at hmem
      exact absurd hmem (by decide)
    · rw [h]
      exact ⟨by simp, fun hidle => by cases hidle⟩
  · refine iff_of_true ⟨b.handlePlayNext env.now, by rw [handler, h], ?_⟩ ?_
    · refine ⟨handlePlayNext_low hlow env.now, fun hmem => ?_⟩
      rw [h] at hmem
      exact absurd hmem (by decide)
    · rw [h]
      exact ⟨by simp, fun hidle => by cases hidle⟩
  · refine iff_of_false ?_ fun hok => hok.1 h
    rintro ⟨b', hb', hspares⟩
    have hstep : b.handler env = some (b.handlePlayPrevious env.now) := by rw [handler, h]
    obtain rfl := Option.some.inj (hstep.symm.trans hb')
    obtain ⟨-, -, hpos⟩ := handlePlayPrevious_keeps b env.now
    exact hspares.content (hpos ▸ by decide)

/-- **The low battery policy is kept except by two ways through the handler.** In a run of steps that
have their battery checked, every handler step from a decision state with a low battery keeps the
policy, and the next step does exactly if its battery is checked as well. -/
theorem lowBattery_policy {card : Card} {wifi : Wifi} {battery charging : UInt8}
    {trace : List (Box × BoxEvent)} {b : Box}
    (h : Runs.Path (fun b e b' => step b e = some b') ChecksBattery (boot card wifi battery charging)
      trace b) :
    (∀ x ∈ trace, x.1.KeepsPolicy x.2) ∧
      ∀ env, b.state ∈ decisionStates → b.LowBattery →
        (b.KeepsPolicy (.handler env) ↔ b.ChecksBattery (.handler env)) := by
  constructor
  · rintro ⟨b, e⟩ hmem
    have hok := h.forall_ok _ hmem
    cases e with
    | handler env => exact fun hstate hlow => (keepsPolicy_iff b env hstate hlow).2 (hok hlow)
    | _ => trivial
  · intro env hstate hlow
    have hstep := keepsPolicy_iff b env hstate hlow
    exact ⟨fun hkeeps _ => hstep.1 (hkeeps hstate hlow), fun hok _ _ => hstep.2 (hok hlow)⟩

/-- Two evaluations show that a handler step after these events goes towards playing with a low
battery. -/
theorem breaksPolicy_of_runs {b₀ : Box} (before : List BoxEvent) (env : HandlerEnv)
    (hbefore : (Runs.runList step b₀ before).map
      (fun b => decide (b.state ∈ decisionStates ∧ b.LowBattery)) = some true)
    (hafter : (Runs.runList step b₀ (before ++ [.handler env])).map
      (fun b' => decide (b'.position ∈ contentStates)) = some true) :
    ∃ b, Runs.Reached (fun b e b' => step b e = some b') (fun _ _ => True) b₀ b ∧
      ¬ b.KeepsPolicy (.handler env) := by
  obtain ⟨b, hb, hstate⟩ := Option.map_eq_some_iff.1 hbefore
  obtain ⟨b₂, hb₂, hcontent⟩ := Option.map_eq_some_iff.1 hafter
  rw [Runs.runList_append, hb, Option.bind_some] at hb₂
  obtain ⟨b₁, hb₁, hrest⟩ := Option.bind_eq_some_iff.1 hb₂
  obtain rfl := Option.some.inj hrest
  refine ⟨b, Runs.reached_of_runList _ hb, ?_⟩
  intro hkeeps
  obtain ⟨hdecision, hlow⟩ := of_decide_eq_true hstate
  obtain ⟨b', hb', hspares⟩ := hkeeps hdecision hlow
  obtain rfl := Option.some.inj (hb'.symm.trans hb₁)
  exact hspares.content (of_decide_eq_true hcontent)

end

/-! ## The two ways left open -/

/-- A box comes up with a good battery, and then a toy is placed while the level is down to 20: the
handler goes on to the toy. A box whose battery is used up shuts down, goes through the playlist to
another shutdown when the button for the next audio is pressed during the tone, and on to an audio when
the one for the previous audio is. -/
theorem lowBattery_ignored :
    (∃ b, Runs.Reached (fun b e b' => @step writeParser b e = some b') (fun _ _ => True)
        (boot Downloader.sampleCard (Wifi.boot none) 50 0) b ∧
      ¬ @KeepsPolicy writeParser b (.handler (quietEnv 0 .other))) ∧
    ∃ b, Runs.Reached (fun b e b' => @step writeParser b e = some b') (fun _ _ => True)
        chargedBox b ∧
      ¬ @KeepsPolicy writeParser b (.handler (quietEnv 0 .other)) := by
  constructor
  · exact @breaksPolicy_of_runs writeParser _
      [handlerStep, handlerStep, tagFrame Downloader.uidX 20] (quietEnv 0 .other)
      (by decide +kernel) (by decide +kernel)
  · exact @breaksPolicy_of_runs writeParser _ (secondShutdown ++ [handlerStep, previousFrame])
      (quietEnv 0 .other) (by decide +kernel) (by decide +kernel)

/-- A power-on with an empty battery goes on to the shutdown. -/
theorem emptyBattery_spared :
    ∃ b', @Box.handler writeParser emptyBattery (quietEnv 0 .other) = some b' ∧
      emptyBattery.Spares b' := by
  have hok : ChecksBattery emptyBattery handlerStep :=
    fun _ => ⟨by decide, fun hidle => by cases hidle⟩
  have hpath : Runs.Path (fun b e b' => @step writeParser b e = some b') ChecksBattery
      emptyBattery [(emptyBattery, handlerStep)] (emptyBattery.handlePost 0) :=
    .step .start hok rfl
  exact (@lowBattery_policy writeParser _ _ _ _ _ _ hpath).1 _ (List.mem_singleton_self _)
    (by decide) (by decide)

end Box

end Cubbies
