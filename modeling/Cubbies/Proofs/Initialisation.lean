import Cubbies.Proofs.Shutdown
import Cubbies.Proofs.TaskSteps

set_option autoImplicit false

/-! # How often the system is initialised

`SYS_INIT` builds the audio pipeline and starts the BLE server. `SYS_POST` leads to it, and so does
`SYS_IDLE`: its battery check is a copy of that of `SYS_POST`, and goes to `SYS_INIT` at a low level
while charging. Nothing else leads back (`position_step`), so the system is initialised once unless the
box is idle, with no toy on it, at a low level with the charger present (`initialised_once`). -/

namespace Cubbies

open CString

namespace Box

/-! ## What SYS_IDLE does with a low battery -/

/-- The battery check of `SYS_IDLE` goes to `SYS_INIT` and no toy takes the box from there. -/
def Reenters (b : Box) (now : ℕ) : Prop :=
  b.state = .idle ∧ timeSpent now b.idleSinceTick 300000 = false ∧ b.batteryLevel ≥ 28 ∧
    b.batteryLevel < 35 ∧ b.chargingState > 0 ∧ b.toyPresenseFlag = false

instance (b : Box) (now : ℕ) : Decidable (b.Reenters now) := inferInstanceAs (Decidable (_ ∧ _))

theorem batteryCheck_idle_iff {b : Box} (hstate : b.state = .idle) (now : ℕ) :
    (b.batteryCheck now (b.setState now .init) b).position = .init ↔
      b.batteryLevel ≥ 28 ∧ b.batteryLevel < 35 ∧ b.chargingState > 0 := by
  have hidle : b.position = .idle := position_of_state hstate (by simp)
  unfold batteryCheck
  split_ifs with hrange hcharging hlow
  · rw [position_setState (by simp)]
    exact iff_of_true rfl ⟨hrange.1, hrange.2, hcharging⟩
  · rw [position_toneThen (by simp)]
    exact iff_of_false (by simp) fun h => hcharging h.2.2
  · rw [position_setState (by simp)]
    exact iff_of_false (by simp) fun h => hrange ⟨h.1, h.2.1⟩
  · rw [hidle]
    exact iff_of_false (by simp) fun h => hrange ⟨h.1, h.2.1⟩

/-- **Exactly when idle leads to another initialisation.** -/
theorem handleIdle_position_iff {b : Box} (hstate : b.state = .idle) (now : ℕ) :
    (b.handleIdle now).position = .init ↔ b.Reenters now := by
  rw [handleIdle_position]
  split_ifs with hlong hpresent
  · refine iff_of_false (by simp) fun h => ?_
    rw [h.2.1] at hlong
    cases hlong
  · refine iff_of_false (by simp) fun h => ?_
    rw [h.2.2.2.2.2] at hpresent
    cases hpresent
  · rw [batteryCheck_idle_iff hstate]
    constructor
    · rintro ⟨hlower, hupper, hcharging⟩
      exact ⟨hstate, by simpa using hlong, hlower, hupper, hcharging, by simpa using hpresent⟩
    · rintro ⟨-, -, hlower, hupper, hcharging, -⟩
      exact ⟨hlower, hupper, hcharging⟩

/-- The state it leaves then is `SYS_INIT` itself. -/
theorem Reenters.state {b : Box} {now : ℕ} (h : b.Reenters now) : (b.handleIdle now).state = .init := by
  obtain ⟨-, hlong, hlower, hupper, hcharging, htoy⟩ := h
  have hcheck : b.batteryCheck now (b.setState now .init) b = b.setState now .init := by
    unfold batteryCheck
    rw [if_pos ⟨hlower, hupper⟩, if_pos hcharging]
  have hnone : (b.setState now .init).idleToy now = b.setState now .init := idleToy_of_absent now htoy
  unfold handleIdle
  rw [hlong, if_neg (by simp), hcheck, hnone, idleRemoval_eq]
  split <;> rfl

/-! ## After the initialisation -/

/-- The positions up to the initialisation. -/
def bootStates : List SystemState := [.post, .init]

theorem nextPositions_boot {s : SystemState} (hs : s ∉ bootStates) (hidle : s ≠ .idle) :
    ∀ p ∈ nextPositions s, p ∉ bootStates := by
  cases s <;> first | exact absurd rfl hidle | exact absurd (by decide) hs | decide

section

variable [CJson]

/-- **A step after the initialisation** stays after it, unless idle leads back. -/
theorem position_step {b b' : Box} {e : BoxEvent} (h : b.step e = some b')
    (hpos : b.position ∉ bootStates) (hidle : ∀ env, e = .handler env → ¬ b.Reenters env.now) :
    b'.position ∉ bootStates := by
  by_cases he : ∃ env, e = .handler env
  · obtain ⟨env, rfl⟩ := he
    by_cases hwait : b.state = .waitForPlayer
    · obtain rfl := Option.some.inj ((handler_waitForPlayer hwait env).symm.trans h)
      rcases (handleWaitForPlayer_keeps env hwait).2 with hsame | ⟨-, hnext⟩
      · rwa [hsame]
      · rw [hnext]
        decide
    · have hstate : b.state ∉ bootStates := position_of_state rfl hwait ▸ hpos
      have hnext := handler_position h hwait
      by_cases hat : b.state = .idle
      · have hinit : b'.position ≠ .init := by
          obtain rfl := Option.some.inj ((handler_idle hat env).symm.trans h)
          exact fun hinit => hidle env rfl ((handleIdle_position_iff hat env.now).1 hinit)
        rw [hat] at hnext
        intro hboot
        simp only [bootStates, nextPositions, List.mem_cons, List.not_mem_nil, or_false] at hboot hnext
        rcases hboot with hboot | hboot
        · rw [hboot] at hnext
          simp at hnext
        · exact hinit hboot
      · exact nextPositions_boot hstate hat _ hnext
  · rcases task_position (fun env henv => he ⟨env, henv⟩) h with hmoved | ⟨hsame, -⟩
    · revert hmoved
      generalize b'.position = p
      revert p
      decide
    · rwa [hsame]

/-! ## Runs from boot -/

/-- A handler step in `SYS_INIT`. -/
def initialises : Box × BoxEvent → Bool
  | (b, .handler _) => b.state = .init
  | _ => false

/-- The initialisations of a run. -/
def initialisations (trace : List (Box × BoxEvent)) : List (Box × BoxEvent) :=
  trace.filter initialises

/-- After an initialisation idle does not lead to another one. -/
def NeverReenters (trace : List (Box × BoxEvent)) : Prop :=
  ∀ before b env after, trace = before ++ (b, .handler env) :: after →
    initialisations before ≠ [] → ¬ b.Reenters env.now

/-- The runs from boot, with their history. -/
abbrev BootRun (card : Card) (wifi : Wifi) (battery charging : UInt8) :
    List (Box × BoxEvent) → Box → Prop :=
  Runs.Path (fun b e b' => step b e = some b') (fun _ _ => True) (boot card wifi battery charging)

end

theorem initialisations_snoc (trace : List (Box × BoxEvent)) (x : Box × BoxEvent) :
    initialisations (trace ++ [x]) =
      if initialises x then initialisations trace ++ [x] else initialisations trace := by
  unfold initialisations
  rw [List.filter_append, List.filter_singleton]
  cases initialises x <;> simp

theorem NeverReenters.left {trace : List (Box × BoxEvent)} {x : Box × BoxEvent}
    (h : NeverReenters (trace ++ [x])) : NeverReenters trace := by
  intro before b env after hsplit
  exact h before b env (after ++ [x]) (by rw [hsplit]; simp)

section

variable [CJson]

/-- Along a run: at most one initialisation, and after it the box is past it for good. -/
theorem BootRun.once {card : Card} {wifi : Wifi} {battery charging : UInt8}
    {trace : List (Box × BoxEvent)} {b : Box} (h : BootRun card wifi battery charging trace b)
    (hidle : NeverReenters trace) :
    (initialisations trace).length ≤ 1 ∧ (initialisations trace ≠ [] → b.position ∉ bootStates) := by
  induction h with
  | start => exact ⟨Nat.zero_le 1, fun h => absurd rfl h⟩
  | @step trace b b' e hrun _ hstep ih =>
      obtain ⟨honce, hpast⟩ := ih hidle.left
      rw [initialisations_snoc]
      split
      · next hinit =>
          -- the first initialisation: a second one would start before `SYS_INIT` again
          cases e with
          | handler env =>
              have hstate : b.state = .init := by simpa [initialises] using hinit
              have hpos : b.position = .init := position_of_state hstate (by simp)
              have hfirst : initialisations trace = [] := by
                by_contra hsome
                exact hpast hsome (by rw [hpos]; decide)
              obtain rfl := Option.some.inj ((handler_init hstate env).symm.trans hstep)
              rw [hfirst, (handleInit_keeps b env.now).2]
              exact ⟨le_rfl, fun _ => by decide⟩
          | _ => cases hinit
      · refine ⟨honce, fun hsome => position_step hstep (hpast hsome) ?_⟩
        rintro env rfl
        exact hidle trace b env [] rfl hsome

/-- **One initialisation per boot.** In every run from boot the system is initialised at most once,
unless after an initialisation `SYS_IDLE` runs with no toy on the box, at 28 to 34 percent with the
charger present, and less than five minutes idle. Wherever it does, the next handler step initialises
the system again. -/
theorem initialised_once {card : Card} {wifi : Wifi} {battery charging : UInt8}
    {trace : List (Box × BoxEvent)} {b : Box} (h : BootRun card wifi battery charging trace b) :
    (NeverReenters trace → (initialisations trace).length ≤ 1) ∧
      ∀ env env', initialisations trace ≠ [] → b.Reenters env.now →
        ∃ b₁ b₂, BootRun card wifi battery charging
            (trace ++ [(b, .handler env)] ++ [(b₁, .handler env')]) b₂ ∧
          1 < (initialisations (trace ++ [(b, .handler env)] ++ [(b₁, .handler env')])).length := by
  refine ⟨fun hidle => (h.once hidle).1, fun env env' hsome hre => ?_⟩
  have hinit : initialises (b.handleIdle env.now, .handler env') = true := by
    simpa [initialises] using hre.state
  have hpass : initialises (b, .handler env) = false := by simp [initialises, hre.1]
  refine ⟨b.handleIdle env.now, (b.handleIdle env.now).handleInit env'.now,
    .step (.step h trivial (handler_idle hre.1 env)) trivial (handler_init hre.state env'), ?_⟩
  rw [initialisations_snoc, initialisations_snoc, hinit, hpass, if_pos rfl, if_neg (by simp),
    List.length_append]
  have hpos := List.length_pos_iff.2 hsome
  exact Nat.succ_lt_succ hpos

end

/-! ## Concrete runs -/

def batteryFrame (level : UInt8) : BoxEvent := .write 0 0x9000 1 [level]

def chargerFrame : BoxEvent := .write 0 0x8000 1 [1]

/-- The battery is reported before the handler runs three times. -/
def fullStart : List BoxEvent := [batteryFrame 80, handlerStep, handlerStep, handlerStep]

/-- The same with a low battery and the charger, and one more handler step. -/
def chargingStart : List BoxEvent :=
  [batteryFrame 30, chargerFrame, handlerStep, handlerStep, handlerStep, handlerStep]

/-- Whether this is a step of `SYS_IDLE` that leads back. -/
def reenters : Box × BoxEvent → Bool
  | (b, .handler env) => b.Reenters env.now
  | _ => false

theorem neverReenters_of_all {trace : List (Box × BoxEvent)}
    (h : (trace.all fun x => !reenters x) = true) : NeverReenters trace := by
  rintro before b env after rfl - hre
  have hnot := List.all_eq_true.1 h (b, .handler env) (by simp)
  simp [reenters, hre] at hnot

def startBox : Box := boot toneCard (Wifi.boot none) 0 0

/-- What happens at every event of a start. -/
def startHistory (es : List BoxEvent) : List (Box × BoxEvent) :=
  Runs.history (@step writeParser) startBox es

theorem startHistory_run (es : List BoxEvent)
    (h : (Runs.runGuarded (@step writeParser) (fun _ _ => True) startBox es).isSome = true) :
    ∃ b, @BootRun writeParser toneCard (Wifi.boot none) 0 0 (startHistory es) b := by
  obtain ⟨b, hb⟩ := Option.isSome_iff_exists.1 h
  exact ⟨b, Runs.path_of_runGuarded es hb⟩

/-- With a full battery it is one. -/
theorem initialised_once_full : (initialisations (startHistory fullStart)).length ≤ 1 := by
  obtain ⟨b, hrun⟩ := startHistory_run fullStart (by decide +kernel)
  exact (@initialised_once writeParser _ _ _ _ _ _ hrun).1 (neverReenters_of_all (by decide +kernel))

/-- With a low battery on the charger `SYS_IDLE` starts over. -/
theorem initialised_not_once :
    ¬ ∀ (trace : List (Box × BoxEvent)) (b : Box),
      @BootRun writeParser toneCard (Wifi.boot none) 0 0 trace b →
        (initialisations trace).length ≤ 1 := by
  intro h
  obtain ⟨b, hrun⟩ := startHistory_run chargingStart (by decide +kernel)
  have honce := h _ b hrun
  revert honce
  decide +kernel

end Box

end Cubbies
