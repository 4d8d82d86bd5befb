import Cubbies.Proofs.PlayerFrame
import Cubbies.Proofs.ContentOfToy

set_option autoImplicit false

/-! # The resume window

`SYS_IDLE` records when it first finds the toy gone, `SYS_TOY_DETECTED` compares that tick when the same
toy is back. The tick is written in these two states only (`handler_memory`), so that it is the one
recorded for the last removal as long as each removal finds it cleared (`resume_window`). It is not
cleared when another toy is detected: `staleRun` compares the tick of an earlier removal. -/

namespace Cubbies

open CString

namespace Box

/-! ## Who writes the tick -/

/-- The memory of the toy before is as it was. -/
def KeepsMemory (b b' : Box) : Prop := b'.memory = b.memory

theorem KeepsLasting.memory {b b' : Box} (h : KeepsLasting b b') : KeepsMemory b b' :=
  congrArg Lasting.memory h

theorem handleDownloadWifiConn_memory (b : Box) (env : HandlerEnv) :
    KeepsMemory b (b.handleDownloadWifiConn env) := by
  unfold handleDownloadWifiConn
  dsimp only
  split_ifs
  · exact (playerClosed_lasting.toneThen (b.setWifi _) env.now downloadStartTone .downloadToy).memory
  · rfl
  · rfl
  · rfl

theorem handleInitWifiCheck_memory (b : Box) (env : HandlerEnv) :
    KeepsMemory b (b.handleInitWifiCheck env) := by
  unfold handleInitWifiCheck
  dsimp only
  split <;> rfl

section

variable [CJson]

theorem handleInitUserIdCheck_memory (b : Box) (env : HandlerEnv) :
    KeepsMemory b (b.handleInitUserIdCheck env) := by
  have hmemory := (verifyUserIdWithServer_inert b env.verify).memory
  unfold handleInitUserIdCheck
  dsimp only
  split
  · exact hmemory
  · exact hmemory

end

/-! ## What a step writes -/

/-- `SYS_IDLE` records the time: the toy is gone, and no tick is there. -/
def RecordsTick (b : Box) (now : ℕ) : Prop :=
  b.state = .idle ∧ timeSpent now b.idleSinceTick 300000 = false ∧ b.toyPresenseFlag = false ∧
    b.toyPlacedOnce = true ∧ b.toyRemovalTick = 0

instance (b : Box) (now : ℕ) : Decidable (b.RecordsTick now) :=
  inferInstanceAs (Decidable (_ ∧ _ ∧ _ ∧ _ ∧ _))

/-- What a handler step does to the memory of the toy before. -/
inductive MemoryOutcome (b : Box) (now : ℕ) (b' : Box) : Prop
  | keeps : ¬ b.RecordsTick now → KeepsMemory b b' → MemoryOutcome b now b'
  | records : b.RecordsTick now →
      b'.memory = { b.memory with toyRemovalTick := getStartTime now } → MemoryOutcome b now b'
  | places : ¬ b.RecordsTick now → b.toyPresenseFlag = true →
      b'.memory = { b.memory with toyPlacedOnce := true } → MemoryOutcome b now b'
  | clears : ¬ b.RecordsTick now → b'.memory = { b.memory with toyRemovalTick := 0 } →
      MemoryOutcome b now b'

/-- The removal part of `SYS_IDLE` writes the tick only. -/
theorem idleRemoval_memory (b : Box) (now : ℕ) :
    (b.idleRemoval now).memory = { b.memory with toyRemovalTick := b.removalTick now } := by
  rw [idleRemoval_eq]
  split <;> rfl

theorem idleToy_of_present {b : Box} (now : ℕ) (hpresent : b.toyPresenseFlag = true) :
    (b.idleToy now).memory = { b.memory with toyPlacedOnce := true } ∧
      (b.idleToy now).toyPresenseFlag = true := by
  have hcore := (idleToy_keeps b now).1.core
  refine ⟨?_, (congrArg Core.toyPresenseFlag hcore).trans hpresent⟩
  unfold idleToy
  rw [if_pos hpresent]
  dsimp only
  split
  · have htone := playerClosed_lasting.toneThen { b with toyPlacedOnce := true } now toyDetectTone
      .toyDetected
    exact htone.memory
  · rfl

/-- The two parts of `SYS_IDLE` together: a toy that is there has been placed, for one that is not
there is the tick. -/
theorem idleParts_memory (b : Box) (now : ℕ) :
    ((b.idleToy now).idleRemoval now).memory =
      if b.toyPresenseFlag then { b.memory with toyPlacedOnce := true }
      else { b.memory with toyRemovalTick := b.removalTick now } := by
  rw [idleRemoval_memory]
  cases hpresent : b.toyPresenseFlag with
  | true =>
      -- the toy part has set the flag the removal part looks at
      obtain ⟨hmemory, hthere⟩ := idleToy_of_present now hpresent
      have htick : (b.idleToy now).removalTick now = b.toyRemovalTick := by
        unfold removalTick
        rw [if_neg fun h => h.1 hthere]
        exact congrArg Memory.toyRemovalTick hmemory
      rw [if_pos rfl, htick, hmemory]
      rfl
  | false => rw [if_neg (by simp), idleToy_of_absent now hpresent]

theorem removalTick_congr {b b₁ : Box} (now : ℕ) (hmemory : KeepsMemory b b₁)
    (hflag : b₁.toyPresenseFlag = b.toyPresenseFlag) : b₁.removalTick now = b.removalTick now := by
  have htick : b₁.toyRemovalTick = b.toyRemovalTick := congrArg Memory.toyRemovalTick hmemory
  have honce : b₁.toyPlacedOnce = b.toyPlacedOnce := congrArg Memory.toyPlacedOnce hmemory
  unfold removalTick
  rw [htick, honce, hflag]

theorem handleIdle_outcome {b : Box} (now : ℕ) (hstate : b.state = .idle) :
    MemoryOutcome b now (b.handleIdle now) := by
  unfold handleIdle
  split
  · next hspent =>
      have hnot : ¬ b.RecordsTick now := by
        intro h
        rw [h.2.1] at hspent
        exact absurd hspent (by simp)
      exact .keeps hnot rfl
  · next hspent =>
      -- the battery check may move the box, but keeps what the two parts look at
      have hbattery : KeepsMemory b (b.batteryCheck now (b.setState now .init) b) :=
        (playerClosed_lasting.batteryCheck now (playerClosed_lasting.setState b now .init) rfl).memory
      have hcore := (idleBattery_keeps b now).core
      generalize b.batteryCheck now (b.setState now .init) b = b₁ at hbattery hcore ⊢
      have hflag : b₁.toyPresenseFlag = b.toyPresenseFlag := congrArg Core.toyPresenseFlag hcore
      have hparts := idleParts_memory b₁ now
      rw [removalTick_congr now hbattery hflag, hflag, hbattery] at hparts
      cases hpresent : b.toyPresenseFlag with
      | true =>
          rw [if_pos hpresent] at hparts
          have hnot : ¬ b.RecordsTick now := by
            intro h
            exact absurd (hpresent.symm.trans h.2.2.1) (by simp)
          exact .places hnot hpresent hparts
      | false =>
          rw [if_neg (by simp [hpresent])] at hparts
          by_cases hrecords : b.RecordsTick now
          · refine .records hrecords ?_
            obtain ⟨-, -, -, honce, hzero⟩ := hrecords
            have htick : b.removalTick now = getStartTime now :=
              if_pos ⟨by simp [hpresent], honce, hzero⟩
            rw [hparts, htick]
          · refine .keeps hrecords ?_
            have htick : b.removalTick now = b.toyRemovalTick := by
              refine if_neg ?_
              rintro ⟨-, honce, hzero⟩
              exact hrecords ⟨hstate, by simpa using hspent, hpresent, honce, hzero⟩
            show ((b₁.idleToy now).idleRemoval now).memory = b.memory
            rw [hparts, htick]
            rfl

theorem handleToyDetected_next (b : Box) (now : ℕ) :
    (b.handleToyDetected now).state =
      if b.resumes now then .resumePlaying else if b.downloaded then .playToy
      else .downloadWifiConn := by
  unfold handleToyDetected
  dsimp only
  split <;> rfl

theorem handleToyDetected_outcome {b : Box} (now : ℕ) (hstate : b.state = .toyDetected) :
    MemoryOutcome b now (b.handleToyDetected now) := by
  have hnot : ¬ b.RecordsTick now := by
    intro h
    rw [h.1] at hstate
    exact absurd hstate (by simp)
  unfold handleToyDetected
  dsimp only
  split
  · exact .clears hnot rfl
  · exact .keeps hnot rfl

section

variable [CJson]

/-- **One handler step.** -/
theorem handler_memory {b b' : Box} {env : HandlerEnv} (h : b.handler env = some b') :
    MemoryOutcome b env.now b' := by
  have hkeeps {s : SystemState} (hstate : b.state = s) (hs : s ≠ .idle)
      (hmemory : KeepsMemory b b') : MemoryOutcome b env.now b' := by
    refine .keeps ?_ hmemory
    intro hrecords
    exact hs (hstate.symm.trans hrecords.1)
  cases handler_step h with
  | playing hother hstep =>
      have hidle : b.state ≠ .idle := by
        intro hidle
        rw [hidle] at hother
        exact hother (by decide)
      exact hkeeps rfl hidle (playerClosed_lasting.handler hstep hother).memory
  | idle hstate => exact handleIdle_outcome env.now hstate
  | toyDetected hstate => exact handleToyDetected_outcome env.now hstate
  | initWifiCheck hstate => exact hkeeps hstate (by simp) (handleInitWifiCheck_memory b env)
  | initUserIdCheck hstate => exact hkeeps hstate (by simp) (handleInitUserIdCheck_memory b env)
  | downloadWifiConn hstate => exact hkeeps hstate (by simp) (handleDownloadWifiConn_memory b env)
  | downloadToy hstate => exact hkeeps hstate (by simp) rfl

/-! ## The last removal -/

/-- The last removal of a toy in a run, and the time at which `SYS_IDLE` recorded it. -/
structure Removal where
  toy : Bytes
  recorded : Option ℕ

/-- What one more step makes of it. -/
def observe (last : Option Removal) : Box × BoxEvent → Option Removal
  | (b, .read _ data) => if b.Removes data then some ⟨b.toy, none⟩ else last
  | (b, .handler env) =>
      if b.RecordsTick env.now then last.map fun r => { r with recorded := some env.now } else last
  | _ => last

def lastRemoval (trace : List (Box × BoxEvent)) : Option Removal := trace.foldl observe none

omit [CJson] in
theorem lastRemoval_snoc (trace : List (Box × BoxEvent)) (x : Box × BoxEvent) :
    lastRemoval (trace ++ [x]) = observe (lastRemoval trace) x := by
  unfold lastRemoval
  rw [List.foldl_append]
  rfl

/-- `SYS_TOY_DETECTED` is about to compare the tick. -/
def ComparesTick (b : Box) : Prop :=
  b.state = .toyDetected ∧ b.toy = b.previousToy ∧ b.downloaded = true ∧
    b.previousTurntable = b.turnTable

instance (b : Box) : Decidable b.ComparesTick := inferInstanceAs (Decidable (_ ∧ _ ∧ _ ∧ _))

/-- The tick is the one `SYS_IDLE` recorded at the time `t`, after the last removal, which was that of
the toy that is back. -/
def TickRecorded (trace : List (Box × BoxEvent)) (b : Box) (t : ℕ) : Prop :=
  lastRemoval trace = some ⟨b.toy, some t⟩ ∧ b.toyRemovalTick = getStartTime t

/-- The steps that leave the tick in order: a removal finds it cleared, a comparison finds one. -/
def TickStep (b : Box) : BoxEvent → Prop
  | .read _ data => b.Removes data → b.toyRemovalTick = 0
  | .handler _ => b.ComparesTick → b.toyRemovalTick ≠ 0
  | _ => True

/-- **The invariant.** A tick that is there was recorded after the last removal, which is what the box
remembers. -/
structure Remembers (last : Option Removal) (b : Box) : Prop where
  previous : ∀ r ∈ last, r.toy = b.previousToy
  placed : b.toyPlacedOnce = true → b.toyPresenseFlag = true ∨ last.isSome = true
  tick : b.toyRemovalTick = 0 ∨
    ∃ toy t, last = some ⟨toy, some t⟩ ∧ b.toyRemovalTick = getStartTime t

omit [CJson] in
/-- A step that observes nothing. -/
theorem Remembers.same {last : Option Removal} {b b' : Box} (h : Remembers last b)
    (hmemory : KeepsMemory b b') (hpresent : b.toyPresenseFlag = true → b'.toyPresenseFlag = true) :
    Remembers last b' := by
  have htick : b'.toyRemovalTick = b.toyRemovalTick := congrArg Memory.toyRemovalTick hmemory
  have hprevious : b'.previousToy = b.previousToy := congrArg Memory.previousToy hmemory
  have honce : b'.toyPlacedOnce = b.toyPlacedOnce := congrArg Memory.toyPlacedOnce hmemory
  refine ⟨?_, ?_, ?_⟩
  · rw [hprevious]
    exact h.previous
  · rw [honce]
    exact fun hplaced => (h.placed hplaced).imp_left hpresent
  · rw [htick]
    exact h.tick

theorem handler_present {b b' : Box} {env : HandlerEnv} (h : b.handler env = some b') :
    b'.toyPresenseFlag = b.toyPresenseFlag := by
  have hof (b₁ : Box) (hcore : b₁.core.toyPresenseFlag = b.core.toyPresenseFlag)
      (hkeeps : Keeps b₁ b') : b'.toyPresenseFlag = b.toyPresenseFlag :=
    (congrArg Core.toyPresenseFlag hkeeps.core).trans hcore
  rcases handler_outcome h with ⟨hkeeps, -⟩ | ⟨-, -, hkeeps, -⟩ | ⟨content, -, hkeeps, -⟩ |
    ⟨-, hkeeps, -⟩ | ⟨i, -, hkeeps, -⟩ | ⟨goBack, -, hplays, -⟩ | ⟨-, rfl⟩
  · exact hof b rfl hkeeps
  · exact hof b rfl hkeeps
  · exact hof (b.loadPlaylist content) rfl hkeeps
  · have hcore := (setIndexx_spec (Keeps.skipCurrentAudio b) (b.indexx + 1)).1
    have hflag := congrArg Core.toyPresenseFlag hcore
    exact hof b.advance hflag hkeeps
  · have hcore := (setIndexx_spec (Keeps.skipCurrentAudio b) i).1
    have hflag := congrArg Core.toyPresenseFlag hcore
    exact hof _ hflag hkeeps
  · exact congrArg Core.toyPresenseFlag hplays.core
  · exact congrArg Core.toyPresenseFlag (handleInitUserIdCheck_spec b env).1

theorem handler_remembers {last : Option Removal} {b b' : Box} {env : HandlerEnv}
    (h : b.handler env = some b') (hinv : Remembers last b) :
    Remembers (observe last (b, .handler env)) b' := by
  have hpresent := handler_present h
  have hnext : observe last (b, .handler env) = if b.RecordsTick env.now then
      last.map fun r => { r with recorded := some env.now } else last := rfl
  rw [hnext]
  rcases handler_memory h with ⟨hnot, hmemory⟩ | ⟨hrecords, hmemory⟩ | ⟨hnot, hthere, hmemory⟩ |
    ⟨hnot, hmemory⟩
  · rw [if_neg hnot]
    exact hinv.same hmemory fun hthere => hpresent.trans hthere
  -- a toy was placed and is gone, so that there was a removal to record
  · rw [if_pos hrecords]
    obtain ⟨-, -, habsent, honce, -⟩ := hrecords
    have hsome : last.isSome = true := by
      refine (hinv.placed honce).resolve_left ?_
      intro hthere
      rw [habsent] at hthere
      exact absurd hthere (by simp)
    obtain ⟨r, rfl⟩ := Option.isSome_iff_exists.1 hsome
    have hprevious : b'.previousToy = b.previousToy := congrArg Memory.previousToy hmemory
    refine ⟨?_, fun _ => .inr rfl, .inr ⟨r.toy, env.now, rfl, congrArg Memory.toyRemovalTick hmemory⟩⟩
    rintro _ ⟨⟩
    rw [hprevious]
    exact hinv.previous r rfl
  · rw [if_neg hnot]
    have hkept : KeepsMemory { b with toyPlacedOnce := true } b' := hmemory
    have hplaced : Remembers last { b with toyPlacedOnce := true } :=
      ⟨hinv.previous, fun _ => .inl hthere, hinv.tick⟩
    exact hplaced.same hkept fun hthere => hpresent.trans hthere
  -- with the tick cleared nothing is said of the last removal
  · rw [if_neg hnot]
    have hkept : KeepsMemory { b with toyRemovalTick := 0 } b' := hmemory
    have hcleared : Remembers last { b with toyRemovalTick := 0 } :=
      ⟨hinv.previous, hinv.placed, .inl rfl⟩
    exact hcleared.same hkept fun hthere => hpresent.trans hthere

omit [CJson] in
theorem readFrame_remembers {last : Option Removal} {b : Box} {now : ℕ} {data : Bytes}
    (hok : b.Removes data → b.toyRemovalTick = 0) (hinv : Remembers last b) :
    Remembers (observe last (b, .read now data)) (b.readFrame now data) := by
  have hhandled := readFrame_handled b now data
  have hnext : observe last (b, .read now data) =
      if b.Removes data then some ⟨b.toy, none⟩ else last := rfl
  rw [hnext]
  by_cases hremoves : b.Removes data
  -- the tick is zero before and after the removal, by the guard
  · rw [if_pos hremoves] at hhandled ⊢
    have hmemory := congrArg Handled.memory hhandled
    have hprevious : (b.readFrame now data).previousToy = b.toy :=
      congrArg Memory.previousToy hmemory
    have htick : (b.readFrame now data).toyRemovalTick = b.toyRemovalTick :=
      congrArg Memory.toyRemovalTick hmemory
    refine ⟨?_, fun _ => .inr rfl, .inl (htick.trans (hok hremoves))⟩
    rintro _ ⟨⟩
    exact hprevious.symm
  · rw [if_neg hremoves] at hhandled ⊢
    refine hinv.same (congrArg Handled.memory hhandled) fun hthere => ?_
    rcases readFrame_outcome b now data with ⟨h, -⟩ | ⟨-, hcore, -⟩ | ⟨hcore, -⟩
    · exact absurd h hremoves
    · exact congrArg Core.toyPresenseFlag hcore
    · exact (congrArg Core.toyPresenseFlag hcore).trans hthere

/-- **One step** of a task that leaves the tick in order. -/
theorem step_remembers {last : Option Removal} {b b' : Box} {e : BoxEvent} (h : b.step e = some b')
    (hok : b.TickStep e) (hinv : Remembers last b) : Remembers (observe last (b, e)) b' := by
  cases e with
  | handler env => exact handler_remembers h hinv
  | read now data =>
      obtain rfl := Option.some.inj h
      exact readFrame_remembers hok hinv
  | write now address len data =>
      obtain rfl := Option.some.inj h
      have hmemory := congrArg Handled.memory (writeFrame_handled b now address len data)
      refine hinv.same hmemory fun hthere => ?_
      rcases writeFrame_outcome b now address len data with ⟨-, -, heq⟩ | ⟨-, -, -, heq⟩ | ⟨hcore, -⟩
      · rw [heq]
        exact hthere
      · rw [heq]
        exact hthere
      · exact (congrArg Core.toyPresenseFlag hcore).trans hthere
  | ble now uuid value s =>
      have hmemory := congrArg Handled.memory (onWrite_handled h)
      refine hinv.same hmemory fun hthere => ?_
      rcases onWrite_outcome h with ⟨-, hcore, -⟩ | ⟨hcore, -⟩
      · exact (congrArg Core.toyPresenseFlag hcore).trans hthere
      · exact (congrArg Core.toyPresenseFlag hcore).trans hthere
  | pipeline writer =>
      obtain rfl := Option.some.inj h
      exact hinv.same rfl id
  | station e =>
      obtain rfl := Option.some.inj h
      exact hinv.same rfl id

/-- **The resume window.** In runs whose removals find the tick cleared and whose comparisons find one,
`SYS_TOY_DETECTED` compares what `SYS_IDLE` recorded after the last removal, that of the same toy: the
audio goes on when the toy is back within ten seconds of that and starts from the beginning
otherwise. -/
theorem resume_window {card : Card} {wifi : Wifi} {battery charging : UInt8}
    {trace : List (Box × BoxEvent)} {b b' : Box} {env : HandlerEnv}
    (hrun : Runs.Path (fun b e b' => step b e = some b') TickStep (boot card wifi battery charging)
      trace b)
    (hok : b.TickStep (.handler env)) (hcompare : b.ComparesTick)
    (hstep : b.handler env = some b') :
    ∃ t, TickRecorded trace b t ∧
      b'.state = (if timeSpent env.now (getStartTime t) 10000 then .playToy else .resumePlaying) ∧
      (millis t ≤ millis env.now → millis env.now - millis t < 10000 → b'.state = .resumePlaying) ∧
      (10000 < millis env.now - millis t → millis env.now - millis t < 4294967296 →
        b'.state = .playToy) := by
  have hinv : Remembers (lastRemoval trace) b := by
    refine hrun.invariant (I := fun trace b => Remembers (lastRemoval trace) b) ?_ ?_
    · have hfirst : Remembers none (boot card wifi battery charging) :=
        ⟨by simp, fun h => absurd (show false = true from h) (by simp), .inl rfl⟩
      exact hfirst
    · intro trace b e b' hinv hok hs
      rw [lastRemoval_snoc]
      exact step_remembers hs hok hinv
  obtain ⟨toy, t, hlast, htick⟩ := hinv.tick.resolve_left (hok hcompare)
  obtain ⟨hstate, hsame, hdownloaded, hturn⟩ := hcompare
  have htoy : toy = b.toy := (hinv.previous _ hlast).trans hsame.symm
  rw [htoy] at hlast
  simp only [handler, hstate, Option.some.injEq] at hstep
  have hnext : b'.state =
      if timeSpent env.now (getStartTime t) 10000 then .playToy else .resumePlaying := by
    rw [← hstep, handleToyDetected_next, ← htick]
    unfold resumes
    simp only [hdownloaded, hsame, hturn]
    cases timeSpent env.now b.toyRemovalTick 10000 <;> simp
  refine ⟨t, ⟨hlast, htick⟩, hnext, ?_, ?_⟩
  · intro hle hsoon
    have hspent : timeSpent env.now (getStartTime t) 10000 = false := timeSpent_eq_false hle hsoon
    rw [hnext, hspent]
    rfl
  · intro hlate hturn
    have hspent : timeSpent env.now (getStartTime t) 10000 = true := timeSpent_eq_true hlate hturn
    rw [hnext, hspent]
    rfl

end

/-! ## Two runs -/

instance (b : Box) : ∀ e : BoxEvent, Decidable (b.TickStep e)
  | .handler _ => inferInstanceAs (Decidable (b.ComparesTick → b.toyRemovalTick ≠ 0))
  | .read _ data => inferInstanceAs (Decidable (b.Removes data → b.toyRemovalTick = 0))
  | .write _ _ _ _ => inferInstanceAs (Decidable True)
  | .ble _ _ _ _ => inferInstanceAs (Decidable True)
  | .pipeline _ => inferInstanceAs (Decidable True)
  | .station _ => inferInstanceAs (Decidable True)

/-- Where the first toy's audio starts; the box is then two seconds old. -/
def started : List BoxEvent := firstToy ++ [.handler (quietEnv 2000000 .other)]

/-- A read frame and a handler step at this second. -/
def frameAndStep (second : ℕ) (uid : Uid) : List BoxEvent :=
  [.read (second * 1000000) (uid.val ++ [100, 0]), .handler (quietEnv (second * 1000000) .other)]

/-- The toy is removed after a minute, and back a second later. -/
def backRun : List BoxEvent :=
  started ++ frameAndStep 60 noUid ++ frameAndStep 61 Downloader.uidX

/-- The second toy takes the place of the first; after a minute it is removed, and back a second
later. -/
def staleRun : List BoxEvent :=
  started ++ frameAndStep 3 noUid ++ frameAndStep 4 Downloader.uidY ++
    [.handler (quietEnv 5000000 .finished), .handler (quietEnv 5000000 .other)] ++
    frameAndStep 60 noUid ++ frameAndStep 61 Downloader.uidY

/-- The time the toy is back. -/
def backEnv : HandlerEnv := quietEnv 61000000 .other

/-- The first toy is back within the window. -/
theorem backRun_resumes : ∃ b b' t,
    TickRecorded (Runs.history (@step listParser) twoToys backRun) b t ∧
      @handler listParser b backEnv = some b' ∧
      b'.state =
        (if timeSpent backEnv.now (getStartTime t) 10000 then .playToy else .resumePlaying) := by
  have hend : ((@Runs.runGuarded _ _ (@step listParser) TickStep _ twoToys backRun).map fun b =>
      decide (b.TickStep (.handler backEnv) ∧ b.ComparesTick)) = some true := by
    decide +kernel
  obtain ⟨b, hb, hready⟩ := Option.map_eq_some_iff.1 hend
  obtain ⟨hok, hcompare⟩ := of_decide_eq_true hready
  have hstep : @handler listParser b backEnv = some (b.handleToyDetected backEnv.now) := by
    simp only [handler, hcompare.1]
  obtain ⟨t, hrecorded, hstate, -⟩ := @resume_window listParser _ _ _ _ _ _ _ _
    (Runs.path_of_runGuarded backRun hb) hok hcompare hstep
  exact ⟨b, _, t, hrecorded, hstep, hstate⟩

/-- The second toy is back within the window too, but the tick compared is of the removal of the
first: the audio starts from the beginning. -/
theorem staleRun_restarts : ∃ b b',
    Runs.Path (fun b e b' => @step listParser b e = some b') (fun _ _ => True) twoToys
        (Runs.history (@step listParser) twoToys staleRun) b ∧
      b.ComparesTick ∧ @handler listParser b backEnv = some b' ∧ b'.state = .playToy ∧
      ∀ t, ¬ TickRecorded (Runs.history (@step listParser) twoToys staleRun) b t := by
  have hend : ((@Runs.runGuarded _ _ (@step listParser) (fun _ _ => True) _ twoToys staleRun).map
      fun b => decide (b.ComparesTick ∧ (b.handleToyDetected backEnv.now).state = .playToy)) =
        some true := by
    decide +kernel
  have hlast : ((lastRemoval (Runs.history (@step listParser) twoToys staleRun)).bind
      Removal.recorded) = none := by
    decide +kernel
  obtain ⟨b, hb, hready⟩ := Option.map_eq_some_iff.1 hend
  obtain ⟨hcompare, hstate⟩ := of_decide_eq_true hready
  have hstep : @handler listParser b backEnv = some (b.handleToyDetected backEnv.now) := by
    simp only [handler, hcompare.1]
  refine ⟨b, _, Runs.path_of_runGuarded staleRun hb, hcompare, hstep, hstate, ?_⟩
  rintro t ⟨hrecorded, -⟩
  rw [hrecorded] at hlast
  exact absurd hlast (by simp)

end Box

end Cubbies
