import Cubbies.Proofs.LiveSessions

set_option autoImplicit false

/-! # Downloads end

A download waits for one request after the other. Once the master JSON is there, the lists it brought say
how many: one for each direction file, and for each audio file one and its retries. `download_ends` says
that no answer makes it ask for more, and no other task: after that many answers, and a number of steps of
its own between them, `begin` has nothing left to do. -/

namespace Cubbies

open CString Runs

namespace Downloader

/-! ## What is left -/

/-- The master JSON is there. -/
def Progress.isFetching : Progress → Bool
  | .login | .waiting .token | .waiting .masterJson => false
  | .answered .token _ _ | .answered .masterJson _ _ => false
  | _ => true

/-- The answers that are waited for at most, with `n` files on the server. -/
def Progress.answersLeft (n : ℕ) : Progress → ℕ
  | .directions slots => slots.length + maxRetryCount * n
  | .waiting (.directionFile _ slots) => slots.length + 1 + maxRetryCount * n
  | .answered (.directionFile _ slots) _ _ => slots.length + maxRetryCount * n
  | .listing => maxRetryCount * n
  | .audioFiles names _ => maxRetryCount * names.length
  | .waiting (.audioFile _ left names) => left + 1 + maxRetryCount * names.length
  | .answered (.audioFile _ left names) _ _ => left + maxRetryCount * names.length
  | _ => 0

/-- The same with the steps between them: three for a direction file, and two for every attempt at an audio
file, besides one to open it. -/
def Progress.stepsLeft (n : ℕ) : Progress → ℕ
  | .directions slots => 3 * slots.length + 7 * n + 3
  | .waiting (.directionFile _ slots) => 3 * slots.length + 7 * n + 5
  | .answered (.directionFile _ slots) _ _ => 3 * slots.length + 7 * n + 4
  | .listing => 7 * n + 2
  | .audioFiles names _ => 7 * names.length + 1
  | .waiting (.audioFile _ left names) => 2 * left + 7 * names.length + 3
  | .answered (.audioFile _ left names) _ _ => 2 * left + 7 * names.length + 2
  | _ => 0

/-- From `x` to `x'` a download that is fetching has made a step that counts as `answers` answers. -/
structure Fetches (n answers : ℕ) (x x' : Progress × Downloader) : Prop where
  fetching : x'.1.isFetching = true
  files : x'.2.nServer.length ≤ n
  answers : x'.1.answersLeft n + answers ≤ x.1.answersLeft n
  steps : x'.1.stepsLeft n < x.1.stepsLeft n

section

variable {n : ℕ} {d : Downloader} {p : Progress}

theorem writeFile_nServer (d : Downloader) (path content : Bytes) :
    (d.writeFile path content).nServer = d.nServer := by
  unfold writeFile
  split
  · rfl
  · next d' h =>
      have hkept := congrArg Kept.nServer (openWrite_kept h)
      exact hkept

theorem saveDirection_nServer (d : Downloader) (dirFileName : Bytes) (ok : Bool) :
    (d.saveDirection dirFileName ok).nServer = d.nServer := by
  unfold saveDirection
  split
  · split
    · exact writeFile_nServer d _ _
    · rfl
  · rfl

/-- **From one wait to the next.** -/
theorem resume_fetches (hfetching : p.isFetching = true) (hruns : p.runs = true)
    (hfiles : d.nServer.length ≤ n) (s : ResumeScript) : Fetches n 0 (p, d) (d.resume s p) := by
  cases p with
  | login => cases hfetching
  | waiting a => cases hruns
  | done success => cases hruns
  | answered a ok status =>
      cases a with
      | token => cases hfetching
      | masterJson => cases hfetching
      | directionFile dirFileName slots =>
          refine ⟨rfl, ?_, Nat.le_refl _, Nat.lt_succ_self _⟩
          show (d.saveDirection dirFileName ok).nServer.length ≤ n
          rwa [saveDirection_nServer]
      | audioFile name left names =>
          dsimp only [resume]
          split
          · split
            · refine ⟨rfl, hfiles, ?_, ?_⟩
              · simp only [Progress.answersLeft]
                omega
              · simp only [Progress.stepsLeft]
                omega
            · exact ⟨rfl, Nat.zero_le n, Nat.zero_le _, by simp [Progress.stepsLeft]⟩
          · split
            · exact ⟨rfl, Nat.zero_le n, Nat.zero_le _, by simp [Progress.stepsLeft]⟩
            · next hleft =>
                refine ⟨rfl, hfiles, ?_, ?_⟩
                · simp only [Progress.answersLeft]
                  omega
                · simp only [Progress.stepsLeft]
                  omega
  | directions slots =>
      cases slots with
      | nil =>
          dsimp only [resume]
          exact ⟨rfl, hfiles, by simp [Progress.answersLeft], by simp [Progress.stepsLeft]⟩
      | cons slot slots =>
          dsimp only [resume]
          split
          · refine ⟨rfl, hfiles, ?_, ?_⟩
            · simp only [Progress.answersLeft, List.length_cons]
              omega
            · simp only [Progress.stepsLeft, List.length_cons]
              omega
          · refine ⟨rfl, hfiles, ?_, ?_⟩
            · simp only [Progress.answersLeft, List.length_cons]
              omega
            · simp only [Progress.stepsLeft, List.length_cons]
              omega
  | listing =>
      dsimp only [resume]
      split
      · exact ⟨rfl, hfiles, Nat.zero_le _, by simp [Progress.stepsLeft]⟩
      · next sdFiles _ =>
          have hfew := (List.length_filter_le (fun name => ¬ isDuplicate sdFiles name) d.nServer).trans hfiles
          refine ⟨rfl, hfiles, Nat.mul_le_mul_left _ hfew, ?_⟩
          simp only [Progress.stepsLeft]
          omega
  | audioFiles names asked =>
      cases names with
      | nil =>
          dsimp only [resume]
          exact ⟨rfl, Nat.zero_le n, Nat.zero_le _, by simp [Progress.stepsLeft]⟩
      | cons name names =>
          dsimp only [resume]
          split
          · exact ⟨rfl, Nat.zero_le n, Nat.zero_le _, by simp [Progress.stepsLeft]⟩
          · next d' hopen =>
              have hsame : d'.nServer = d.nServer := congrArg Kept.nServer (openTemp_receiving hopen).kept
              refine ⟨rfl, hsame ▸ hfiles, ?_, ?_⟩
              · simp only [Progress.answersLeft, maxRetryCount, List.length_cons]
                omega
              · simp only [Progress.stepsLeft, maxRetryCount, List.length_cons]
                omega

variable [CJson]

omit [CJson] in
theorem waiting_of_awaited {a : Awaited} (h : p.awaited? = some a) : p = .waiting a := by
  cases p with
  | waiting b => exact congrArg Progress.waiting (Option.some.inj h)
  | _ => cases h

/-- What is received of the files leaves the lists alone. -/
theorem callback_nServer {a : Awaited} (hfetching : (Progress.waiting a).isFetching = true)
    (d : Downloader) : (∀ key value, (a.callback.onHeader d key value).nServer = d.nServer) ∧
      (∀ data, (a.callback.onData d data).nServer = d.nServer) ∧
      ∀ ending, (a.callback.close d ending).nServer = d.nServer := by
  have hignores : IgnoresReception fun e => e.nServer = d.nServer := fun _ _ _ _ h => h
  cases a with
  | token => cases hfetching
  | masterJson => cases hfetching
  | directionFile dirFileName slots =>
      refine ⟨fun _ _ => rfl, fun data => ?_, fun ending => by cases ending <;> rfl⟩
      dsimp only [Awaited.callback, directionCallback]
      split <;> rfl
  | audioFile name left names =>
      refine ⟨fun _ _ => rfl, fun data => ?_, fun ending => ?_⟩
      · dsimp only [Awaited.callback, mp3Callback]
        split
        · exact copyLoop_induction hignores data.length data rfl
        · rfl
      · cases ending with
        | finished =>
            dsimp only [Awaited.callback, Callback.close, mp3Callback]
            split
            · exact flushBuffer_induction hignores rfl
            · rfl
        | disconnected => rfl
        | unreachable => rfl

/-- **An answer.** -/
theorem close_fetches {a : Awaited} (hfetching : (Progress.waiting a).isFetching = true)
    (hfiles : d.nServer.length ≤ n) (ending : Ending) (status : ℤ) :
    Fetches n 1 (.waiting a, d)
      (.answered a (ending = .finished) status, a.callback.close d ending) := by
  have hsame := (callback_nServer hfetching d).2.2 ending
  cases a with
  | token => cases hfetching
  | masterJson => cases hfetching
  | directionFile dirFileName slots =>
      refine ⟨rfl, hsame.symm ▸ hfiles, ?_, ?_⟩
      · simp only [Progress.answersLeft]
        omega
      · simp [Progress.stepsLeft]
  | audioFile name left names =>
      refine ⟨rfl, hsame.symm ▸ hfiles, ?_, ?_⟩
      · simp only [Progress.answersLeft]
        omega
      · simp [Progress.stepsLeft]

end

end Downloader

/-! ## The box meanwhile -/

/-- Other steps than those of the handler leave the list of the files alone. -/
theorem Box.step_nServer [CJson] {b b' : Box} {e : BoxEvent} (hstep : b.step e = some b')
    (hother : e.isHandler = false) : b'.dl.nServer = b.dl.nServer := by
  have houtside : Outside b b' → b'.dl.nServer = b.dl.nServer := by
    rintro ⟨card, wifi, heq⟩
    rw [heq]
  cases e with
  | handler env => cases hother
  | read now data =>
      obtain rfl := Option.some.inj hstep
      rw [readFrame_dl]
      rfl
  | write now address len data =>
      obtain rfl := Option.some.inj hstep
      exact houtside (writeFrame_outside b now address len data)
  | ble now uuid value s => exact houtside (onWrite_outside hstep)
  | pipeline writer =>
      obtain rfl := Option.some.inj hstep
      rfl
  | station ev =>
      obtain rfl := Option.some.inj hstep
      rfl

namespace LiveBox

open Downloader Box

/-- A request of the download ends. -/
def answers : LiveEvent → Bool
  | .advance (.close _ _) => true
  | _ => false

/-- Or the program goes on to the next one. -/
def advances : LiveEvent → Bool
  | .advance (.close _ _) | .advance (.resume _) => true
  | _ => false

/-- The power stays on, and the handler does not go on to another state. -/
def Uninterrupted : LiveEvent → Prop
  | .power _ _ _ | .leave _ => False
  | _ => True

instance : DecidablePred Uninterrupted := fun e => by
  unfold Uninterrupted
  split <;> infer_instance

/-- A download that has its lists, of `n` files at most. -/
structure IsFetching (n : ℕ) (l : LiveBox) : Prop where
  fetching : ∃ p, l.download = some p ∧ p.isFetching = true
  files : l.box.dl.nServer.length ≤ n

/-- What is left of the download of a box. -/
def answersLeft (n : ℕ) (l : LiveBox) : ℕ := l.download.elim 0 (Progress.answersLeft n)

def stepsLeft (n : ℕ) (l : LiveBox) : ℕ := l.download.elim 0 (Progress.stepsLeft n)

variable [CJson] {n : ℕ} {l l' : LiveBox}

/-- **One step** of a box that is fetching. -/
theorem step_fetching {e : LiveEvent} (h : IsFetching n l) (hgoes : Uninterrupted e)
    (hstep : l.step e = some l') :
    IsFetching n l' ∧
      l'.answersLeft n + (if answers e then 1 else 0) ≤ l.answersLeft n ∧
      l'.stepsLeft n + (if advances e then 1 else 0) ≤ l.stepsLeft n := by
  obtain ⟨⟨p, hp, hfetching⟩, hfiles⟩ := h
  cases e with
  | task e =>
      cases live_step hstep with
      | task hfree hb =>
          have hother : e.isHandler = false := by
            refine Bool.eq_false_iff.2 fun hhandler => hfree ⟨hhandler, .inl ?_⟩
            rw [hp]
            rfl
          exact ⟨⟨⟨p, hp, hfetching⟩, (Box.step_nServer hb hother).symm ▸ hfiles⟩, Nat.le_refl _,
            Nat.le_refl _⟩
  | enter connect =>
      dsimp only [step] at hstep
      rw [hp, if_neg (by simp)] at hstep
      cases hstep
  | advance a =>
      cases live_step hstep with
      | @advance q _ r hq hadvance =>
          obtain rfl : p = q := Option.some.inj (hp.symm.trans hq)
          have hanswers : l.answersLeft n = p.answersLeft n := by rw [answersLeft, hp]; rfl
          have hsteps : l.stepsLeft n = p.stepsLeft n := by rw [stepsLeft, hp]; rfl
          rw [hanswers, hsteps]
          have hfetches : ∀ k, Fetches n k (p, l.box.dl) r →
              IsFetching n ⟨{ l.box with dl := r.2 }, some r.1⟩ ∧
                answersLeft n ⟨{ l.box with dl := r.2 }, some r.1⟩ + k ≤ p.answersLeft n ∧
                stepsLeft n ⟨{ l.box with dl := r.2 }, some r.1⟩ + 1 ≤ p.stepsLeft n :=
            fun k hk => ⟨⟨⟨r.1, rfl, hk.fetching⟩, hk.files⟩, hk.answers, hk.steps⟩
          cases a with
          | resume s =>
              dsimp only [Downloader.advance] at hadvance
              split at hadvance
              · next hruns =>
                  obtain rfl := Option.some.inj hadvance
                  exact hfetches 0 (resume_fetches hfetching hruns hfiles s)
              · cases hadvance
          | header key value =>
              obtain ⟨a, ha, rfl⟩ := Option.map_eq_some_iff.1 hadvance
              obtain rfl := waiting_of_awaited ha
              have hsame := (callback_nServer hfetching l.box.dl).1 key value
              exact ⟨⟨⟨_, rfl, hfetching⟩, hsame.symm ▸ hfiles⟩, Nat.le_refl _, Nat.le_refl _⟩
          | data data =>
              obtain ⟨a, ha, rfl⟩ := Option.map_eq_some_iff.1 hadvance
              obtain rfl := waiting_of_awaited ha
              have hsame := (callback_nServer hfetching l.box.dl).2.1 data
              exact ⟨⟨⟨_, rfl, hfetching⟩, hsame.symm ▸ hfiles⟩, Nat.le_refl _, Nat.le_refl _⟩
          | close ending status =>
              obtain ⟨a, ha, rfl⟩ := Option.map_eq_some_iff.1 hadvance
              obtain rfl := waiting_of_awaited ha
              exact hfetches 1 (close_fetches hfetching hfiles ending status)
  | leave now => exact hgoes.elim
  | power battery charging s => exact hgoes.elim

/-- A download that is not over can go on. -/
theorem goes_on {p : Progress} (hp : l.download = some p) :
    (∃ success, p = .done success) ∨ ∃ e, advances e = true ∧ (l.step e).isSome = true := by
  by_cases hruns : p.runs = true
  · refine .inr ⟨.advance (.resume .idle), rfl, ?_⟩
    dsimp only [step, Downloader.advance]
    rw [hp, Option.bind_some, if_pos hruns]
    rfl
  · cases p with
    | waiting a =>
        refine .inr ⟨.advance (.close .unreachable 0), rfl, ?_⟩
        dsimp only [step, Downloader.advance]
        rw [hp]
        rfl
    | done success => exact .inl ⟨success, rfl⟩
    | _ => exact absurd rfl hruns

/-- **Downloads end.** From where the lists are there, whatever the answers are and whatever the other tasks
do, a download takes no more answers than one for each direction file and three for each audio file, and a
bounded number of steps to and from them; and as long as it is not over, it can go on. The headers and the
chunks of an answer, of which the server may send any number, do not count as steps. -/
theorem download_ends {slots : List (Option Bytes)} {trace : List (LiveBox × LiveEvent)}
    (hstart : l.download = some (.directions slots))
    (h : Path (fun l e l' => LiveBox.step l e = some l') (fun _ e => Uninterrupted e) l trace l') :
    trace.countP (fun x => answers x.2) ≤ slots.length + 3 * l.box.dl.nServer.length ∧
      trace.countP (fun x => advances x.2) ≤ 3 * slots.length + 7 * l.box.dl.nServer.length + 3 ∧
      ((∃ success, l'.download = some (.done success)) ∨
        ∃ e, advances e = true ∧ (l'.step e).isSome = true) := by
  have hfetching : IsFetching l.box.dl.nServer.length l := ⟨⟨_, hstart, rfl⟩, Nat.le_refl _⟩
  obtain ⟨hlast, hanswers⟩ := h.countP_rank_le (fun _ l' => IsFetching l.box.dl.nServer.length l')
    (answersLeft l.box.dl.nServer.length) (fun x => answers x.2) (fun _ => false) 0 hfetching
    fun _ _ _ _ hI hk hstep => by
      have hone := step_fetching hI hk hstep
      exact ⟨hone.1, hone.2.1⟩
  obtain ⟨-, hsteps⟩ := h.countP_rank_le (fun _ l' => IsFetching l.box.dl.nServer.length l')
    (stepsLeft l.box.dl.nServer.length) (fun x => advances x.2) (fun _ => false) 0 hfetching
    fun _ _ _ _ hI hk hstep => by
      have hone := step_fetching hI hk hstep
      exact ⟨hone.1, hone.2.2⟩
  have hanswersStart : answersLeft l.box.dl.nServer.length l =
      slots.length + 3 * l.box.dl.nServer.length := by
    rw [answersLeft, hstart]
    rfl
  have hstepsStart : stepsLeft l.box.dl.nServer.length l =
      3 * slots.length + 7 * l.box.dl.nServer.length + 3 := by
    rw [stepsLeft, hstart]
    rfl
  refine ⟨by omega, by omega, ?_⟩
  obtain ⟨p, hp, -⟩ := hlast.fetching
  rcases goes_on hp with ⟨success, rfl⟩ | hgoes
  · exact .inl ⟨success, hp⟩
  · exact .inr hgoes

/-- A box with one direction file and one audio file left to fetch. -/
def fetchingBox : LiveBox where
  box :=
    let b := Box.boot sampleCard (Wifi.boot none) 100 0
    { b with dl := { b.dl with nServer := [str "a"] } }
  download := some (.directions [some (str "d_1.json")])

/-- The first answer fails; the audio file arrives, with the battery level reported meanwhile. -/
def fetchingEvents : List LiveEvent :=
  let go : LiveEvent := .advance (.resume ⟨noWaits, [], none, true, 0⟩)
  [go, .advance (.close .unreachable 0), go, go, go, go, .advance (.data [1]),
    .task (.write 0 0x9000 1 [80]), .advance (.close .finished 200), go, go]

omit [CJson] in
theorem download_ends_fetchingEvents :
    ∃ l, runList (@LiveBox.step sampleParser) fetchingBox fetchingEvents = some l ∧
      l.box.dl.card.content? (finalFilePath (str "a")) ≠ none ∧
      (history (@LiveBox.step sampleParser) fetchingBox fetchingEvents).countP (fun x => answers x.2) ≤
        1 + 3 * 1 := by
  have hruns : (runGuarded (@LiveBox.step sampleParser) (fun _ e => Uninterrupted e) fetchingBox
      fetchingEvents).any (fun l => l.box.dl.card.content? (finalFilePath (str "a")) ≠ none) = true := by
    decide +kernel
  obtain ⟨l, hl, hcontent⟩ := (Option.any_eq_true _ _).1 hruns
  have hstart : fetchingBox.download = some (.directions [some (str "d_1.json")]) := rfl
  exact ⟨l, runList_of_runGuarded hl, of_decide_eq_true hcontent,
    (@download_ends sampleParser _ _ _ _ hstart
      (path_of_runGuarded fetchingEvents hl)).1⟩

end LiveBox

end Cubbies
