import Cubbies.Proofs.DownloadAdvances

set_option autoImplicit false

/-! # Sessions in which a download takes its time

In `Box.step` a download is one step, and nothing else happens during it. `session_live` says that this is
one of the orders of `LiveBox`. What sessions leave on the card is then shown for all of them, with tags,
buttons, the phone and the loss of power at any point of a download: the settings last
(`settings_durable_live`), and toys are isolated (`toys_isolated_live`). There the order counts: the folder
of a toy that is placed while another one is downloaded may be written to. -/

namespace Cubbies

open CString Runs

/-- Every step of the box keeps an audio file that is open below the audio folder. -/
theorem Box.step_receivesAudio [CJson] {b b' : Box} {e : BoxEvent} (h : b.dl.ReceivesAudio)
    (hstep : b.step e = some b') : b'.dl.ReceivesAudio := by
  obtain ⟨es, hes⟩ := step_downloader hstep
  rw [hes]
  clear hes hstep
  generalize b.dl = d at h
  induction es generalizing d with
  | nil => exact h
  | cons e es ih => exact ih _ (Downloader.tokenStep_receivesAudio h e)

namespace LiveBox

open Downloader Box

variable [CJson] {l l' : LiveBox}

/-! ## One step -/

/-- What a step can do. -/
inductive LiveStep (l : LiveBox) : LiveEvent → LiveBox → Prop where
  | task {e : BoxEvent} {b : Box} (hfree : ¬ (e.isHandler ∧ l.Downloads)) (hstep : l.box.step e = some b) :
      LiveStep l (.task e) { l with box := b }
  | enter {connect : WaitScript} (hstate : l.box.state = .downloadToy) :
      LiveStep l (.enter connect)
        ⟨{ l.box.setLandingPadColor ⟨254, 13, 0⟩ with dl := (l.box.dl.enter l.box.toy connect).2 },
          some (l.box.dl.enter l.box.toy connect).1⟩
  | advance {p : Progress} {a : Advance} {r : Progress × Downloader} (hp : l.download = some p)
      (hadvance : Downloader.advance p l.box.dl a = some r) :
      LiveStep l (.advance a) ⟨{ l.box with dl := r.2 }, some r.1⟩
  | leave {now : ℕ} : LiveStep l (.leave now) ⟨l.box.setState now .idle, none⟩
  | power {battery charging : UInt8} {s : WaitScript} :
      LiveStep l (.power battery charging s)
        (appMain l.box.dl.card l.box.dl.wifi.credentialsFile battery charging s)

theorem live_step {e : LiveEvent} (h : l.step e = some l') : LiveStep l e l' := by
  cases e with
  | task e =>
      dsimp only [step] at h
      split at h
      · cases h
      · next hfree =>
          obtain ⟨b, hb, rfl⟩ := Option.map_eq_some_iff.1 h
          exact .task hfree hb
  | enter connect =>
      dsimp only [step] at h
      split at h
      · next hfree =>
          obtain rfl := Option.some.inj h
          exact .enter hfree.2
      · cases h
  | advance a =>
      obtain ⟨p, hp, hmap⟩ := Option.bind_eq_some_iff.1 h
      obtain ⟨r, hr, rfl⟩ := Option.map_eq_some_iff.1 hmap
      exact .advance hp hr
  | leave now =>
      dsimp only [step] at h
      split at h
      · obtain rfl := Option.some.inj h
        exact .leave
      · cases h
  | power battery charging s =>
      obtain rfl := Option.some.inj h
      exact .power

/-- Every step keeps an audio file that is open below the audio folder. -/
theorem step_receivesAudio {e : LiveEvent} (h : l.box.dl.ReceivesAudio) (hstep : l.step e = some l') :
    l'.box.dl.ReceivesAudio := by
  cases live_step hstep with
  | task _ hb => exact Box.step_receivesAudio h hb
  | enter =>
      show ReceivesAudio (l.box.dl.enter l.box.toy _).2
      unfold ReceivesAudio
      rw [(enter_spec l.box.dl l.box.toy _).file]
      exact h
  | advance _ hadvance => exact (advance_spec h hadvance).file
  | leave => exact h
  | power =>
      rintro path ⟨⟩

/-! ## A download in one step -/

/-- The runs of a live box. -/
abbrev Live (l l' : LiveBox) : Prop :=
  Runs.Reached (fun l e l' => LiveBox.step l e = some l') (fun _ _ => True) l l'

/-- A run of the machine without read frames is a run of the box. -/
theorem live_of_leads (b : Box) {x x' : Progress × Downloader} (h : Leads (fun _ => False) x x') :
    Live ⟨{ b with dl := x.2 }, some x.1⟩ ⟨{ b with dl := x'.2 }, some x'.1⟩ := by
  refine Runs.Reached.invariant (I := fun x' : Progress × Downloader =>
    Live ⟨{ b with dl := x.2 }, some x.1⟩ ⟨{ b with dl := x'.2 }, some x'.1⟩) h .start ?_
  intro y e y' hlive hok htick
  cases e with
  | inl a =>
      refine .step hlive trivial (e := .advance a) ?_
      have hadvance : Downloader.advance y.1 y.2 a = some y' := htick
      show Option.map _ (Downloader.advance y.1 y.2 a) = _
      rw [hadvance]
      rfl
  | inr uid => exact (hok uid rfl).elim

/-- A download that is one step of the handler. -/
theorem handleDownloadToy_live {b : Box} (hstate : b.state = .downloadToy) (env : HandlerEnv) :
    Live ⟨b, none⟩ ⟨b.handleDownloadToy env, none⟩ := by
  have hreads := env.download.reads_atomic fun _ => False
  have henter : LiveBox.step ⟨b, none⟩ (.enter env.download.atomic.connect) =
      some ⟨{ b.setLandingPadColor ⟨254, 13, 0⟩ with
        dl := (b.dl.enter b.toy env.download.atomic.connect).2 },
        some (b.dl.enter b.toy env.download.atomic.connect).1⟩ := if_pos ⟨rfl, hstate⟩
  have hbegin := live_of_leads (b.setLandingPadColor ⟨254, 13, 0⟩)
    (begin_leads (Q := fun _ => False) b.dl b.toy hreads.token hreads.master hreads.direction hreads.audio)
  exact .step ((Runs.Reached.step .start trivial henter).trans hbegin) trivial (e := .leave env.now) rfl

theorem step_live {b b' : Box} {e : BoxEvent} (hstep : b.step e = some b') :
    Live ⟨b, none⟩ ⟨b', none⟩ := by
  have htask : ¬ (e.isHandler = true ∧ LiveBox.Downloads ⟨b, none⟩) → Live ⟨b, none⟩ ⟨b', none⟩ := by
    intro hfree
    refine .step .start trivial (e := .task e) ?_
    show (if _ then _ else _) = _
    rw [if_neg hfree, hstep]
    rfl
  by_cases hstate : b.state = .downloadToy
  · cases e with
    | handler env =>
        have hsame : some (b.handleDownloadToy env) = some b' := by
          rw [← hstep]
          show _ = b.handler env
          simp only [handler, hstate]
        obtain rfl := Option.some.inj hsame
        exact handleDownloadToy_live hstate env
    | _ => exact htask fun h => Bool.noConfusion h.1
  · refine htask fun h => ?_
    rcases h.2 with hsome | hdownload
    · cases hsome
    · exact hstate hdownload

/-- **Downloads in one step.** Every session of the box, in which a download is one step, is one of those
in which it takes its time. -/
theorem session_live {ok : Box → SessionEvent → Prop} {b₀ b : Box}
    (h : Runs.Reached (fun b e b' => sessionStep b e = some b') ok b₀ b) : Live ⟨b₀, none⟩ ⟨b, none⟩ := by
  induction h with
  | start => exact .start
  | @step b b' e _ _ hstep ih =>
      cases e with
      | step e => exact ih.trans (step_live hstep)
      | power battery charging s =>
          obtain rfl := Option.some.inj hstep
          exact .step ih trivial (e := .power battery charging s) rfl

omit [CJson] in
theorem session_live_download : ∃ b, runList (@sessionStep sampleParser) onlineStart downloadSession = some b ∧
    @Live sampleParser ⟨onlineStart, none⟩ ⟨b, none⟩ := by
  have hruns : (runList (@sessionStep sampleParser) onlineStart downloadSession).isSome = true := by
    decide +kernel
  obtain ⟨b, hb⟩ := Option.isSome_iff_exists.1 hruns
  exact ⟨b, hb, @session_live sampleParser _ _ _ (reached_of_runList downloadSession hb)⟩

/-! ## The settings -/

/-- What a step asks to be kept: a download asks for nothing. -/
def asked (l : LiveBox) : LiveEvent → List SettingsEvent
  | .task e => l.box.asked e
  | _ => []

omit [CJson] in
/-- A step that writes where downloads do keeps the settings. -/
theorem settings_of_media {b b' : Box} (h : Durable b)
    (hwithin : Within Media TempFile b.dl.card b'.dl.card)
    (hcredentials : b'.dl.wifi.credentialsFile = b.dl.wifi.credentialsFile)
    (huser : b'.sysUser1 = b.sysUser1 ∧ b'.sysUser2 = b.sysUser2) :
    Durable b' ∧ b'.settings = b.settings := by
  have hkept : SettingsKept b b' :=
    .of_eq (fun p hp => hwithin.content p (not_media_of_settings hp)) hcredentials huser.1 huser.2
  exact ⟨h.kept (hwithin.mounted h.mounted) hkept, hkept.settings⟩

/-- One step changes the settings as it asks. -/
theorem step_asked {e : LiveEvent} (h : Durable l.box) (hfile : l.box.dl.ReceivesAudio)
    (hstep : l.step e = some l') :
    Durable l'.box ∧ l'.box.settings = (l.asked e).foldl Settings.apply l.box.settings := by
  cases live_step hstep with
  | task _ hb => exact step_settings h hb
  | @enter connect _ =>
      have hentered := enter_spec l.box.dl l.box.toy connect
      exact settings_of_media h hentered.within hentered.credentials ⟨rfl, rfl⟩
  | advance _ hadvance =>
      have hadvanced := advance_spec hfile hadvance
      exact settings_of_media h hadvanced.within hadvanced.credentials ⟨rfl, rfl⟩
  | leave => exact settings_of_media h (.refl _) rfl ⟨rfl, rfl⟩
  | power => exact ⟨appMain_durable h.mounted.setupFiles _ _ _ _, appMain_settings _ _ _ _ _⟩

/-- **Settings last, whatever happens during a download.** From a formatted card on, in every order of the
steps of the tasks and of the downloads, and however often the power is lost, the card holds the settings it
started with as changed by what was asked for, in order, and by nothing else; and the users the box knows
are those on the card. -/
theorem settings_durable_live {ok : LiveBox → LiveEvent → Prop} {card : Card}
    {credentialsFile : Option Credentials} {battery charging : UInt8} {s : WaitScript}
    {trace : List (LiveBox × LiveEvent)} {l : LiveBox} (hcard : Formatted card)
    (h : Path (fun l e l' => LiveBox.step l e = some l') ok
      (appMain card credentialsFile battery charging s) trace l) :
    l.box.settings = (observed asked trace).foldl Settings.apply
        (storedSettings card credentialsFile) ∧
      ∀ n, text (l.box.user n) = l.box.settings.user n := by
  have hstart : (appMain card credentialsFile battery charging s).box.dl.ReceivesAudio := by
    rintro path ⟨⟩
  obtain ⟨hinv, hsettings⟩ := h.foldl_observed
    (I := fun l : LiveBox => Durable l.box ∧ l.box.dl.ReceivesAudio)
    ⟨appMain_durable hcard.mounted credentialsFile battery charging s, hstart⟩
    (fun hI _ hstep => ⟨(step_asked hI.1 hI.2 hstep).1, step_receivesAudio hI.2 hstep⟩)
    (fun hI _ hstep => (step_asked hI.1 hI.2 hstep).2)
  have hread : (appMain card credentialsFile battery charging s).box.settings =
      storedSettings card credentialsFile := appMain_settings card credentialsFile battery charging s
  rw [hread] at hsettings
  exact ⟨hsettings, hinv.1.user⟩

omit [CJson] in
/-- A toy is downloaded. The volume is turned down while its master JSON arrives, and the power is lost. -/
def interruptedSession : List LiveEvent :=
  let go : LiveEvent := .advance (.resume ⟨noWaits, [], none, false, 0⟩)
  let tasks := [tagFrame uidX 100, handlerStep, handlerStep, .handler (quietEnv 0 .finished)] ++
    List.replicate 3 handlerStep
  tasks.map .task ++
    [.enter noWaits, go, .advance (.close .unreachable 0), go, .advance (.data sampleText),
      .task (.write 0 0x3000 1 [2]), .power 100 0 noWaits]

def liveStart : LiveBox := appMain startupCard (some ⟨str "home", str "secret"⟩) 100 0 ⟨[], [.staGotIp]⟩

omit [CJson] in
theorem settings_durable_live_interrupted :
    ∃ l, runList (@LiveBox.step sampleParser) liveStart interruptedSession = some l ∧
      l.box.settings.volume ≠ none ∧
      l.box.settings = (observed (@asked sampleParser) (history (@LiveBox.step sampleParser) liveStart
        interruptedSession)).foldl Settings.apply
          (storedSettings startupCard (some ⟨str "home", str "secret"⟩)) := by
  have hruns : (runGuarded (@LiveBox.step sampleParser) (fun _ _ => True) liveStart
      interruptedSession).any (fun l => l.box.settings.volume ≠ none) = true := by decide +kernel
  obtain ⟨l, hl, hvolume⟩ := (Option.any_eq_true _ _).1 hruns
  have hcard : Formatted startupCard := ⟨by decide +kernel, by decide +kernel, by decide +kernel⟩
  exact ⟨l, runList_of_runGuarded hl, of_decide_eq_true hvolume,
    (@settings_durable_live sampleParser _ _ _ _ _ _ _ _ hcard
      (path_of_runGuarded interruptedSession hl)).1⟩

/-! ## Toys -/

/-- A download is begun for this toy, or goes on while its tag is on the box. -/
def DownloadsFor (l : LiveBox) (toy : Bytes) : LiveEvent → Prop
  | .enter _ => l.box.toy = toy
  | .advance _ => l.box.dl.tagUid = toy
  | _ => False

omit [CJson] in
/-- A step of a download that is not for the toy. -/
theorem away_of_advanced {uid : Uid} {b : Box} {d' : Downloader} (h : Away uid b)
    (hadvanced : Advanced b.dl d') (htag : b.dl.tagUid ≠ uidText uid) :
    LeavesToy uid b { b with dl := d' } := by
  refine ⟨⟨?_, h.toy, ?_, ?_⟩, ?_⟩
  · show IsTag d'.tagUid
    rw [hadvanced.tag]
    exact h.tag
  · show IsTag d'.toy ∧ d'.toy ≠ uidText uid
    rcases hadvanced.toy with hsame | hnil
    · rw [hsame]
      exact h.member
    · rw [hnil]
      exact ⟨.inl rfl, (uidText_ne_nil uid).symm⟩
  · intro tag hmem
    rcases hadvanced.metadata tag hmem with rfl | hold
    · exact ⟨h.tag, htag⟩
    · exact h.file tag hold
  · intro q hq
    exact hadvanced.contents h.tag h.member.1 q (toysPath_of_ownFolder hq)
      (not_downloadPath ⟨h.tag, htag⟩ h.member h.file hq)

/-- One step, if it is none of a download for the toy. -/
theorem live_leavesToy {uid : Uid} {e : LiveEvent} (h : Away uid l.box)
    (hfile : l.box.dl.ReceivesAudio) (hstep : l.step e = some l')
    (hother : ¬ l.DownloadsFor (uidText uid) e) : LeavesToy uid l.box l'.box := by
  cases live_step hstep with
  | @task e b hfree hb =>
      refine step_leavesToy h hb fun hdownload => ?_
      cases e with
      | handler env => exact hfree ⟨rfl, .inr hdownload.1⟩
      | _ => exact hdownload
  | @enter connect _ =>
      have hentered := enter_spec l.box.dl l.box.toy connect
      refine ⟨⟨?_, h.toy, ?_, ?_⟩, fun q _ => hentered.content q⟩
      · exact (congrArg IsTag hentered.tag).mpr h.tag
      · show IsTag (l.box.dl.enter l.box.toy connect).2.toy ∧ _
        rw [hentered.toy]
        exact ⟨h.toy, hother⟩
      · intro tag hmem
        exact h.file tag (hentered.metadata ▸ hmem)
  | advance _ hadvance => exact away_of_advanced h (advance_spec hfile hadvance) hother
  | leave => exact ⟨⟨h.tag, h.toy, h.member, h.file⟩, fun _ _ => rfl⟩
  | power =>
      obtain ⟨haway, hcontent⟩ := appMain_leavesToy uid l.box.dl.card l.box.dl.wifi.credentialsFile _ _ _
      exact ⟨haway, fun q _ => hcontent q⟩

/-- **Toys are isolated, whatever happens during a download.** In every order of the steps of the tasks and
of the downloads, with the power lost at any point, a file in the folder of a toy is as it was on the card
that was put in, unless a download was begun for that toy, or one went on while its tag was on the box. -/
theorem toys_isolated_live {ok : LiveBox → LiveEvent → Prop} {card : Card}
    {credentialsFile : Option Credentials} {battery charging : UInt8} {s : WaitScript} {l : LiveBox}
    {trace : List (LiveBox × LiveEvent)}
    (h : Path (fun l e l' => LiveBox.step l e = some l') ok
      (appMain card credentialsFile battery charging s) trace l) (uid : Uid) {q : Bytes}
    (hq : ownFolder (uidText uid) <+: q) (hne : l.box.dl.card.content? q ≠ card.content? q) :
    ∃ x ∈ trace, x.1.DownloadsFor (uidText uid) x.2 := by
  obtain ⟨haway, hcontent⟩ := appMain_leavesToy uid card credentialsFile battery charging s
  refine h.exists_of_broken (P := fun l e => l.DownloadsFor (uidText uid) e)
    (I := fun l : LiveBox => Away uid l.box ∧ l.box.dl.ReceivesAudio ∧
      l.box.dl.card.content? q = card.content? q) ⟨haway, ?_, hcontent q⟩ ?_ fun hI => hne hI.2.2
  · rintro path ⟨⟩
  · rintro l e l' ⟨haway, hfile, hsame⟩ _ hstep hother
    have hleaves := live_leavesToy haway hfile hstep hother
    exact ⟨hleaves.away, step_receivesAudio hfile hstep, (hleaves.content q hq).trans hsame⟩

omit [CJson] in
/-- Of the toy whose download was cut off, the part that had arrived is in its folder. -/
theorem toys_isolated_live_interrupted :
    ∃ l, runList (@LiveBox.step sampleParser) liveStart interruptedSession = some l ∧
      l.box.dl.card.content? (metadataPath (uidText uidX)) = some sampleText ∧
      ∃ x ∈ history (@LiveBox.step sampleParser) liveStart interruptedSession,
        x.1.DownloadsFor (uidText uidX) x.2 := by
  have hruns : (runGuarded (@LiveBox.step sampleParser) (fun _ _ => True) liveStart
      interruptedSession).any
        (fun l => l.box.dl.card.content? (metadataPath (uidText uidX)) = some sampleText) = true := by
    decide +kernel
  obtain ⟨l, hl, hcontent⟩ := (Option.any_eq_true _ _).1 hruns
  have hstored := of_decide_eq_true hcontent
  refine ⟨l, runList_of_runGuarded hl, hstored, @toys_isolated_live sampleParser _ _ _ _ _ _ _ _
    (path_of_runGuarded interruptedSession hl) uidX _ (ownFolder_metadataPath (uidText uidX)) ?_⟩
  rw [hstored]
  decide +kernel

end LiveBox

end Cubbies
