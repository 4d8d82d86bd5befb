import Cubbies.Proofs.AudioHeader
import Cubbies.System

set_option autoImplicit false

/-! # What a header takes over from the track before

`Player::readHeader` does not clear `headerData`: a field is overwritten by the lines that assign it and
keeps its old value where there is none. So `T` and `A` depend on the file alone exactly if both have such
a line in front of the end marker (`headerForgotten_iff`). The fallback header of `download_mp3_file`,
`0` and `0,0`, has neither. -/

namespace Cubbies

open CString

namespace Box

/-! ## A value that some lines overwrite -/

/-- The value of a line `<name>:<integer>`, up to the first NUL and without the line end. -/
def fieldValue? (name line : Bytes) : Option ℤ :=
  let line := (text line).takeWhile fun b => b ≠ 13 ∧ b ≠ 10
  if line.take 2 = name then ((scanFields 1 (line.drop 2)).map toInt32).head? else none

/-- What is left of the old value when these lines have been read. -/
def lastValue (name : Bytes) (old : ℤ) (lines : List Bytes) : ℤ :=
  ((lines.filterMap (fieldValue? name)).getLast?).getD old

theorem lastValue_cons (name : Bytes) (old : ℤ) (line : Bytes) (lines : List Bytes) :
    lastValue name old (line :: lines) = lastValue name ((fieldValue? name line).getD old) lines := by
  unfold lastValue
  cases hvalue : fieldValue? name line with
  | none => rw [List.filterMap_cons_none hvalue, Option.getD_none]
  | some v => rw [List.filterMap_cons_some hvalue, List.getLast?_cons, Option.getD_some, Option.getD_some]

/-- The old value does not matter exactly if it is overwritten. -/
theorem lastValue_forgets_iff (name : Bytes) (lines : List Bytes) :
    (∀ v w, lastValue name v lines = lastValue name w lines) ↔
      ∃ line ∈ lines, fieldValue? name line ≠ none := by
  constructor
  · intro h
    by_contra hnone
    have hempty : lines.filterMap (fieldValue? name) = [] := by
      rw [List.filterMap_eq_nil_iff]
      intro line hline
      by_contra hvalue
      exact hnone ⟨line, hline, hvalue⟩
    have hsame := h 0 1
    unfold lastValue at hsame
    rw [hempty] at hsame
    exact absurd hsame (by decide)
  · rintro ⟨line, hline, hvalue⟩ v w
    have hne : lines.filterMap (fieldValue? name) ≠ [] := by
      intro hempty
      exact hvalue (List.filterMap_eq_nil_iff.1 hempty line hline)
    unfold lastValue
    rw [List.getLast?_eq_some_getLast hne, Option.getD_some, Option.getD_some]

/-! ## The lines of a header -/

/-- The line that ends the header. -/
def endsHeader (line : Bytes) : Prop :=
  ((text line).takeWhile fun b => b ≠ 13 ∧ b ≠ 10).take 10 = str "HEADER_END"

instance (line : Bytes) : Decidable (endsHeader line) := inferInstanceAs (Decidable (_ = _))

/-- The lines in front of it, as `fgets` cuts them. -/
def headerLines : ℕ → Bytes → List Bytes
  | 0, _ => []
  | fuel + 1, s =>
      if s = [] ∨ endsHeader (fgets 256 s) then []
      else fgets 256 s :: headerLines fuel (s.drop (fgets 256 s).length)

/-- One line overwrites the field it names, or ends the header. -/
theorem headerLine_fields (h : Header) (line : Bytes) :
    (endsHeader line ∧ headerLine h line = none) ∨
      (¬ endsHeader line ∧ ∃ h', headerLine h line = some h' ∧
        h'.T = (fieldValue? (str "T:") line).getD h.T ∧
        h'.A = (fieldValue? (str "A:") line).getD h.A) := by
  unfold endsHeader fieldValue? headerLine
  dsimp only
  generalize (text line).takeWhile (fun b => b ≠ 13 ∧ b ≠ 10) = l
  have hvalue : ∀ old : ℤ, ((scanFields 1 (l.drop 2)).map toInt32).headD old =
      ((scanFields 1 (l.drop 2)).map toInt32).head?.getD old := fun old => List.headD_eq_head?_getD
  -- the first two characters decide
  have hcut : ∀ n s, 2 ≤ n → l.take n = s → l.take 2 = s.take 2 := by
    intro n s hn hs
    rw [← hs, List.take_take, Nat.min_eq_left hn]
  by_cases hstart : l.take 12 = str "HEADER_START"
  · have htwo := hcut 12 _ (by decide) hstart
    have hend : l.take 10 ≠ str "HEADER_END" := by
      intro hend
      have hten : (l.take 12).take 10 = l.take 10 := by rw [List.take_take, Nat.min_eq_left (by decide)]
      rw [hstart, hend] at hten
      exact absurd hten (by decide)
    rw [if_pos hstart, htwo]
    exact .inr ⟨hend, h, rfl, rfl, rfl⟩
  · rw [if_neg hstart]
    by_cases hend : l.take 10 = str "HEADER_END"
    · exact .inl ⟨hend, if_pos hend⟩
    · refine .inr ⟨hend, ?_⟩
      rw [if_neg hend]
      by_cases hT : l.take 2 = str "T:"
      · rw [hT]
        exact ⟨_, rfl, hvalue h.T, rfl⟩
      · rw [if_neg hT, if_neg hT]
        by_cases hA : l.take 2 = str "A:"
        · rw [hA]
          exact ⟨_, rfl, rfl, hvalue h.A⟩
        · rw [if_neg hA, if_neg hA]
          -- the other branches set neither field
          split
          · exact ⟨_, rfl, rfl, rfl⟩
          · split
            · exact ⟨_, rfl, rfl, rfl⟩
            · split
              · exact ⟨_, rfl, rfl, rfl⟩
              · exact ⟨_, rfl, rfl, rfl⟩

/-- The loop leaves in each field the last value its lines assign, or the old one. -/
theorem headerLoop_fields (fuel : ℕ) (h : Header) (s : Bytes) :
    (headerLoop fuel h s).T = lastValue (str "T:") h.T (headerLines fuel s) ∧
      (headerLoop fuel h s).A = lastValue (str "A:") h.A (headerLines fuel s) := by
  induction fuel generalizing h s with
  | zero => exact ⟨rfl, rfl⟩
  | succ fuel ih =>
      have hline := headerLine_fields h (fgets 256 s)
      unfold headerLoop headerLines
      by_cases hempty : s = []
      · rw [if_pos hempty, if_pos (.inl hempty)]
        exact ⟨rfl, rfl⟩
      · rw [if_neg hempty]
        rcases hline with ⟨hend, hnext⟩ | ⟨hend, h', hnext, hT, hA⟩
        · rw [hnext, if_pos (.inr hend)]
          exact ⟨rfl, rfl⟩
        · rw [hnext, if_neg (not_or.2 ⟨hempty, hend⟩), lastValue_cons, lastValue_cons, ← hT, ← hA]
          exact ih h' _

/-! ## Two previous headers -/

/-- A line in front of the end marker assigns the field `name`. -/
def Assigns (name content : Bytes) : Prop :=
  ∃ line ∈ headerLines content.length content, fieldValue? name line ≠ none

instance (name content : Bytes) : Decidable (Assigns name content) :=
  inferInstanceAs (Decidable (∃ _ ∈ _, _))

/-- The box after another track. -/
def after (b : Box) (h : Header) : Box := { b with headerData := h }

/-- `readHeader` leaves the same `T` and `A` whatever was in `headerData`, and `SYS_READ_AUDIO_HEADER`
goes to the same state. -/
def HeaderForgotten (b : Box) (now : ℕ) : Prop :=
  ∀ h₁ h₂ : Header,
    ((b.after h₁).readHeader.map fun b => (b.headerData.T, b.headerData.A)) =
        ((b.after h₂).readHeader.map fun b => (b.headerData.T, b.headerData.A)) ∧
      ((b.after h₁).handleReadAudioHeader now).map Box.state =
        ((b.after h₂).handleReadAudioHeader now).map Box.state

/-- The file of the current audio, and what it holds. -/
structure CurrentFile (b : Box) (location content : Bytes) : Prop where
  path : (b.playlistName b.currentIndex).bind (audioLocation · (str ".mp3")) = some location
  held : b.dl.card.content? location = some content

theorem CurrentFile.readHeader {b : Box} {location content : Bytes}
    (hb : CurrentFile b location content) (h : Header) :
    (b.after h).readHeader =
      some { b.after h with headerData := headerLoop content.length h content } := by
  have hlocation : ((b.after h).playlistName (b.after h).currentIndex).bind
      (audioLocation · (str ".mp3")) = some location := hb.path
  have hcontent : (b.after h).dl.card.content? location = some content := hb.held
  unfold Box.readHeader
  rw [hlocation, Option.map_some]
  unfold readHeaderFile
  rw [hcontent]
  rfl

/-- The state `SYS_READ_AUDIO_HEADER` chooses for this `T`. -/
def stateFor (t : ℤ) : SystemState :=
  if t = 2 then .playActivity else if t = 1 then .playQna else .playNormalAudio

theorem CurrentFile.state {b : Box} {location content : Bytes} (hb : CurrentFile b location content)
    (h : Header) (now : ℕ) :
    ((b.after h).handleReadAudioHeader now).map Box.state =
      some (stateFor (headerLoop content.length h content).T) := by
  unfold handleReadAudioHeader
  rw [hb.readHeader h]
  rfl

/-- **The header read depends on the file alone** exactly if it assigns `T` and `A`. -/
theorem headerForgotten_iff {b : Box} {location content : Bytes} (hb : CurrentFile b location content)
    (now : ℕ) :
    b.HeaderForgotten now ↔ Assigns (str "T:") content ∧ Assigns (str "A:") content := by
  have hsame : ∀ h₁ h₂ : Header,
      (((b.after h₁).readHeader.map fun b => (b.headerData.T, b.headerData.A)) =
          (b.after h₂).readHeader.map fun b => (b.headerData.T, b.headerData.A)) ↔
        lastValue (str "T:") h₁.T (headerLines content.length content) =
            lastValue (str "T:") h₂.T (headerLines content.length content) ∧
          lastValue (str "A:") h₁.A (headerLines content.length content) =
            lastValue (str "A:") h₂.A (headerLines content.length content) := by
    intro h₁ h₂
    obtain ⟨hT₁, hA₁⟩ := headerLoop_fields content.length h₁ content
    obtain ⟨hT₂, hA₂⟩ := headerLoop_fields content.length h₂ content
    rw [hb.readHeader h₁, hb.readHeader h₂, ← hT₁, ← hT₂, ← hA₁, ← hA₂, Option.map_some,
      Option.map_some, Option.some.injEq, Prod.mk.injEq]
  unfold Assigns
  rw [← lastValue_forgets_iff, ← lastValue_forgets_iff]
  constructor
  · intro h
    -- every pair of values is in two headers
    have hboth : ∀ v w, _ := fun v w =>
      (hsame ⟨v, v, [0, 0, 0], [0, 0, 0], [], rfl, rfl⟩ ⟨w, w, [0, 0, 0], [0, 0, 0], [], rfl, rfl⟩).1
        (h _ _).1
    exact ⟨fun v w => (hboth v w).1, fun v w => (hboth v w).2⟩
  · rintro ⟨hT, hA⟩ h₁ h₂
    refine ⟨(hsame h₁ h₂).2 ⟨hT _ _, hA _ _⟩, ?_⟩
    rw [hb.state h₁, hb.state h₂, (headerLoop_fields _ h₁ _).1, (headerLoop_fields _ h₂ _).1,
      hT h₁.T h₂.T]

/-! ## The fallback header -/

theorem currentFile_question :
    CurrentFile questionBox questionLocation
      (Downloader.metadataText questionMetadata ++ str "T:9\nR:1,2,3\n") := ⟨by decide, by decide⟩

theorem headerForgotten_question : questionBox.HeaderForgotten 0 :=
  (headerForgotten_iff currentFile_question 0).2 (by decide +kernel)

/-- A file that was downloaded without metadata. -/
def fallbackCard : Card where
  dirs := [str "/sdcard/media/audio"]
  files := [(questionLocation, str "0\n0,0\n")]
  files_nodup := List.nodup_singleton _
  files_in_dirs := by decide

/-- The box plays it. -/
def fallbackBox : Box :=
  { boot fallbackCard (Wifi.boot none) 0 0 with
    json := some (.object [(str "1", .string (str "tone"))]) }

/-- A question after a question, an activity after an activity. -/
theorem headerForgotten_not_fallback :
    ¬ ∀ (b : Box) (location content : Bytes), CurrentFile b location content → b.HeaderForgotten 0 := by
  intro h
  have hfile : CurrentFile fallbackBox questionLocation (str "0\n0,0\n") := ⟨by decide, by decide⟩
  have hstate := (h fallbackBox questionLocation (str "0\n0,0\n") hfile
    ⟨1, 0, [0, 0, 0], [0, 0, 0], [], rfl, rfl⟩ ⟨2, 0, [0, 0, 0], [0, 0, 0], [], rfl, rfl⟩).2
  rw [hfile.state, hfile.state] at hstate
  revert hstate
  decide +kernel

end Box

end Cubbies
