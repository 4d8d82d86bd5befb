import Cubbies.Proofs.UserIdRoundTrip

set_option autoImplicit false

/-! # The volume buttons

`volume` and `maxVolume` are not initialised. `play` reads them from the volume file, or sets both to
100 where there is none; a press changes the volume and writes both to the file. With a play before the
first press the maximum is 100 from then on and the volume stays below it (`VolumeSound`). A press that
comes first stores what the members happen to hold, and every later play reads it back, so everything
depends on the first event (`volumeKept_iff`). -/

namespace Cubbies

open CString

namespace Box

/-! ## Presses and plays -/

inductive Press where
  | up
  | down
  deriving DecidableEq

/-- The byte a press writes to the volume register. -/
def Press.value : Press → UInt8
  | .up => 1
  | .down => 2

/-- A write frame of a volume button. -/
structure PressFrame where
  press : Press
  now : ℕ
  address : ℕ
  len : ℕ
  data : Bytes
  register : writeReg? address len = some .volumeControl
  value : byteAt data 0 = press.value

inductive VolumeEvent where
  | press (f : PressFrame)
  | play (location : Bytes)

def volumeStep (b : Box) : VolumeEvent → Box
  | .press f => b.writeFrame f.now f.address f.len f.data
  | .play location => b.play location

/-- `Player::incVolume` and `Player::decVolume`. -/
def pressed (b : Box) : Press → Box
  | .up => b.incVolume
  | .down => b.decVolume

theorem volumeStep_press (b : Box) (f : PressFrame) :
    b.volumeStep (.press f) = b.pressed f.press := by
  have hvalue := f.value
  simp only [volumeStep, writeFrame, f.register, writeRegister, hvalue]
  cases f.press <;> rfl

/-! ## The volume file -/

def volumeFile (b : Box) : Option Bytes := b.dl.card.content? volumePath

/-- The volume file can be written. -/
def SavesVolume (b : Box) : Prop := (b.dl.card.fopenWrite volumePath).isSome = true

theorem writeVolume_spec {b : Box} (h : b.SavesVolume) :
    b.writeVolume.volumeFile = some [b.volume, b.maxVolume] ∧ b.writeVolume.SavesVolume := by
  obtain ⟨c, hwritten, hdirs⟩ := Card.exists_writeFile h [b.volume, b.maxVolume]
  have hcard : b.writeVolume.dl.card = c := by
    simp only [writeVolume, setCard, hwritten, Option.getD_some]
  unfold SavesVolume at h ⊢
  rw [Card.fopenWrite_isSome_iff] at h ⊢
  unfold volumeFile
  rw [hcard, Card.content?_writeFile hwritten, if_pos rfl, hdirs]
  exact ⟨rfl, h⟩

/-! ## Single events -/

/-- The volume after a press of the up button, and after one of the down button. -/
def raised (volume maxVolume : UInt8) : UInt8 :=
  if volume + 5 > maxVolume then maxVolume else volume + 5

def lowered (volume : UInt8) : UInt8 := if volume > 5 then volume - 5 else 0

def Press.apply (volume maxVolume : UInt8) : Press → UInt8
  | .up => raised volume maxVolume
  | .down => lowered volume

theorem pressed_spec {b : Box} (h : b.SavesVolume) (press : Press) :
    (b.pressed press).volume = press.apply b.volume b.maxVolume ∧
      (b.pressed press).maxVolume = b.maxVolume ∧
      (b.pressed press).volumeFile = some [press.apply b.volume b.maxVolume, b.maxVolume] ∧
      (b.pressed press).SavesVolume := by
  cases press with
  | up =>
      have hsaves : SavesVolume { b with volume := raised b.volume b.maxVolume } := h
      obtain ⟨hfile, hsaves'⟩ := writeVolume_spec hsaves
      exact ⟨rfl, rfl, hfile, hsaves'⟩
  | down =>
      have hsaves : SavesVolume { b with volume := lowered b.volume } := h
      obtain ⟨hfile, hsaves'⟩ := writeVolume_spec hsaves
      exact ⟨rfl, rfl, hfile, hsaves'⟩

theorem play_spec (b : Box) (location : Bytes) :
    (b.play location).volumeFile = b.volumeFile ∧
      ((b.play location).SavesVolume ↔ b.SavesVolume) ∧
      (b.play location).volume = (b.volumeFile.elim 100 fun data => byteAt data 0) ∧
      (b.play location).maxVolume = (b.volumeFile.elim 100 fun data => byteAt data 1) := by
  have hcard : (b.play location).dl = b.dl := by
    unfold play readVolume
    split <;> rfl
  unfold volumeFile SavesVolume
  rw [hcard]
  refine ⟨rfl, Iff.rfl, ?_, ?_⟩
  · unfold play readVolume
    split
    · next data hdata => simp [command, hdata]
    · next hnone => simp [command, hnone]
  · unfold play readVolume
    split
    · next data hdata => simp [command, hdata]
    · next hnone => simp [command, hnone]

theorem raised_le (volume maxVolume : UInt8) : raised volume maxVolume ≤ maxVolume := by
  unfold raised
  split
  · exact UInt8.le_refl _
  · next h => exact UInt8.not_lt.1 h

/-- Below 100 an up press cannot wrap around. -/
theorem le_raised_iff (volume : UInt8) : volume ≤ raised volume 100 ↔ volume ≤ 100 := by
  constructor
  · exact fun h => UInt8.le_trans h (raised_le volume 100)
  · intro h
    unfold raised
    split
    · exact h
    · rw [UInt8.le_iff_toNat_le] at h ⊢
      rw [UInt8.toNat_add]
      have hmax : (100 : UInt8).toNat = 100 := rfl
      have hstep : (5 : UInt8).toNat = 5 := rfl
      omega

theorem lowered_le_iff (volume : UInt8) : lowered volume ≤ 100 ↔ volume ≤ 105 := by
  unfold lowered
  rw [UInt8.le_iff_toNat_le, UInt8.le_iff_toNat_le]
  have hmax : (100 : UInt8).toNat = 100 := rfl
  have hlimit : (105 : UInt8).toNat = 105 := rfl
  have hstep : (5 : UInt8).toNat = 5 := rfl
  split
  · next h =>
      rw [UInt8.toNat_sub_of_le _ _ (UInt8.le_of_lt h)]
      have hgt : 5 < volume.toNat := UInt8.lt_iff_toNat_lt.1 h
      omega
  · next h =>
      have hle : volume.toNat ≤ 5 := UInt8.le_iff_toNat_le.1 (UInt8.not_lt.1 h)
      have hzero : (0 : UInt8).toNat = 0 := rfl
      omega

/-! ## Sequences of events -/

/-- The event `e` in `b` leaves a maximum of 100 in the volume file, if there is one, a volume below the
maximum, and does not lower the volume if it is a press of the up button. -/
structure VolumeKept (b : Box) (e : VolumeEvent) : Prop where
  stored : ∀ data, (b.volumeStep e).volumeFile = some data → byteAt data 1 = 100
  volume : (b.volumeStep e).volume ≤ (b.volumeStep e).maxVolume
  raises : ∀ f : PressFrame, e = .press f → f.press = .up → b.volume ≤ (b.volumeStep e).volume

/-- What a play before the first press establishes: members and file agree, and the maximum is 100. -/
structure VolumeSound (b : Box) : Prop where
  maxVolume : b.maxVolume = 100
  volume : b.volume ≤ 100
  file : b.volumeFile = none ∨ b.volumeFile = some [b.volume, 100]
  saves : b.SavesVolume

theorem pressed_sound {b : Box} {press : Press} (h : b.SavesVolume) (hmax : b.maxVolume = 100)
    (hvolume : press.apply b.volume 100 ≤ 100) : (b.pressed press).VolumeSound := by
  obtain ⟨hpressed, hmax', hfile, hsaves⟩ := pressed_spec h press
  rw [hmax] at hpressed hmax' hfile
  exact ⟨hmax', hpressed ▸ hvolume, .inr (hpressed ▸ hfile), hsaves⟩

theorem VolumeSound.step {b : Box} (h : b.VolumeSound) (e : VolumeEvent) :
    (b.volumeStep e).VolumeSound := by
  cases e with
  | press f =>
      rw [volumeStep_press]
      refine pressed_sound h.saves h.maxVolume ?_
      cases f.press with
      | up => exact raised_le _ _
      | down => exact (lowered_le_iff _).2 (UInt8.le_trans h.volume (by decide))
  | play location =>
      obtain ⟨hfile, hsaves, hvolume, hmax⟩ := b.play_spec location
      show (b.play location).VolumeSound
      rcases h.file with hnone | hsome
      · rw [hnone] at hfile hvolume hmax
        exact ⟨hmax, hvolume ▸ by decide, .inl hfile, hsaves.2 h.saves⟩
      · rw [hsome] at hfile hvolume hmax
        have hsame : (b.play location).volume = b.volume := hvolume
        exact ⟨hmax, hsame ▸ h.volume, .inr (hsame ▸ hfile), hsaves.2 h.saves⟩

/-- An event that leads to a sound state keeps the volume, unless it is a press that lowers it. -/
theorem VolumeSound.kept {b : Box} {e : VolumeEvent} (h : (b.volumeStep e).VolumeSound)
    (hraises : ∀ f : PressFrame, e = .press f → f.press = .up → b.volume ≤ (b.volumeStep e).volume) :
    VolumeKept b e := by
  refine ⟨fun data hdata => ?_, h.maxVolume ▸ h.volume, hraises⟩
  rcases h.file with hnone | hsome
  · rw [hnone] at hdata
    cases hdata
  · obtain rfl := Option.some.inj (hsome.symm.trans hdata)
    rfl

theorem VolumeSound.keeps {b : Box} (h : b.VolumeSound) (e : VolumeEvent) : VolumeKept b e := by
  refine (h.step e).kept ?_
  rintro f rfl hup
  rw [volumeStep_press, hup, (pressed_spec h.saves .up).1, h.maxVolume]
  exact (le_raised_iff _).2 h.volume

theorem VolumeSound.meets {b : Box} (h : b.VolumeSound) (es : List VolumeEvent) :
    Runs.Meets volumeStep VolumeKept b es := by
  induction es generalizing b with
  | nil => trivial
  | cons e es ih => exact ⟨h.keeps e, ih (h.step e)⟩

/-- The volumes a press may find in the members before anything was read. -/
def Press.limit : Press → UInt8
  | .up => 100
  | .down => 105

theorem Press.apply_le_iff (press : Press) (volume : UInt8) :
    press.apply volume 100 ≤ 100 ∧ (press = .up → volume ≤ press.apply volume 100) ↔
      volume ≤ press.limit := by
  cases press with
  | up =>
      show raised volume 100 ≤ 100 ∧ (Press.up = .up → volume ≤ raised volume 100) ↔ volume ≤ 100
      exact ⟨fun h => (le_raised_iff volume).1 (h.2 rfl),
        fun h => ⟨raised_le volume 100, fun _ => (le_raised_iff volume).2 h⟩⟩
  | down =>
      show lowered volume ≤ 100 ∧ (Press.down = .up → volume ≤ lowered volume) ↔ volume ≤ 105
      exact ⟨fun h => (lowered_le_iff volume).1 h.1,
        fun h => ⟨(lowered_le_iff volume).2 h, fun hup => Press.noConfusion hup⟩⟩

/-- The first event decides: a play, or a press that finds 100 and a volume in range. -/
def VolumeReady (volume maxVolume : UInt8) : List VolumeEvent → Prop
  | [] => True
  | .play _ :: _ => True
  | .press f :: _ => maxVolume = 100 ∧ volume ≤ f.press.limit

/-- A press before anything was read. -/
theorem volumeKept_press_iff {b : Box} (h : b.SavesVolume) (f : PressFrame) :
    VolumeKept b (.press f) ↔ b.maxVolume = 100 ∧ b.volume ≤ f.press.limit := by
  obtain ⟨hvolume, hmax, hfile, -⟩ := pressed_spec h f.press
  rw [← f.press.apply_le_iff]
  constructor
  · intro hkept
    have hstored := hkept.stored
    have hle := hkept.volume
    have hraises := hkept.raises f rfl
    rw [volumeStep_press] at hstored hle hraises
    have h100 : b.maxVolume = 100 := hstored _ hfile
    rw [hvolume, hmax, h100] at hle
    rw [hvolume, h100] at hraises
    exact ⟨h100, hle, hraises⟩
  · rintro ⟨h100, hle, hraises⟩
    have hsound : (b.volumeStep (.press f)).VolumeSound := by
      rw [volumeStep_press]
      exact pressed_sound h h100 hle
    refine hsound.kept ?_
    rintro f' hf hup
    obtain rfl := VolumeEvent.press.inj hf
    rw [volumeStep_press, hvolume, h100]
    exact hraises hup

/-- The program as it starts, with what the members of the player happen to hold. -/
def bootVolume (card : Card) (wifi : Wifi) (battery charging volume maxVolume : UInt8) : Box :=
  { boot card wifi battery charging with volume := volume, maxVolume := maxVolume }

/-- **Exactly when the volume buttons work.** From boot without a volume file, whatever the members
hold: every event leaves 100 as the stored maximum and the volume below it, and no press of the up
button lowers the volume, if and only if the first event is a play, or the members happen to hold 100
and a volume in range. The members are bound from the first event on: before it they mean nothing. -/
theorem volumeKept_iff (card : Card) (wifi : Wifi) (battery charging volume maxVolume : UInt8)
    (hfile : card.content? volumePath = none) (hsaves : (card.fopenWrite volumePath).isSome = true)
    (es : List VolumeEvent) :
    Runs.Meets volumeStep VolumeKept (bootVolume card wifi battery charging volume maxVolume) es ↔
      VolumeReady volume maxVolume es := by
  generalize hb : bootVolume card wifi battery charging volume maxVolume = b
  have hcard : b.dl.card = card := hb ▸ rfl
  have hvolume : b.volume = volume := hb ▸ rfl
  have hmax : b.maxVolume = maxVolume := hb ▸ rfl
  have hsaves' : b.SavesVolume := by
    unfold SavesVolume
    rw [hcard]
    exact hsaves
  have hfile' : b.volumeFile = none := by
    unfold volumeFile
    rw [hcard]
    exact hfile
  rw [← hvolume, ← hmax]
  cases es with
  | nil => exact Iff.rfl
  | cons e es =>
      cases e with
      | press f =>
          constructor
          · exact fun h => (volumeKept_press_iff hsaves' f).1 h.1
          · intro hready
            refine ⟨(volumeKept_press_iff hsaves' f).2 hready, VolumeSound.meets ?_ es⟩
            rw [volumeStep_press]
            exact pressed_sound hsaves' hready.1 ((f.press.apply_le_iff _).2 hready.2).1
      | play location =>
          refine iff_of_true ?_ trivial
          obtain ⟨hplayed, hsaves'', hvolume', hmax'⟩ := b.play_spec location
          rw [hfile'] at hplayed hvolume' hmax'
          have hsound : (b.volumeStep (.play location)).VolumeSound :=
            ⟨hmax', hvolume' ▸ by decide, .inl hplayed, hsaves''.2 hsaves'⟩
          refine ⟨hsound.kept ?_, hsound.meets es⟩
          rintro f hf
          cases hf

/-- A press of this button. -/
def pressFrame (press : Press) : PressFrame where
  press := press
  now := 0
  address := 0x3000
  len := 1
  data := [press.value]
  register := by decide
  value := rfl

theorem volumeKept_iff_play :
    Runs.Meets volumeStep VolumeKept (bootVolume dataCard (Wifi.boot none) 100 0 17 3)
      [.play startupTone, .press (pressFrame .up), .press (pressFrame .down), .play startupTone] :=
  (volumeKept_iff dataCard (Wifi.boot none) 100 0 17 3 (by decide) (by decide) _).2 trivial

/-- The first press comes before the first audio, and the members hold zeros: the file says that the
maximum is 0, and so does every volume from then on. -/
theorem volumeKept_not_press :
    ¬ Runs.Meets volumeStep VolumeKept (bootVolume dataCard (Wifi.boot none) 100 0 0 0)
      [.press (pressFrame .up), .play startupTone] := by
  intro h
  have hstored := h.1.stored [0, 0] (by decide +kernel)
  revert hstored
  decide

end Box

end Cubbies
