import Mathlib.Data.UInt
import Mathlib.Data.Nat.Basic

set_option autoImplicit false

/-! # Elapsed time on the 32-bit tick (`time_spent.cpp`)

The clock is `esp_timer_get_time`, microseconds since boot, an unbounded natural number here.
`GetStartTime` is its millisecond count cut to 32 bits; `TimeSpent` compares two such ticks. After a
wrap `TimeSpent` subtracts from `0xffffffff` instead of `2^32` and so comes out one tick late, which
`timeSpent_tickOf` states exactly. -/

namespace Cubbies

/-- The millisecond of a point in time given in microseconds. -/
def millis (now : ℕ) : ℕ := now / 1000

/-- The tick of a millisecond: its low 32 bits. -/
def tickOf (ms : ℕ) : UInt32 := UInt32.ofNat ms

/-- `GetStartTime` at the time `now` in microseconds. -/
def getStartTime (now : ℕ) : UInt32 := tickOf (millis now)

/-- `TimeSpent` at the time `now` in microseconds. -/
def timeSpent (now : ℕ) (startTick totalTimeInMs : UInt32) : Bool :=
  if getStartTime now ≥ startTick then
    if getStartTime now - startTick < totalTimeInMs then false else true
  else
    if 0xffffffff - (startTick - getStartTime now) < totalTimeInMs then false else true

theorem tickOf_toNat (ms : ℕ) : (tickOf ms).toNat = ms % 4294967296 := by
  simp [tickOf, UInt32.toNat_ofNat']

/-- What `TimeSpent` computes for a start less than a full turn of the tick ago: the elapsed
milliseconds, one less if the tick wrapped in between. -/
theorem timeSpent_tickOf (now start : ℕ) (d : UInt32) (hle : start ≤ millis now)
    (hturn : millis now - start < 4294967296) :
    timeSpent now (tickOf start) d =
      decide (d.toNat ≤ millis now - start -
        (if millis now % 4294967296 < start % 4294967296 then 1 else 0)) := by
  have hnow : (getStartTime now).toNat = millis now % 4294967296 := tickOf_toNat _
  have hstart : (tickOf start).toNat = start % 4294967296 := tickOf_toNat _
  have hall : (0xffffffff : UInt32).toNat = 4294967295 := rfl
  unfold timeSpent
  simp only [ge_iff_le, UInt32.le_iff_toNat_le, UInt32.lt_iff_toNat_lt, hnow, hstart]
  by_cases hwrap : millis now % 4294967296 < start % 4294967296
  · have hsub : (tickOf start - getStartTime now).toNat =
        start % 4294967296 - millis now % 4294967296 := by
      rw [UInt32.toNat_sub_of_le _ _ (by rw [UInt32.le_iff_toNat_le]; omega), hnow, hstart]
    have hfull : (0xffffffff - (tickOf start - getStartTime now)).toNat =
        4294967295 - (start % 4294967296 - millis now % 4294967296) := by
      rw [UInt32.toNat_sub_of_le _ _ (by
        rw [UInt32.le_iff_toNat_le, hsub, hall]
        omega), hsub, hall]
    rw [if_neg (by omega), hfull, if_pos hwrap]
    split <;> simp only [false_eq_decide_iff, true_eq_decide_iff] <;> omega
  · have hsub : (getStartTime now - tickOf start).toNat =
        millis now % 4294967296 - start % 4294967296 := by
      rw [UInt32.toNat_sub_of_le _ _ (by rw [UInt32.le_iff_toNat_le]; omega), hnow, hstart]
    rw [if_pos (by omega), hsub, if_neg hwrap]
    split <;> simp only [false_eq_decide_iff, true_eq_decide_iff] <;> omega

/-- The tick wrapped between `start` and `ms`, less than a full turn apart. -/
def tickWrapped (start ms : ℕ) : Prop := ms % 4294967296 < start % 4294967296

/-- **Timeouts across the wrap.** `TimeSpent` tells whether `d` milliseconds have gone by, except in
the one millisecond after a wrap in which exactly `d` have. -/
theorem timeSpent_iff_elapsed (now start : ℕ) (d : UInt32) (hle : start ≤ millis now)
    (hturn : millis now - start < 4294967296) :
    (timeSpent now (tickOf start) d = true ↔ d.toNat ≤ millis now - start) ↔
      ¬ (tickWrapped start (millis now) ∧ millis now - start = d.toNat) := by
  rw [timeSpent_tickOf now start d hle hturn, decide_eq_true_iff]
  unfold tickWrapped
  by_cases hwrap : millis now % 4294967296 < start % 4294967296
  · -- the elapsed time is positive, so what `TimeSpent` computes is one less
    have hpos : start ≠ millis now := by
      intro heq
      rw [heq] at hwrap
      exact lt_irrefl _ hwrap
    rw [if_pos hwrap]
    constructor
    · rintro hiff ⟨-, heq⟩
      have := hiff.2 (by omega)
      omega
    · intro hne
      have : millis now - start ≠ d.toNat := fun heq => hne ⟨hwrap, heq⟩
      constructor <;> intro _ <;> omega
  · rw [if_neg hwrap]
    exact iff_of_true Iff.rfl fun h => hwrap h.1

/-- Three milliseconds on, behind the wrap, one of them is seen to have gone by. -/
theorem timeSpent_iff_elapsed_sample :
    timeSpent 4294967298000 (tickOf 4294967295) 1 = true ↔
      (1 : UInt32).toNat ≤ millis 4294967298000 - 4294967295 :=
  (timeSpent_iff_elapsed 4294967298000 4294967295 1 (by decide) (by decide)).2 (by
    rintro ⟨-, heq⟩
    revert heq
    decide)

/-- One millisecond from the last tick before the wrap to the first behind it is not seen. -/
theorem timeSpent_late :
    ¬ ∀ (now start : ℕ) (d : UInt32), start ≤ millis now → millis now - start < 4294967296 →
      (timeSpent now (tickOf start) d = true ↔ d.toNat ≤ millis now - start) := by
  intro h
  have hspent := (h 4294967296000 4294967295 1 (by decide) (by decide)).2 (by decide)
  revert hspent
  decide

/-- The test never fires early: fewer than `d` milliseconds are never enough. -/
theorem timeSpent_eq_false {now start : ℕ} {d : UInt32} (hle : start ≤ millis now)
    (h : millis now - start < d.toNat) : timeSpent now (tickOf start) d = false := by
  have hd := d.toNat_lt
  rw [timeSpent_tickOf now start d hle (by omega)]
  exact decide_eq_false (by split <;> omega)

/-- One millisecond more than `d` is always enough. -/
theorem timeSpent_eq_true {now start : ℕ} {d : UInt32} (h : d.toNat < millis now - start)
    (hturn : millis now - start < 4294967296) : timeSpent now (tickOf start) d = true := by
  rw [timeSpent_tickOf now start d (by omega) hturn]
  exact decide_eq_true (by split <;> omega)

end Cubbies
