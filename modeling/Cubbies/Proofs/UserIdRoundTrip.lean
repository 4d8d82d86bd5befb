import Cubbies.Proofs.UserSlots

set_option autoImplicit false

/-! # A user id and what becomes of it

`init_user1` and `init_user2` hold ids of up to 49 characters. `writeUserID` copies 36 of them, and
writes 36 bytes to the card, from where they come back as they are (`readUserID_stored`). What is
stored is recognised before and after a power cycle; it is the id if that has no more than 36
characters. -/

namespace Cubbies

open CString

/-- The text of a string in an array of zeros. -/
theorem text_append_zeros {s : Bytes} (h : (0 : UInt8) ∉ s) (n : ℕ) :
    text (s ++ List.replicate n 0) = s := by
  have hzeros : text (List.replicate n (0 : UInt8)) = [] := by
    cases n with
    | zero => rfl
    | succ n => rfl
  have hall : ∀ b ∈ s, decide (b ≠ 0) = true := by
    intro b hb
    exact decide_eq_true fun hzero => h (hzero ▸ hb)
  unfold text at hzeros ⊢
  rw [List.takeWhile_append_of_pos hall, hzeros, List.append_nil]

/-- The number `writeUserID` has for the slot. -/
def Slot.index : Slot → ℕ
  | .first => 1
  | .second => 2

namespace Box

theorem userIdPath_other (n : Slot) : userIdPath n.other.index ≠ userIdPath n.index := by
  cases n <;> decide

/-- What `writeUserID` stores in memory. -/
theorem writeUserID_user (b : Box) (n : Slot) (u : Bytes) :
    (b.writeUserID n.index u).user n = u.take 36 ∧
      (b.writeUserID n.index u).user n.other = b.user n.other := by
  cases n <;> exact ⟨rfl, rfl⟩

/-- What it stores on the card. -/
theorem writeUserID_content {b : Box} {n : Slot}
    (hopens : (b.dl.card.fopenWrite (userIdPath n.index)).isSome = true) (u q : Bytes) :
    (b.writeUserID n.index u).dl.card.content? q =
      if q = userIdPath n.index then
        some (u.take 36 ++ List.replicate (36 - (u.take 36).length) 0)
      else b.dl.card.content? q := by
  obtain ⟨c, hwritten, -⟩ := Card.exists_writeFile hopens
    (u.take 36 ++ List.replicate (36 - (u.take 36).length) 0)
  have hcard : (b.writeUserID n.index u).dl.card = (b.dl.card.writeFile (userIdPath n.index)
      (u.take 36 ++ List.replicate (36 - (u.take 36).length) 0)).getD b.dl.card := by
    cases n <;> rfl
  rw [hcard, hwritten, Option.getD_some]
  exact Card.content?_writeFile hwritten q

/-- **The round trip over the card.** -/
theorem readUserID_stored {b : Box} {n : Slot}
    (hopens : (b.dl.card.fopenWrite (userIdPath n.index)).isSome = true) {u : Bytes}
    (hnul : (0 : UInt8) ∉ u) :
    readUserID (b.writeUserID n.index u).dl.card n.index = u.take 36 ∧
      readUserID (b.writeUserID n.index u).dl.card n.other.index =
        readUserID b.dl.card n.other.index := by
  constructor
  · have hshort : (u.take 36).length ≤ 36 := by
      rw [List.length_take]
      omega
    unfold readUserID
    rw [writeUserID_content hopens, if_pos rfl, Option.getD_some, List.take_of_length_le]
    · exact text_append_zeros (fun hmem => hnul (List.mem_of_mem_take hmem)) _
    · rw [List.length_append, List.length_replicate]
      omega
  · unfold readUserID
    rw [writeUserID_content hopens, if_neg (userIdPath_other n)]

/-- The box after a power cycle. -/
def powerCycle (b : Box) (battery charging : UInt8) : Box :=
  boot b.dl.card (Wifi.boot b.dl.wifi.credentialsFile) battery charging

theorem powerCycle_user (b : Box) (battery charging : UInt8) (n : Slot) :
    (b.powerCycle battery charging).user n = readUserID b.dl.card n.index := by
  cases n <;> rfl

theorem verifyUser_slots (b : Box) (n : Slot) (id : Bytes) :
    b.verifyUser id = true ↔ id = b.user n ∨ id = b.user n.other := by
  rw [verifyUser_iff]
  cases n with
  | first => exact Iff.rfl
  | second => exact or_comm

/-- From `b` to `b'` the user `u` was registered in the slot `n`, and nothing else. -/
structure Recognised (b : Box) (n : Slot) (u : Bytes) (b' : Box) : Prop where
  accepted : b'.verifyUser u = true
  other : b'.user n.other = b.user n.other
  only : ∀ id, b'.verifyUser id = true → id = u ∨ id = b.user n.other
  acceptedLater : ∀ battery charging, (b'.powerCycle battery charging).verifyUser u = true
  otherLater : ∀ battery charging,
    (b'.powerCycle battery charging).user n.other = (b.powerCycle battery charging).user n.other
  onlyLater : ∀ battery charging id, (b'.powerCycle battery charging).verifyUser id = true →
    id = u ∨ id = (b.powerCycle battery charging).user n.other

/-- **A registered user is recognised**, now and after a power cycle, exactly if the id has at most 36
characters. -/
theorem writeUserID_recognised_iff {b : Box} {n : Slot} {u : Bytes} (hnul : (0 : UInt8) ∉ u)
    (hopens : (b.dl.card.fopenWrite (userIdPath n.index)).isSome = true) :
    Recognised b n u (b.writeUserID n.index u) ↔ u.length ≤ 36 := by
  obtain ⟨hown, hother⟩ := writeUserID_user b n u
  obtain ⟨hread, hreadOther⟩ := readUserID_stored hopens hnul
  generalize b.writeUserID n.index u = b' at hown hother hread hreadOther ⊢
  constructor
  · intro h
    rw [← List.take_eq_self_iff]
    have hstored : b'.verifyUser (u.take 36) = true := by
      rw [verifyUser_slots b' n, hown]
      exact .inl rfl
    -- the id itself is accepted, and so is what is stored
    rcases (verifyUser_slots b' n u).1 h.accepted with heq | heq
    · exact (heq.trans hown).symm
    · rcases h.only _ hstored with hsame | hsame
      · exact hsame
      · rw [hsame, heq, hother]
  · intro hshort
    have htake : u.take 36 = u := (List.take_eq_self_iff u).2 hshort
    rw [htake] at hown hread
    have hcycle : ∀ battery charging, (b'.powerCycle battery charging).user n = u := by
      intro battery charging
      rw [powerCycle_user, hread]
    have hcycleOther : ∀ battery charging, (b'.powerCycle battery charging).user n.other =
        (b.powerCycle battery charging).user n.other := by
      intro battery charging
      rw [powerCycle_user, powerCycle_user, hreadOther]
    refine ⟨?_, hother, ?_, ?_, hcycleOther, ?_⟩
    · rw [verifyUser_slots b' n, hown]
      exact .inl rfl
    · intro id hid
      rwa [verifyUser_slots b' n, hown, hother] at hid
    · intro battery charging
      rw [verifyUser_slots _ n, hcycle]
      exact .inl rfl
    · intro battery charging id hid
      rwa [verifyUser_slots _ n, hcycle, hcycleOther] at hid

/-! ## Ids of a box at its start -/

/-- A card with the folder of the users. -/
def dataCard : Card where
  dirs := [str "/sdcard", str "/sdcard/data"]
  files := []
  files_nodup := List.nodup_nil
  files_in_dirs := by simp

def dataBox : Box := boot dataCard (Wifi.boot none) 100 0

/-- An id of 37 characters, as `init_user1` holds it. -/
def longUser : Bytes := List.replicate 37 97

theorem longUser_forgotten :
    ¬ ∀ (b : Box) (n : Slot) (u : Bytes), (0 : UInt8) ∉ u → 1 ≤ u.length → u.length ≤ 49 →
      (b.dl.card.fopenWrite (userIdPath n.index)).isSome = true →
        Recognised b n u (b.writeUserID n.index u) := by
  intro h
  have haccepted := (h dataBox .first longUser (by decide) (by decide) (by decide)
    (by decide)).accepted
  revert haccepted
  decide

/-- A UUID has 36. -/
theorem writeUserID_recognised_uuid :
    Recognised dataBox .second (str "f81d4fae-7dec-11d0-a765-00a0c91e6bf6")
      (dataBox.writeUserID 2 (str "f81d4fae-7dec-11d0-a765-00a0c91e6bf6")) :=
  (writeUserID_recognised_iff (n := .second) (by decide) (by decide)).2 (by decide)

end Box

end Cubbies
