import Cubbies.Proofs.Shutdown
import Cubbies.Proofs.VerifyComplete

set_option autoImplicit false

/-! # Tag tracking

What the read frames say about the tag, and what `System` is told of it. Over a sequence of frames the
flag, the previous UID and the two toy strings are tied to the last UID and to the last removal
(`Tracked`). One frame keeps the tie (`Tracked.read`), whatever the frame before it was. -/

namespace Cubbies

open CString

/-! ## The text of a UID -/

theorem hexDigit_injective : ∀ m < 16, ∀ n < 16, hexDigit m = hexDigit n → m = n := by decide

theorem hexDigit_mem : ∀ n < 16, hexDigit n ∈ str "0123456789ABCDEF" := by decide

theorem hexByte_injective {a b : UInt8} (h : hexByte a = hexByte b) : a = b := by
  have ha := a.toNat_lt
  have hb := b.toNat_lt
  simp only [hexByte, List.cons.injEq, and_true] at h
  obtain ⟨hhigh, hlow⟩ := h
  have hdiv := hexDigit_injective _ (by omega) _ (by omega) hhigh
  have hmod := hexDigit_injective _ (by omega) _ (by omega) hlow
  exact UInt8.toNat.inj (by omega)

theorem flatMap_hexByte_injective {bytes bytes' : Bytes} (hlen : bytes.length = bytes'.length)
    (h : bytes.flatMap hexByte = bytes'.flatMap hexByte) : bytes = bytes' := by
  induction bytes generalizing bytes' with
  | nil => exact (List.length_eq_zero_iff.1 hlen.symm).symm
  | cons b bs ih =>
      cases bytes' with
      | nil => cases hlen
      | cons b' bs' =>
          -- two digits for each byte
          rw [List.flatMap_cons, List.flatMap_cons] at h
          obtain ⟨hhead, htail⟩ := List.append_inj h rfl
          rw [hexByte_injective hhead, ih (Nat.succ.inj hlen) htail]

/-- Different UIDs have different texts. -/
theorem uidText_injective {uid uid' : Uid} (h : uidText uid = uidText uid') : uid = uid' :=
  Subtype.ext (flatMap_hexByte_injective (uid.property.trans uid'.property.symm) h)

theorem hex_of_mem_uidText {uid : Uid} {c : UInt8} (h : c ∈ uidText uid) :
    c ∈ str "0123456789ABCDEF" := by
  obtain ⟨b, -, hc⟩ := List.mem_flatMap.1 h
  have hlt := b.toNat_lt
  simp only [hexByte, List.mem_cons, List.not_mem_nil, or_false] at hc
  rcases hc with rfl | rfl
  · exact hexDigit_mem _ (by omega)
  · exact hexDigit_mem _ (by omega)

namespace Box

theorem uidText_noUid : uidText noUid = noTag := by decide

theorem uidText_eq_noTag {uid : Uid} : uidText uid = noTag ↔ uid = noUid := by
  rw [← uidText_noUid]
  exact ⟨uidText_injective, fun h => congrArg uidText h⟩

/-! ## The calls of a frame -/

/-- What `QBSlaveProcessFrame` calls for the tag. -/
inductive TagCall where
  | setToy (toy : Bytes)
  | resetToy
  deriving DecidableEq

/-- `trackTag` once more, with the calls it makes. -/
def trackTagCalls (b : Box) (now : ℕ) : Box × List TagCall :=
  let tag := b.dl.tagUid
  if tag = noTag then
    let r := if b.tagPresentFlag then (b.resetToy now, [.resetToy]) else (b, [])
    ({ r.1 with tagPresentFlag := false }, r.2)
  else
    let r :=
      if ¬ b.tagPresentFlag ∨ b.previousTagUid.take 16 ≠ tag.take 16 then
        ({ b with previousTagUid := tag.take 16 }.setToy tag, [.setToy tag])
      else (b, [])
    ({ r.1 with tagPresentFlag := true }, r.2)

/-- `readFrame` with the calls it makes. -/
def readFrameCalls (b : Box) (now : ℕ) (data : Bytes) : Box × List TagCall :=
  { b with
    dl := b.dl.frame (frameUid data)
    batteryLevel := byteAt data 8
    chargingState := byteAt data 9 }.trackTagCalls now

theorem trackTagCalls_box (b : Box) (now : ℕ) : (b.trackTagCalls now).1 = b.trackTag now := by
  unfold trackTagCalls trackTag
  by_cases htag : b.dl.tagUid = noTag
  · simp only [if_pos htag]
    split <;> rfl
  · simp only [if_neg htag]
    split <;> rfl

/-- Without the record of its calls, it is the frame. -/
theorem readFrameCalls_box (b : Box) (now : ℕ) (data : Bytes) :
    (b.readFrameCalls now data).1 = b.readFrame now data := trackTagCalls_box _ now

/-! ## Sequences of frames -/

/-- A read frame the slave accepts, with a full payload: eight bytes of the UID and two of the battery
between the five bytes of the header and the checksum. -/
structure ReadRequest where
  now : ℕ
  buffer : Bytes
  recvByteCount : ℕ
  fits : recvByteCount ≤ buffer.length
  full : 17 ≤ recvByteCount
  accepted : crc16Get (buffer.take recvByteCount) = 0
  read : byteAt buffer 0 = 0x01

def ReadRequest.uid (f : ReadRequest) : Uid := frameUid (f.buffer.drop 5)

/-- `QBSlaveProcessFrame` on the frame. -/
def serve (b : Box) (f : ReadRequest) : Box := (processFrame f.buffer f.now b).app

/-- The calls `serve` makes for the tag. -/
def tagCalls (b : Box) (f : ReadRequest) : List TagCall :=
  (b.readFrameCalls f.now (f.buffer.drop 5)).2

theorem serve_eq (b : Box) (f : ReadRequest) :
    b.serve f = (b.readFrameCalls f.now (f.buffer.drop 5)).1 := by
  rw [readFrameCalls_box]
  show (replyBody f.buffer f.now b).app = b.readFrame f.now (f.buffer.drop 5)
  unfold replyBody
  rw [if_pos f.read]
  dsimp only
  split <;> rfl

/-- The UID of the last frame, or none. -/
def tagOf (fs : List ReadRequest) : Uid := (fs.getLast?.map ReadRequest.uid).getD noUid

theorem tagOf_snoc (fs : List ReadRequest) (f : ReadRequest) : tagOf (fs ++ [f]) = f.uid := by
  simp [tagOf]

/-- After `fs`, the frame `f` is the first one without the tag. -/
def TagRemoval (fs : List ReadRequest) (f : ReadRequest) : Prop := f.uid = noUid ∧ tagOf fs ≠ noUid

/-- After `before`, none of the frames `after` is a removal. -/
def NoTagRemoval (before after : List ReadRequest) : Prop :=
  ∀ mid f rest, after = mid ++ f :: rest → ¬ TagRemoval (before ++ mid) f

/-- No tag on the box. -/
structure NoTag (b : Box) : Prop where
  flag : b.tagPresentFlag = false
  presense : b.toyPresenseFlag = false
  toy : b.toy = []

/-! ## The tie -/

/-- What is remembered of the tag from frame to frame. -/
structure TagMemory where
  tagPresentFlag : Bool
  toyPresenseFlag : Bool
  toy : Bytes
  previousTagUid : Bytes
  previousToy : Bytes

def tagMemory (b : Box) : TagMemory :=
  ⟨b.tagPresentFlag, b.toyPresenseFlag, b.toy, b.previousTagUid, b.previousToy⟩

theorem take_uidText (uid : Uid) : (uidText uid).take 16 = uidText uid :=
  List.take_of_length_le (Downloader.length_uidText uid).le

theorem resetToy_tagMemory (b : Box) (now : ℕ) :
    (b.resetToy now).tagMemory = ⟨b.tagPresentFlag, false, [], b.previousTagUid, b.toy⟩ := by
  obtain ⟨commands, heq⟩ := resetToy_fields b now
  rw [heq]
  rfl

/-- What a frame with this UID does to the memory, and the calls it makes. -/
def TagMemory.read (m : TagMemory) (uid : Uid) : TagMemory × List TagCall :=
  if uid = noUid then
    if m.tagPresentFlag then (⟨false, false, [], m.previousTagUid, m.toy⟩, [.resetToy])
    else (m, [])
  else if m.tagPresentFlag = false ∨ m.previousTagUid.take 16 ≠ uidText uid then
    (⟨true, true, uidText uid, uidText uid, m.previousToy⟩, [.setToy (uidText uid)])
  else (m, [])

theorem trackTagCalls_tagMemory {b : Box} {uid : Uid} (htag : b.dl.tagUid = uidText uid) (now : ℕ) :
    ((b.trackTagCalls now).1.tagMemory, (b.trackTagCalls now).2) = b.tagMemory.read uid := by
  have hflag : b.tagMemory.tagPresentFlag = b.tagPresentFlag := rfl
  have hprevious : b.tagMemory.previousTagUid = b.previousTagUid := rfl
  unfold trackTagCalls TagMemory.read
  simp only [htag, uidText_eq_noTag, take_uidText, hflag, hprevious]
  by_cases huid : uid = noUid
  · simp only [if_pos huid]
    by_cases hthere : b.tagPresentFlag = true
    · rw [if_pos hthere, if_pos hthere]
      have hreset := resetToy_tagMemory b now
      simp only [tagMemory, TagMemory.mk.injEq] at hreset ⊢
      obtain ⟨-, hpresense, htoy, hprevious, hbefore⟩ := hreset
      rw [hpresense, htoy, hprevious, hbefore]
    · rw [if_neg hthere, if_neg hthere]
      rw [Bool.not_eq_true] at hthere
      simp only [tagMemory, hthere]
  · simp only [if_neg huid, Bool.not_eq_true]
    by_cases hnew : b.tagPresentFlag = false ∨ b.previousTagUid.take 16 ≠ uidText uid
    · rw [if_pos hnew, if_pos hnew]
      rfl
    · rw [if_neg hnew, if_neg hnew]
      have hthere : b.tagPresentFlag = true := by simpa using fun h => hnew (.inl h)
      simp only [tagMemory, hthere]

/-- The memory when `uid` is the last UID seen. -/
structure Tracked (uid : Uid) (m : TagMemory) : Prop where
  flag : m.tagPresentFlag = true ↔ uid ≠ noUid
  presense : m.toyPresenseFlag = true ↔ uid ≠ noUid
  toy : m.toy = if uid = noUid then [] else uidText uid
  /-- the next UID is compared with it only while there is a tag -/
  previous : uid ≠ noUid → m.previousTagUid = uidText uid

/-- The calls for `uid` when the frame before had `last`. -/
def callsFor (last uid : Uid) : List TagCall :=
  if uid ≠ noUid ∧ uid ≠ last then [.setToy (uidText uid)]
  else if uid = noUid ∧ last ≠ noUid then [.resetToy]
  else []

/-- **One frame.** The tie goes over to its UID, and `previousToy` changes with a removal only. -/
theorem Tracked.read {last : Uid} {m : TagMemory} (h : Tracked last m) (uid : Uid) :
    Tracked uid (m.read uid).1 ∧ (m.read uid).2 = callsFor last uid ∧
      (m.read uid).1.previousToy =
        if uid = noUid ∧ last ≠ noUid then uidText last else m.previousToy := by
  unfold TagMemory.read callsFor
  by_cases huid : uid = noUid
  · have hcall : ¬ (uid ≠ noUid ∧ uid ≠ last) := fun hne => hne.1 huid
    rw [if_pos huid, if_neg hcall]
    by_cases hlast : last = noUid
    -- there was no tag, and there is none
    · have hflag : m.tagPresentFlag ≠ true := fun hflag => h.flag.1 hflag hlast
      have hremoval : ¬ (uid = noUid ∧ last ≠ noUid) := fun hne => hne.2 hlast
      rw [if_neg hflag, if_neg hremoval, if_neg hremoval, huid, ← hlast]
      exact ⟨h, rfl, rfl⟩
    -- the tag is removed
    · have htoy : m.toy = uidText last := by rw [h.toy, if_neg hlast]
      rw [if_pos (h.flag.2 hlast), if_pos ⟨huid, hlast⟩, if_pos ⟨huid, hlast⟩]
      refine ⟨⟨?_, ?_, ?_, fun hne => absurd huid hne⟩, rfl, htoy⟩
      · exact ⟨fun hthere => (Bool.false_ne_true hthere).elim, fun hne => absurd huid hne⟩
      · exact ⟨fun hthere => (Bool.false_ne_true hthere).elim, fun hne => absurd huid hne⟩
      · exact (if_pos huid).symm
  · have hremoval : ¬ (uid = noUid ∧ last ≠ noUid) := fun hne => huid hne.1
    rw [if_neg huid, if_neg hremoval, if_neg hremoval]
    by_cases hsame : uid = last
    -- the same tag again
    · subst hsame
      have hnew : ¬ (m.tagPresentFlag = false ∨ m.previousTagUid.take 16 ≠ uidText uid) := by
        rw [h.previous huid, take_uidText, h.flag.2 huid]
        simp
      rw [if_neg hnew, if_neg fun hne => hne.2 rfl]
      exact ⟨h, rfl, rfl⟩
    -- another tag, or one after none
    · have hnew : m.tagPresentFlag = false ∨ m.previousTagUid.take 16 ≠ uidText uid := by
        by_cases hlast : last = noUid
        · exact .inl (by simpa using fun hflag => h.flag.1 hflag hlast)
        · refine .inr ?_
          rw [h.previous hlast, take_uidText]
          exact fun htext => hsame (uidText_injective htext).symm
      rw [if_pos hnew, if_pos ⟨huid, hsame⟩]
      refine ⟨⟨?_, ?_, ?_, fun _ => rfl⟩, rfl, rfl⟩
      · exact ⟨fun _ => huid, fun _ => rfl⟩
      · exact ⟨fun _ => huid, fun _ => rfl⟩
      · exact (if_neg huid).symm

/-- A frame the slave accepts. -/
theorem serve_tagMemory (b : Box) (f : ReadRequest) :
    (b.serve f).tagMemory = (b.tagMemory.read f.uid).1 ∧
      b.tagCalls f = (b.tagMemory.read f.uid).2 := by
  have hread := trackTagCalls_tagMemory (b := { b with
    dl := b.dl.frame f.uid
    batteryLevel := byteAt (f.buffer.drop 5) 8
    chargingState := byteAt (f.buffer.drop 5) 9 })
      (show (b.dl.frame f.uid).tagUid = uidText f.uid from rfl) f.now
  rw [Prod.eq_iff_fst_eq_snd_eq] at hread
  rw [serve_eq]
  exact hread

/-- `previousToy` after one more frame. -/
theorem Tracked.previousToy {b : Box} {last : Uid} (h : Tracked last b.tagMemory) (f : ReadRequest) :
    (b.serve f).previousToy =
      if f.uid = noUid ∧ last ≠ noUid then uidText last else b.previousToy := by
  have hread := (h.read f.uid).2.2
  rw [← (serve_tagMemory b f).1] at hread
  exact hread

theorem NoTag.tracked {b : Box} (h : NoTag b) : Tracked noUid b.tagMemory where
  flag := by simp [tagMemory, h.flag]
  presense := by simp [tagMemory, h.presense]
  toy := by simp [tagMemory, h.toy]
  previous hne := absurd rfl hne

/-- **Every sequence of frames.** -/
theorem tracked_serve {start : Box} (h : NoTag start) (fs : List ReadRequest) :
    Tracked (tagOf fs) (fs.foldl serve start).tagMemory := by
  induction fs using List.reverseRecOn with
  | nil => exact h.tracked
  | append_singleton fs f ih =>
      rw [tagOf_snoc, List.foldl_append, List.foldl_cons, List.foldl_nil, (serve_tagMemory _ f).1]
      exact (ih.read f.uid).1

/-- Without a removal `previousToy` stays. -/
theorem previousToy_of_noTagRemoval {start : Box} (h : NoTag start) (before after : List ReadRequest)
    (hnone : NoTagRemoval before after) :
    ((before ++ after).foldl serve start).previousToy =
      (before.foldl serve start).previousToy := by
  induction after using List.reverseRecOn with
  | nil => rw [List.append_nil]
  | append_singleton fs f ih =>
      have hkept : NoTagRemoval before fs := fun mid g rest hfs =>
        hnone mid g (rest ++ [f]) (by rw [hfs, List.append_assoc, List.cons_append])
      have hlast : ¬ (f.uid = noUid ∧ tagOf (before ++ fs) ≠ noUid) := hnone fs f [] rfl
      rw [← List.append_assoc, List.foldl_append, List.foldl_cons, List.foldl_nil,
        (tracked_serve h (before ++ fs)).previousToy f, if_neg hlast]
      exact ih hkept

/-- **Tag tracking.** After every sequence of read frames `fs` from a box without a tag: the flags and
the toy are those of the last UID, the calls of the next frame `f` those of the change it makes, and
`previousToy` is the text of the tag the last removal took away. -/
theorem tags_tracked {start : Box} (h : NoTag start) (fs : List ReadRequest) :
    ((fs.foldl serve start).tagPresentFlag = true ↔ tagOf fs ≠ noUid) ∧
      ((fs.foldl serve start).toyPresenseFlag = true ↔ tagOf fs ≠ noUid) ∧
      (fs.foldl serve start).toy = (if tagOf fs = noUid then [] else uidText (tagOf fs)) ∧
      (∀ f, (fs.foldl serve start).tagCalls f =
        if f.uid ≠ noUid ∧ f.uid ≠ tagOf fs then [.setToy (uidText f.uid)]
        else if f.uid = noUid ∧ tagOf fs ≠ noUid then [.resetToy]
        else []) ∧
      (∀ before f after, fs = before ++ f :: after → TagRemoval before f →
        NoTagRemoval (before ++ [f]) after →
          (fs.foldl serve start).previousToy = uidText (tagOf before)) ∧
      (∀ uid, (uidText uid).length = 16 ∧ ∀ c ∈ uidText uid, c ∈ str "0123456789ABCDEF") ∧
      ∀ uid uid', uidText uid = uidText uid' → uid = uid' := by
  have htracked := tracked_serve h fs
  refine ⟨htracked.flag, htracked.presense, htracked.toy, ?_, ?_, ?_, ?_⟩
  · intro f
    rw [(serve_tagMemory _ f).2]
    exact (htracked.read f.uid).2.1
  · intro before f after hfs hremoval hnone
    -- the removal itself, and then the frames after it
    have hafter := previousToy_of_noTagRemoval h (before ++ [f]) after hnone
    have hnow : f.uid = noUid ∧ tagOf before ≠ noUid := hremoval
    rw [hfs, List.append_cons, hafter, List.foldl_append, List.foldl_cons, List.foldl_nil,
      (tracked_serve h before).previousToy f, if_pos hnow]
  · exact fun uid => ⟨Downloader.length_uidText uid, fun _ hc => hex_of_mem_uidText hc⟩
  · exact fun _ _ htext => uidText_injective htext

/-- A frame with the tag `uidX`. -/
def placing : ReadRequest where
  now := 0
  buffer := [0x01, 0x10, 0, 0, 1] ++ Downloader.uidX.val ++ [100, 0, 0xFB, 0xC0]
  recvByteCount := 17
  fits := by decide
  full := by decide
  accepted := by decide +kernel
  read := rfl

/-- A frame without a tag. -/
def removing : ReadRequest where
  now := 0
  buffer := [0x01, 0x10, 0, 0, 1] ++ noUid.val ++ [100, 0, 0xBE, 0x53]
  recvByteCount := 17
  fits := by decide
  full := by decide
  accepted := by decide +kernel
  read := rfl

/-- The tag is placed, reported twice, and removed. -/
theorem tags_tracked_removing :
    ([placing, placing, removing].foldl serve emptyBattery).previousToy =
        uidText Downloader.uidX ∧
      ([placing, placing].foldl serve emptyBattery).tagCalls removing = [.resetToy] := by
  have hstart : NoTag emptyBattery := ⟨rfl, rfl, rfl⟩
  obtain ⟨-, -, -, -, hprevious, -, -⟩ := tags_tracked hstart [placing, placing, removing]
  obtain ⟨-, -, -, hcalls, -, -, -⟩ := tags_tracked hstart [placing, placing]
  constructor
  · refine hprevious [placing, placing] removing [] rfl ⟨by decide, by decide⟩ ?_
    intro mid f rest hnil
    cases mid <;> cases hnil
  · rw [hcalls removing]
    decide

end Box

end Cubbies
