import Cubbies.Proofs.CardOwnership
import Cubbies.Proofs.PlayerFrame
import Cubbies.Proofs.Questions

set_option autoImplicit false

/-! # The order of a playlist

The items of a playlist in the order they are started. A run gives a list of marks: an item that is
started, and a press of the button for the previous one that is taken while an item is on
(`Mark`). `playlist_order` says which mark can follow which (`Follows`) and that an item that is started
is played (`PlaysEntry`), for a playlist of any length that fits the file buffer and any mix of items. -/

namespace Cubbies

open CString

namespace Box

/-! ## Marks -/

inductive Mark where
  /-- the item of this number is started -/
  | item (k : ℕ)
  /-- the button for the previous item is taken in this one -/
  | back (k : ℕ)
  deriving DecidableEq

/-- The marks that can follow a mark, in a playlist of `n` items. -/
inductive Follows (n : ℕ) : Mark → Mark → Prop where
  | next (k : ℕ) : Follows n (.item k) (.item (if k = n then 1 else k + 1))
  | press {k : ℕ} : 2 ≤ k → Follows n (.item k) (.back k)
  | previous {k : ℕ} : 2 ≤ k → Follows n (.back k) (.item (k - 1))

/-- The marks start with the first item and follow each other. -/
structure Ordered (n : ℕ) (marks : List Mark) : Prop where
  first : ∀ m ∈ marks.head?, m = .item 1
  follows : marks.IsChain (Follows n)

/-- A mark can come next. -/
def CanCome (n : ℕ) (marks : List Mark) (m : Mark) : Prop :=
  marks = [] ∧ m = .item 1 ∨ ∃ last ∈ marks.getLast?, Follows n last m

theorem ordered_nil (n : ℕ) : Ordered n [] where
  first _ hm := by cases hm
  follows := .nil

theorem Ordered.snoc {n : ℕ} {marks : List Mark} {m : Mark} (h : Ordered n marks)
    (hm : CanCome n marks m) : Ordered n (marks ++ [m]) := by
  rcases hm with ⟨rfl, rfl⟩ | ⟨last, hlast, hfollows⟩
  · exact ⟨fun m hm => (Option.some.inj hm).symm, List.isChain_singleton _⟩
  · obtain ⟨rest, rfl⟩ := List.getLast?_eq_some_iff.1 hlast
    constructor
    · intro m' hm'
      refine h.first m' ?_
      cases rest with
      | nil => exact hm'
      | cons _ _ => exact hm'
    · rw [List.isChain_append]
      refine ⟨h.follows, List.isChain_singleton _, ?_⟩
      intro x hx y hy
      rw [hlast] at hx
      obtain rfl := Option.some.inj hx
      obtain rfl := Option.some.inj hy
      exact hfollows

/-- Without the previous button, the items come round and round. -/
theorem Ordered.cycles {n : ℕ} {marks : List Mark} (h : Ordered n marks)
    (hnone : ∀ k, Mark.back k ∉ marks) (hn : 1 ≤ n) :
    marks = (List.range marks.length).map fun i => .item (i % n + 1) := by
  have hat : ∀ i (hi : i < marks.length), marks[i] = .item (i % n + 1) := by
    intro i
    induction i with
    | zero =>
        intro hi
        have hhead : marks.head? = some marks[0] := by rw [List.head?_eq_getElem?, List.getElem?_eq_getElem hi]
        rw [h.first _ hhead, Nat.zero_mod]
    | succ i ih =>
        intro hi
        have hfollows := h.follows.getElem i hi
        rw [ih (by omega)] at hfollows
        generalize hm : marks[i + 1] = m at hfollows
        cases hfollows with
        | next =>
            congr 1
            rw [← Nat.mod_add_mod]
            have hlt : i % n < n := Nat.mod_lt _ hn
            split
            · next hlast => rw [hlast, Nat.mod_self]
            · next hlast => rw [Nat.mod_eq_of_lt (show i % n + 1 < n by omega)]
        | press _ => exact absurd (hm ▸ List.getElem_mem hi) (hnone _)
  refine List.ext_getElem (by simp) fun i hi _ => ?_
  rw [hat i hi, List.getElem_map, List.getElem_range]

/-- The mark a step of a run leaves. -/
def stepMark? : Box × BoxEvent → Option Mark
  | (b, .handler _) =>
      if b.state ∈ [.playNormalAudio, .playQna, .playActivity] then some (.item (b.indexx.toNat + 1))
      else none
  | (b, .write _ address len data) =>
      if PressesPrevious address len data ∧ b.state = .waitForPlayer ∧ 0 < b.indexx then
        some (.back (b.indexx.toNat + 1))
      else none
  | _ => none

def marks (trace : List (Box × BoxEvent)) : List Mark := trace.filterMap stepMark?

/-- The steps of a run in which the toy stays, in the same direction, the battery is not low and no user is
to be verified. -/
def PlaylistStep [CJson] (b : Box) (e : BoxEvent) : Prop :=
  match e with
  | .handler _ | .pipeline _ | .station _ => True
  | .read _ data => frameTag data = b.toy ∧ frameTag data ≠ noTag ∧ 35 ≤ byteAt data 8
  | .write _ address len data =>
      (writeReg? address len = some .batteryPercent → 35 ≤ byteAt data 0) ∧
        (writeReg? address len = some .turnTablePosition → byteAt data 0 = b.turnTable)
  | .ble _ uuid value _ => ¬ b.StartsVerification uuid value

/-! ## What a playlist is played from -/

/-- The toy, the direction, the card and the battery. -/
structure Source where
  toy : Bytes
  turnTable : UInt8
  card : Card
  batteryLevel : UInt8

def source (b : Box) : Source := ⟨b.toy, b.turnTable, b.dl.card, b.batteryLevel⟩

def Lasting.source (l : Lasting) : Source := ⟨l.toy, l.turnTable, l.dl.card, l.batteryLevel⟩

theorem KeepsLasting.source {b b' : Box} (h : KeepsLasting b b') : b'.source = b.source :=
  congrArg Lasting.source h

/-- From `b` to `b'` the list of the toy is the same, and the battery has not become low. -/
structure SameList (b b' : Box) : Prop where
  toy : b'.toy = b.toy
  turnTable : b'.turnTable = b.turnTable
  battery : 35 ≤ b.batteryLevel → 35 ≤ b'.batteryLevel
  file : ∀ direction, b'.dl.card.content? (directionPath b.toy direction) =
    b.dl.card.content? (directionPath b.toy direction)

theorem SameList.of_source {b b' : Box} (h : b'.source = b.source) : SameList b b' where
  toy := congrArg Source.toy h
  turnTable := congrArg Source.turnTable h
  battery hb := by rwa [show b'.batteryLevel = b.batteryLevel from congrArg Source.batteryLevel h]
  file direction :=
    congrArg (Card.content? · (directionPath b.toy direction)) (congrArg Source.card h)

/-- No list is the file of the volume or of the box name. -/
theorem directionPath_ne (toy direction : Bytes) :
    directionPath toy direction ≠ volumePath ∧ directionPath toy direction ≠ boxNamePath := by
  have hprefix : str "/sdcard/media/toys/" <+: directionPath toy direction := by
    unfold directionPath
    rw [List.append_assoc, List.append_assoc, List.append_assoc]
    exact List.prefix_append _ _
  refine ⟨fun h => ?_, fun h => ?_⟩
  · rw [h] at hprefix
    exact absurd hprefix (by decide +kernel)
  · rw [h] at hprefix
    exact absurd hprefix (by decide +kernel)

/-- A write frame, if it does not say otherwise. -/
theorem writeFrame_sameList [CJson] {b : Box} {now address len : ℕ} {data : Bytes}
    (hok : PlaylistStep b (.write now address len data)) :
    SameList b (b.writeFrame now address len data) := by
  have hfile (direction : Bytes) :
      (b.writeFrame now address len data).dl.card.content? (directionPath b.toy direction) =
        b.dl.card.content? (directionPath b.toy direction) :=
    (writeFrame_within b now address len data).content _ fun hwrites =>
      (directionPath_ne _ _).1 hwrites.2.2
  have hkeeps {b' : Box} (h : b'.lasting = b.lasting) : b'.toy = b.toy ∧
      b'.turnTable = b.turnTable ∧ (35 ≤ b.batteryLevel → 35 ≤ b'.batteryLevel) :=
    ⟨congrArg Lasting.toy h, congrArg Lasting.turnTable h, fun hb => by
      rwa [show b'.batteryLevel = b.batteryLevel from congrArg Lasting.batteryLevel h]⟩
  have hfields : (b.writeFrame now address len data).toy = b.toy ∧
      (b.writeFrame now address len data).turnTable = b.turnTable ∧
        (35 ≤ b.batteryLevel → 35 ≤ (b.writeFrame now address len data).batteryLevel) := by
    unfold writeFrame
    cases hat : writeReg? address len with
    | none => exact ⟨rfl, rfl, id⟩
    | some reg =>
        cases reg with
        | batteryPercent => exact ⟨rfl, rfl, fun _ => hok.1 hat⟩
        | turnTablePosition => exact ⟨rfl, hok.2 hat, id⟩
        | chargingStatus => exact ⟨rfl, rfl, id⟩
        | volumeControl =>
            dsimp only [writeRegister]
            split_ifs <;> exact ⟨rfl, rfl, id⟩
        | playPause =>
            dsimp only [writeRegister]
            split
            · exact hkeeps (playerClosed_lasting.playPauseToggle b)
            · exact ⟨rfl, rfl, id⟩
        | nextPrev =>
            dsimp only [writeRegister, Box.next, previous]
            split_ifs <;> exact ⟨rfl, rfl, id⟩
        | answerOption =>
            dsimp only [writeRegister]
            split_ifs
            · exact hkeeps (playerClosed_lasting.skipQuestion { b with leftEarButtonState := true })
            · exact hkeeps (playerClosed_lasting.skipQuestion { b with rightEarButtonState := true })
            · exact ⟨rfl, rfl, id⟩
  exact ⟨hfields.1, hfields.2.1, hfields.2.2, hfile⟩

/-- A BLE write that starts no verification. -/
theorem onWrite_sameList [CJson] {b b' : Box} {now : ℕ} {uuid : BleUuid} {value : Bytes}
    {s : Wifi.CredentialsScript} (hok : ¬ b.StartsVerification uuid value)
    (h : b.onWrite now uuid value s = some b') : SameList b b' := by
  let Same (b' : Box) : Prop :=
    b'.toy = b.toy ∧ b'.turnTable = b.turnTable ∧ b'.batteryLevel = b.batteryLevel
  have hfields : Same b' := by
    refine onWrite_cases (P := Same) h ⟨rfl, rfl, rfl⟩ (fun hstarts => absurd hstarts hok) ?_
    intro msgType json hstarts b' hcommand
    exact bleCommand_cases (P := Same) hcommand ⟨rfl, rfl, rfl⟩ (fun _ => ⟨rfl, rfl, rfl⟩)
      (fun _ => ⟨rfl, rfl, rfl⟩) fun hsix => absurd (hstarts hsix) hok
  refine ⟨hfields.1, hfields.2.1, fun hb => by rwa [hfields.2.2], fun direction => ?_⟩
  exact (onWrite_within h).content _ fun hwrites => (directionPath_ne _ _).2 hwrites.2

/-- A read frame that reports the toy that is there. -/
theorem readFrame_toy {b : Box} {data : Bytes} (now : ℕ) (htoy : frameTag data = b.toy)
    (hfound : frameTag data ≠ noTag) :
    ∃ presense uid, b.readFrame now data =
      { b with
        dl := b.dl.frame (frameUid data)
        batteryLevel := byteAt data 8
        chargingState := byteAt data 9
        toyPresenseFlag := presense
        previousTagUid := uid
        tagPresentFlag := true } := by
  have htag : (b.dl.frame (frameUid data)).tagUid = frameTag data := rfl
  unfold readFrame trackTag
  dsimp only
  rw [htag, if_neg hfound, htoy]
  split <;> exact ⟨_, _, rfl⟩

/-- A press of the previous button that is taken. -/
theorem writeFrame_previous {b : Box} {now address len : ℕ} {data : Bytes}
    (hpress : PressesPrevious address len data) (hwait : b.state = .waitForPlayer)
    (hpos : 0 < b.indexx) : b.writeFrame now address len data = b.setState now .playPrevious := by
  unfold writeFrame
  rw [hpress.1]
  dsimp only [writeRegister]
  rw [if_pos hpress.2]
  unfold previous
  rw [if_pos ((acceptsSkip_iff _).2 hwait), if_pos hpos]

theorem source_advance (b : Box) : b.advance.source = b.source :=
  (playerClosed_lasting.skipCurrentAudio b).source

/-- The index does not wrap. -/
theorem toNat_succ {i : UInt8} {n : ℕ} (h : i.toNat < n) (hn : n < 256) :
    (i + 1).toNat = i.toNat + 1 := by
  rw [UInt8.toNat_add]
  exact Nat.mod_eq_of_lt (by show i.toNat + 1 < 256; omega)

theorem toNat_pred {i : UInt8} (h : 0 < i) : (i - 1).toNat + 1 = i.toNat := by
  have hpos : 0 < i.toNat := UInt8.lt_iff_toNat_lt.1 h
  have hone : (1 : UInt8) ≤ i := by
    rw [UInt8.le_iff_toNat_le]
    exact hpos
  rw [UInt8.toNat_sub_of_le _ _ hone]
  exact Nat.sub_add_cancel hpos

theorem json_skipCurrentAudio (b : Box) : b.skipCurrentAudio.json = b.json :=
  congrArg Core.json (Keeps.skipCurrentAudio b).core

/-- With enough battery the next audio is read. -/
theorem readOrShutDown_eq {b : Box} (now : ℕ) (h : 35 ≤ b.batteryLevel) :
    b.readOrShutDown now = b.setState now .readAudioHeader := by
  have hlow : ¬ (b.batteryLevel ≥ 28 ∧ b.batteryLevel < 35) := fun hlow =>
    absurd (UInt8.lt_of_lt_of_le hlow.2 h) (UInt8.lt_irrefl _)
  have hempty : ¬ b.batteryLevel < 28 := fun hempty =>
    absurd (UInt8.lt_of_lt_of_le hempty (UInt8.le_trans (by decide) h)) (UInt8.lt_irrefl _)
  unfold readOrShutDown batteryCheck
  rw [if_neg hlow, if_neg hempty]

/-! ## Places -/

/-- An object of `n` strings with the keys `1` to `n`. -/
structure Playlist (j : Json) (n : ℕ) : Prop where
  size : ∃ fields, j = .object fields ∧ fields.length = n
  entries : ∀ i < n, ∃ name, j.getObjectItem (unsigned (i + 1)) = some (.string name)

/-- Where the box is in the playlist `j` of `n` items, after these marks. -/
inductive Place (j : Json) (n : ℕ) (marks : List Mark) (b : Box) : Prop where
  /-- the playlist will be loaded -/
  | loading : b.state = .getDirection → CanCome n marks (.item 1) → Place j n marks b
  /-- the playlist has ended -/
  | ended : b.state = .playToy ∨ b.state = .playingComplete → CanCome n marks (.item 1) →
      Place j n marks b
  /-- the current item is next -/
  | ready : b.state ∈ [.readAudioHeader, .playNormalAudio, .playQna, .playActivity] →
      b.json = some j → b.indexx.toNat < n → CanCome n marks (.item (b.indexx.toNat + 1)) →
      Place j n marks b
  /-- the current item is on -/
  | on : b.position ∈ [.waitQnaResp, .incorrectAnsTry1, .correctAns, .waitActivityResp, .playNext] →
      b.json = some j → b.indexx.toNat < n → marks.getLast? = some (.item (b.indexx.toNat + 1)) →
      Place j n marks b
  /-- the item before is next -/
  | back : b.state = .playPrevious → b.json = some j → 0 < b.indexx → b.indexx.toNat < n →
      marks.getLast? = some (.back (b.indexx.toNat + 1)) → Place j n marks b

theorem playlistSize_eq {b : Box} {j : Json} {n : ℕ} (hjson : b.json = some j) (hlist : Playlist j n) :
    b.playlistSize = n := by
  obtain ⟨fields, rfl, hlen⟩ := hlist.size
  unfold playlistSize
  rw [hjson]
  show (fields.map Prod.snd).length = n
  rw [List.length_map, hlen]

/-- A change that does not touch playlist, index and state. -/
theorem Place.same {j : Json} {n : ℕ} {marks : List Mark} {b b' : Box} (h : Place j n marks b)
    (hjson : b'.json = b.json) (hindex : b'.indexx = b.indexx) (hstate : b'.state = b.state)
    (hback : b'.playerGoBackToState = b.playerGoBackToState) : Place j n marks b' := by
  have hpos : b'.position = b.position := by
    unfold position
    rw [hstate, hback]
  cases h with
  | loading hload hnext => exact .loading (hstate.trans hload) hnext
  | ended hend hnext => exact .ended (by rwa [hstate]) hnext
  | ready hready hj hlt hnext =>
      exact .ready (by rwa [hstate]) (hjson.trans hj) (by rwa [hindex]) (by rwa [hindex])
  | on hon hj hlt hlast =>
      exact .on (by rwa [hpos]) (hjson.trans hj) (by rwa [hindex]) (by rwa [hindex])
  | back hprev hj hpos hlt hlast =>
      exact .back (hstate.trans hprev) (hjson.trans hj) (by rwa [hindex]) (by rwa [hindex])
        (by rwa [hindex])

/-! ## One step -/

theorem showTheme_same (b : Box) :
    b.showTheme.core = b.core ∧ b.showTheme.state = b.state ∧ b.showTheme.source = b.source := by
  have hlight : ∀ c, (b.lightTheme c).core = b.core ∧ (b.lightTheme c).state = b.state ∧
      (b.lightTheme c).source = b.source := fun _ => ⟨rfl, rfl, rfl⟩
  unfold showTheme
  split
  · split
    · exact ⟨rfl, rfl, rfl⟩
    · exact hlight _
  · exact ⟨rfl, rfl, rfl⟩

theorem handleReadAudioHeader_state {b b' : Box} {now : ℕ} (h : b.handleReadAudioHeader now = some b') :
    b'.state ∈ [.playNormalAudio, .playQna, .playActivity] := by
  obtain ⟨b₁, -, rfl⟩ := Option.map_eq_some_iff.1 h
  show (if b₁.headerData.T = 2 then SystemState.playActivity
    else if b₁.headerData.T = 1 then .playQna else .playNormalAudio) ∈ _
  split_ifs <;> decide

section

variable [CJson]

/-- `SYS_GET_DIRECTION` finds the playlist `j`, and the battery is not low. -/
structure Source.Holds (s : Source) (j : Json) : Prop where
  battery : 35 ≤ s.batteryLevel
  file : ∃ direction content, direction? s.turnTable = some direction ∧
    s.card.content? (directionPath s.toy direction) = some content ∧
      CJson.parse (text (content.take 1023)) = some j

theorem SameList.holds {b b' : Box} {j : Json} (h : SameList b b') (hb : b.source.Holds j) :
    b'.source.Holds j := by
  obtain ⟨direction, content, hdirection, hcontent, hparse⟩ := hb.file
  refine ⟨h.battery hb.battery, direction, content, ?_, ?_, hparse⟩
  · rw [show b'.source.turnTable = b.turnTable from h.turnTable]
    exact hdirection
  · rw [show b'.source.toy = b.toy from h.toy]
    exact (h.file direction).trans hcontent

theorem handleGetDirection_of_holds {b : Box} {j : Json} (now : ℕ) (h : b.source.Holds j) :
    (b.handleGetDirection now).state = .readAudioHeader ∧ (b.handleGetDirection now).json = some j ∧
      (b.handleGetDirection now).indexx = 0 ∧ (b.handleGetDirection now).source = b.source := by
  obtain ⟨direction, content, hdirection, hcontent, hparse⟩ := h.file
  have hread : b.handleGetDirection now =
      ((b.loadPlaylist content).setState now .readAudioHeader).showTheme := by
    unfold handleGetDirection
    rw [show direction? b.turnTable = some direction from hdirection]
    dsimp only
    rw [show b.dl.card.content? (directionPath b.toy direction) = some content from hcontent]
    dsimp only
    rw [readOrShutDown_eq (b := b.loadPlaylist content) now h.battery]
  obtain ⟨hcore, hstate, hsource⟩ :=
    showTheme_same ((b.loadPlaylist content).setState now .readAudioHeader)
  rw [hread]
  exact ⟨hstate, (congrArg Core.json hcore).trans hparse, congrArg Core.indexx hcore, hsource⟩

omit [CJson] in
/-- `SYS_PLAY_NEXT` goes on to the next item, or ends the playlist. -/
theorem handlePlayNext_place {j : Json} {n : ℕ} {marks : List Mark} {b : Box} (now : ℕ)
    (hlist : Playlist j n) (hn : n < 256) (hbattery : 35 ≤ b.batteryLevel) (hjson : b.json = some j)
    (hlt : b.indexx.toNat < n) (hlast : marks.getLast? = some (.item (b.indexx.toNat + 1))) :
    Place j n marks (b.handlePlayNext now) ∧ (b.handlePlayNext now).source = b.source := by
  have hindex : b.advance.indexx.toNat = b.indexx.toNat + 1 := toNat_succ hlt hn
  have hjson' : b.advance.json = some j := (json_skipCurrentAudio b).trans hjson
  have hsource := source_advance b
  have hfollows := Follows.next (n := n) (b.indexx.toNat + 1)
  unfold handlePlayNext
  dsimp only
  rw [playlistSize_eq hjson' hlist, hindex]
  by_cases hend : b.indexx.toNat + 1 ≥ n
  · have heq : b.indexx.toNat + 1 = n := by omega
    rw [if_pos heq] at hfollows
    rw [if_pos hend]
    exact ⟨.ended (.inr rfl) (.inr ⟨_, hlast, hfollows⟩), hsource⟩
  · rw [if_neg (show b.indexx.toNat + 1 ≠ n by omega)] at hfollows
    rw [if_neg hend, readOrShutDown_eq now (by
      rw [show b.advance.batteryLevel = b.batteryLevel from congrArg Source.batteryLevel hsource]
      exact hbattery)]
    refine ⟨.ready (List.mem_cons_self) hjson' ?_ ?_, hsource⟩
    · show b.advance.indexx.toNat < n
      omega
    · show CanCome n marks (.item (b.advance.indexx.toNat + 1))
      rw [hindex]
      exact .inr ⟨_, hlast, hfollows⟩

omit [CJson] in
/-- `SYS_PLAY_PREVIOUS` goes back to the item before. -/
theorem handlePlayPrevious_place {j : Json} {n : ℕ} {marks : List Mark} {b : Box} (now : ℕ)
    (hjson : b.json = some j) (hpos : 0 < b.indexx) (hlt : b.indexx.toNat < n)
    (hlast : marks.getLast? = some (.back (b.indexx.toNat + 1))) :
    Place j n marks (b.handlePlayPrevious now) ∧ (b.handlePlayPrevious now).source = b.source := by
  have hpos' : 0 < b.indexx.toNat := UInt8.lt_iff_toNat_lt.1 hpos
  have hindex := toNat_pred hpos
  unfold handlePlayPrevious
  rw [if_pos hpos]
  refine ⟨.ready List.mem_cons_self ((json_skipCurrentAudio b).trans hjson) ?_ ?_,
    (playerClosed_lasting.skipCurrentAudio b).source⟩
  · show (b.indexx - 1).toNat < n
    omega
  · show CanCome n marks (.item ((b.indexx - 1).toNat + 1))
    rw [hindex]
    exact .inr ⟨_, hlast, .previous (by omega)⟩

/-- A handler step that starts an item: it plays the entry of the current index. -/
theorem handler_startsItem {b b' : Box} {env : HandlerEnv}
    (hplay : b.state ∈ [.playNormalAudio, .playQna, .playActivity]) (h : b.handler env = some b') :
    b'.core = b.core ∧ b'.source = b.source ∧
      b'.position ∈ [.waitQnaResp, .waitActivityResp, .playNext] ∧
        ∃ name, b.playlistName (unsigned (b.indexx.toNat + 1)) = some name ∧
          b'.plays = b.plays ++ [audioFile name (str ".mp3")] := by
  have hstart : ∀ {b₁ : Box} {goBack}, b₁.playCurrent env.now goBack = some b' → b₁.core = b.core →
      b₁.source = b.source → b₁.commands = b.commands →
      goBack ∈ [SystemState.waitQnaResp, .waitActivityResp, .playNext] →
      b'.core = b.core ∧ b'.source = b.source ∧
        b'.position ∈ [.waitQnaResp, .waitActivityResp, .playNext] ∧
          ∃ name, b.playlistName (unsigned (b.indexx.toNat + 1)) = some name ∧
            b'.plays = b.plays ++ [audioFile name (str ".mp3")] := by
    intro b₁ goBack hcurrent hcore hsource hcommands hback
    have hplays := playCurrent_plays hcurrent
    obtain ⟨name, hname, -, -⟩ := playCurrent_spec hcurrent
    have hstarted := (playCurrent_asking hcurrent hname).plays
    have hbefore : b₁.plays = b.plays :=
      congrArg (fun cs => (cs.filterMap location?).reverse) hcommands
    have hjson : b₁.json = b.json := congrArg Core.json hcore
    have hindex : b₁.indexx = b.indexx := congrArg Core.indexx hcore
    have hlasting := playerClosed_lasting.playCurrent hcurrent
    refine ⟨hplays.core.trans hcore, hlasting.source.trans hsource, ?_, name, ?_, ?_⟩
    · rw [hplays.position]
      exact hback
    · unfold playlistName currentIndex at hname
      rw [hjson, hindex] at hname
      exact hname
    · rw [hstarted, hbefore]
  simp only [List.mem_cons, List.not_mem_nil, or_false] at hplay
  rcases hplay with hplay | hplay | hplay
  · simp only [Box.handler, hplay] at h
    exact hstart h rfl rfl rfl (by decide)
  · simp only [Box.handler, hplay] at h
    unfold handlePlayQna at h
    exact hstart h rfl rfl rfl (by decide)
  · simp only [Box.handler, hplay] at h
    unfold handlePlayActivity at h
    exact hstart h rfl rfl rfl (by decide)

/-- A handler step while an item is on keeps it on. -/
theorem handler_on {b b' : Box} {env : HandlerEnv}
    (hon : b.position ∈ [.waitQnaResp, .incorrectAnsTry1, .correctAns, .waitActivityResp, .playNext])
    (hne : b.state ≠ .playNext) (h : b.handler env = some b') :
    b'.core = b.core ∧ b'.source = b.source ∧ b.state ∉ [.playNormalAudio, .playQna, .playActivity] ∧
      b'.position ∈ [.waitQnaResp, .incorrectAnsTry1, .correctAns, .waitActivityResp, .playNext] := by
  by_cases hwait : b.state = .waitForPlayer
  · rw [handler_waitForPlayer hwait] at h
    obtain rfl := Option.some.inj h
    obtain ⟨hkeeps, hpos⟩ := handleWaitForPlayer_keeps env hwait
    have hlasting := playerClosed_lasting.handleWaitForPlayer b env
    refine ⟨hkeeps.core, hlasting.source, by rw [hwait]; decide, ?_⟩
    rcases hpos with hpos | ⟨-, hpos⟩
    · rw [hpos]
      exact hon
    · rw [hpos]
      decide
  · have hpos : b.position = b.state := if_neg hwait
    rw [hpos] at hon
    simp only [List.mem_cons, List.not_mem_nil, or_false] at hon
    rcases hon with hat | hat | hat | hat | hat
    · simp only [Box.handler, hat] at h
      obtain rfl := Option.some.inj h
      obtain ⟨hkeeps, hmem⟩ := handleWaitQnaResp_keeps b env.now
      rw [hpos, hat] at hmem
      have hsub : ∀ s ∈ [SystemState.waitQnaResp, .incorrectAnsTry1, .correctAns],
          s ∈ [SystemState.waitQnaResp, .incorrectAnsTry1, .correctAns, .waitActivityResp,
            .playNext] := by decide
      have hlasting := playerClosed_lasting.handleWaitQnaResp b env.now
      exact ⟨hkeeps.core, hlasting.source, by rw [hat]; decide, hsub _ hmem⟩
    · simp only [Box.handler, hat] at h
      have hplays := handleIncorrectAnsTry1_plays h
      have hlasting := playerClosed_lasting.handleIncorrectAnsTry1 h
      refine ⟨hplays.core, hlasting.source, by rw [hat]; decide, ?_⟩
      rw [hplays.position]
      decide
    · simp only [Box.handler, hat] at h
      have hplays := handleCorrectAns_plays h
      have hlasting := playerClosed_lasting.handleCorrectAns h
      refine ⟨hplays.core, hlasting.source, by rw [hat]; decide, ?_⟩
      rw [hplays.position]
      decide
    · simp only [Box.handler, hat] at h
      obtain rfl := Option.some.inj h
      obtain ⟨hkeeps, hmem⟩ := handleWaitActivityResp_keeps b env.now
      rw [hpos, hat] at hmem
      have hsub : ∀ s ∈ [SystemState.waitActivityResp, .playNext],
          s ∈ [SystemState.waitQnaResp, .incorrectAnsTry1, .correctAns, .waitActivityResp,
            .playNext] := by decide
      have hlasting := playerClosed_lasting.handleWaitActivityResp b env.now
      exact ⟨hkeeps.core, hlasting.source, by rw [hat]; decide, hsub _ hmem⟩
    · exact absurd hat hne

/-- **A handler step.** The mark it leaves is one that can come, and the playlist's source stays. -/
theorem Place.handler {j : Json} {n : ℕ} {marks : List Mark} {b b' : Box} {env : HandlerEnv}
    (hlist : Playlist j n) (hone : 1 ≤ n) (hn : n < 256) (hsource : b.source.Holds j)
    (h : Place j n marks b) (hstep : b.handler env = some b') :
    Place j n (marks ++ (stepMark? (b, .handler env)).toList) b' ∧ b'.source = b.source ∧
      ∀ m ∈ stepMark? (b, .handler env), CanCome n marks m := by
  have hsilent : b.state ∉ [.playNormalAudio, .playQna, .playActivity] →
      Place j n marks b' ∧ b'.source = b.source →
      Place j n (marks ++ (stepMark? (b, .handler env)).toList) b' ∧ b'.source = b.source ∧
        ∀ m ∈ stepMark? (b, .handler env), CanCome n marks m := by
    intro hne hplace
    have hnone : stepMark? (b, .handler env) = none := if_neg hne
    rw [hnone, Option.toList_none, List.append_nil]
    exact ⟨hplace.1, hplace.2, fun m hm => by cases hm⟩
  cases h with
  | loading hload hnext =>
      refine hsilent (by rw [hload]; decide) ?_
      simp only [Box.handler, hload] at hstep
      obtain rfl := Option.some.inj hstep
      obtain ⟨hstate, hjson, hindex, hsame⟩ := handleGetDirection_of_holds env.now hsource
      refine ⟨.ready (by rw [hstate]; decide) hjson ?_ ?_, hsame⟩
      · rw [hindex]
        exact hone
      · rw [hindex]
        exact hnext
  | ended hend hnext =>
      rcases hend with hend | hend
      · refine hsilent (by rw [hend]; decide) ?_
        simp only [Box.handler, hend] at hstep
        obtain rfl := Option.some.inj hstep
        exact ⟨.loading rfl hnext, rfl⟩
      · refine hsilent (by rw [hend]; decide) ?_
        simp only [Box.handler, hend] at hstep
        obtain rfl := Option.some.inj hstep
        exact ⟨.ended (.inl rfl) hnext, rfl⟩
  | ready hready hjson hlt hnext =>
      by_cases hread : b.state = .readAudioHeader
      · refine hsilent (by rw [hread]; decide) ?_
        simp only [Box.handler, hread] at hstep
        have hcore := (handleReadAudioHeader_keeps hstep).1.core
        have hindex : b'.indexx = b.indexx := congrArg Core.indexx hcore
        refine ⟨.ready (List.mem_cons_of_mem _ (handleReadAudioHeader_state hstep))
          ((congrArg Core.json hcore).trans hjson) (by rwa [hindex]) (by rwa [hindex]),
          (playerClosed_lasting.handleReadAudioHeader hstep).source⟩
      -- the item is started
      · have hplay : b.state ∈ [.playNormalAudio, .playQna, .playActivity] :=
          (List.mem_cons.1 hready).resolve_left hread
        obtain ⟨hcore, hsame, hpos, -⟩ := handler_startsItem hplay hstep
        have hindex : b'.indexx = b.indexx := congrArg Core.indexx hcore
        have hmark : stepMark? (b, .handler env) = some (.item (b.indexx.toNat + 1)) := if_pos hplay
        have hsub : ∀ s ∈ [SystemState.waitQnaResp, .waitActivityResp, .playNext],
            s ∈ [SystemState.waitQnaResp, .incorrectAnsTry1, .correctAns, .waitActivityResp,
              .playNext] := by decide
        rw [hmark, Option.toList_some]
        refine ⟨.on (hsub _ hpos) ((congrArg Core.json hcore).trans hjson) (by rwa [hindex]) ?_, hsame,
          fun m hm => Option.some.inj hm ▸ hnext⟩
        rw [List.getLast?_append_cons, hindex]
        rfl
  | on hon hjson hlt hlast =>
      by_cases hend : b.state = .playNext
      · refine hsilent (by rw [hend]; decide) ?_
        simp only [Box.handler, hend] at hstep
        obtain rfl := Option.some.inj hstep
        exact handlePlayNext_place env.now hlist hn hsource.battery hjson hlt hlast
      · obtain ⟨hcore, hsame, hquiet, hpos⟩ := handler_on hon hend hstep
        have hindex : b'.indexx = b.indexx := congrArg Core.indexx hcore
        exact hsilent hquiet ⟨.on hpos ((congrArg Core.json hcore).trans hjson) (by rwa [hindex])
          (by rwa [hindex]), hsame⟩
  | back hprev hjson hpos hlt hlast =>
      refine hsilent (by rw [hprev]; decide) ?_
      simp only [Box.handler, hprev] at hstep
      obtain rfl := Option.some.inj hstep
      exact handlePlayPrevious_place env.now hjson hpos hlt hlast

omit [CJson] in
/-- While the box waits for the player, an item is on. -/
theorem Place.waiting {j : Json} {n : ℕ} {marks : List Mark} {b : Box} (h : Place j n marks b)
    (hwait : b.state = .waitForPlayer) : b.json = some j ∧ b.indexx.toNat < n ∧
      marks.getLast? = some (.item (b.indexx.toNat + 1)) := by
  cases h with
  | on hon hjson hlt hlast => exact ⟨hjson, hlt, hlast⟩
  | loading hload hnext => cases hload.symm.trans hwait
  | ended hend hnext =>
      rw [hwait] at hend
      rcases hend with hend | hend <;> cases hend
  | ready hready hjson hlt hnext =>
      rw [hwait] at hready
      exact absurd hready (by decide)
  | back hprev hjson hpos hlt hlast => cases hprev.symm.trans hwait

omit [CJson] in
/-- A write frame. -/
theorem Place.write {j : Json} {n : ℕ} {marks : List Mark} {b : Box} (h : Place j n marks b)
    (now address len : ℕ) (data : Bytes) :
    Place j n (marks ++ (stepMark? (b, .write now address len data)).toList)
        (b.writeFrame now address len data) ∧
      ∀ m ∈ stepMark? (b, .write now address len data), CanCome n marks m := by
  by_cases hback : PressesPrevious address len data ∧ b.state = .waitForPlayer ∧ 0 < b.indexx
  · have hmark : stepMark? (b, .write now address len data) = some (.back (b.indexx.toNat + 1)) :=
      if_pos hback
    obtain ⟨hpress, hwait, hpos⟩ := hback
    obtain ⟨hjson, hlt, hlast⟩ := h.waiting hwait
    have hpos' : 0 < b.indexx.toNat := UInt8.lt_iff_toNat_lt.1 hpos
    rw [hmark, writeFrame_previous hpress hwait hpos, Option.toList_some]
    refine ⟨.back rfl hjson hpos hlt ?_, fun m hm => ?_⟩
    · rw [List.getLast?_append_cons]
      rfl
    · rw [← Option.some.inj hm]
      exact .inr ⟨_, hlast, .press (by omega)⟩
  · have hmark : stepMark? (b, .write now address len data) = none := if_neg hback
    rw [hmark, Option.toList_none, List.append_nil]
    refine ⟨?_, fun m hm => by cases hm⟩
    cases writeFrame_outcome b now address len data with
    | next _ hwait hb =>
        obtain ⟨hjson, hlt, hlast⟩ := h.waiting hwait
        rw [hb]
        exact .on (by rw [position_setState (by simp)]; decide) hjson hlt hlast
    | previous hpress hwait hpos hb => exact absurd ⟨hpress, hwait, hpos⟩ hback
    | same hcore hstate hgoback _ =>
        exact h.same (congrArg Core.json hcore) (congrArg Core.indexx hcore) hstate hgoback

/-- **One step.** -/
theorem Place.step {j : Json} {n : ℕ} {marks : List Mark} {b b' : Box} {e : BoxEvent}
    (hlist : Playlist j n) (hone : 1 ≤ n) (hn : n < 256) (hsource : b.source.Holds j)
    (h : Place j n marks b) (hok : PlaylistStep b e) (hstep : b.step e = some b') :
    Place j n (marks ++ (stepMark? (b, e)).toList) b' ∧ SameList b b' ∧
      ∀ m ∈ stepMark? (b, e), CanCome n marks m := by
  have hquiet : stepMark? (b, e) = none → Place j n marks b' ∧ SameList b b' →
      Place j n (marks ++ (stepMark? (b, e)).toList) b' ∧ SameList b b' ∧
        ∀ m ∈ stepMark? (b, e), CanCome n marks m := by
    intro hnone hplace
    rw [hnone, Option.toList_none, List.append_nil]
    exact ⟨hplace.1, hplace.2, fun m hm => by cases hm⟩
  cases e with
  | handler env =>
      obtain ⟨hplace, hsame, hcome⟩ := h.handler hlist hone hn hsource hstep
      exact ⟨hplace, .of_source hsame, hcome⟩
  | pipeline writer =>
      obtain rfl := Option.some.inj hstep
      exact hquiet rfl ⟨h.same rfl rfl rfl rfl, .of_source rfl⟩
  | station ev =>
      obtain rfl := Option.some.inj hstep
      exact hquiet rfl ⟨h.same rfl rfl rfl rfl, .of_source rfl⟩
  | read now data =>
      obtain rfl := Option.some.inj hstep
      obtain ⟨htoy, hfound, hbattery⟩ := hok
      obtain ⟨presense, uid, heq⟩ := readFrame_toy now htoy hfound
      refine hquiet rfl ?_
      rw [heq]
      exact ⟨h.same rfl rfl rfl rfl, rfl, rfl, fun _ => hbattery, fun _ => rfl⟩
  | write now address len data =>
      obtain rfl := Option.some.inj hstep
      obtain ⟨hplace, hcome⟩ := h.write now address len data
      exact ⟨hplace, writeFrame_sameList hok, hcome⟩
  | ble now uuid value s =>
      cases onWrite_outcome hstep with
      | verifies hstarts _ _ _ => exact absurd hstarts hok
      | same hcore hstate hback _ =>
          exact hquiet rfl ⟨h.same (congrArg Core.json hcore) (congrArg Core.indexx hcore) hstate hback,
            onWrite_sameList hok hstep⟩

/-- A step that starts an item plays the entry of its number. -/
def PlaysEntry (j : Json) (x : Box × BoxEvent) : Prop :=
  ∀ k, stepMark? x = some (.item k) →
    ∃ env b' name, x.2 = .handler env ∧ x.1.handler env = some b' ∧
      j.getObjectItem (unsigned k) = some (.string name) ∧
        b'.plays = x.1.plays ++ [audioFile name (str ".mp3")]

theorem Place.playsEntry {j : Json} {n : ℕ} {marks : List Mark} {b b' : Box} {e : BoxEvent}
    (hlist : Playlist j n) (h : Place j n marks b) (hstep : b.step e = some b') : PlaysEntry j (b, e) := by
  intro k hmark
  cases e with
  | handler env =>
      obtain ⟨hplay, hitem⟩ := Option.ite_none_right_eq_some.1 hmark
      obtain rfl := Mark.item.inj (Option.some.inj hitem)
      obtain ⟨-, -, -, name, hname, hplays⟩ := handler_startsItem hplay hstep
      -- only the current item is about to be started
      have hready : b.json = some j ∧ b.indexx.toNat < n := by
        cases h with
        | ready _ hjson hlt _ => exact ⟨hjson, hlt⟩
        | loading hload _ => exact absurd (hload ▸ hplay) (by decide)
        | ended hend _ => rcases hend with hend | hend <;> exact absurd (hend ▸ hplay) (by decide)
        | back hprev _ _ _ _ => exact absurd (hprev ▸ hplay) (by decide)
        | on hon _ _ _ =>
            have hposition : b.position = b.state :=
              position_of_state rfl fun hwait => absurd (hwait ▸ hplay) (by decide)
            have hdisjoint : ∀ s ∈ [SystemState.playNormalAudio, .playQna, .playActivity],
                s ∉ [SystemState.waitQnaResp, .incorrectAnsTry1, .correctAns, .waitActivityResp,
                  .playNext] := by decide
            exact absurd (hposition ▸ hon) (hdisjoint _ hplay)
      obtain ⟨entry, hentry⟩ := hlist.entries _ hready.2
      unfold playlistName at hname
      rw [hready.1, Option.bind_some, hentry] at hname
      obtain rfl := Option.some.inj hname
      exact ⟨env, b', entry, rfl, hstep, hentry, hplays⟩
  | write now address len data => cases (Option.ite_none_right_eq_some.1 hmark).2
  | read _ _ => cases hmark
  | ble _ _ _ _ => cases hmark
  | pipeline _ => cases hmark
  | station _ => cases hmark

/-! ## Runs -/

/-- A playlist that the parser finds in what `SYS_GET_DIRECTION` reads is short: each entry takes at least
two quotes, a colon and a value. -/
theorem Playlist.short {j : Json} {n : ℕ} {content : Bytes}
    (hsize : ∀ s fields, CJson.parse s = some (.object fields) → 4 * fields.length ≤ s.length)
    (h : Playlist j n) (hparse : CJson.parse (text (content.take 1023)) = some j) : n < 256 := by
  obtain ⟨fields, rfl, rfl⟩ := h.size
  have hfields := hsize _ _ hparse
  have htext := List.IsPrefix.length_le ( text_prefix (content.take 1023))
  rw [List.length_take] at htext
  omega

/-- **The order of a playlist.** Every item that is started is played. -/
theorem playlist_order {b₀ b : Box} {j : Json} {n : ℕ} (direction content : Bytes)
    {trace : List (Box × BoxEvent)}
    (hsize : ∀ s fields, CJson.parse s = some (.object fields) → 4 * fields.length ≤ s.length)
    (hdirection : direction? b₀.turnTable = some direction)
    (hfile : b₀.dl.card.content? (directionPath b₀.toy direction) = some content)
    (hparse : CJson.parse (text (content.take 1023)) = some j) (hlist : Playlist j n) (hone : 1 ≤ n)
    (hbattery : 35 ≤ b₀.batteryLevel) (hstart : b₀.state = .getDirection)
    (hrun : Runs.Path (fun b e b' => b.step e = some b') PlaylistStep b₀ trace b) :
    Ordered n (marks trace) ∧
      ((∀ k, Mark.back k ∉ marks trace) →
        marks trace = (List.range (marks trace).length).map fun i => .item (i % n + 1)) ∧
      (∀ x ∈ trace, PlaysEntry j x) ∧
      (b.state = .playNext → (b.indexx + 1).toNat = b.indexx.toNat + 1) ∧
      (b.state = .playPrevious → (b.indexx - 1).toNat + 1 = b.indexx.toNat) := by
  have hn : n < 256 := hlist.short hsize hparse
  have hholds : b₀.source.Holds j := ⟨hbattery, direction, content, hdirection, hfile, hparse⟩
  obtain ⟨hplace, -, hordered, hplays⟩ : Place j n (marks trace) b ∧ b.source.Holds j ∧
      Ordered n (marks trace) ∧ ∀ x ∈ trace, PlaysEntry j x :=
    hrun.invariant (I := fun trace b => Place j n (marks trace) b ∧ b.source.Holds j ∧
        Ordered n (marks trace) ∧ ∀ x ∈ trace, PlaysEntry j x)
      ⟨.loading hstart (.inl ⟨rfl, rfl⟩), hholds, ordered_nil n, fun _ hx => by cases hx⟩
      fun trace b e b' ⟨hplace, hsource, hordered, hplays⟩ hok hstep => by
        obtain ⟨hplace', hsame, hcome⟩ := hplace.step hlist hone hn hsource hok hstep
        have hsplit : marks (trace ++ [(b, e)]) = marks trace ++ (stepMark? (b, e)).toList :=
          Runs.filterMap_snoc stepMark? trace (b, e)
        have hall : ∀ x ∈ trace ++ [(b, e)], PlaysEntry j x := by
          intro x hx
          rcases List.mem_append.1 hx with hx | hx
          · exact hplays x hx
          · rw [List.mem_singleton.1 hx]
            exact hplace.playsEntry hlist hstep
        rw [hsplit]
        refine ⟨hplace', hsame.holds hsource, ?_, hall⟩
        cases hmark : stepMark? (b, e) with
        | none => rwa [Option.toList_none, List.append_nil]
        | some m => exact hordered.snoc (hcome m hmark)
  refine ⟨hordered, fun hnone => hordered.cycles hnone hone, hplays, fun hnext => ?_, fun hprev => ?_⟩
  · cases hplace with
    | on hon hjson hlt hlast => exact toNat_succ hlt hn
    | loading hload _ => cases hload.symm.trans hnext
    | ended hend _ => simp [hnext] at hend
    | ready hready _ _ _ => simp [hnext] at hready
    | back hback _ _ _ _ => cases hback.symm.trans hnext
  · cases hplace with
    | back _ _ hpos _ _ => exact toNat_pred hpos
    | loading hload _ => cases hload.symm.trans hprev
    | ended hend _ => simp [hprev] at hend
    | ready hready _ _ _ => simp [hprev] at hready
    | on hon _ _ _ =>
        rw [position_of_state hprev (by simp)] at hon
        exact absurd hon (by decide)

end

/-! ## Two items and the previous button -/

theorem startsVerification_iff [CJson] (b : Box) (uuid : BleUuid) (value : Bytes) :
    b.StartsVerification uuid value ↔ value.length < 200 ∧
      (CJson.parse (text value)).any (fun json =>
        match uuid with
        | .writeInitialize => true
        | .writeCommand => json.numberField? (str "msgTyp") = some 6 ∧
            (json.stringField? (str "userID")).any b.verifyUser = true
        | .other => false) = true := by
  unfold StartsVerification
  refine and_congr_right fun _ => ?_
  rw [Option.any_eq_true]
  refine exists_congr fun json => and_congr_right fun _ => ?_
  cases uuid with
  | writeInitialize => simp
  | writeCommand => simp [Option.any_eq_true]
  | other => simp

instance [CJson] (b : Box) (uuid : BleUuid) (value : Bytes) :
    Decidable (b.StartsVerification uuid value) :=
  decidable_of_iff _ (startsVerification_iff b uuid value).symm

instance [CJson] (b : Box) (e : BoxEvent) : Decidable (PlaylistStep b e) :=
  match e with
  | .handler _ => inferInstanceAs (Decidable True)
  | .pipeline _ => inferInstanceAs (Decidable True)
  | .station _ => inferInstanceAs (Decidable True)
  | .read _ _ => inferInstanceAs (Decidable (_ ∧ _ ∧ _))
  | .write _ _ _ _ => inferInstanceAs (Decidable ((_ → _) ∧ (_ → _)))
  | .ble _ _ _ _ => inferInstanceAs (Decidable (¬ _))

/-- A toy with two audios is about to be played. -/
def listedBox : Box :=
  { twoToys with state := .getDirection, toy := uidText Downloader.uidX, batteryLevel := 100 }

theorem listJson_playlist : Playlist listJson 2 := by
  refine ⟨⟨_, rfl, rfl⟩, fun i hi => ?_⟩
  match i, hi with
  | 0, _ => exact ⟨_, rfl⟩
  | 1, _ => exact ⟨_, rfl⟩

/-- What is parsed takes at least four bytes an entry. -/
theorem listParser_size (s : Bytes) (fields : List (Bytes × Json))
    (h : listParser.parse s = some (.object fields)) : 4 * fields.length ≤ s.length := by
  obtain ⟨rfl, hjson⟩ := Option.ite_none_right_eq_some.1 h
  obtain rfl := Json.object.inj (Option.some.inj hjson)
  decide

/-- Both audios, with a frame that reports the toy, and in the second one the button for the previous
audio. -/
def orderRun : List BoxEvent :=
  [handlerStep, handlerStep, handlerStep, toneEnds, tagFrame Downloader.uidX 90, handlerStep, handlerStep,
    handlerStep, previousFrame, handlerStep, handlerStep, handlerStep]

theorem orderRun_ordered :
    marks (Runs.history (@step listParser) listedBox orderRun) = [.item 1, .item 2, .back 2, .item 1] ∧
      Ordered 2 (marks (Runs.history (@step listParser) listedBox orderRun)) ∧
      ∀ x ∈ Runs.history (@step listParser) listedBox orderRun, @PlaysEntry listParser listJson x := by
  let := listParser
  have hends : (Runs.runGuarded step PlaylistStep listedBox orderRun).isSome = true := by
    decide +kernel
  obtain ⟨b, hrun⟩ := Option.isSome_iff_exists.1 hends
  obtain ⟨hordered, -, hplays, -⟩ := playlist_order (str "north") listText listParser_size rfl
    (by decide +kernel) (if_pos (by decide +kernel)) listJson_playlist (by decide) (by decide) rfl
    (Runs.path_of_runGuarded orderRun hrun)
  exact ⟨by decide +kernel, hordered, hplays⟩

end Box

end Cubbies
