import Cubbies.Proofs.Shutdown
import Cubbies.Proofs.DirectionSave

set_option autoImplicit false

/-! # A direction file, from the server to the playlist

`download_file` collects the body in `output_buffer`, 4096 bytes, and stores the text. `SYS_GET_DIRECTION`
reads the file into `jsonBuff`, 1024 bytes. Of a body that is stored in full the parser sees the first
1023 bytes (`textRead_download`), the whole of it only when there are no more (`direction_read_back`). -/

namespace Cubbies

open CString

namespace Downloader

/-- What a download leaves on the card: the file of its direction holds the body. -/
theorem content?_downloadFile {d : Downloader} {dirFileName direction : Bytes} {x : Exchange}
    (hname : directionPart? dirFileName = some direction) (hok : x.ok = true)
    (hfits : x.body.length ≤ 4095) (hnul : (0 : UInt8) ∉ x.body)
    (hopen : d.card.fopenWrite (savePath d.toy direction) ≠ none) :
    (d.downloadFile dirFileName x).card.content? (savePath d.toy direction) = some x.body := by
  have hsaved := (saved_downloadFile hname hok hopen).content (savePath d.toy direction)
  rw [if_pos rfl, text_collected hnul, (collected_eq_iff x).2 hfits] at hsaved
  exact hsaved

end Downloader

namespace Box

section

variable [CJson]

/-- The text `SYS_GET_DIRECTION` passes to `cJSON_Parse`, if it opens a file. -/
def textRead (b : Box) : Option Bytes :=
  (direction? b.turnTable).bind fun direction =>
    (b.dl.card.content? (directionPath b.toy direction)).map fun content => text (content.take 1023)

theorem handleGetDirection_json (b : Box) (now : ℕ) {t : Bytes} (h : b.textRead = some t) :
    (b.handleGetDirection now).json = CJson.parse t := by
  obtain ⟨direction, hdirection, hcontent⟩ := Option.bind_eq_some_iff.1 h
  obtain ⟨content, hfile, rfl⟩ := Option.map_eq_some_iff.1 hcontent
  unfold handleGetDirection
  rw [hdirection]
  dsimp only
  rw [hfile]
  dsimp only
  -- what follows the parser keeps the playlist
  have hread := (readOrShutDown_keeps (b.loadPlaylist content) now).1.core
  have htheme := (showTheme_keeps ((b.loadPlaylist content).readOrShutDown now)).1.core
  have hcore := htheme.trans hread
  exact congrArg Core.json hcore

end

/-! ## Both ends name the file alike -/

/-- The path `SYS_GET_DIRECTION` opens. -/
def openedPath? (b : Box) : Option Bytes := (direction? b.turnTable).map (directionPath b.toy)

theorem textRead_eq (b : Box) :
    b.textRead = b.openedPath?.bind fun path =>
      (b.dl.card.content? path).map fun content => text (content.take 1023) := by
  unfold textRead openedPath?
  rw [Option.bind_map]
  rfl

theorem length_of_direction? {turnTable : UInt8} {direction : Bytes}
    (h : direction? turnTable = some direction) : direction.length ≤ 5 := by
  unfold direction? at h
  split at h
  · rw [← Option.some.inj h]
    decide
  · rw [← Option.some.inj h]
    decide
  · rw [← Option.some.inj h]
    decide
  · rw [← Option.some.inj h]
    decide
  · cases h

theorem savePath_eq {toy direction : Bytes} (htoy : toy.length < 20)
    (hdirection : direction.length ≤ 5) :
    Downloader.savePath toy direction = directionPath toy direction := by
  have hfolder : Downloader.toysPath.length = 19 := by decide
  have hslash : (str "/").length = 1 := by decide
  have hend : (str ".cubbies").length = 8 := by decide
  refine snprintf_eq_self ?_
  show (Downloader.toysPath ++ toy ++ str "/" ++ direction ++ str ".cubbies").length < 256
  simp only [List.length_append, hfolder, hslash, hend]
  omega

/-- The names of the four directions. -/
def directions : List Bytes := [str "north", str "south", str "east", str "west"]

theorem direction?_of_mem {direction : Bytes} (h : direction ∈ directions) :
    ∃ turnTable, direction? turnTable = some direction := by
  have hall : ∀ direction ∈ directions,
      direction ∈ [0, 1, 2, 3].filterMap direction? := by decide
  obtain ⟨turnTable, -, hturn⟩ := List.mem_filterMap.1 (hall direction h)
  exact ⟨turnTable, hturn⟩

/-- The name of a direction is short and has neither an underscore nor a dot. -/
theorem plain_of_mem_directions {direction : Bytes} (h : direction ∈ directions) :
    direction.length ≤ 5 ∧ (95 : UInt8) ∉ direction ∧ (46 : UInt8) ∉ direction := by
  have hall : ∀ direction ∈ directions,
      direction.length ≤ 5 ∧ (95 : UInt8) ∉ direction ∧ (46 : UInt8) ∉ direction := by decide
  exact hall direction h

/-- The file that is read for this toy in `direction` is the one that was saved, and no other was. -/
structure SavedForReader (d d' : Downloader) (direction content : Bytes) : Prop where
  position : ∃ turnTable, direction? turnTable = some direction
  opened : ∀ b : Box, b.toy = d.toy → direction? b.turnTable = some direction →
    b.openedPath? = some (Downloader.savePath d.toy direction)
  saved : Downloader.Saved d d' (Downloader.savePath d.toy direction) content

/-- A name that ends in an underscore, a direction, a dot and an extension. -/
structure Names (dirFileName direction : Bytes) : Prop where
  known : direction ∈ directions
  form : ∃ part extension, dirFileName = part ++ 95 :: (direction ++ 46 :: extension) ∧
    (95 : UInt8) ∉ extension
  short : dirFileName.length < 256

theorem Names.directionPart? {dirFileName direction : Bytes} (h : Names dirFileName direction) :
    Downloader.directionPart? dirFileName = some direction := by
  obtain ⟨part, extension, hform, hextension⟩ := h.form
  obtain ⟨-, hunderscore, hdot⟩ := plain_of_mem_directions h.known
  refine Downloader.directionPart?_of_name hform h.short ?_ hdot
  rw [List.mem_append, List.mem_cons]
  rintro (hmem | hmem | hmem)
  · exact hunderscore hmem
  · exact absurd hmem (by decide)
  · exact hextension hmem

/-- **Writer and reader agree.** What `download_file` receives for a direction is saved to the file
`SYS_GET_DIRECTION` opens for it, and to no other; for a name without an underscore nothing is saved. -/
theorem downloadFile_savedForReader (d : Downloader) (htoy : d.toy.length ≤ 19) :
    (∀ dirFileName direction, Names dirFileName direction → ∀ x : Exchange, x.ok = true →
      d.card.fopenWrite (Downloader.savePath d.toy direction) ≠ none →
        SavedForReader d (d.downloadFile dirFileName x) direction (text (Downloader.collected x))) ∧
    ∀ dirFileName, (95 : UInt8) ∉ dirFileName → ∀ x : Exchange,
      Downloader.Untouched d (d.downloadFile dirFileName x) := by
  constructor
  · intro dirFileName direction hname x hok hopen
    refine ⟨direction?_of_mem hname.known, ?_,
      Downloader.saved_downloadFile hname.directionPart? hok hopen⟩
    intro b hb hturn
    unfold openedPath?
    rw [hturn, Option.map_some, hb,
      savePath_eq (Nat.lt_succ_of_le htoy) (plain_of_mem_directions hname.known).1]
  · intro dirFileName hname x
    exact Downloader.untouched_downloadFile_of_none (Downloader.directionPart?_eq_none hname) x

theorem names_sample : Names (str "Kit_Box_1.2_south.json") (str "south") where
  known := by decide
  form := ⟨str "Kit_Box_1.2", str "json", by decide, by decide⟩
  short := by decide

theorem downloadFile_savedForReader_sample :
    SavedForReader Downloader.toyDownloader
      (Downloader.toyDownloader.downloadFile (str "Kit_Box_1.2_south.json")
        (Downloader.inChunks [str "\x7b\"1\":\"in", str "tro\"\x7d"]))
      (str "south") (str "\x7b\"1\":\"intro\"\x7d") :=
  (downloadFile_savedForReader Downloader.toyDownloader (by decide)).1 _ _ names_sample
    (Downloader.inChunks [str "\x7b\"1\":\"in", str "tro\"\x7d"]) rfl (by decide +kernel)

/-! ## The file is read back -/

/-- The body of `x` is stored in full as the file of `direction`, and `b` reads this file: its toy is
the one of the download, which fits its array of 20, and the file is as the download left it. -/
structure StoredFor (d : Downloader) (dirFileName direction : Bytes) (x : Exchange) (b : Box) : Prop where
  name : Downloader.directionPart? dirFileName = some direction
  ok : x.ok = true
  size : x.body.length ≤ 4095
  nul : (0 : UInt8) ∉ x.body
  toyFits : d.toy.length < 20
  opens : d.card.fopenWrite (directionPath d.toy direction) ≠ none
  toy : b.toy = d.toy
  turned : direction? b.turnTable = some direction
  kept : b.dl.card.content? (directionPath d.toy direction) =
    (d.downloadFile dirFileName x).card.content? (directionPath d.toy direction)

/-- The reader takes 1023 bytes of the body. -/
theorem StoredFor.textRead {d : Downloader} {dirFileName direction : Bytes} {x : Exchange} {b : Box}
    (h : StoredFor d dirFileName direction x b) : b.textRead = some (x.body.take 1023) := by
  have hpath := savePath_eq h.toyFits (length_of_direction? h.turned)
  have hfile := Downloader.content?_downloadFile h.name h.ok h.size h.nul (hpath ▸ h.opens)
  rw [hpath] at hfile
  have hclean : (0 : UInt8) ∉ x.body.take 1023 := fun hmem => h.nul (List.mem_of_mem_take hmem)
  have hopened : b.openedPath? = some (directionPath d.toy direction) := by
    unfold openedPath?
    rw [h.turned, Option.map_some, h.toy]
  rw [textRead_eq, hopened, Option.bind_some, h.kept, hfile, Option.map_some,
    text_of_no_nul hclean]

/-- **Reading a direction file back.** The text that is parsed for a direction file is the body that
was stored for it exactly if that has at most 1023 bytes. -/
theorem direction_read_back [CJson] {d : Downloader} {dirFileName direction : Bytes} {x : Exchange}
    {b : Box} (h : StoredFor d dirFileName direction x b) (now : ℕ) :
    (b.handleGetDirection now).json = CJson.parse (x.body.take 1023) ∧
      (b.textRead = some x.body ↔ x.body.length ≤ 1023) := by
  refine ⟨handleGetDirection_json b now h.textRead, ?_⟩
  rw [h.textRead, Option.some.injEq]
  exact List.take_eq_self_iff _

/-! ## A playlist of more than 1023 bytes -/

/-- The box with the toy on it, turned to the north, after the server has sent its playlist in these
chunks. -/
def afterDownload (chunks : List Bytes) : Box :=
  { emptyBattery with
    toy := uidText Downloader.uidY
    dl := Downloader.toyDownloader.downloadFile (str "list_north.json") (Downloader.inChunks chunks) }

theorem storedFor_afterDownload (chunks : List Bytes)
    (hsize : (Downloader.inChunks chunks).body.length ≤ 4095)
    (hnul : (0 : UInt8) ∉ (Downloader.inChunks chunks).body) :
    StoredFor Downloader.toyDownloader (str "list_north.json") (str "north")
      (Downloader.inChunks chunks) (afterDownload chunks) where
  name := by decide
  ok := rfl
  size := hsize
  nul := hnul
  toyFits := by decide
  opens := by decide +kernel
  toy := rfl
  turned := rfl
  kept := rfl

/-- Of 1024 bytes in two chunks the last one is lost. -/
theorem longPlaylist_cut :
    ¬ ∀ (d : Downloader) (dirFileName direction : Bytes) (x : Exchange) (b : Box),
      StoredFor d dirFileName direction x b → b.textRead = some x.body := by
  intro h
  have hbody := Downloader.body_fullChunks 1 512
  have hstored := storedFor_afterDownload (Downloader.fullChunks 1 512)
    (by rw [hbody, List.length_replicate]; decide) (Downloader.no_nul_fullChunks 1 512)
  have hcut := Option.some.inj (hstored.textRead.symm.trans (h _ _ _ _ _ hstored))
  rw [List.take_eq_self_iff, hbody, List.length_replicate] at hcut
  exact absurd hcut (by decide)

/-- A short playlist. -/
theorem shortPlaylist_read_back :
    (afterDownload [str "\x7b\x7d"]).textRead = some (str "\x7b\x7d") :=
  (@direction_read_back writeParser _ _ _ _ _
    (storedFor_afterDownload [str "\x7b\x7d"] (by decide) (by decide)) 0).2.2 (by decide)

end Box

end Cubbies
