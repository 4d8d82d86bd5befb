import Cubbies.Lib.Decimal
import Cubbies.Proofs.DirectionSave
import Cubbies.Proofs.PlayerFrame

set_option autoImplicit false

/-! # The colour theme, from the master JSON to the LEDs

`write_array_to_file` prints all entries of the array in decimal, `SYS_GET_DIRECTION` reads 15
characters of them and scans three bytes. Three numbers up to 255 and two commas are at most 11
characters, so what is cut off stands behind the third number, and what is left of a fourth one begins
with a comma. -/

namespace Cubbies

open CString

/-! ## What is scanned of the file -/

/-- The entries of a colour as integers. -/
def Rgb.entries (c : Rgb) : List ℤ := [c.r.toNat, c.g.toNat, c.b.toNat]

/-- The range of a colour. -/
def IsColour (v : ℤ) : Prop := 0 ≤ v ∧ v ≤ 255

instance (v : ℤ) : Decidable (IsColour v) := inferInstanceAs (Decidable (_ ∧ _))

theorem toNat_toUChar {v : ℤ} (h : IsColour v) : ((toUChar v).toNat : ℤ) = v := by
  obtain ⟨hlow, hhigh⟩ := h
  unfold toUChar
  rw [if_neg (by omega), UInt8.toNat_ofNat']
  omega

theorem length_decimal_colour {v : ℤ} (h : IsColour v) : (decimal v).length ≤ 3 := by
  obtain ⟨hlow, hhigh⟩ := h
  exact length_decimal_le (by decide) hlow (by omega)

namespace Downloader

/-- The printed array is its first three entries, and a comma if there are more. -/
theorem arrayText_three (r g b : ℤ) (rest : List ℤ) :
    ∃ tail, arrayText (r :: g :: b :: rest) = arrayText [r, g, b] ++ tail ∧
      ∀ c, tail.head? = some c → c = 44 := by
  have hcons : [r, g, b].map decimal ≠ [] := List.cons_ne_nil _ _
  obtain ⟨tail, htail, hsep⟩ := @intercalate_append (str ",") _ hcons (rest.map decimal)
  refine ⟨tail, htail, ?_⟩
  intro c hc
  rcases hsep with rfl | ⟨more, rfl⟩
  · cases hc
  · exact (Option.some.inj hc).symm

theorem length_arrayText_three {r g b : ℤ} (hr : IsColour r) (hg : IsColour g) (hb : IsColour b) :
    (arrayText [r, g, b]).length ≤ 11 := by
  have hjoin : arrayText [r, g, b] = decimal r ++ str "," ++ (decimal g ++ str "," ++ decimal b) := by
    unfold arrayText
    simp only [List.map_cons, List.map_nil, List.intercalate_cons_cons, List.intercalate_singleton]
  have hcomma : (str ",").length = 1 := by decide
  have hr' := length_decimal_colour hr
  have hg' := length_decimal_colour hg
  have hb' := length_decimal_colour hb
  rw [hjoin]
  simp only [List.length_append, hcomma]
  omega

theorem arrayText_ne_nil (v : ℤ) (values : List ℤ) : arrayText (v :: values) ≠ [] := by
  unfold arrayText
  cases values with
  | nil =>
      rw [List.map_cons, List.map_nil, List.intercalate_singleton]
      exact (prints_decimal v).ne_nil
  | cons w values =>
      rw [List.map_cons, List.map_cons, List.intercalate_cons_cons]
      intro hnil
      exact (prints_decimal v).ne_nil (List.append_eq_nil_iff.1 (List.append_eq_nil_iff.1 hnil).1).1

/-- Of the line that is read the scan takes exactly the first three entries. -/
theorem scanFields_arrayText {r g b : ℤ} (hr : IsColour r) (hg : IsColour g) (hb : IsColour b)
    (rest : List ℤ) :
    scanFields 3 (text (fgets 16 (arrayText (r :: g :: b :: rest)))) = [r, g, b] := by
  have hclean := joined_clean prints_decimal (r :: g :: b :: rest)
  have hline : fgets 16 (arrayText (r :: g :: b :: rest)) = (arrayText (r :: g :: b :: rest)).take 15 :=
    fgets_no_newline 16 fun hmem => (hclean 10 hmem).2.2 rfl
  have htext : text ((arrayText (r :: g :: b :: rest)).take 15) =
      (arrayText (r :: g :: b :: rest)).take 15 :=
    text_of_no_nul fun hmem => (hclean 0 (List.mem_of_mem_take hmem)).1 rfl
  obtain ⟨tail, htail, hcomma⟩ := arrayText_three r g b rest
  have hshort := length_arrayText_three hr hg hb
  rw [hline, htext, htail, List.take_append, List.take_of_length_le (by omega)]
  -- what is left of the tail starts with its comma, or is empty
  refine scanFields_prints prints_decimal [r, g, b] _ fun c hc => ?_
  have hhead : c = 44 := by
    cases htail' : tail with
    | nil =>
        rw [htail', List.take_nil] at hc
        cases hc
    | cons t ts =>
        have ht := hcomma t (by rw [htail']; rfl)
        rw [htail', show 15 - (arrayText [r, g, b]).length = 14 - (arrayText [r, g, b]).length + 1 by
          omega, List.take_succ_cons] at hc
        exact (Option.some.inj hc).symm.trans ht
  rw [hhead]
  decide

end Downloader

namespace Box

theorem scanTheme_arrayText (old : Rgb) {r g b : ℤ} (hr : IsColour r) (hg : IsColour g)
    (hb : IsColour b) (rest : List ℤ) :
    (scanTheme old (Downloader.arrayText (r :: g :: b :: rest))).entries = [r, g, b] := by
  have hall : assign ([r, g, b].map toUChar) [old.r, old.g, old.b] = [r, g, b].map toUChar :=
    assign_eq_self rfl
  unfold scanTheme
  rw [Downloader.scanFields_arrayText hr hg hb, hall]
  show [((toUChar r).toNat : ℤ), ((toUChar g).toNat : ℤ), ((toUChar b).toNat : ℤ)] = [r, g, b]
  rw [toNat_toUChar hr, toNat_toUChar hg, toNat_toUChar hb]

/-! ## The file in between -/

/-- The file the theme is read from. -/
def themePath (toy : Bytes) : Bytes :=
  str "/sdcard/media/toys/" ++ toy ++ str "/colourTheme.cubbies"

theorem themeColor_showTheme {b : Box} {content : Bytes}
    (hfile : b.dl.card.content? (themePath b.toy) = some content) (hne : content ≠ []) :
    b.showTheme.themeColor = scanTheme b.themeColor content := by
  unfold themePath at hfile
  unfold showTheme
  rw [hfile]
  dsimp only
  rw [if_neg hne]
  rfl

/-- What `SYS_GET_DIRECTION` does before it reads the theme keeps the card and the toy. -/
theorem themeColor_handleGetDirection [CJson] {b : Box} {direction content : Bytes} (now : ℕ)
    (hturn : direction? b.turnTable = some direction)
    (hfile : b.dl.card.content? (themePath b.toy) = some content) (hne : content ≠ []) :
    ∃ old, (b.handleGetDirection now).themeColor = scanTheme old content := by
  unfold handleGetDirection
  rw [hturn]
  dsimp only
  split
  · next playlist _ =>
      have hkeeps := playerClosed_lasting.readOrShutDown (b.loadPlaylist playlist) now
      have hdl := congrArg Lasting.dl hkeeps
      have htoy := congrArg Lasting.toy hkeeps
      refine ⟨_, themeColor_showTheme ?_ hne⟩
      change ((b.loadPlaylist playlist).readOrShutDown now).dl = b.dl at hdl
      change ((b.loadPlaylist playlist).readOrShutDown now).toy = b.toy at htoy
      rw [hdl, htoy, hfile]
  · exact ⟨_, themeColor_showTheme hfile hne⟩

end Box

namespace Downloader

/-- `Downloader::write_array_to_file`. -/
def writeArrayToFile (d : Downloader) (filePath : Bytes) (array : List ℤ) : Downloader :=
  d.writeFile filePath (arrayText array)

/-- The theme file is the last one made from a master JSON that has a theme. -/
theorem storeFiles_theme {d : Downloader} {j : Json} {items : List Json}
    (hitems : j.arrayField? (str "colourTheme") = some items) (htag : (toysPath ++ d.tagUid).length ≤ 255) :
    ∃ d' : Downloader, d'.card.dirs = d.card.dirs ∧
      d.storeFiles j = d'.writeArrayToFile (Box.themePath d.tagUid) (items.map Json.valueint) := by
  refine ⟨((d.fieldFiles j).take 3).foldl storePair d, storeFields_dirs d _, ?_⟩
  have hlast : d.fieldFiles j = (d.fieldFiles j).take 3 ++
      [(snprintf 256 (toysPath ++ d.tagUid) ++ str "/colourTheme.cubbies",
        (j.arrayField? (str "colourTheme")).map fun items => arrayText (items.map Json.valueint))] := rfl
  rw [storeFiles_eq, hlast, List.foldl_append, hitems, snprintf_eq_self (Nat.lt_succ_of_le htag)]
  rfl

end Downloader

namespace Box

/-- The theme file of the box's toy was written by `write_array_to_file` and is as it was then; the
turntable shows a direction, so it is read. -/
structure ThemeStored (d : Downloader) (array : List ℤ) (b : Box) : Prop where
  opens : d.card.fopenWrite (themePath b.toy) ≠ none
  kept : b.dl.card.content? (themePath b.toy) =
    (d.writeArrayToFile (themePath b.toy) array).card.content? (themePath b.toy)
  turned : direction? b.turnTable ≠ none

theorem ThemeStored.content {d : Downloader} {array : List ℤ} {b : Box} (h : ThemeStored d array b) :
    b.dl.card.content? (themePath b.toy) = some (Downloader.arrayText array) := by
  have hsaved := (Downloader.saved_writeFile (Downloader.arrayText array) h.opens).content
    (themePath b.toy)
  rw [if_pos rfl] at hsaved
  exact h.kept.trans hsaved

/-- Reading back, whoever wrote the file. -/
theorem themeColor_of_content [CJson] {array : List ℤ} {b : Box}
    (hfile : b.dl.card.content? (themePath b.toy) = some (Downloader.arrayText array))
    (hturn : direction? b.turnTable ≠ none) (hlen : 3 ≤ array.length)
    (hrange : ∀ v ∈ array.take 3, IsColour v) (now : ℕ) :
    (b.handleGetDirection now).themeColor.entries = array.take 3 := by
  obtain ⟨red, green, blue, rest, rfl⟩ : ∃ red green blue rest, array = red :: green :: blue :: rest := by
    match array, hlen with
    | red :: green :: blue :: rest, _ => exact ⟨red, green, blue, rest, rfl⟩
  obtain ⟨hred, hgreen, hblue⟩ : IsColour red ∧ IsColour green ∧ IsColour blue := by
    simpa using hrange
  obtain ⟨direction, hdirection⟩ := Option.ne_none_iff_exists'.1 hturn
  obtain ⟨old, hold⟩ := themeColor_handleGetDirection now hdirection hfile
    (Downloader.arrayText_ne_nil _ _)
  rw [hold, scanTheme_arrayText old hred hgreen hblue rest]
  rfl

/-- **The colour theme round trip.** Whatever the theme was before, and however many entries follow, the
first three come back. -/
theorem themeColor_read_back [CJson] {d : Downloader} {array : List ℤ} {b : Box}
    (hfile : ThemeStored d array b) (hlen : 3 ≤ array.length)
    (hrange : ∀ v ∈ array.take 3, IsColour v) (now : ℕ) :
    (b.handleGetDirection now).themeColor.entries = array.take 3 :=
  themeColor_of_content hfile.content hfile.turned hlen hrange now

/-- The box after a theme with a fourth entry was stored. -/
def themeBox : Box :=
  { boot Downloader.sampleCard Downloader.sampleWifi 0 0 with
    toy := uidText Downloader.uidY
    turnTable := 3
    themeColor := ⟨1, 2, 3⟩
    dl := Downloader.toyDownloader.writeArrayToFile (themePath (uidText Downloader.uidY))
      [255, 100, 255, 1234567890] }

theorem themeColor_themeBox :
    (@handleGetDirection Downloader.sampleParser themeBox 0).themeColor.entries = [255, 100, 255] :=
  @themeColor_read_back Downloader.sampleParser Downloader.toyDownloader [255, 100, 255, 1234567890]
    themeBox ⟨by decide +kernel, rfl, by decide⟩ (by decide) (by decide) 0

/-- The theme of the master JSON that was stored last for the toy on the box is shown. -/
theorem themeColor_stored [CJson] {d : Downloader} {j : Json} {items : List Json} {b : Box}
    (hitems : j.arrayField? (str "colourTheme") = some items)
    (htag : (Downloader.toysPath ++ d.tagUid).length ≤ 255) (htoy : b.toy = d.tagUid)
    (hopen : d.card.fopenWrite (themePath d.tagUid) ≠ none) (hturn : direction? b.turnTable ≠ none)
    (hkept : b.dl.card.content? (themePath d.tagUid) =
      (d.storeFiles j).card.content? (themePath d.tagUid))
    (hlen : 3 ≤ items.length) (hrange : ∀ v ∈ (items.map Json.valueint).take 3, IsColour v) (now : ℕ) :
    (b.handleGetDirection now).themeColor.entries = (items.map Json.valueint).take 3 := by
  obtain ⟨d', hdirs, hstored⟩ := Downloader.storeFiles_theme hitems htag
  have hopen' : d'.card.fopenWrite (themePath d.tagUid) ≠ none :=
    fun h => hopen ((Downloader.fopenWrite_congr hdirs _).1 h)
  have hfile : ThemeStored d' (items.map Json.valueint) b := by
    refine ⟨?_, ?_, hturn⟩
    · rwa [htoy]
    · rw [htoy, hkept, hstored]
  exact themeColor_of_content hfile.content hturn (by rwa [List.length_map]) hrange now

end Box

end Cubbies
