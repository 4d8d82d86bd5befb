import Cubbies.Lib.Decimal
import Cubbies.Box

set_option autoImplicit false

/-! # The header of an audio file, written and read

`write_metadata_to_file` prints a header in front of the audio data, `Player::readHeader` reads it line
by line up to its end marker. `readHeader_metadata` says that every field comes back as it was in the
metadata, whatever was in the header before and whatever follows the marker. -/

namespace Cubbies

open CString

/-- The range of an `int`. -/
def IsInt (v : ℤ) : Prop := -2147483648 ≤ v ∧ v ≤ 2147483647

instance (v : ℤ) : Decidable (IsInt v) := inferInstanceAs (Decidable (_ ∧ _))

theorem isInt_zero : IsInt 0 := ⟨by decide, by decide⟩

namespace Downloader

/-- A header line without its end. -/
def headerRow (name : String) (values : List ℤ) : Bytes :=
  str name ++ str ":" ++ (str ",").intercalate (values.map decimal3)

theorem headerLine_eq (name : String) (values : List ℤ) :
    headerLine name values = headerRow name values ++ [10] := rfl

theorem length_joined_le {values : List ℤ} (h : ∀ v ∈ values, IsInt v) :
    ((str ",").intercalate (values.map decimal3)).length ≤ 12 * values.length := by
  have hone : ∀ v, IsInt v → (decimal3 v).length ≤ 11 := by
    rintro v ⟨hlow, hhigh⟩
    exact length_decimal3_le (k := 10) (by omega) (by omega)
  induction values with
  | nil => simp
  | cons v values ih =>
      have hv := hone v (h v List.mem_cons_self)
      have hrest := ih fun w hw => h w (List.mem_cons_of_mem _ hw)
      cases values with
      | nil =>
          simp only [List.map_cons, List.map_nil, List.intercalate_singleton, List.length_singleton]
          omega
      | cons w values =>
          have hcomma : (str ",").length = 1 := by decide
          simp only [List.map_cons, List.intercalate_cons_cons, List.length_append, hcomma,
            List.length_cons] at hrest ⊢
          omega

/-- No byte of a header line ends it early. -/
theorem headerRow_clean (name : String) (values : List ℤ)
    (hname : ∀ b ∈ str name, b ≠ 0 ∧ b ≠ 13 ∧ b ≠ 10) :
    ∀ b ∈ headerRow name values, b ≠ 0 ∧ b ≠ 13 ∧ b ≠ 10 := by
  intro b hb
  rcases List.mem_append.1 hb with hb | hb
  · rcases List.mem_append.1 hb with hb | hb
    · exact hname b hb
    · obtain rfl : b = 58 := List.mem_singleton.1 hb
      decide
  · exact joined_clean prints_decimal3 values b hb

end Downloader

namespace Box

/-! ## One line -/

/-- A line is read without its end. -/
theorem cleanLine {s : Bytes} (h : ∀ b ∈ s, b ≠ 0 ∧ b ≠ 13 ∧ b ≠ 10) :
    ((text (s ++ [10])).takeWhile fun b => b ≠ 13 ∧ b ≠ 10) = s := by
  have htext : text (s ++ [10]) = s ++ [10] := by
    unfold text
    rw [List.takeWhile_append_of_pos fun b hb => decide_eq_true (h b hb).1]
    rfl
  rw [htext, List.takeWhile_append_of_pos fun b hb => decide_eq_true (h b hb).2]
  simp

section Rows

open Downloader

variable (h : Header)

/-- The branches of `readHeader` for a line that starts with a letter and a colon. -/
theorem headerLine_cons {line s : Bytes} {c : UInt8}
    (hclean : ((text line).takeWhile fun b => b ≠ 13 ∧ b ≠ 10) = c :: 58 :: s) :
    headerLine h line =
      if c = 84 then some { h with T := ((scanFields 1 s).map toInt32).headD h.T }
      else if c = 65 then some { h with A := ((scanFields 1 s).map toInt32).headD h.A }
      else if c = 76 then some (h.setL ((scanFields 3 s).map toInt32))
      else if c = 82 then some (h.setR ((scanFields 3 s).map toInt32))
      else if c = 90 then some { h with Z := s.take 19 }
      else some h := by
  have hstart : (c :: 58 :: s).take 12 ≠ str "HEADER_START" := by
    intro heq
    have hsecond := congrArg (·[1]?) heq
    exact absurd hsecond (by simp; decide)
  have hend : (c :: 58 :: s).take 10 ≠ str "HEADER_END" := by
    intro heq
    have hsecond := congrArg (·[1]?) heq
    exact absurd hsecond (by simp; decide)
  have hletter : ∀ name d, str name = [d, 58] → ((c :: 58 :: s).take 2 = str name ↔ c = d) := by
    intro name d hname
    rw [hname]
    simp
  unfold headerLine
  simp only [hclean]
  simp only [if_neg hstart, if_neg hend, hletter "T:" 84 (by decide), hletter "A:" 65 (by decide),
    hletter "L:" 76 (by decide), hletter "R:" 82 (by decide), hletter "Z:" 90 (by decide)]
  rfl

/-- What is read of a row of integers. -/
theorem scanFields_row (values : List ℤ) (hint : ∀ v ∈ values, IsInt v) :
    (scanFields values.length ((str ",").intercalate (values.map decimal3))).map toInt32 = values := by
  have hread := scanFields_prints prints_decimal3 values [] (by simp)
  rw [List.append_nil] at hread
  rw [hread]
  exact (List.map_congr_left fun v hv => toInt32_eq_self (hint v hv)).trans (List.map_id _)

/-- A row of the header after its end is taken off. -/
theorem cleanRow {name : String} {c : UInt8} (values : List ℤ) (hname : str name = [c])
    (hc : c ≠ 0 ∧ c ≠ 13 ∧ c ≠ 10) :
    ((text (headerRow name values ++ [10])).takeWhile fun b => b ≠ 13 ∧ b ≠ 10) =
      c :: 58 :: (str ",").intercalate (values.map decimal3) := by
  rw [cleanLine (headerRow_clean _ _ (by rw [hname]; simpa using hc))]
  unfold headerRow
  rw [hname]
  rfl

theorem headerLine_T {t : ℤ} (ht : IsInt t) :
    headerLine h (headerRow "T" [t] ++ [10]) = some { h with T := t } := by
  rw [headerLine_cons h (cleanRow (c := 84) [t] (by decide) (by decide)), if_pos rfl]
  have hread := scanFields_row [t] (by simpa using ht)
  rw [List.length_singleton] at hread
  rw [hread]
  rfl

theorem headerLine_A {a : ℤ} (ha : IsInt a) :
    headerLine h (headerRow "A" [a] ++ [10]) = some { h with A := a } := by
  rw [headerLine_cons h (cleanRow (c := 65) [a] (by decide) (by decide)), if_neg (by decide),
    if_pos rfl]
  have hread := scanFields_row [a] (by simpa using ha)
  rw [List.length_singleton] at hread
  rw [hread]
  rfl

theorem headerLine_L {l : List ℤ} (hlen : l.length = 3) (hl : ∀ v ∈ l, IsInt v) :
    headerLine h (headerRow "L" l ++ [10]) = some { h with L := l, L_length := hlen } := by
  rw [headerLine_cons h (cleanRow (c := 76) l (by decide) (by decide)), if_neg (by decide),
    if_neg (by decide), if_pos rfl]
  have hread := scanFields_row l hl
  rw [hlen] at hread
  simp only [hread, Header.setL, assign_eq_self (hlen.trans h.L_length.symm)]

theorem headerLine_R {r : List ℤ} (hlen : r.length = 3) (hr : ∀ v ∈ r, IsInt v) :
    headerLine h (headerRow "R" r ++ [10]) = some { h with R := r, R_length := hlen } := by
  rw [headerLine_cons h (cleanRow (c := 82) r (by decide) (by decide)), if_neg (by decide),
    if_neg (by decide), if_neg (by decide), if_pos rfl]
  have hread := scanFields_row r hr
  rw [hlen] at hread
  simp only [hread, Header.setR, assign_eq_self (hlen.trans h.R_length.symm)]

/-- The date range is copied as text. -/
theorem headerLine_Z (z : List ℤ) :
    headerLine h (headerRow "Z" z ++ [10]) =
      some { h with Z := ((str ",").intercalate (z.map decimal3)).take 19 } := by
  rw [headerLine_cons h (cleanRow (c := 90) z (by decide) (by decide)), if_neg (by decide),
    if_neg (by decide), if_neg (by decide), if_neg (by decide), if_pos rfl]

theorem headerLine_start : headerLine h (str "HEADER_START" ++ [10]) = some h := by
  unfold headerLine
  simp only [cleanLine (s := str "HEADER_START") (by decide +kernel)]
  rw [if_pos (by decide)]

theorem headerLine_end : headerLine h (str "HEADER_END" ++ [10]) = none := by
  unfold headerLine
  simp only [cleanLine (s := str "HEADER_END") (by decide +kernel)]
  rw [if_neg (by decide), if_pos (by decide)]

end Rows

/-! ## The loop -/

/-- One round reads one line. -/
theorem headerLoop_line {h : Header} {line : Bytes} (fuel : ℕ) (rest : Bytes) (hline : 10 ∉ line)
    (hlen : line.length + 1 < 256) :
    headerLoop (fuel + 1) h (line ++ 10 :: rest) =
      match headerLine h (line ++ [10]) with
      | some h => headerLoop fuel h rest
      | none => h := by
  have hne : line ++ 10 :: rest ≠ [] := by simp
  have hsplit : line ++ 10 :: rest = line ++ [10] ++ rest := by simp
  have hdrop : (line ++ 10 :: rest).drop (line ++ [10]).length = rest := by
    rw [hsplit, List.drop_left]
  have hread := fgets_line rest hline hlen
  cases hnext : headerLine h (line ++ [10]) with
  | none => simp only [headerLoop, if_neg hne, hread, hnext]
  | some h' => simp only [headerLoop, if_neg hne, hread, hdrop, hnext]

theorem headerRow_line (name : String) {c : UInt8} (values : List ℤ) (hname : str name = [c])
    (hc : c ≠ 0 ∧ c ≠ 13 ∧ c ≠ 10) (hlen : values.length ≤ 3) (hint : ∀ v ∈ values, IsInt v) :
    10 ∉ Downloader.headerRow name values ∧
      (Downloader.headerRow name values).length + 1 < 256 := by
  constructor
  · intro hmem
    exact (Downloader.headerRow_clean _ _ (by rw [hname]; simpa using hc) 10 hmem).2.2 rfl
  · have hjoined := Downloader.length_joined_le hint
    have hcolon : (str ":").length = 1 := by decide
    unfold Downloader.headerRow
    rw [hname, List.length_append, List.length_append, List.length_singleton, hcolon]
    omega

/-- **The loop on a written header.** The seven lines replace every field, and nothing after the end
marker is looked at. -/
theorem headerLoop_header (h : Header) (fuel : ℕ) (body : Bytes) {t a : ℤ} {l r z : List ℤ}
    (ht : IsInt t) (ha : IsInt a) (hllen : l.length = 3) (hl : ∀ v ∈ l, IsInt v)
    (hrlen : r.length = 3) (hr : ∀ v ∈ r, IsInt v) (hzlen : z.length ≤ 3) (hz : ∀ v ∈ z, IsInt v) :
    headerLoop (fuel + 7) h
        (str "HEADER_START\n" ++ Downloader.headerLine "T" [t] ++ Downloader.headerLine "A" [a] ++
          Downloader.headerLine "L" l ++ Downloader.headerLine "R" r ++ Downloader.headerLine "Z" z ++
          str "HEADER_END\n" ++ body) =
      { T := t, A := a, L := l, R := r, Z := ((str ",").intercalate (z.map decimal3)).take 19,
        L_length := hllen, R_length := hrlen } := by
  have hstart : str "HEADER_START\n" = str "HEADER_START" ++ [10] := by decide
  have hend : str "HEADER_END\n" = str "HEADER_END" ++ [10] := by decide
  have ht' := headerRow_line "T" (c := 84) [t] (by decide) (by decide)
    (show 1 ≤ 3 by decide) (by simpa using ht)
  have ha' := headerRow_line "A" (c := 65) [a] (by decide) (by decide)
    (show 1 ≤ 3 by decide) (by simpa using ha)
  have hl' := headerRow_line "L" (c := 76) l (by decide) (by decide) hllen.le hl
  have hr' := headerRow_line "R" (c := 82) r (by decide) (by decide) hrlen.le hr
  have hz' := headerRow_line "Z" (c := 90) z (by decide) (by decide) hzlen hz
  simp only [hstart, hend, Downloader.headerLine_eq, List.append_assoc, List.cons_append,
    List.nil_append]
  -- one line after the other, each on the header the line before it left
  rw [headerLoop_line (fuel + 6) _ (by decide) (by decide), headerLine_start]
  dsimp only
  rw [headerLoop_line (fuel + 5) _ ht'.1 ht'.2, headerLine_T _ ht]
  dsimp only
  rw [headerLoop_line (fuel + 4) _ ha'.1 ha'.2, headerLine_A _ ha]
  dsimp only
  rw [headerLoop_line (fuel + 3) _ hl'.1 hl'.2, headerLine_L _ hllen hl]
  dsimp only
  rw [headerLoop_line (fuel + 2) _ hr'.1 hr'.2, headerLine_R _ hrlen hr]
  dsimp only
  rw [headerLoop_line (fuel + 1) _ hz'.1 hz'.2, headerLine_Z]
  dsimp only
  rw [headerLoop_line fuel _ (by decide) (by decide), headerLine_end]

end Box

/-! ## The metadata -/

namespace Downloader

/-- The numbers among an object's fields, and among the elements of its fields, are `int`s, as
`valueint` is. -/
def IntFields (metadata : Json) : Prop :=
  ∀ item ∈ metadata.children, IsInt item.valueint ∧ ∀ e ∈ item.children, IsInt e.valueint

instance (metadata : Json) : Decidable (IntFields metadata) := inferInstanceAs (Decidable (∀ _ ∈ _, _))

theorem mem_children_of_getObjectItem {j item : Json} {name : Bytes}
    (h : j.getObjectItem name = some item) : item ∈ j.children := by
  cases j with
  | object fields =>
      obtain ⟨f, hf, rfl⟩ := Option.map_eq_some_iff.1 h
      exact List.mem_map_of_mem (List.mem_of_find?_eq_some hf)
  | _ => cases h

theorem IntFields.number {metadata : Json} (h : IntFields metadata) (name : Bytes) :
    IsInt ((metadata.numberField? name).getD 0) := by
  unfold Json.numberField?
  cases hitem : metadata.getObjectItem name with
  | none => exact isInt_zero
  | some item =>
      have hint := (h item (mem_children_of_getObjectItem hitem)).1
      cases item with
      | number v => exact hint
      | _ => exact isInt_zero

theorem length_intArray (metadata : Json) (name : Bytes) (size : ℕ) :
    (intArray metadata name size).length = size := by
  unfold intArray
  split
  · split
    · next hsize => rw [List.length_map, hsize]
    · exact List.length_replicate
  · exact List.length_replicate

theorem IntFields.intArray {metadata : Json} (h : IntFields metadata) (name : Bytes) (size : ℕ) :
    ∀ v ∈ intArray metadata name size, IsInt v := by
  have hzeros : ∀ v ∈ List.replicate size (0 : ℤ), IsInt v := by
    intro v hv
    rw [List.eq_of_mem_replicate hv]
    exact isInt_zero
  unfold Downloader.intArray
  split
  · next items hitems =>
      split
      · intro v hv
        obtain ⟨e, he, rfl⟩ := List.mem_map.1 hv
        obtain ⟨item, hitem, harray⟩ := Option.bind_eq_some_iff.1 hitems
        refine (h item (mem_children_of_getObjectItem hitem)).2 e ?_
        cases item with
        | array _ =>
            obtain rfl := Option.some.inj harray
            exact he
        | _ => cases harray
      · exact hzeros
  · exact hzeros

end Downloader

namespace Box

/-- The header that `readHeader` finds in a file with this metadata. -/
def metadataHeader (metadata : Json) : Header where
  T := (metadata.numberField? (str "T")).getD 0
  A := if metadata.numberField? (str "T") = some 1 then (metadata.numberField? (str "A")).getD 0 else 0
  L :=
    if metadata.numberField? (str "T") = some 1 then Downloader.intArray metadata (str "L") 3
    else [0, 0, 0]
  R :=
    if metadata.numberField? (str "T") = some 1 then Downloader.intArray metadata (str "R") 3
    else [0, 0, 0]
  Z :=
    ((str ",").intercalate ((Downloader.intArray metadata (str "Z") 2).map decimal3)).take 19
  L_length := by
    split
    · exact Downloader.length_intArray _ _ _
    · rfl
  R_length := by
    split
    · exact Downloader.length_intArray _ _ _
    · rfl

theorem headerLoop_metadata (h : Header) (fuel : ℕ) {metadata : Json} (body : Bytes)
    (hint : Downloader.IntFields metadata) :
    headerLoop (fuel + 7) h (Downloader.metadataText metadata ++ body) = metadataHeader metadata := by
  have hzeros : ∀ v ∈ [(0 : ℤ), 0, 0], IsInt v := by decide
  unfold Downloader.metadataText
  cases ht : metadata.numberField? (str "T") with
  | none =>
      have h0 : ¬ (0 : ℤ) = 1 := by decide
      simp only [Option.getD_none, if_neg h0]
      rw [headerLoop_header h fuel body isInt_zero isInt_zero rfl hzeros rfl hzeros
        ((Downloader.length_intArray _ _ _).le.trans (by decide)) (hint.intArray (str "Z") 2)]
      simp only [metadataHeader, ht, Option.getD_none, reduceCtorEq, if_false]
  | some t =>
      have hnumber := hint.number (str "T")
      rw [ht, Option.getD_some] at hnumber
      have ha := hint.number (str "A")
      have hz := hint.intArray (str "Z") 2
      have hzlen := (Downloader.length_intArray metadata (str "Z") 2).le.trans (show 2 ≤ 3 by decide)
      by_cases hone : t = 1
      · simp only [Option.getD_some, if_pos hone]
        rw [headerLoop_header h fuel body hnumber ha (Downloader.length_intArray _ _ _)
          (hint.intArray (str "L") 3) (Downloader.length_intArray _ _ _)
          (hint.intArray (str "R") 3) hzlen hz]
        simp only [metadataHeader, ht, Option.getD_some, Option.some.injEq, if_pos hone]
      · simp only [Option.getD_some, if_neg hone]
        rw [headerLoop_header h fuel body hnumber isInt_zero rfl hzeros rfl hzeros hzlen hz]
        simp only [metadataHeader, ht, Option.getD_some, Option.some.injEq, if_neg hone]

/-- **The round trip.** `readHeader` on a file made of what `write_metadata_to_file` writes, followed by
anything, leaves exactly the metadata in `headerData`, whatever was there before. -/
theorem readHeader_metadata (b : Box) (metadata : Json) (body location : Bytes)
    (hint : Downloader.IntFields metadata)
    (hlocation : (b.playlistName b.currentIndex).bind (audioLocation · (str ".mp3")) = some location)
    (hfile : b.dl.card.content? location = some (Downloader.metadataText metadata ++ body)) :
    b.readHeader = some { b with headerData := metadataHeader metadata } := by
  have hlen : 7 ≤ (Downloader.metadataText metadata ++ body).length := by
    have hstart : (str "HEADER_START\n").length = 13 := by decide
    unfold Downloader.metadataText
    simp only [List.length_append, hstart]
    omega
  obtain ⟨fuel, hfuel⟩ := Nat.exists_eq_add_of_le hlen
  unfold readHeader
  rw [hlocation, Option.map_some]
  unfold readHeaderFile
  rw [hfile]
  simp only [hfuel, Nat.add_comm 7 fuel, headerLoop_metadata b.headerData fuel body hint]

/-- A question whose answer and colours are far from zero. -/
def questionMetadata : Json :=
  .object
    [(str "N", .string (str "tone")), (str "T", .number 1), (str "A", .number (-2147483648)),
      (str "L", .array [.number (-7), .number 255, .number 2147483647]),
      (str "Z", .array [.number 123456789, .number (-1234567890)])]

def questionLocation : Bytes := str "/sdcard/media/audio/tone.mp3"

/-- The file of the question: audio data that looks like a header follows. -/
def questionCard : Card where
  dirs := [str "/sdcard/media/audio"]
  files := [(questionLocation, Downloader.metadataText questionMetadata ++ str "T:9\nR:1,2,3\n")]
  files_nodup := List.nodup_singleton _
  files_in_dirs := by decide

/-- A box that plays it after another item. -/
def questionBox : Box :=
  { boot questionCard (Wifi.boot none) 0 0 with
    json := some (.object [(str "1", .string (str "tone"))])
    headerData := { T := 2, A := 5, L := [1, 2, 3], R := [4, 5, 6], Z := str "1,2" } }

theorem readHeader_question :
    ∃ b, questionBox.readHeader = some b ∧ b.headerData.T = 1 ∧ b.headerData.A = -2147483648 ∧
      b.headerData.L = [-7, 255, 2147483647] ∧ b.headerData.R = [0, 0, 0] ∧
        b.headerData.Z = str "123456789,-12345678" :=
  ⟨_, readHeader_metadata questionBox questionMetadata (str "T:9\nR:1,2,3\n") questionLocation
    (by decide) (by decide) (by decide), by decide, by decide, by decide, by decide, by decide⟩

end Box

end Cubbies
