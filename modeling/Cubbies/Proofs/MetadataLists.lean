import Mathlib.Data.List.ReduceOption
import Cubbies.Lib.FilledArray
import Cubbies.Proofs.MasterJsonLeak

set_option autoImplicit false

/-! # The lists taken from a master JSON

`parse_and_store_metadata` turns two arrays of the master JSON into arrays of C strings. For `media` it
allocates three entries an item and counts the ones it stores, so `N_server` is filled from the front
and never over its end (`nServer_filled`). For `directionFiles` it allocates one entry an element and
stores it at the element's own place, if the element is a string: the other entries keep what was in the
memory, and `process_direction_files` takes them for names unless that is `NULL`
(`directionFiles_asked_iff`). -/

namespace Cubbies

open CString

namespace Downloader

/-! ## The audio names -/

/-- The text `snprintf` leaves in an allocation of `len + 2` characters: the name and one letter. -/
def lettered (name letter : Bytes) : Bytes := snprintf (name.length + 2) (name ++ letter)

theorem lettered_eq {name letter : Bytes} (h : letter.length = 1) :
    lettered name letter = name ++ letter := by
  refine snprintf_eq_self ?_
  rw [List.length_append, h]
  omega

/-- The body of the loop over the `media` array, with every store checked. -/
def storeItem (nServer : FilledArray Bytes) (mediaItem : Json) : Option (FilledArray Bytes) :=
  match mediaItem.stringField? (str "N"), mediaItem.numberField? (str "T") with
  | some n, some t => do
      let nServer ← nServer.push n
      if t = 1 then
        let nServer ← nServer.push (lettered n (str "C"))
        nServer.push (lettered n (str "W"))
      else some nServer
  | _, _ => some nServer

/-- The array `N_server` and the number `N_count` that `parse_and_store_metadata` leaves for the `media`
array; `none` if a store was behind the end. -/
def fillNServer (media : Json) : Option (FilledArray Bytes) :=
  FilledArray.fill storeItem (.alloc (3 * media.getArraySize)) media.children

theorem storeItem_eq (nServer : FilledArray Bytes) (mediaItem : Json) :
    storeItem nServer mediaItem = nServer.pushAll (itemNames mediaItem) := by
  unfold storeItem itemNames
  cases mediaItem.stringField? (str "N") with
  | none => rfl
  | some n =>
      cases mediaItem.numberField? (str "T") with
      | none => rfl
      | some t =>
          dsimp only
          by_cases ht : t = 1
          · rw [if_pos ht]
            simp only [if_pos ht, FilledArray.pushAll, Option.bind_eq_bind, Option.bind_fun_some,
              lettered_eq (show (str "C").length = 1 from rfl),
              lettered_eq (show (str "W").length = 1 from rfl)]
          · rw [if_neg ht]
            simp only [if_neg ht, FilledArray.pushAll, Option.bind_eq_bind]

theorem length_itemNames (item : Json) : (itemNames item).length ≤ 3 := by
  unfold itemNames
  cases item.stringField? (str "N") with
  | none => exact Nat.zero_le _
  | some n =>
      cases item.numberField? (str "T") with
      | none => exact Nat.zero_le _
      | some t =>
          dsimp only
          split <;> simp

/-- The loop fills the array with the names of the items. -/
theorem fillNServer_eq (items : List Json) :
    fillNServer (.array items) =
      some (.holding (3 * items.length) (items.flatMap itemNames)) :=
  FilledArray.fill_flatMap storeItem_eq length_itemNames items

section

variable [CJson]

theorem parse_nServer {d : Downloader} {response : Bytes} {j : Json} {items : List Json}
    (hparse : CJson.parse response = some j) (hmedia : j.arrayField? (str "media") = some items) :
    (d.parseAndStoreMetadata response).nServer = items.flatMap itemNames := by
  have hkept := (parseAndStoreMetadata_spec d response).2
  rw [hparse] at hkept
  have hnames := congrArg Kept.nServer hkept
  simp only [Kept.store, givenMedia, hmedia, Option.map_some, Option.some_or, Option.getD_some] at hnames
  exact hnames

/-- **The audio names.** For any `media` array every store is within the `3 * media_count` entries
allocated, the first `N_count` entries are stored, and they are the names of the items in order. -/
theorem nServer_filled {response : Bytes} {j : Json} {items : List Json}
    (hparse : CJson.parse response = some j) (hmedia : j.arrayField? (str "media") = some items)
    (d : Downloader) :
    ∃ nServer, fillNServer (.array items) = some nServer ∧
      nServer.slots.length = 3 * items.length ∧ nServer.used ≤ nServer.slots.length ∧
      nServer.slots.take nServer.used = (items.flatMap itemNames).map some ∧
      nServer.used = (items.flatMap itemNames).length ∧
      (d.parseAndStoreMetadata response).nServer = items.flatMap itemNames := by
  have hroom := FilledArray.length_flatMap_le length_itemNames items
  have hsize := FilledArray.length_holding hroom
  refine ⟨_, fillNServer_eq items, hsize, ?_, FilledArray.take_holding _ _, rfl,
    parse_nServer hparse hmedia⟩
  rw [hsize]
  exact hroom

end

/-- A master JSON with an audio of each kind and two items that name none. -/
def mediaText : Bytes :=
  str "\x7b\"media\":[\x7b\"N\":\"a\",\"T\":0\x7d,7,\x7b\"N\":\"b\",\"T\":1\x7d,\x7b\"N\":\"c\"\x7d]\x7d"

def mediaItems : List Json :=
  [.object [(str "N", .string (str "a")), (str "T", .number 0)], .number 7,
    .object [(str "N", .string (str "b")), (str "T", .number 1)],
    .object [(str "N", .string (str "c"))]]

/-- A parser that knows this text. -/
@[reducible] def mediaParser : CJson :=
  ⟨fun s => if s = mediaText then some (.object [(str "media", .array mediaItems)]) else none⟩

/-- Of six entries four are used. -/
theorem nServer_filled_sample :
    ∃ nServer, fillNServer (.array mediaItems) = some nServer ∧
      nServer.slots.length = 3 * mediaItems.length ∧ nServer.used ≤ nServer.slots.length ∧
      nServer.slots.take nServer.used = (mediaItems.flatMap itemNames).map some ∧
      nServer.used = (mediaItems.flatMap itemNames).length ∧
      (@parseAndStoreMetadata mediaParser (boot sampleCard sampleWifi) mediaText).nServer =
        mediaItems.flatMap itemNames :=
  @nServer_filled mediaParser _ _ _ (if_pos rfl) rfl (boot sampleCard sampleWifi)

/-! ## The direction file names -/

/-- The names `process_direction_files` takes from the slots: what was stored, or what was in the
memory. -/
def namesTaken (s : ℕ → DirectionScript) : List (Option Bytes) → List Bytes
  | [] => []
  | slot :: slots =>
      (slot <|> (s 0).junk).toList ++ namesTaken (fun i => s (i + 1)) slots

/-- The request for a direction file. -/
def directionRequest (d : Downloader) (dirFileName : Bytes) : Request :=
  .directionFile dirFileName (snprintf 256 (d.baseUrl ++ dirFileName))

theorem directionRequest_injective (d : Downloader) : Function.Injective d.directionRequest := by
  intro name name' h
  exact (Request.directionFile.inj h).1

/-- `process_direction_files` calls `download_file` with one name after the other. -/
theorem processDirectionFiles_asks (d : Downloader) (s : ℕ → DirectionScript)
    (slots : List (Option Bytes)) :
    (d.processDirectionFiles s slots).requests =
      ((namesTaken s slots).map d.directionRequest).reverse ++ d.requests := by
  induction slots generalizing d s with
  | nil => rfl
  | cons slot slots ih =>
      unfold processDirectionFiles namesTaken
      rw [ih]
      cases slot <|> (s 0).junk with
      | none => rfl
      | some name =>
          have hurl : (d.downloadFile name (s 0).exchange).baseUrl = d.baseUrl :=
            congrArg Kept.baseUrl (SideStep.downloadFile d name (s 0).exchange).kept
          have hrequest : (d.downloadFile name (s 0).exchange).directionRequest =
              d.directionRequest := by
            funext name'
            unfold directionRequest
            rw [hurl]
          dsimp only
          rw [hrequest, downloadFile_requests]
          simp [directionRequest]

theorem namesTaken_some (s : ℕ → DirectionScript) (name : Bytes) (slots : List (Option Bytes)) :
    namesTaken s (some name :: slots) = name :: namesTaken (fun i => s (i + 1)) slots := rfl

theorem namesTaken_none (s : ℕ → DirectionScript) (slots : List (Option Bytes)) :
    namesTaken s (none :: slots) = (s 0).junk.toList ++ namesTaken (fun i => s (i + 1)) slots := rfl

theorem length_namesTaken_ge (s : ℕ → DirectionScript) (slots : List (Option Bytes)) :
    slots.reduceOption.length ≤ (namesTaken s slots).length := by
  induction slots generalizing s with
  | nil => exact Nat.le_refl _
  | cons slot slots ih =>
      have hrest := ih fun i => s (i + 1)
      cases slot with
      | none =>
          rw [List.reduceOption_cons_of_none, namesTaken_none, List.length_append]
          omega
      | some name =>
          rw [List.reduceOption_cons_of_some, namesTaken_some, List.length_cons, List.length_cons]
          omega

/-- Only names that were stored are taken if every other entry happens to hold `NULL`. -/
theorem namesTaken_eq_iff (s : ℕ → DirectionScript) (slots : List (Option Bytes)) :
    namesTaken s slots = slots.reduceOption ↔
      ∀ i : ℕ, slots[i]? = some none → (s i).junk = none := by
  induction slots generalizing s with
  | nil => simp [namesTaken]
  | cons slot slots ih =>
      have hrest := ih fun i => s (i + 1)
      cases slot with
      | some name =>
          rw [namesTaken_some, List.reduceOption_cons_of_some, List.cons.injEq, and_iff_right rfl, hrest]
          constructor
          · intro h i hi
            cases i with
            | zero => simp at hi
            | succ i => exact h i (by simpa using hi)
          · intro h i hi
            exact h (i + 1) (by simpa using hi)
      | none =>
          rw [List.reduceOption_cons_of_none]
          cases hjunk : (s 0).junk with
          | none =>
              rw [namesTaken_none, hjunk, Option.toList_none, List.nil_append, hrest]
              constructor
              · intro h i hi
                cases i with
                | zero => exact hjunk
                | succ i => exact h i (by simpa using hi)
              · intro h i hi
                exact h (i + 1) (by simpa using hi)
          | some name =>
              -- one name more than were stored
              rw [namesTaken_none, hjunk, Option.toList_some, List.singleton_append]
              have hmore := length_namesTaken_ge (fun i => s (i + 1)) slots
              refine iff_of_false ?_ ?_
              · intro heq
                have hlen := congrArg List.length heq
                rw [List.length_cons] at hlen
                omega
              · intro h
                have hnull := h 0 rfl
                rw [hjunk] at hnull
                cases hnull

section

variable [CJson]

theorem parse_directionFileNames {d : Downloader} {response : Bytes} {j : Json} {files : List Json}
    (hparse : CJson.parse response = some j)
    (hfiles : j.arrayField? (str "directionFiles") = some files) :
    (d.parseAndStoreMetadata response).directionFileNames = files.map Json.valuestring? := by
  have hkept := (parseAndStoreMetadata_spec d response).2
  rw [hparse] at hkept
  have hnames := congrArg Kept.directionFileNames hkept
  simp only [Kept.store, givenDirections, hfiles, Option.map_some, Option.getD_some] at hnames
  exact hnames

/-- After the response was parsed, `process_direction_files` calls `download_file` once with each string
among `files`, in order, and with nothing else. -/
def AsksForStrings (d : Downloader) (response : Bytes) (files : List Json) (s : ℕ → DirectionScript) :
    Prop :=
  let d := d.parseAndStoreMetadata response
  (d.processDirectionFiles s d.directionFileNames).requests =
    ((files.filterMap Json.valuestring?).map d.directionRequest).reverse ++ d.requests

/-- **The direction files.** Only the strings of the array are asked for exactly if the entry of every
other element happens to hold `NULL`. -/
theorem directionFiles_asked_iff {response : Bytes} {j : Json} {files : List Json}
    (hparse : CJson.parse response = some j)
    (hfiles : j.arrayField? (str "directionFiles") = some files) (d : Downloader)
    (s : ℕ → DirectionScript) :
    d.AsksForStrings response files s ↔
      ∀ (i : ℕ) (item : Json), files[i]? = some item → item.valuestring? = none →
        (s i).junk = none := by
  have hstored : (files.map Json.valuestring?).reduceOption = files.filterMap Json.valuestring? := by
    rw [List.reduceOption, List.filterMap_map]
    rfl
  unfold AsksForStrings
  dsimp only
  rw [parse_directionFileNames hparse hfiles, processDirectionFiles_asks, List.append_cancel_right_eq,
    List.reverse_inj, (directionRequest_injective _).list_map.eq_iff, ← hstored, namesTaken_eq_iff]
  constructor
  · intro h i item hitem hnone
    refine h i ?_
    rw [List.getElem?_map, hitem, Option.map_some, hnone]
  · intro h i hi
    rw [List.getElem?_map, Option.map_eq_some_iff] at hi
    obtain ⟨item, hitem, hnone⟩ := hi
    exact h i item hitem hnone

end

/-- A master JSON with a number among its direction files. -/
def directionsText : Bytes := str "\x7b\"directionFiles\":[\"a_north.json\",7]\x7d"

def directionItems : List Json := [.string (str "a_north.json"), .number 7]

/-- A parser that knows this text. -/
@[reducible] def directionsParser : CJson :=
  ⟨fun s =>
    if s = directionsText then some (.object [(str "directionFiles", .array directionItems)]) else none⟩

/-- What every slot that was not stored holds. -/
def leftInMemory (junk : Option Bytes) : ℕ → DirectionScript := fun _ => ⟨junk, answered []⟩

/-- The memory happens to be cleared. -/
theorem directionFiles_asked_cleared :
    @AsksForStrings directionsParser (boot sampleCard sampleWifi) directionsText directionItems
      (leftInMemory none) :=
  (@directionFiles_asked_iff directionsParser _ _ _ (if_pos rfl) rfl (boot sampleCard sampleWifi)
    (leftInMemory none)).2 fun _ _ _ _ => rfl

/-- The memory holds a text, and the number is asked for under that name. -/
theorem directionFiles_asked_junk :
    ¬ @AsksForStrings directionsParser (boot sampleCard sampleWifi) directionsText directionItems
      (leftInMemory (some (str "x"))) := by
  intro h
  have hlen := congrArg List.length h
  exact absurd hlen (by decide)

end Downloader

end Cubbies
