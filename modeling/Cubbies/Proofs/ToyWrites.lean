import Cubbies.Downloader

set_option autoImplicit false

/-! # What writing into the toy folders leaves alone

Everything but the audio files and `verify.txt` is written to a `ToyFile`: a `.cubbies` file below
`/sdcard/media/toys/`, or a path so long that it was cut. `ToyWrite c c'` says what such steps can do to
the card: folders and files are added, toy files get new contents, and nothing else changes; in
particular the listing of the audio folder is the same. It is transitive, so a stage of a download
needs one lemma per step and none about the order of the steps. -/

namespace Cubbies

open CString

/-- The paths the stages before the audio files write to: they end in an `s`, or were cut. -/
def ToyFile (q : Bytes) : Prop :=
  Downloader.toysPath <+: q ∧ (q.getLast? = some 115 ∨ 255 ≤ q.length)

structure ToyWrite (c c' : Card) : Prop where
  dirs : ∀ p ∈ c.dirs, p ∈ c'.dirs
  hasFile : ∀ q, c.hasFile q → c'.hasFile q
  content : ∀ q, ¬ ToyFile q → c'.content? q = c.content? q
  listing : listFiles c' Downloader.audioPath = listFiles c Downloader.audioPath

theorem ToyWrite.refl (c : Card) : ToyWrite c c := ⟨fun _ h => h, fun _ h => h, fun _ _ => rfl, rfl⟩

theorem ToyWrite.trans {c₁ c₂ c₃ : Card} (h : ToyWrite c₁ c₂) (h' : ToyWrite c₂ c₃) :
    ToyWrite c₁ c₃ where
  dirs p hp := h'.dirs p (h.dirs p hp)
  hasFile q hq := h'.hasFile q (h.hasFile q hq)
  content q hq := (h'.content q hq).trans (h.content q hq)
  listing := h'.listing.trans h.listing

/-! ## Paths -/

/-- A path below the toys folder does not lie in the audio folder. -/
theorem parentDir_ne_of_toysPath {path : Bytes} (h : Downloader.toysPath <+: path) :
    parentDir path ≠ parentDir Downloader.audioPath := by
  obtain ⟨rest, rfl⟩ := h
  intro heq
  have hpre : str "/sdcard/media/toys" <+: parentDir (Downloader.toysPath ++ rest) := by
    have hsplit : Downloader.toysPath ++ rest = str "/sdcard/media/toys" ++ 47 :: rest := by
      rw [show Downloader.toysPath = str "/sdcard/media/toys" ++ [47] by decide]
      simp
    rw [hsplit]
    exact prefix_beforeLast 47 _ _
  rw [heq] at hpre
  revert hpre
  decide

/-- Nor is it the audio folder. -/
theorem ne_audioDir_of_toysPath {path : Bytes} (h : Downloader.toysPath <+: path) :
    path ≠ parentDir Downloader.audioPath := by
  rintro rfl
  revert h
  decide

theorem toysPath_prefix_snprintf {s : Bytes} (h : Downloader.toysPath <+: s) :
    Downloader.toysPath <+: snprintf 256 s := by
  obtain ⟨rest, rfl⟩ := h
  exact snprintf_prefix (by decide)

theorem not_toysPath_of_audioPath {path : Bytes} (h : Downloader.audioPath <+: path) :
    ¬ Downloader.toysPath <+: path := by
  intro ht
  rcases List.prefix_or_prefix_of_prefix h ht with hp | hp <;> revert hp <;> decide

/-! ## The listing -/

theorem listFiles_congr {c c' : Card} {path : Bytes} (hdir : parentDir path ∈ c'.dirs ↔
    parentDir path ∈ c.dirs) (hfiles : (c'.files.filter fun f => parentDir f.1 = parentDir path) =
      c.files.filter fun f => parentDir f.1 = parentDir path) : listFiles c' path = listFiles c path := by
  unfold listFiles
  by_cases h : parentDir path ∈ c.dirs
  · rw [if_pos h, if_pos (hdir.2 h), hfiles]
  · rw [if_neg h, if_neg fun h' => h (hdir.1 h')]

/-- Writing a file in another folder does not change a listing. -/
theorem listFiles_put {c : Card} {path b dir : Bytes} (h : parentDir path ∈ c.dirs)
    (hne : parentDir path ≠ parentDir dir) : listFiles (c.put path b h) dir = listFiles c dir := by
  refine listFiles_congr (by rw [Card.put_dirs]) ?_
  unfold Card.put
  split
  · simp only [List.filter_map]
    have hkeep : ((fun f : Bytes × Bytes => decide (parentDir f.1 = parentDir dir)) ∘
        fun f => if f.1 = path then (f.1, b) else f) =
          fun f => decide (parentDir f.1 = parentDir dir) := by
      funext f
      simp only [Function.comp_apply]
      split <;> rfl
    rw [hkeep]
    conv_rhs => rw [← List.map_id (List.filter _ _)]
    refine List.map_congr_left fun f hf => ?_
    have hf' : parentDir f.1 = parentDir dir := of_decide_eq_true (List.mem_filter.1 hf).2
    have hfne : f.1 ≠ path := by
      rintro rfl
      exact hne hf'
    rw [if_neg hfne]
    rfl
  · simp [hne]

/-! ## The steps -/

theorem ToyWrite.put {c : Card} {path b : Bytes} (h : parentDir path ∈ c.dirs)
    (hpath : ToyFile path) : ToyWrite c (c.put path b h) where
  dirs p hp := by rw [Card.put_dirs]; exact hp
  hasFile q hq := (Card.hasFile_put c path b h q).2 (Or.inr hq)
  content q hq := by
    rw [Card.content?_put, if_neg]
    rintro rfl
    exact hq hpath
  listing := listFiles_put h (parentDir_ne_of_toysPath hpath.1)

theorem ToyWrite.fopenWrite {c c' : Card} {path : Bytes} (hpath : ToyFile path)
    (h : c.fopenWrite path = some c') : ToyWrite c c' := by
  obtain ⟨hdir, rfl⟩ := Card.fopenWrite_eq_some h
  exact .put hdir hpath

theorem ToyWrite.fwrite {c : Card} {path bytes : Bytes} (hpath : ToyFile path) :
    ToyWrite c (c.fwrite path bytes) := by
  unfold Card.fwrite
  split
  · exact .refl c
  · exact .put _ hpath

theorem ToyWrite.mkdir {c c' : Card} {path : Bytes} (hpath : path ≠ parentDir Downloader.audioPath)
    (h : c.mkdir path = .ok c') : ToyWrite c c' := by
  obtain ⟨hdirs, hfiles⟩ := Card.eq_of_mkdir h
  refine ⟨fun p hp => hdirs ▸ List.mem_append_left _ hp, fun q hq => ?_,
    fun q _ => Card.content?_mkdir h q, ?_⟩
  · unfold Card.hasFile at hq ⊢
    rwa [Card.content?_mkdir h]
  · refine listFiles_congr ?_ (by rw [hfiles])
    rw [hdirs, List.mem_append, List.mem_singleton]
    exact ⟨fun hmem => hmem.resolve_right fun heq => hpath heq.symm, .inl⟩

namespace Downloader

theorem mkdirAll_toyWrite (c : Card) (paths : List Bytes)
    (hpaths : ∀ p ∈ paths, p ≠ parentDir audioPath) : ToyWrite c (mkdirAll c paths).1 := by
  induction paths generalizing c with
  | nil => exact .refl c
  | cons p paths ih =>
      have hrest := fun c => ih c fun q hq => hpaths q (List.mem_cons_of_mem _ hq)
      unfold mkdirAll
      split
      · next c' hok => exact (ToyWrite.mkdir (hpaths p List.mem_cons_self) hok).trans (hrest c')
      · exact hrest c
      · exact .refl c

theorem slashPrefixes_prefix (done rest : Bytes) :
    ∀ p ∈ slashPrefixes done rest, p <+: done ++ rest := by
  induction rest generalizing done with
  | nil => intro p hp; cases hp
  | cons b rest ih =>
      intro p hp
      have hsplit : done ++ b :: rest = (done ++ [b]) ++ rest := by simp
      unfold slashPrefixes at hp
      split at hp
      · rcases List.mem_cons.1 hp with rfl | hp
        · exact List.prefix_append _ _
        · exact hsplit ▸ ih _ p hp
      · exact hsplit ▸ ih _ p hp

/-- No folder made for a path below the toys folder is the audio folder. -/
theorem createDirectory_toyWrite {c : Card} {path : Bytes} (hpath : toysPath <+: path) :
    ToyWrite c (createDirectory c path).1 := by
  have hcut := toysPath_prefix_snprintf hpath
  unfold createDirectory
  refine mkdirAll_toyWrite c _ fun p hp => ?_
  have hpre : p <+: snprintf 256 path := by
    have hlast : (if (snprintf 256 path).getLast? = some 47 then (snprintf 256 path).dropLast
        else snprintf 256 path) <+: snprintf 256 path := by
      split
      · exact List.dropLast_prefix _
      · exact List.prefix_rfl
    rcases List.mem_append.1 hp with hp | hp
    · have := slashPrefixes_prefix [] _ p hp
      exact this.trans hlast
    · rw [List.mem_singleton] at hp
      exact hp ▸ hlast
  rintro rfl
  rcases List.prefix_or_prefix_of_prefix hpre hcut with h | h <;> revert h <;> decide

/-- The paths below the toys folder stay so when a name is added. -/
theorem toysPath_prefix_append (a : Bytes) : toysPath <+: toysPath ++ a := List.prefix_append _ _

/-- A path made by adding a `.cubbies` name is a toy file. -/
theorem toyFile_append {path name : Bytes} (hpath : toysPath <+: path)
    (hname : name.getLast? = some 115) : ToyFile (path ++ name) := by
  refine ⟨hpath.trans (List.prefix_append _ _), Or.inl ?_⟩
  rw [List.getLast?_append, hname]
  rfl

/-- Cutting does not change that. -/
theorem toyFile_snprintf {s : Bytes} (h : ToyFile s) : ToyFile (snprintf 256 s) := by
  refine ⟨toysPath_prefix_snprintf h.1, ?_⟩
  by_cases hlen : s.length < 256
  · rw [snprintf_eq_self hlen]
    exact h.2
  · right
    unfold snprintf
    rw [List.length_take]
    omega

theorem toyFile_metadataPath (tag : Bytes) : ToyFile (metadataPath tag) := by
  refine toyFile_append ?_ (by decide)
  rw [List.append_assoc]
  exact toysPath_prefix_append _

theorem openWrite_toyWrite {d d' : Downloader} {path : Bytes} (hpath : ToyFile path)
    (h : d.openWrite path = some d') : ToyWrite d.card d'.card := by
  obtain ⟨c, hc, rfl⟩ := Option.map_eq_some_iff.1 h
  exact .fopenWrite hpath hc

theorem writeFile_toyWrite (d : Downloader) {path : Bytes} (content : Bytes)
    (hpath : ToyFile path) : ToyWrite d.card (d.writeFile path content).card := by
  unfold writeFile
  split
  · exact .refl _
  · next d' h => exact (openWrite_toyWrite hpath h).trans (.fwrite hpath)

theorem createFolders_toyWrite (d : Downloader) : ToyWrite d.card d.createFolders.card := by
  unfold createFolders
  split
  · next c h => exact .mkdir (ne_audioDir_of_toysPath (toysPath_prefix_append _)) h
  · exact .refl _

end Downloader

end Cubbies
