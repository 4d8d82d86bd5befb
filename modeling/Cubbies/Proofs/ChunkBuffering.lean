import Cubbies.Lib.WhileLoop
import Cubbies.Proofs.AudioFile

set_option autoImplicit false

/-! # The chunks of a body

`Downloadmp3Callback` copies a chunk into the receive buffer piece by piece and writes the buffer out
each time it is full. The loop is left after every chunk because a pass with room in the buffer takes
at least one byte (`copyRound_pass`). Between chunks the file and the buffer together hold everything
received so far, so the file at the end does not depend on how the body was cut
(`chunks_lossless`). -/

namespace Cubbies

open CString BlockBuffer WhileLoop

namespace Downloader

/-! ## The loop for one chunk -/

/-- One pass of the copy loop. -/
def copyRound (s : Downloader × Bytes) : Option (Downloader × Bytes) :=
  if s.2 = [] then none else some (copyPiece s.1 s.2)

theorem copyRound_eq_none {s : Downloader × Bytes} (h : copyRound s = none) : s.2 = [] := by
  by_contra hdata
  rw [copyRound, if_neg hdata] at h
  cases h

/-- A pass with the file open and room in the buffer leaves it so, and takes at least one byte of the
chunk. -/
theorem copyRound_pass {path : Bytes} (s s' : Downloader × Bytes) (h : ∃ b, Open s.1 path b)
    (hpass : copyRound s = some s') : (∃ b, Open s'.1 path b) ∧ s'.2.length < s.2.length := by
  obtain ⟨b, hopen⟩ := h
  by_cases hdata : s.2 = []
  · rw [copyRound, if_pos hdata] at hpass
    cases hpass
  · rw [copyRound, if_neg hdata] at hpass
    obtain rfl := Option.some.inj hpass
    obtain ⟨n, hpos, hn, hleft, hopen', -⟩ := copyPiece_open hopen hdata
    refine ⟨⟨_, hopen'⟩, ?_⟩
    rw [hleft, List.length_drop]
    omega

theorem run_copyRound (passes : ℕ) (d : Downloader) (data : Bytes) :
    (run copyRound passes (d, data)).1 = copyLoop passes d data := by
  induction passes generalizing d data with
  | zero => rfl
  | succ passes ih =>
      rw [copyLoop_succ]
      split
      · next hdata =>
          have hround : copyRound (d, data) = none := if_pos hdata
          rw [run_exit _ hround]
      · next hdata =>
          have hround : copyRound (d, data) = some (copyPiece d data) := if_neg hdata
          rw [run_pass _ hround]
          exact ih _ _

/-- The copy loop ends, with nothing left of the chunk, in the state `copyLoop` computes. -/
theorem copyLoop_ends {d : Downloader} {path b : Bytes} (data : Bytes) (h : Open d path b) :
    Ends copyRound (d, data) (copyLoop data.length d data, []) := by
  have hends : Ends copyRound (d, data) (run copyRound data.length (d, data)) :=
    ends_run (I := fun s => ∃ b, Open s.1 path b) (fun s => s.2.length) copyRound_pass ⟨b, h⟩ le_rfl
  have hleft : (run copyRound data.length (d, data)).2 = [] :=
    copyRound_eq_none hends.exited
  rw [← run_copyRound, ← hleft]
  exact hends

/-! ## A sequence of chunks -/

/-- The state after these chunks. -/
def onChunks (d : Downloader) (chunks : List Bytes) : Downloader := chunks.foldl mp3Callback.onData d

theorem onChunks_append (d : Downloader) (chunks chunks' : List Bytes) :
    d.onChunks (chunks ++ chunks') = (d.onChunks chunks).onChunks chunks' := List.foldl_append

theorem onChunks_events (d : Downloader) (chunks : List Bytes) :
    d.onChunks chunks = (chunks.map HttpEvent.onData).foldl (mp3Callback.handle frame) d := by
  rw [List.foldl_map]
  rfl

theorem chunk_events (chunks : List Bytes) :
    (chunks.map HttpEvent.onData).flatMap Exchange.chunk = chunks.flatten := by
  induction chunks with
  | nil => rfl
  | cons chunk chunks ih => rw [List.map_cons, List.flatMap_cons, List.flatten_cons, ih]; rfl

/-- Between chunks: the whole blocks are in the file, the rest is in the buffer. -/
theorem onChunks_open {d : Downloader} {path b : Bytes} (h : Open d path b) (chunks : List Bytes) :
    Open (d.onChunks chunks) path (b ++ full bufferSize (d.downloadBuffer ++ chunks.flatten)) ∧
      (d.onChunks chunks).downloadBuffer =
        rest bufferSize (d.downloadBuffer ++ chunks.flatten) := by
  rw [onChunks_events, ← chunk_events]
  exact mp3Events_open _ h

/-- **Chunk buffering loses nothing.** With the file open and room in the buffer, after any chunks: the
buffer has room again, and what is in the file followed by what is in the buffer is what was there
before followed by all the chunks; the copy loop for one more chunk ends, with nothing left of it; and
however the same bytes are cut, the last event leaves the same file. -/
theorem chunks_lossless {d : Downloader} {path b : Bytes} (h : Open d path b) (chunks : List Bytes) :
    (∃ w, Open (d.onChunks chunks) path w ∧
      w ++ (d.onChunks chunks).downloadBuffer = b ++ d.downloadBuffer ++ chunks.flatten) ∧
    (∀ chunk, Ends copyRound (d.onChunks chunks, chunk) (d.onChunks (chunks ++ [chunk]), [])) ∧
    ∀ cut : List Bytes, cut.flatten = chunks.flatten →
      (mp3Callback.onFinish (d.onChunks cut)).card.content? path =
        some (b ++ d.downloadBuffer ++ chunks.flatten) := by
  have hbetween : ∀ cut : List Bytes, ∃ w, Open (d.onChunks cut) path w ∧
      w ++ (d.onChunks cut).downloadBuffer = b ++ d.downloadBuffer ++ cut.flatten := by
    intro cut
    obtain ⟨hopen, hbuffer⟩ := onChunks_open h cut
    refine ⟨_, hopen, ?_⟩
    rw [hbuffer, List.append_assoc, full_append_rest, ← List.append_assoc]
  refine ⟨hbetween chunks, ?_, ?_⟩
  · intro chunk
    obtain ⟨w, hopen, -⟩ := hbetween chunks
    have hchunk : d.onChunks (chunks ++ [chunk]) = copyLoop chunk.length (d.onChunks chunks) chunk := by
      rw [onChunks_append]
      simp only [onChunks, List.foldl_cons, List.foldl_nil]
      simp only [mp3Callback]
      have hfile := hopen.file
      simp only [onChunks, mp3Callback] at hfile
      simp only [hfile]
    rw [hchunk]
    exact copyLoop_ends chunk hopen
  · intro cut hcut
    obtain ⟨w, hopen, hsplit⟩ := hbetween cut
    rw [(onFinish_open hopen).2.1, hsplit, hcut]

def samplePath : Bytes := str "/sdcard/media/audio/atemp.mp3"

/-- A download with one byte in the file and one in the buffer. -/
def sampleDownload : Downloader :=
  { boot ((audioCard.writeFile samplePath [1]).getD audioCard) (Wifi.boot none) with
    file := some samplePath
    downloadBuffer := [2] }

/-- A chunk longer than the buffer, and a second one. -/
theorem chunks_lossless_long :
    (mp3Callback.onFinish
        (sampleDownload.onChunks [List.replicate 5000 3, [4]])).card.content? samplePath =
      some ([1] ++ [2] ++ [List.replicate 5000 3, [4]].flatten) := by
  have hopen : Open sampleDownload samplePath [1] := ⟨rfl, by decide, by decide⟩
  exact (chunks_lossless hopen [List.replicate 5000 3, [4]]).2.2 _ rfl

end Downloader

end Cubbies
