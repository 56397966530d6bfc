import Dirlisting.Subrequest

/-!
# Saving and restoring `r->write_queue`

`mod_dirlisting_write_cq` copies the bytes of a `chunkqueue` to a cache file without consuming
them. It moves every chunk of `cq` to a local queue `in`; after each `chunkqueue_write_chunk`,
`chunkqueue_steal` moves what was written back to `cq`, and after a failed write
`chunkqueue_append_chunkqueue` moves back the rest. Two subtractions save and restore the counters
around the moves. `mod_dirlisting_cache_stream_add_footer` does the same around the footer: the body
already in `r->write_queue` waits in `in` while `http_list_directory_footer` appends the footer and
`mod_dirlisting_cache_stream_append_cq` copies it to the cache file, and the two are then joined.

The chunk queue operations of `chunk.c` are not part of this repository and are modelled from
their contract. A `ChunkQueue` carries the law of `chunk.c` that `chunkqueue_length`,
`bytes_in - bytes_out`, is the number of bytes its chunks still hold, and every operation keeps it.
`modDirlistingWriteCq` takes what each call of `chunkqueue_write_chunk` reports as a function of the
call's index and of the chunks of `in`; `WriteResults` is what a write can report.

`modDirlistingWriteCq_spec` shows that for every queue and every such sequence of results the loop
ends, returns 1 exactly when no write failed, writes the bytes of the queue in order (a prefix of
them after a failure), and leaves the queue with its bytes and both counters as they were.
`Queue.modDirlistingCacheStreamAddFooter_spec` shows that the footer then lands in the queue as a
plain append would put it, whatever the cache write did, and
`Queue.modDirlistingCacheStreamAddFooter_refines` that the byte-level model of `Dirlisting.Subrequest`
is its image.
-/

set_option autoImplicit false
set_option relaxedAutoImplicit false

namespace Dirlisting

/-! ### Chunks -/

/-- The chunk kinds of `chunk.c`: `MEM_CHUNK`, and `FILE_CHUNK` of a file or of a temporary file
(`c->file.is_temp`). -/
inductive ChunkKind
  | mem
  | file
  | tempfile
  deriving DecidableEq, Repr

/-- Modelled from the spec: a `chunk` of `chunk.c`, which is not part of this repository. `data` is
the buffer of a memory chunk or the bytes of the range of a file chunk, and `offset` is
`c->offset`, the bytes of it already sent. -/
structure Chunk where
  kind : ChunkKind
  data : Bytes
  offset : Nat
  deriving DecidableEq, Repr

/-- The bytes of the chunk from `c->offset` on; their number is `chunk_remaining_length (c)`. -/
def Chunk.remaining (c : Chunk) : Bytes := c.data.drop c.offset

/-- The bytes a list of chunks still holds, in order. -/
def Chunk.bytesOf (cs : List Chunk) : Bytes := cs.flatMap Chunk.remaining

@[simp] theorem Chunk.bytesOf_nil : Chunk.bytesOf [] = [] := rfl

@[simp] theorem Chunk.bytesOf_cons (c : Chunk) (cs : List Chunk) :
    Chunk.bytesOf (c :: cs) = c.remaining ++ Chunk.bytesOf cs := by
  simp [Chunk.bytesOf]

@[simp] theorem Chunk.bytesOf_append (a b : List Chunk) :
    Chunk.bytesOf (a ++ b) = Chunk.bytesOf a ++ Chunk.bytesOf b := by
  simp [Chunk.bytesOf]

/-- The chunk `chunkqueue_steal` appends to `dest` when `len` ends inside `c`: `chunkqueue_append_mem`
of the next `n` bytes of a memory chunk (as a chunk of its own; extending the last memory chunk of
`dest` instead gives the same bytes), or `chunkqueue_append_file` of the same file from `c->offset`
for `n` bytes, not temporary: the flag stays with the rest of `c`. -/
def Chunk.piece (c : Chunk) (n : Nat) : Chunk :=
  match c.kind with
  | .mem => ⟨.mem, c.remaining.take n, 0⟩
  | .file | .tempfile => ⟨.file, c.data.take (c.offset + n), c.offset⟩

@[simp] theorem Chunk.piece_remaining (c : Chunk) (n : Nat) :
    (c.piece n).remaining = c.remaining.take n := by
  unfold Chunk.piece
  split <;> simp [Chunk.remaining, List.drop_take]

/-! ### Chunk queues -/

/-- Modelled from the spec: a `chunkqueue` of `chunk.c`, its chunks with `bytes_in` and
`bytes_out`. The counters are any `off_t` values whose difference, `chunkqueue_length (cq)`, is the
number of bytes the chunks still hold; every operation of `chunk.c` keeps this. -/
structure ChunkQueue where
  chunks : List Chunk
  bytesIn : Int
  bytesOut : Int
  length_eq : bytesIn - bytesOut = (Chunk.bytesOf chunks).length

namespace ChunkQueue

/-- The bytes of the queue, in order. -/
def bytes (cq : ChunkQueue) : Bytes := Chunk.bytesOf cq.chunks

theorem bytesIn_eq (cq : ChunkQueue) : cq.bytesIn = cq.bytesOut + cq.bytes.length := by
  have := cq.length_eq
  unfold bytes
  omega

/-- `memset (&in, 0, sizeof (in))`: no chunk, and both counters 0. -/
def empty : ChunkQueue := ⟨[], 0, 0, rfl⟩

/-- `chunkqueue_append_chunkqueue (cq, src)`: the chunks of `src` go to the end of `cq`, whose
`bytes_in` grows by `chunkqueue_length (src)`, and `src` is left with no chunk and
`bytes_out = bytes_in`. Nothing happens when `src` has no chunk. -/
def appendChunkqueue (cq src : ChunkQueue) : ChunkQueue × ChunkQueue :=
  if src.chunks = [] then (cq, src)
  else
    (⟨cq.chunks ++ src.chunks, cq.bytesIn + (src.bytesIn - src.bytesOut), cq.bytesOut, by
        have := cq.length_eq
        have := src.length_eq
        simp only [Chunk.bytesOf_append, List.length_append, Nat.cast_add]
        omega⟩,
      ⟨[], src.bytesIn, src.bytesIn, by simp⟩)

/-- `cq->bytes_in -= len; cq->bytes_out -= len;`. -/
def rebase (cq : ChunkQueue) (len : Int) : ChunkQueue :=
  ⟨cq.chunks, cq.bytesIn - len, cq.bytesOut - len, by have := cq.length_eq; omega⟩

/-- The appends of `chunk.c` (`chunkqueue_append_mem`, `chunkqueue_append_file`, a committed
buffer): the chunks go to the end of the queue and `bytes_in` grows by their bytes. -/
def append (cq : ChunkQueue) (cs : List Chunk) : ChunkQueue :=
  ⟨cq.chunks ++ cs, cq.bytesIn + (Chunk.bytesOf cs).length, cq.bytesOut, by
    have := cq.length_eq
    simp only [Chunk.bytesOf_append, List.length_append, Nat.cast_add]
    omega⟩

theorem bytesOf_dropWhile_finished (cs : List Chunk) :
    Chunk.bytesOf (cs.dropWhile fun c ↦ c.remaining.isEmpty) = Chunk.bytesOf cs := by
  induction cs with
  | nil => rfl
  | cons c cs ih =>
    rw [List.dropWhile_cons]
    split
    · rename_i hc
      rw [ih, Chunk.bytesOf_cons, List.isEmpty_iff.mp hc, List.nil_append]
    · rfl

/-- `chunkqueue_remove_finished_chunks`: the chunks at the front with no bytes left are released. -/
def removeFinishedChunks (cq : ChunkQueue) : ChunkQueue :=
  ⟨cq.chunks.dropWhile fun c ↦ c.remaining.isEmpty, cq.bytesIn, cq.bytesOut, by
    rw [bytesOf_dropWhile_finished]
    exact cq.length_eq⟩

end ChunkQueue

/-- The loop of `chunkqueue_steal (dest, src, len)` on the chunks of `src`, returning the chunks
appended to `dest` and the chunks left in `src`. A chunk that `len` covers moves to `dest`, or is
released when it has no bytes left, as are the chunks with no bytes left at the front once `len` is
0. A chunk that `len` ends inside is split: its first `len` bytes go to `dest` and
`c->offset += len`; `len` is then 0 and the chunk still holds bytes, so the loop ends. -/
def stealLoop : Int → List Chunk → List Chunk × List Chunk
  | _, [] => ([], [])
  | len, c :: rest =>
    if 0 < len ∨ c.remaining = [] then
      if (c.remaining.length : Int) ≤ len then
        let (moved, left) := stealLoop (len - c.remaining.length) rest
        ((if c.remaining = [] then [] else [c]) ++ moved, left)
      else ([c.piece len.toNat], { c with offset := c.offset + len.toNat } :: rest)
    else ([], c :: rest)

theorem stealLoop_bytes : ∀ (len : Int) (cs : List Chunk), 0 ≤ len →
    Chunk.bytesOf (stealLoop len cs).1 = (Chunk.bytesOf cs).take len.toNat ∧
      Chunk.bytesOf (stealLoop len cs).2 = (Chunk.bytesOf cs).drop len.toNat
  | _, [], _ => by simp [stealLoop]
  | len, c :: rest, hlen => by
    by_cases hgo : 0 < len ∨ c.remaining = []
    · by_cases hcover : (c.remaining.length : Int) ≤ len
      · -- `len` covers `c`: it moves (or is released) and the loop goes on
        have hn : (len - c.remaining.length).toNat = len.toNat - c.remaining.length := by omega
        have hle : c.remaining.length ≤ len.toNat := by omega
        obtain ⟨ih1, ih2⟩ := stealLoop_bytes (len - c.remaining.length) rest (by omega)
        have hmoved : Chunk.bytesOf (if c.remaining = [] then [] else [c]) = c.remaining := by
          split_ifs with h <;> simp [h]
        rcases hrec : stealLoop (len - c.remaining.length) rest with ⟨moved, left⟩
        rw [hrec] at ih1 ih2
        simp only [stealLoop, if_pos hgo, if_pos hcover, hrec, Chunk.bytesOf_append, hmoved, ih1, ih2,
          Chunk.bytesOf_cons, hn, List.take_append_eq_append_take, List.drop_append_eq_append_drop,
          List.take_of_length_le hle, List.drop_of_length_le hle, List.nil_append, and_self]
      · -- `len` ends inside `c`: `c` is split
        have hlt : len.toNat < c.remaining.length := by omega
        simp only [stealLoop, if_pos hgo, if_neg hcover, Chunk.bytesOf_cons, Chunk.piece_remaining,
          Chunk.bytesOf_nil, List.append_nil, List.take_append_of_le_length hlt.le,
          List.drop_append_of_le_length hlt.le, true_and]
        simp [Chunk.remaining, List.drop_drop, Nat.add_comm]
    · -- `len` is 0 and `c` holds bytes: the loop ends at once
      obtain rfl : len = 0 := by have := (not_or.mp hgo).1; omega
      simp [stealLoop, (not_or.mp hgo).2]

theorem stealLoop_length : ∀ (len : Int) (cs : List Chunk), (stealLoop len cs).2.length ≤ cs.length
  | _, [] => Nat.le_refl _
  | len, c :: rest => by
    by_cases hgo : 0 < len ∨ c.remaining = []
    · by_cases hcover : (c.remaining.length : Int) ≤ len
      · have := stealLoop_length (len - c.remaining.length) rest
        rcases hrec : stealLoop (len - c.remaining.length) rest with ⟨moved, left⟩
        simp only [stealLoop, if_pos hgo, if_pos hcover, hrec, List.length_cons] at this ⊢
        omega
      · simp [stealLoop, hgo, hcover]
    · simp [stealLoop, hgo]

namespace ChunkQueue

/-- `chunkqueue_steal (dest, src, len)`: the chunks `stealLoop` moves go to the end of `dest`, and
`bytes_in` of `dest` and `bytes_out` of `src` grow by their bytes. -/
def steal (dest src : ChunkQueue) (len : Int) (hlen : 0 ≤ len) : ChunkQueue × ChunkQueue :=
  (⟨dest.chunks ++ (stealLoop len src.chunks).1,
      dest.bytesIn + (Chunk.bytesOf (stealLoop len src.chunks).1).length, dest.bytesOut, by
      have := dest.length_eq
      simp only [Chunk.bytesOf_append, List.length_append, Nat.cast_add]
      omega⟩,
    ⟨(stealLoop len src.chunks).2, src.bytesIn,
      src.bytesOut + (Chunk.bytesOf (stealLoop len src.chunks).1).length, by
      have := src.length_eq
      rw [← List.take_append_drop len.toNat (Chunk.bytesOf src.chunks), ←
        (stealLoop_bytes len src.chunks hlen).1, ← (stealLoop_bytes len src.chunks hlen).2,
        List.length_append] at this
      omega⟩)

/-! The operations on the bytes and counters of a queue. -/

@[simp] theorem appendChunkqueue_fst_bytes (cq src : ChunkQueue) :
    (cq.appendChunkqueue src).1.bytes = cq.bytes ++ src.bytes := by
  unfold appendChunkqueue bytes
  split_ifs with h <;> simp [h]

@[simp] theorem appendChunkqueue_fst_bytesIn (cq src : ChunkQueue) :
    (cq.appendChunkqueue src).1.bytesIn = cq.bytesIn + (src.bytesIn - src.bytesOut) := by
  unfold appendChunkqueue
  split_ifs with h
  · have := src.length_eq
    simp only [h, Chunk.bytesOf_nil, List.length_nil, Nat.cast_zero] at this
    show cq.bytesIn = _
    omega
  · rfl

@[simp] theorem appendChunkqueue_fst_bytesOut (cq src : ChunkQueue) :
    (cq.appendChunkqueue src).1.bytesOut = cq.bytesOut := by
  unfold appendChunkqueue
  split_ifs <;> rfl

@[simp] theorem appendChunkqueue_snd_bytes (cq src : ChunkQueue) :
    (cq.appendChunkqueue src).2.bytes = [] := by
  unfold appendChunkqueue bytes
  split_ifs with h <;> simp [h]

@[simp] theorem appendChunkqueue_snd_bytesIn (cq src : ChunkQueue) :
    (cq.appendChunkqueue src).2.bytesIn = src.bytesIn := by
  unfold appendChunkqueue
  split_ifs <;> rfl

@[simp] theorem appendChunkqueue_snd_bytesOut (cq src : ChunkQueue) :
    (cq.appendChunkqueue src).2.bytesOut = src.bytesIn := by
  unfold appendChunkqueue
  split_ifs with h
  · have := src.length_eq
    simp only [h, Chunk.bytesOf_nil, List.length_nil, Nat.cast_zero] at this
    exact (sub_eq_zero.mp this).symm
  · rfl

@[simp] theorem rebase_bytes (cq : ChunkQueue) (len : Int) : (cq.rebase len).bytes = cq.bytes := rfl

@[simp] theorem rebase_bytesOut (cq : ChunkQueue) (len : Int) :
    (cq.rebase len).bytesOut = cq.bytesOut - len := rfl

@[simp] theorem append_bytes (cq : ChunkQueue) (cs : List Chunk) :
    (cq.append cs).bytes = cq.bytes ++ Chunk.bytesOf cs := Chunk.bytesOf_append _ _

@[simp] theorem append_bytesOut (cq : ChunkQueue) (cs : List Chunk) :
    (cq.append cs).bytesOut = cq.bytesOut := rfl

@[simp] theorem removeFinishedChunks_bytes (cq : ChunkQueue) :
    cq.removeFinishedChunks.bytes = cq.bytes := bytesOf_dropWhile_finished _

@[simp] theorem empty_bytes : empty.bytes = [] := rfl

@[simp] theorem empty_bytesIn : empty.bytesIn = 0 := rfl

@[simp] theorem empty_bytesOut : empty.bytesOut = 0 := rfl

theorem steal_bytes (dest src : ChunkQueue) {len : Int} (hlen : 0 ≤ len) :
    (dest.steal src len hlen).1.bytes = dest.bytes ++ src.bytes.take len.toNat ∧
      (dest.steal src len hlen).1.bytesOut = dest.bytesOut ∧
      (dest.steal src len hlen).2.bytes = src.bytes.drop len.toNat := by
  simp only [steal, bytes, Chunk.bytesOf_append, stealLoop_bytes len src.chunks hlen, and_self]

/-- A steal of `len` bytes, `0 < len` and at most the bytes of `src`, takes bytes out of `src`
and adds no chunk to it. -/
theorem steal_size (dest src : ChunkQueue) {len : Int} (hpos : 0 < len)
    (hle : len ≤ src.bytes.length) :
    (dest.steal src len hpos.le).2.bytes.length + (dest.steal src len hpos.le).2.chunks.length <
      src.bytes.length + src.chunks.length := by
  have := stealLoop_length len src.chunks
  rw [(steal_bytes dest src hpos.le).2.2, List.length_drop]
  simp only [steal] at this ⊢
  omega

/-- `chunkqueue_remove_finished_chunks` after a write of 0 bytes releases at least the first
chunk. -/
theorem removeFinishedChunks_size {cq : ChunkQueue} {c : Chunk} {rest : List Chunk}
    (hcq : cq.chunks = c :: rest) (hc : c.remaining = []) :
    cq.removeFinishedChunks.bytes.length + cq.removeFinishedChunks.chunks.length <
      cq.bytes.length + cq.chunks.length := by
  rw [removeFinishedChunks_bytes, Nat.add_lt_add_iff_left]
  simp only [removeFinishedChunks, hcq, List.dropWhile_cons, hc, List.isEmpty_nil, if_true,
    List.length_cons]
  exact Nat.lt_succ_of_le (List.dropWhile_suffix _).length_le

end ChunkQueue

/-! ### `mod_dirlisting_write_cq` -/

/-- What `chunkqueue_write_chunk (fd, &in, errh)` may report on the chunks `cs` of `in` at its
`k`-th call: a positive count of at most the bytes `in` holds, 0 only when the first chunk has no
bytes left, or a negative failure. -/
structure WriteResults (write : Nat → List Chunk → Int) : Prop where
  le_length : ∀ k cs, 0 < write k cs → write k cs ≤ (Chunk.bytesOf cs).length
  zero_finished : ∀ k c rest, write k (c :: rest) = 0 → c.remaining = []

/-- What `mod_dirlisting_write_cq` leaves: its return value, `cq`, the bytes the file received,
and the results of the writes, in order. -/
structure WriteCqRun where
  rc : Bool
  cq : ChunkQueue
  written : Bytes
  results : List Int

/-- The loop `while (!chunkqueue_is_empty (&in))` of `mod_dirlisting_write_cq` after `k` writes,
with the bytes `written` and the `results` so far. `none` when the fuel runs out. -/
def writeCqLoop (write : Nat → List Chunk → Int) :
    Nat → Nat → ChunkQueue → ChunkQueue → Bytes → List Int → Option WriteCqRun
  | 0, _, _, _, _, _ => none
  | fuel + 1, k, cq, inq, written, results =>
    if inq.chunks = [] then some ⟨true, cq, written, results⟩
    else
      let wr := write k inq.chunks
      if hwr : 0 < wr then
        let (cq, inq') := cq.steal inq wr hwr.le
        writeCqLoop write fuel (k + 1) cq inq' (written ++ inq.bytes.take wr.toNat) (results ++ [wr])
      else if wr < 0 then some ⟨false, (cq.appendChunkqueue inq).1, written, results ++ [wr]⟩
      else writeCqLoop write fuel (k + 1) cq inq.removeFinishedChunks written (results ++ [wr])

/-- `mod_dirlisting_write_cq (fd, cq, errh)`: the chunks of `cq` move to `in`, the counters of `cq`
go back by `in.bytes_in`, and the loop runs. Its fuel, one more than the bytes and the chunks of
`in`, is enough for every valid sequence of writes (`modDirlistingWriteCq_spec`). -/
def modDirlistingWriteCq (write : Nat → List Chunk → Int) (cq : ChunkQueue) : Option WriteCqRun :=
  let saved := ChunkQueue.empty.appendChunkqueue cq
  let inq := saved.1
  writeCqLoop write (inq.bytes.length + inq.chunks.length + 1) 0 (saved.2.rebase inq.bytesIn) inq [] []

section WriteCq

variable {write : Nat → List Chunk → Int}

/-- The loop invariant: every byte of `cq` and of `in` ends in `cq`, in order, with `bytes_out` of
`cq` as it was; the file receives a prefix of the bytes of `in`, all of them exactly when no write
fails. -/
theorem writeCqLoop_spec (hw : WriteResults write) :
    ∀ (fuel k : Nat) (cq inq : ChunkQueue) (written : Bytes) (results : List Int),
      inq.bytes.length + inq.chunks.length < fuel →
      ∃ run, writeCqLoop write fuel k cq inq written results = some run ∧
        run.cq.bytes = cq.bytes ++ inq.bytes ∧ run.cq.bytesOut = cq.bytesOut ∧
        ∃ sent new, run.written = written ++ sent ∧ sent <+: inq.bytes ∧
          run.results = results ++ new ∧ (run.rc = true ↔ ∀ w ∈ new, 0 ≤ w) ∧
          (run.rc = true → sent = inq.bytes)
  | 0, _, _, _, _, _, hfuel => absurd hfuel (Nat.not_lt_zero _)
  | fuel + 1, k, cq, inq, written, results, hfuel => by
    rw [writeCqLoop]
    by_cases hempty : inq.chunks = []
    · have hbytes : inq.bytes = [] := by simp [ChunkQueue.bytes, hempty]
      rw [if_pos hempty]
      exact ⟨_, rfl, by simp [hbytes], rfl, [], [], by simp, by simp, by simp, by simp, by simp [hbytes]⟩
    rw [if_neg hempty]
    obtain ⟨c, rest, hcs⟩ := List.exists_cons_of_ne_nil hempty
    by_cases hpos : 0 < write k inq.chunks
    · -- a write of `wr` bytes: they move back to `cq`
      rw [dif_pos hpos]
      obtain ⟨hcq, hout, hinq⟩ := ChunkQueue.steal_bytes cq inq hpos.le
      have hsize := ChunkQueue.steal_size cq inq hpos (hw.le_length k inq.chunks hpos)
      obtain ⟨run, hrun, hbytes, hbo, sent, new, hw', hsent, hres, hrc, hall⟩ :=
        writeCqLoop_spec hw fuel (k + 1) (cq.steal inq _ hpos.le).1 (cq.steal inq _ hpos.le).2
          (written ++ inq.bytes.take (write k inq.chunks).toNat) (results ++ [write k inq.chunks])
          (by omega)
      refine ⟨run, hrun, ?_, hbo.trans hout, inq.bytes.take (write k inq.chunks).toNat ++ sent,
        write k inq.chunks :: new, by rw [hw', List.append_assoc], ?_, by rw [hres]; simp, ?_, ?_⟩
      · rw [hbytes, hcq, hinq, List.append_assoc, List.take_append_drop]
      · rw [hinq] at hsent
        have := (List.prefix_append_right_inj (inq.bytes.take (write k inq.chunks).toNat)).mpr hsent
        rwa [List.take_append_drop] at this
      · simp only [List.mem_cons, forall_eq_or_imp, hpos.le, true_and, hrc]
      · intro h
        rw [hall h, hinq, List.take_append_drop]
    rw [dif_neg hpos]
    by_cases hneg : write k inq.chunks < 0
    · -- a failed write: the rest of `in` goes back to `cq`
      rw [if_pos hneg]
      exact ⟨_, rfl, by simp, by simp, [], [write k inq.chunks], by simp, List.nil_prefix,
        rfl, by simpa using hneg, by simp⟩
    -- a write of 0 bytes: the first chunk is finished and released
    rw [if_neg hneg]
    have hzero : write k inq.chunks = 0 := by omega
    have hsize := ChunkQueue.removeFinishedChunks_size hcs (hw.zero_finished k c rest (hcs ▸ hzero))
    obtain ⟨run, hrun, hbytes, hbo, sent, new, hw', hsent, hres, hrc, hall⟩ :=
      writeCqLoop_spec hw fuel (k + 1) cq inq.removeFinishedChunks written
        (results ++ [write k inq.chunks]) (by omega)
    rw [ChunkQueue.removeFinishedChunks_bytes] at hbytes hsent hall
    refine ⟨run, hrun, hbytes, hbo, sent, write k inq.chunks :: new, hw', hsent,
      by rw [hres]; simp, ?_, hall⟩
    simp only [List.mem_cons, forall_eq_or_imp, hzero, le_refl, true_and, hrc]

/-- `mod_dirlisting_write_cq` ends on every queue and every valid sequence of write results. It
returns 1 exactly when no write failed; the file receives the bytes of the queue in order, a prefix
of them when it returns 0; and the queue is left with the same bytes, `bytes_in` and `bytes_out`. -/
theorem modDirlistingWriteCq_spec (hw : WriteResults write) (cq : ChunkQueue) :
    ∃ run, modDirlistingWriteCq write cq = some run ∧
      (run.rc = true ↔ ∀ w ∈ run.results, 0 ≤ w) ∧ run.written <+: cq.bytes ∧
      (run.rc = true → run.written = cq.bytes) ∧
      run.cq.bytes = cq.bytes ∧ run.cq.bytesIn = cq.bytesIn ∧ run.cq.bytesOut = cq.bytesOut := by
  obtain ⟨run, hrun, hbytes, hbo, sent, new, hw', hsent, hres, hrc, hall⟩ :=
    writeCqLoop_spec hw _ 0 ((ChunkQueue.empty.appendChunkqueue cq).2.rebase
      (ChunkQueue.empty.appendChunkqueue cq).1.bytesIn) (ChunkQueue.empty.appendChunkqueue cq).1 [] []
      (Nat.lt_succ_self _)
  have hin : (ChunkQueue.empty.appendChunkqueue cq).1.bytesIn = cq.bytesIn - cq.bytesOut := by
    rw [ChunkQueue.bytesIn_eq, ChunkQueue.appendChunkqueue_fst_bytesOut, ChunkQueue.appendChunkqueue_fst_bytes,
      cq.bytesIn_eq]
    simp
  simp only [ChunkQueue.rebase_bytes, ChunkQueue.appendChunkqueue_snd_bytes,
    ChunkQueue.appendChunkqueue_fst_bytes, ChunkQueue.empty_bytes, List.nil_append] at hbytes hsent hall
  simp only [ChunkQueue.rebase_bytesOut, ChunkQueue.appendChunkqueue_snd_bytesOut, hin] at hbo
  replace hbo : run.cq.bytesOut = cq.bytesOut := by omega
  simp only [List.nil_append] at hw' hres
  subst hw' hres
  refine ⟨run, hrun, hrc, hsent, hall, hbytes, ?_, hbo⟩
  rw [run.cq.bytesIn_eq, cq.bytesIn_eq, hbo, hbytes]

end WriteCq

/-! ### The footer of a streamed listing -/

namespace Queue

/-- `mod_dirlisting_cache_stream_append_cq` on the queue: unless the queue has no chunk or there is
no cache file, `r->write_queue` goes to the cache file through `mod_dirlisting_write_cq`, and the
file is given up when the response is sent chunked or the write fails. The operations are those of
the byte-level model, with the result of `mod_dirlisting_write_cq`. -/
def modDirlistingCacheStreamAppendCq (write : Nat → List Chunk → Int) (sendChunked : Bool)
    (cq : ChunkQueue) (p : HandlerCtx) : Option (HandlerCtx × ChunkQueue × List Op) :=
  if cq.chunks = [] ∨ p.jfd = -1 then some (p, cq, [])
  else if sendChunked then some (p.dropCacheFile, cq, [.close p.jfd] ++ (p.jfn.map Op.unlink).toList)
  else (modDirlistingWriteCq write cq).map fun run ↦
    if run.rc then (p, run.cq, [.write p.jfd cq.bytes true])
    else (p.dropCacheFile, run.cq, [.write p.jfd cq.bytes false, .close p.jfd] ++
      (p.jfn.map Op.unlink).toList)

/-- `mod_dirlisting_cache_stream_add_footer` on `r->write_queue`: the body waits in `in` while
`footer`, the chunks `http_list_directory_footer` appends, is copied to the cache file; the queue
then takes the body and the footer back from `in`, with the counters saved and restored around
each move. -/
def modDirlistingCacheStreamAddFooter (write : Nat → List Chunk → Int) (sendChunked : Bool)
    (footer : List Chunk) (p : HandlerCtx) (cq : ChunkQueue) :
    Option (HandlerCtx × ChunkQueue × List Op) :=
  let saved := ChunkQueue.empty.appendChunkqueue cq
  let inq := saved.1
  let cq := (saved.2.rebase inq.bytesIn).append footer
  (modDirlistingCacheStreamAppendCq write sendChunked cq p).map fun (p, cq, ops) ↦
    let len := cq.bytesIn - cq.bytesOut
    let joined := inq.appendChunkqueue cq
    (p, ((joined.2.rebase len).appendChunkqueue joined.1).1, ops)

variable {write : Nat → List Chunk → Int}

/-- `mod_dirlisting_cache_stream_append_cq` leaves the bytes and counters of the queue as they were,
and when the queue holds bytes it does what the byte-level model does for some result of the
write. -/
theorem modDirlistingCacheStreamAppendCq_spec (hw : WriteResults write) (sendChunked : Bool)
    (cq : ChunkQueue) (p : HandlerCtx) :
    ∃ p' cq' ops, modDirlistingCacheStreamAppendCq write sendChunked cq p = some (p', cq', ops) ∧
      cq'.bytes = cq.bytes ∧ cq'.bytesIn = cq.bytesIn ∧ cq'.bytesOut = cq.bytesOut ∧
      (cq.bytes ≠ [] → ∃ ok, Dirlisting.modDirlistingCacheStreamAppendCq sendChunked ok cq.bytes p =
        (p', ops)) := by
  have hchunks : cq.bytes ≠ [] → cq.chunks ≠ [] := fun h hc ↦ h (by simp [ChunkQueue.bytes, hc])
  unfold modDirlistingCacheStreamAppendCq Dirlisting.modDirlistingCacheStreamAppendCq
  by_cases hskip : cq.chunks = [] ∨ p.jfd = -1
  · refine ⟨_, _, _, if_pos hskip, rfl, rfl, rfl, fun hne ↦ ⟨true, ?_⟩⟩
    rw [if_pos (hskip.imp_left fun h ↦ absurd h (hchunks hne))]
  have hjfd : p.jfd ≠ -1 := fun h ↦ hskip (Or.inr h)
  rw [if_neg hskip]
  by_cases hchunked : sendChunked = true
  · exact ⟨_, _, _, if_pos hchunked, rfl, rfl, rfl, fun hne ↦ ⟨true, by simp [hne, hjfd, hchunked]⟩⟩
  rw [if_neg hchunked]
  obtain ⟨run, hrun, -, -, -, hbytes, hin, hout⟩ := modDirlistingWriteCq_spec hw cq
  rw [hrun, Option.map_some']
  cases hrc : run.rc
  · exact ⟨p.dropCacheFile, run.cq, [.write p.jfd cq.bytes false, .close p.jfd] ++
      (p.jfn.map Op.unlink).toList, by simp [hrc], hbytes, hin, hout,
      fun hne ↦ ⟨false, by simp [hne, hjfd, hchunked]⟩⟩
  · exact ⟨p, run.cq, [.write p.jfd cq.bytes true], by simp [hrc], hbytes, hin, hout,
      fun hne ↦ ⟨true, by simp [hne, hjfd, hchunked]⟩⟩

/-- `mod_dirlisting_cache_stream_add_footer` leaves `r->write_queue` with its bytes followed by the
footer, `bytes_in` grown by the footer and `bytes_out` as it was, as a plain append of `footer`
would, whatever the cache write did. When the footer holds bytes, the handler and the operations
are those of the byte-level `mod_dirlisting_cache_stream_append_cq` on them for some result of the
write. -/
theorem modDirlistingCacheStreamAddFooter_spec (hw : WriteResults write) (sendChunked : Bool)
    (footer : List Chunk) (p : HandlerCtx) (cq : ChunkQueue) :
    ∃ p' cq' ops, modDirlistingCacheStreamAddFooter write sendChunked footer p cq = some (p', cq', ops) ∧
      cq'.bytes = cq.bytes ++ Chunk.bytesOf footer ∧
      cq'.bytesIn = cq.bytesIn + (Chunk.bytesOf footer).length ∧ cq'.bytesOut = cq.bytesOut ∧
      (Chunk.bytesOf footer ≠ [] → ∃ ok, Dirlisting.modDirlistingCacheStreamAppendCq sendChunked ok
        (Chunk.bytesOf footer) p = (p', ops)) := by
  obtain ⟨p', cq4, ops, hcq, hbytes, hin, hout, hbyte⟩ := modDirlistingCacheStreamAppendCq_spec hw
    sendChunked (((ChunkQueue.empty.appendChunkqueue cq).2.rebase
      (ChunkQueue.empty.appendChunkqueue cq).1.bytesIn).append footer) p
  simp only [ChunkQueue.append_bytes, ChunkQueue.rebase_bytes, ChunkQueue.appendChunkqueue_snd_bytes,
    List.nil_append, ChunkQueue.append_bytesOut, ChunkQueue.rebase_bytesOut,
    ChunkQueue.appendChunkqueue_snd_bytesOut, ChunkQueue.appendChunkqueue_fst_bytesIn,
    ChunkQueue.empty_bytesIn, ChunkQueue.empty_bytesOut] at hbytes hout hbyte
  have h4out : cq4.bytesOut = cq.bytesOut := by omega
  simp only [modDirlistingCacheStreamAddFooter, hcq, Option.map_some']
  refine ⟨p', _, ops, rfl, by simp [hbytes], ?_, by simp [h4out], hbyte⟩
  rw [ChunkQueue.bytesIn_eq, cq.bytesIn_eq]
  simp [hbytes, h4out, add_assoc]

theorem httpListDirectoryFooter_ne_nil (env : PageEnv) (r : Request) (conf : PluginConfig)
    (spill : Nat → SpillOutcome) : httpListDirectoryFooter env r conf spill ≠ [] := by
  unfold httpListDirectoryFooter
  exact List.append_ne_nil_of_left_ne_nil (List.append_ne_nil_of_left_ne_nil (by decide) _) _

/-- The byte-level `mod_dirlisting_cache_stream_add_footer` of `Dirlisting.Subrequest` is the image
of the queue model: on a queue holding the response body, with footer chunks holding the bytes of
`http_list_directory_footer`, the queue model ends with the handler, the operations and the body of
the byte-level model for some result of the footer's write. -/
theorem modDirlistingCacheStreamAddFooter_refines (hw : WriteResults write) (env : PageEnv)
    (r : Request) (o : StepOutcome) (p : HandlerCtx) (resp : Response) (cq : ChunkQueue)
    (footer : List Chunk) (hbody : cq.bytes = resp.body)
    (hfooter : Chunk.bytesOf footer = httpListDirectoryFooter env r p.conf o.page.readmeSpill) :
    ∃ ok cq', modDirlistingCacheStreamAddFooter write o.sendChunked footer p cq =
        some ((Dirlisting.modDirlistingCacheStreamAddFooter env r { o with footerWriteOk := ok } p resp).1,
          cq', (Dirlisting.modDirlistingCacheStreamAddFooter env r { o with footerWriteOk := ok } p resp).2.2) ∧
      cq'.bytes =
        (Dirlisting.modDirlistingCacheStreamAddFooter env r { o with footerWriteOk := ok } p resp).2.1.body := by
  obtain ⟨p', cq', ops, hrun, hbytes, -, -, hbyte⟩ :=
    modDirlistingCacheStreamAddFooter_spec hw o.sendChunked footer p cq
  obtain ⟨ok, hok⟩ := hbyte (hfooter ▸ httpListDirectoryFooter_ne_nil env r p.conf o.page.readmeSpill)
  rw [hfooter] at hok hbytes
  refine ⟨ok, cq', ?_, ?_⟩
  · simp only [hrun, Dirlisting.modDirlistingCacheStreamAddFooter, hok]
  · simp only [Dirlisting.modDirlistingCacheStreamAddFooter, hok, Response.append_body, hbytes, hbody]

end Queue

/-! ### Both save-and-restore moves -/

/-- For every valid sequence of write results: `mod_dirlisting_write_cq` ends on every queue,
returns 1 exactly when no write failed, writes the queue's bytes in order (a prefix of them when it
returns 0), and leaves the queue with the same bytes, `bytes_in` and `bytes_out`; and
`mod_dirlisting_cache_stream_add_footer` leaves `r->write_queue` as a plain append of the footer
would, whether or not the cache write succeeded. -/
theorem modDirlistingWriteCq_restoresQueue {write : Nat → List Chunk → Int} (hw : WriteResults write) :
    (∀ cq : ChunkQueue, ∃ run, modDirlistingWriteCq write cq = some run ∧
      (run.rc = true ↔ ∀ w ∈ run.results, 0 ≤ w) ∧ run.written <+: cq.bytes ∧
      (run.rc = true → run.written = cq.bytes) ∧
      run.cq.bytes = cq.bytes ∧ run.cq.bytesIn = cq.bytesIn ∧ run.cq.bytesOut = cq.bytesOut) ∧
    ∀ (sendChunked : Bool) (footer : List Chunk) (p : HandlerCtx) (cq : ChunkQueue),
      ∃ p' cq' ops, Queue.modDirlistingCacheStreamAddFooter write sendChunked footer p cq =
          some (p', cq', ops) ∧
        cq'.bytes = cq.bytes ++ Chunk.bytesOf footer ∧
        cq'.bytesIn = cq.bytesIn + (Chunk.bytesOf footer).length ∧ cq'.bytesOut = cq.bytesOut :=
  ⟨modDirlistingWriteCq_spec hw, fun sendChunked footer p cq ↦
    let ⟨p', cq', ops, hrun, hbytes, hin, hout, _⟩ :=
      Queue.modDirlistingCacheStreamAddFooter_spec hw sendChunked footer p cq
    ⟨p', cq', ops, hrun, hbytes, hin, hout⟩⟩

/-- A write that takes every byte of `in` at once. -/
theorem writeResults_writeAll : WriteResults fun _ cs ↦ (Chunk.bytesOf cs).length where
  le_length _ _ _ := le_rfl
  zero_finished _ c rest h := by
    simp only [Chunk.bytesOf_cons, List.length_append, Nat.cast_add] at h
    exact List.eq_nil_of_length_eq_zero (by omega)

theorem modDirlistingWriteCq_restoresQueue_writeAll :
    WriteResults (fun _ cs ↦ (Chunk.bytesOf cs).length) ∧
      (∀ cq : ChunkQueue, ∃ run, modDirlistingWriteCq (fun _ cs ↦ (Chunk.bytesOf cs).length) cq = some run ∧
        (run.rc = true ↔ ∀ w ∈ run.results, 0 ≤ w) ∧ run.written <+: cq.bytes ∧
        (run.rc = true → run.written = cq.bytes) ∧
        run.cq.bytes = cq.bytes ∧ run.cq.bytesIn = cq.bytesIn ∧ run.cq.bytesOut = cq.bytesOut) ∧
      ∀ (sendChunked : Bool) (footer : List Chunk) (p : HandlerCtx) (cq : ChunkQueue),
        ∃ p' cq' ops, Queue.modDirlistingCacheStreamAddFooter (fun _ cs ↦ (Chunk.bytesOf cs).length)
            sendChunked footer p cq = some (p', cq', ops) ∧
          cq'.bytes = cq.bytes ++ Chunk.bytesOf footer ∧
          cq'.bytesIn = cq.bytesIn + (Chunk.bytesOf footer).length ∧ cq'.bytesOut = cq.bytesOut :=
  ⟨writeResults_writeAll, modDirlistingWriteCq_restoresQueue writeResults_writeAll⟩

end Dirlisting
