import Dirlisting.Scan

/-!
# The calls of `http_read_directory` over a request

`mod_dirlisting_subrequest` calls `http_read_directory` on the same handler until a call returns
`HANDLER_FINISHED`; nothing else changes `hctx->dp` in between. `readDirectoryCalls` is that
sequence of calls. `readDirectoryCalls_eq` is its spec when every dispatch returns: over a stream of
`n` entries the calls return `HANDLER_WAIT_FOR_EVENT` `n / DIRLIST_BATCH` times and then
`HANDLER_FINISHED`, none reads more than `DIRLIST_BATCH` entries, the kept entries are dispatched in
stream order, and the directory is closed once.

A dispatch does not return when an unsorted HTML row formats a negative `st_size`
(`httpListDirectorySizefmt_of_neg`): `httpReadDirectory_of_neg_size` is the call that then never
returns, and `readDirectoryCalls_negativeSize` the calls on a directory holding such a file.
-/

set_option autoImplicit false
set_option relaxedAutoImplicit false

namespace Dirlisting

/-! ### The stream is not read by the dispatch -/

theorem httpReadDirectoryDispatch_setDp (env : RenderEnv) (p : HandlerCtx) (dp : Option (List RawEnt))
    (ent : DirlsEntry) (isDir : Bool) :
    httpReadDirectoryDispatch env { p with dp := dp } ent isDir =
      (httpReadDirectoryDispatch env p ent isDir).map fun q ↦ { q with dp := dp } := by
  obtain ⟨dp0, dirs, files, nameMax, hb, jb, jcomma, jfd, jfn, conf⟩ := p
  cases jb <;> cases hb <;> cases isDir <;> simp [httpReadDirectoryDispatch, Option.map_map, Function.comp_def]

theorem dispatchAll_setDp (env : RenderEnv) (p : HandlerCtx) (dp : Option (List RawEnt))
    (l : List (DirlsEntry × Bool)) :
    dispatchAll env { p with dp := dp } l = (dispatchAll env p l).map fun q ↦ { q with dp := dp } := by
  induction l generalizing p with
  | nil => rfl
  | cons head rest ih =>
    simp only [dispatchAll, httpReadDirectoryDispatch_setDp]
    cases httpReadDirectoryDispatch env p head.1 head.2 <;> simp [ih]

/-! ### Successive calls -/

/-- The successive calls of `http_read_directory` on a handler until one returns
`HANDLER_FINISHED`, at most `fuel` of them: the last handler, and the result and operations of each
call. `none` when a call does not return. -/
def readDirectoryCalls (env : RenderEnv) : Nat → HandlerCtx → Option (HandlerCtx × List (Handler × List Op))
  | 0, p => some (p, [])
  | fuel + 1, p => (httpReadDirectory env p).bind fun (q, rc, ops) ↦
    if rc = .finished then some (q, [(rc, ops)])
    else (readDirectoryCalls env fuel q).map fun (q, calls) ↦ (q, (rc, ops) :: calls)

/-- The spec of the calls over a stream of `n` entries whose kept entries are all dispatched: the
calls return `HANDLER_WAIT_FOR_EVENT` `n / DIRLIST_BATCH` times and then `HANDLER_FINISHED`, with
`hctx->dp` cleared; none calls `readdir` more than `DIRLIST_BATCH` times; they dispatch the kept
entries in stream order; and they close the directory once. -/
theorem readDirectoryCalls_eq (env : RenderEnv) {stream : List RawEnt} {p q : HandlerCtx}
    (hdp : p.dp = some stream)
    (hq : dispatchAll env p (stream.filterMap (keptEntry p.conf p.nameMax)) = some q) :
    ∃ calls, readDirectoryCalls env (stream.length / dirlistBatch + 1) p =
        some ({ q with dp := none }, calls) ∧
      calls.map (·.1) = List.replicate (stream.length / dirlistBatch) .waitForEvent ++ [.finished] ∧
      (∀ c ∈ calls, c.2.count .readdir ≤ dirlistBatch) ∧
      dispatches (calls.map (·.2)).flatten = stream.filterMap (keptEntry p.conf p.nameMax) ∧
      (calls.map (·.2)).flatten.count .closedir = 1 := by
  obtain ⟨k, hk⟩ : ∃ k, stream.length / dirlistBatch = k := ⟨_, rfl⟩
  induction k generalizing stream p q with
  | zero =>
    have hlen : ¬dirlistBatch ≤ stream.length := fun h ↦ by
      have := Nat.div_pos h (by decide : 0 < dirlistBatch); omega
    have htake : stream.take dirlistBatch = stream := List.take_of_length_le (by omega)
    refine ⟨[(.finished, loopOps p.conf p.nameMax 0 stream ++ [.closedir])], ?_, ?_, ?_, ?_, ?_⟩
    · simp [hk, readDirectoryCalls, httpReadDirectory_eq env hdp, htake, hq, hlen]
    · simp [hk]
    · simp only [List.mem_singleton, forall_eq, List.count_append, count_readdir_loopOps]
      split_ifs <;> simp
      omega
    · simp [htake, Op.dispatched?]
    · simp
  | succ k ih =>
    have hlen : dirlistBatch ≤ stream.length := by
      by_contra h
      rw [Nat.div_eq_of_lt (by omega)] at hk
      omega
    have hsplit := congrArg (List.filterMap (keptEntry p.conf p.nameMax))
      (List.take_append_drop dirlistBatch stream)
    rw [← hsplit, List.filterMap_append, dispatchAll_append] at hq
    obtain ⟨p1, hp1, hq1⟩ := Option.bind_eq_some.mp hq
    have hsame := sameScan_dispatchAll hp1
    have hrest : dispatchAll env { p1 with dp := some (stream.drop dirlistBatch) }
        ((stream.drop dirlistBatch).filterMap (keptEntry p1.conf p1.nameMax)) =
        some { q with dp := some (stream.drop dirlistBatch) } := by
      rw [dispatchAll_setDp, hsame.conf, hsame.nameMax, hq1]
      rfl
    have hk' : (stream.drop dirlistBatch).length / dirlistBatch = k := by
      rw [List.length_drop]; unfold dirlistBatch at hk ⊢; omega
    obtain ⟨calls, hcalls, hrcs, hreaddir, hdisp, hclose⟩ :=
      @ih (stream.drop dirlistBatch) { p1 with dp := some (stream.drop dirlistBatch) } _ rfl hrest hk'
    rw [hk'] at hcalls hrcs
    refine ⟨(.waitForEvent, loopOps p.conf p.nameMax 0 stream) :: calls, ?_, ?_, ?_, ?_, ?_⟩
    · rw [hk, readDirectoryCalls, httpReadDirectory_eq env hdp, hp1]
      simp [hlen, hcalls]
    · simp [hrcs, hk, List.replicate_succ]
    · simp only [List.mem_cons, forall_eq_or_imp, count_readdir_loopOps]
      exact ⟨by split_ifs <;> omega, hreaddir⟩
    · simp [hdisp, hsame.conf, hsame.nameMax, ← List.filterMap_append]
    · simp [hclose]

/-! ### A call that does not return -/

/-- A directory with a file `a` whose `fstatat` reports `st_size = -1`, as a FUSE file system can,
and a file `b`. -/
def negativeSizeDir : List RawEnt :=
  [⟨lit "a", some ⟨false, -1, 0⟩⟩, ⟨lit "b", some ⟨false, 0, 0⟩⟩]

/-- The default configuration with the listing on and `dir-listing.sort` off. -/
def unsortedConf : PluginConfig := { PluginConfig.defaults with dirListing := true, sort := false }

/-- The handler of an unsorted HTML listing of a stream. -/
def unsortedCtx (dir : List RawEnt) : HandlerCtx :=
  { openedCtx 4086 (some dir) with hb := some [], jfd := -1, conf := unsortedConf }

/-- In the unsorted HTML mode a call whose first entry is a kept file with a negative size does not
return. -/
theorem httpReadDirectory_of_neg_size (env : RenderEnv) {p : HandlerCtx} {raw : RawEnt}
    {rest : List RawEnt} {hb : Bytes} {ent : DirlsEntry} (hdp : p.dp = some (raw :: rest))
    (hjb : p.jb = none) (hhb : p.hb = some hb) (hkept : keptEntry p.conf p.nameMax raw = some (ent, false))
    (hsize : ent.size < 0) : httpReadDirectory env p = none := by
  rw [httpReadDirectory_eq env hdp, List.take_cons (by decide), List.filterMap_cons_some hkept]
  simp [dispatchAll, httpReadDirectoryDispatch, hjb, hhb, httpListDirectoryFilename_of_neg env hsize]

theorem httpReadDirectory_unsortedCtx (env : RenderEnv) :
    httpReadDirectory env (unsortedCtx negativeSizeDir) = none :=
  @httpReadDirectory_of_neg_size env (unsortedCtx negativeSizeDir) _ _ [] ⟨lit "a", 0, -1⟩ rfl rfl rfl
    (by decide) (by decide)

/-- In the unsorted HTML mode the first call of `http_read_directory` on `negativeSizeDir` does not
return (the row of `a` formats its size forever), so no number of calls reaches
`HANDLER_FINISHED`. -/
theorem readDirectoryCalls_negativeSize (env : RenderEnv) (fuel : Nat) :
    readDirectoryCalls env (fuel + 1) (unsortedCtx negativeSizeDir) = none := by
  rw [readDirectoryCalls, httpReadDirectory_unsortedCtx]
  rfl

end Dirlisting
