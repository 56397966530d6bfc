import Dirlisting.DirStream

/-!
# The buffers of a listing

Two buffers of `handler_ctx` are bounded by no single function: the bound holds because of what
every step of a request does to them, and is proved over every run of a listing request.

## The path buffer

`http_open_directory` sets `hctx->name_max = PATH_MAX - dlen - 1` and allocates `hctx->path` with
`dlen + hctx->name_max + 1` bytes, both in `uint32_t`, copies `r->physical.path` into it and points
`hctx->path_file` at its end. Without `_ATFILE_SOURCE` the scan copies each name there for its
`stat`, and with extended attributes `http_list_directory_filename` copies there the name of each
file row it renders. The scan skips a name longer than `name_max` before either copy.

The `uint32_t` sum is always `PATH_MAX`, 4096 bytes (`pathAlloc_eq`). For a physical path shorter
than that, over every run of a listing request, the path and every name copied after it fit in the
buffer (`listingRun_pathFile`): the handler keeps its `name_max` (`PathBound`), the scan stats and
dispatches only names within it (`pathFile_httpReadDirectory`), and no other function of a request
stats or dispatches an entry. For a path of 4096 bytes or more, `name_max` wraps around and the copy
of the path alone overruns the buffer (`pathAlloc_lt_of_le`); nothing in `mod_dirlisting.c` bounds
`dlen`.

## The stream buffer

In the streaming modes the scan renders each entry into `hctx->jb` or `hctx->hb`, and
`mod_dirlisting_stream_append` passes the buffer on to the response only once it holds
`16384 - 1024` bytes. Between two calls of a request the buffer always holds less than that
(`listingRun_streamBuf`): a call that yields ends with that append, which empties a full buffer
(`streamBuf_streamAppend`); a sorted listing has no stream buffer; a deferred call leaves it as it
was; and the start leaves at most the `[` of a JSON listing (`streamBuf_startStream`).

Not modelled: the `_WIN32` build, where `name_max` is `FILENAME_MAX * 4` and the buffer holds
`dlen + name_max + 1` bytes without wrapping.
-/

set_option autoImplicit false
set_option relaxedAutoImplicit false

namespace Dirlisting

/-! ### The allocation -/

/-- `hctx->name_max` as `http_open_directory` sets it: `PATH_MAX - dlen - 1` in `uint32_t`. -/
def nameMaxOf (dlen : Nat) : Nat := ((4096 - 1 - (dlen : Int)) % 2 ^ 32).toNat

/-- The bytes `http_open_directory` allocates for `hctx->path`: `dlen + name_max + 1` in
`uint32_t`. -/
def pathAlloc (dlen : Nat) : Nat := (dlen + nameMaxOf dlen + 1) % 2 ^ 32

/-- The `uint32_t` sum is `PATH_MAX` whatever the length of the path. -/
theorem pathAlloc_eq (dlen : Nat) : pathAlloc dlen = 4096 := by
  unfold pathAlloc nameMaxOf
  omega

theorem nameMaxOf_of_lt {dlen : Nat} (h : dlen < 4096) : nameMaxOf dlen = 4096 - 1 - dlen := by
  unfold nameMaxOf
  omega

/-- From `PATH_MAX` bytes on, the path overruns the buffer it is copied into. -/
theorem pathAlloc_lt_of_le {dlen : Nat} (h : 4096 ≤ dlen) : pathAlloc dlen < dlen + 1 := by
  rw [pathAlloc_eq]
  omega

theorem httpOpenDirectory_nameMax {r : Request} {dir : Option (List RawEnt)} {p p' : HandlerCtx}
    (h : httpOpenDirectory r dir p = some p') : p'.nameMax = nameMaxOf r.physicalPath.length := by
  obtain ⟨stream, -, rfl⟩ := Option.map_eq_some'.mp h
  rfl

/-! ### The names copied after the path -/

/-- The name an operation copies into `hctx->path_file`: the name of a `stat`, and the name of a
dispatched entry, which its row copies there for the extended-attribute lookup. -/
def Op.pathFile? : Op → Option Name
  | .fstatat name => some name
  | .dispatch ent _ => some ent.name
  | _ => none

/-- The operations that copy no name longer than `nameMax`. -/
def Op.WithinName (nameMax : Nat) (op : Op) : Prop := ∀ name ∈ op.pathFile?, name.length ≤ nameMax

theorem Op.withinName_of_pathFile {nameMax : Nat} {op : Op} (h : op.pathFile? = none) :
    op.WithinName nameMax := by
  intro name hname
  rw [h] at hname
  cases hname

theorem length_le_of_skip {conf : PluginConfig} {nameMax : Nat} {name : Name}
    (h : httpReadDirectorySkip conf nameMax name = false) : name.length ≤ nameMax := by
  unfold httpReadDirectorySkip at h
  split_ifs at h
  simpa using h

theorem withinName_entryOps (conf : PluginConfig) (nameMax : Nat) (raw : RawEnt) :
    ∀ op ∈ entryOps conf nameMax raw, op.WithinName nameMax := by
  unfold entryOps
  split_ifs with hskip
  · simp
  · have hlen := length_le_of_skip (Bool.not_eq_true _ ▸ hskip)
    cases raw.stat <;> simp [Op.WithinName, Op.pathFile?, mkEntry, hlen]

theorem withinName_loopOps (conf : PluginConfig) (nameMax count : Nat) (stream : List RawEnt) :
    ∀ op ∈ loopOps conf nameMax count stream, op.WithinName nameMax := by
  induction stream generalizing count with
  | nil =>
    unfold loopOps
    split_ifs <;> simp [Op.WithinName, Op.pathFile?]
  | cons raw rest ih =>
    unfold loopOps
    split_ifs
    · simp only [List.cons_append, List.mem_cons, List.mem_append]
      rintro op (rfl | hop | hop)
      exacts [Op.withinName_of_pathFile rfl, withinName_entryOps _ _ _ op hop, ih _ op hop]
    · simp

/-- One call of `http_read_directory` copies no name longer than the handler's `name_max`. -/
theorem pathFile_httpReadDirectory {env : RenderEnv} {p q : HandlerCtx} {rc : Handler}
    {ops : List Op} (h : httpReadDirectory env p = some (q, rc, ops)) :
    ∀ op ∈ ops, op.WithinName p.nameMax := by
  obtain ⟨stream, hdp, -⟩ := Option.bind_eq_some.mp h
  rw [httpReadDirectory_eq env hdp] at h
  obtain ⟨q', -, hres⟩ := Option.map_eq_some'.mp h
  split_ifs at hres <;> cases hres
  · exact withinName_loopOps _ _ _ _
  · simp only [List.mem_append, List.mem_singleton]
    rintro op (hop | rfl)
    exacts [withinName_loopOps _ _ _ _ op hop, Op.withinName_of_pathFile rfl]

/-! ### The other functions of a request copy no name -/

/-- An operation off the directory copies no name. -/
theorem Op.withinName_of_offDirectory {nameMax : Nat} {op : Op} (h : op.onDirectory = false) :
    op.WithinName nameMax :=
  Op.withinName_of_pathFile (by cases op <;> first | rfl | cases h)

/-- A list of operations none of which copies a name, checked operation by operation. -/
theorem pathFile_of_all {ops : List Op} (h : ops.all (fun op ↦ op.pathFile?.isNone) = true) :
    ∀ op ∈ ops, op.pathFile? = none :=
  fun op hop ↦ Option.isNone_iff_eq_none.mp (List.all_eq_true.mp h op hop)

/-- The free closes the directory but copies no name. -/
theorem pathFile_handlerCtxFree (p : HandlerCtx) :
    ∀ op ∈ modDirlistingHandlerCtxFree p, op.pathFile? = none := by
  refine pathFile_of_all ?_
  unfold modDirlistingHandlerCtxFree
  cases p.jfn <;> split_ifs <;> rfl

theorem streamAppend_nameMax (ok fin : Bool) (p : HandlerCtx) (resp : Response) :
    (modDirlistingStreamAppend ok fin p resp).1.nameMax = p.nameMax := by
  obtain ⟨jb, hb, jfd, jfn, h⟩ := streamAppend_frame ok fin p resp
  rw [h]

theorem startMode_nameMax {env : PageEnv} {r : Request} {o : StepOutcome} (conf : PluginConfig)
    (p : HandlerCtx) (resp : Response) : (startMode env r o conf p resp).1.nameMax = p.nameMax := by
  unfold startMode
  split_ifs <;> rfl

/-! ### Over a run -/

/-- The requests whose handler, if any, has the `name_max` that `http_open_directory` sets for a
path of `dlen` bytes. -/
def Req.PathBound (dlen : Nat) (q : Req) : Prop := ∀ p, q.hctx = some p → p.nameMax = nameMaxOf dlen

theorem Req.PathBound.of_hctx_none {dlen : Nat} {q : Req} (h : q.hctx = none) : q.PathBound dlen :=
  fun p hp ↦ by rw [h] at hp; cases hp

/-- Every call of `mod_dirlisting_subrequest` and `mod_dirlisting_reset` keeps the bound and copies
no name beyond it. -/
theorem pathBound_invariant (env : PageEnv) (r : Request) (dlen : Nat) :
    ReqInvariant env r (Req.PathBound dlen) (Op.WithinName (nameMaxOf dlen)) where
  subrequest hq h := by
    rcases modDirlistingSubrequest_cases h with
      ⟨rfl, -, rfl⟩ | ⟨p, p1, ops1, hp, hscan, -, hyield⟩ | ⟨p, p1, ops1, p2, resp2, ops2, hp, hscan, hfin, rfl, -, rfl⟩
    · exact ⟨hq, by simp⟩
    all_goals
      have hops1 := hq p hp ▸ pathFile_httpReadDirectory hscan
      have hp1 : p1.nameMax = nameMaxOf dlen := (httpReadDirectory_frame hscan).1.nameMax.trans (hq p hp)
    · rcases hyield with ⟨-, rfl, rfl⟩ | ⟨-, rfl, rfl⟩
      · refine ⟨(fun p' hp' ↦ by cases hp'; rw [streamAppend_nameMax, hp1]), ?_⟩
        simp only [List.mem_append]
        rintro op (hop | hop)
        exacts [hops1 op hop, Op.withinName_of_offDirectory (offDirectory_streamAppend _ _ _ _ op hop)]
      · exact ⟨(fun p' hp' ↦ by cases hp'; exact hp1), hops1⟩
    · refine ⟨.of_hctx_none rfl, ?_⟩
      simp only [List.mem_append]
      rintro op ((hop | hop) | hop)
      exacts [hops1 op hop, Op.withinName_of_offDirectory (offDirectory_finishListing hfin op hop),
        Op.withinName_of_pathFile (pathFile_handlerCtxFree p2 op hop)]
  reset hq h := by
    rcases modDirlistingReset_cases h with ⟨-, rfl, rfl⟩ | ⟨p, -, rfl, rfl⟩
    · exact ⟨hq, by simp⟩
    · exact ⟨.of_hctx_none rfl, fun op hop ↦ Op.withinName_of_pathFile (pathFile_handlerCtxFree p op hop)⟩

/-- The start of a request installs the bound with its handler and copies no name beyond it. -/
theorem pathBound_subrequestStart {env : PageEnv} {r : Request} {o : StepOutcome} {start : StartEnv}
    {maxInProgress n n' : Int} {q' : Req} {rc : Handler} {ops : List Op}
    (h : modDirlistingSubrequestStart env r o start maxInProgress Req.fresh n = some (q', n', rc, ops)) :
    q'.PathBound r.physicalPath.length ∧ ∀ op ∈ ops, op.WithinName (nameMaxOf r.physicalPath.length) := by
  rcases modDirlistingSubrequestStart_cases h with
    ⟨rfl, rfl⟩ | ⟨resp, -, -, rfl, rfl⟩ | ⟨resp, -, rfl | rfl, rfl⟩ | ⟨resp, p, -, hopen, hstart⟩
  iterate 4 exact ⟨.of_hctx_none rfl, by simp⟩
  obtain ⟨q3, rc3, ops3, hsub, rfl, hq'⟩ := startListing_cases hstart
  obtain ⟨hq3, hops3⟩ := (pathBound_invariant env r _).subrequest (fun p' hp' ↦ by
    cases hp'
    obtain ⟨jfd, jfn, hp2⟩ := @startStream_frame env r o _ _ _
    rw [hp2, startMode_nameMax, httpOpenDirectory_nameMax hopen]) hsub
  refine ⟨by rcases hq' with rfl | ⟨-, rfl⟩ <;> exact hq3, ?_⟩
  simp only [List.mem_append]
  rintro op (hop | hop)
  exacts [Op.withinName_of_offDirectory (offDirectory_startStream _ _ _ op hop), hops3 op hop]

/-- The path buffer never overflows for a path shorter than `PATH_MAX`: over every run of a listing
request, the copy of the physical path and every name copied after it for a `stat` or a file row
fit in the bytes `http_open_directory` allocates. -/
theorem listingRun_pathFile {env : PageEnv} {r : Request} {o : StepOutcome} {start : StartEnv}
    {maxInProgress processing : Int} {es : List ReqEvent} {q : Req} {n : Int} {ops : List Op}
    (hlen : r.physicalPath.length < 4096)
    (h : listingRun env r o start maxInProgress processing es = some (q, n, ops)) :
    r.physicalPath.length + 1 ≤ pathAlloc r.physicalPath.length ∧
      ∀ op ∈ ops, ∀ name ∈ op.pathFile?,
        r.physicalPath.length + name.length + 1 ≤ pathAlloc r.physicalPath.length := by
  obtain ⟨-, hops⟩ := (pathBound_invariant env r _).listingRun pathBound_subrequestStart h
  rw [pathAlloc_eq]
  refine ⟨by omega, fun op hop name hname ↦ ?_⟩
  have hname := hops op hop name hname
  rw [nameMaxOf_of_lt hlen] at hname
  omega

theorem listingRun_pathFile_fileDir :
    ∃ q n ops, listingRun plainPageEnv jsonDirRequest okOutcome fileDirStart 1 0 [] = some (q, n, ops) ∧
      jsonDirRequest.physicalPath.length < 4096 ∧
      jsonDirRequest.physicalPath.length + 1 ≤ pathAlloc jsonDirRequest.physicalPath.length ∧
      ∀ op ∈ ops, ∀ name ∈ op.pathFile?,
        jsonDirRequest.physicalPath.length + name.length + 1 ≤ pathAlloc jsonDirRequest.physicalPath.length := by
  obtain ⟨⟨q, n, ops⟩, h⟩ := Option.isSome_iff_exists.mp
    (show (listingRun plainPageEnv jsonDirRequest okOutcome fileDirStart 1 0 []).isSome by decide)
  have hlen : jsonDirRequest.physicalPath.length < 4096 := by decide
  exact ⟨q, n, ops, h, hlen, listingRun_pathFile hlen h⟩

/-! ### The stream buffer -/

@[simp] theorem HandlerCtx.streamBuf_clearStream (p : HandlerCtx) : p.clearStream.streamBuf = [] := by
  unfold HandlerCtx.clearStream HandlerCtx.streamBuf
  cases p.jb <;> rfl

/-- A handler of the sorted mode has no stream buffer. -/
theorem HandlerCtx.streamBuf_of_streaming_false {p : HandlerCtx} (h : p.streaming = false) :
    p.streamBuf = [] := by
  obtain ⟨hjb, hhb⟩ := Bool.or_eq_false_iff.mp h
  unfold HandlerCtx.streamBuf
  rw [Option.not_isSome_iff_eq_none.mp (ne_true_of_eq_false hjb),
    Option.not_isSome_iff_eq_none.mp (ne_true_of_eq_false hhb)]
  rfl

/-- A call of `mod_dirlisting_stream_append` that is not the last leaves less than `16384 - 1024`
bytes in the buffer: it keeps a buffer below that and empties a full one. -/
theorem streamBuf_streamAppend (ok : Bool) (p : HandlerCtx) (resp : Response) :
    (modDirlistingStreamAppend ok false p resp).1.streamBuf.length < 16384 - 1024 := by
  unfold modDirlistingStreamAppend
  split_ifs with hsmall
  · simpa using hsmall
  all_goals split <;> simp

section Start

variable {env : PageEnv} {r : Request} {o : StepOutcome}

/-- The start of a listing leaves at most the `[` of a JSON listing in the stream buffer. -/
theorem streamBuf_startStream (conf : PluginConfig) {p : HandlerCtx} (hjb : p.jb = none)
    (hhb : p.hb = none) (resp : Response) :
    (startStream env r o conf (startMode env r o conf p resp).1
      (startMode env r o conf p resp).2).1.streamBuf.length ≤ 1 := by
  obtain ⟨jfd, jfn, hp⟩ := @startStream_frame env r o conf (startMode env r o conf p resp).1
    (startMode env r o conf p resp).2
  rw [hp]
  unfold startMode
  split_ifs <;> simp [HandlerCtx.streamBuf, hjb, hhb, lit]

end Start


/-- The requests whose handler, if any, holds less than `16384 - 1024` bytes in its stream buffer. -/
def Req.BufBounded (q : Req) : Prop := ∀ p, q.hctx = some p → p.streamBuf.length < 16384 - 1024

theorem Req.BufBounded.of_hctx_none {q : Req} (h : q.hctx = none) : q.BufBounded :=
  fun p hp ↦ by rw [h] at hp; cases hp

/-- Every call of `mod_dirlisting_subrequest` and `mod_dirlisting_reset` keeps the stream buffer
below the mark. -/
theorem bufBounded_invariant (env : PageEnv) (r : Request) :
    ReqInvariant env r Req.BufBounded (fun _ ↦ True) where
  subrequest hq h := by
    refine ⟨?_, fun _ _ ↦ trivial⟩
    rcases modDirlistingSubrequest_cases h with
      ⟨rfl, -, -⟩ | ⟨-, p1, -, -, -, -, ⟨-, rfl, -⟩ | ⟨hs, rfl, -⟩⟩ | ⟨-, -, -, -, -, -, -, -, -, rfl, -⟩
    · exact hq
    · rintro p' ⟨⟩
      exact streamBuf_streamAppend _ _ _
    · rintro p' ⟨⟩
      rw [HandlerCtx.streamBuf_of_streaming_false hs]
      decide
    · exact .of_hctx_none rfl
  reset hq h := by
    rcases modDirlistingReset_cases h with ⟨-, rfl, -⟩ | ⟨-, -, rfl, -⟩
    · exact ⟨hq, fun _ _ ↦ trivial⟩
    · exact ⟨.of_hctx_none rfl, fun _ _ ↦ trivial⟩

/-- The start of a request leaves its stream buffer below the mark. -/
theorem bufBounded_subrequestStart {env : PageEnv} {r : Request} {o : StepOutcome} {start : StartEnv}
    {maxInProgress n n' : Int} {q' : Req} {rc : Handler} {ops : List Op}
    (h : modDirlistingSubrequestStart env r o start maxInProgress Req.fresh n = some (q', n', rc, ops)) :
    q'.BufBounded ∧ ∀ op ∈ ops, True := by
  refine ⟨?_, fun _ _ ↦ trivial⟩
  rcases modDirlistingSubrequestStart_cases h with
    ⟨rfl, -⟩ | ⟨resp, -, -, rfl, -⟩ | ⟨resp, -, rfl | rfl, -⟩ | ⟨resp, p, -, hopen, hstart⟩
  iterate 4 exact .of_hctx_none rfl
  obtain ⟨-, hjb, hhb⟩ := httpOpenDirectory_handlerCtxInit hopen
  obtain ⟨q3, rc3, ops3, hsub, -, hq'⟩ := startListing_cases hstart
  obtain ⟨hq3, -⟩ := (bufBounded_invariant env r).subrequest (fun p' hp' ↦ by
    cases hp'
    exact lt_of_le_of_lt (streamBuf_startStream _ hjb hhb _) (by decide)) hsub
  rcases hq' with rfl | ⟨-, rfl⟩ <;> exact hq3

/-- The stream buffer between the calls of a request: over every run of a listing request, a
handler still attached to the request holds less than `16384 - 1024` bytes of rendered entries not
yet passed to the response. -/
theorem listingRun_streamBuf {env : PageEnv} {r : Request} {o : StepOutcome} {start : StartEnv}
    {maxInProgress processing : Int} {es : List ReqEvent} {q : Req} {n : Int} {ops : List Op}
    (h : listingRun env r o start maxInProgress processing es = some (q, n, ops)) :
    ∀ p, q.hctx = some p → p.streamBuf.length < 16384 - 1024 :=
  ((bufBounded_invariant env r).listingRun bufBounded_subrequestStart h).1

/-- A JSON listing whose first scan is deferred for backpressure keeps its handler, with the `[`
in its stream buffer. -/
theorem listingRun_streamBuf_deferred :
    ∃ q n ops, listingRun plainPageEnv jsonDirRequest { okOutcome with backpressure := true }
        fileDirStart 1 0 [] = some (q, n, ops) ∧
      q.hctx.isSome ∧ ∀ p, q.hctx = some p → p.streamBuf.length < 16384 - 1024 := by
  obtain ⟨⟨q, n, ops⟩, h⟩ := Option.isSome_iff_exists.mp (show (listingRun plainPageEnv jsonDirRequest
    { okOutcome with backpressure := true } fileDirStart 1 0 []).isSome by decide)
  have hlive : (listingRun plainPageEnv jsonDirRequest { okOutcome with backpressure := true }
      fileDirStart 1 0 []).any (fun x ↦ x.1.hctx.isSome) := by decide
  rw [h] at hlive
  exact ⟨q, n, ops, h, hlive, listingRun_streamBuf h⟩

end Dirlisting
