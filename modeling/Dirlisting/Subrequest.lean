import Dirlisting.Page
import Dirlisting.MkdirRecursive

/-!
# One listing request

The handlers of `mod_dirlisting.c` as steps of one request: `modDirlistingSubrequestStart`,
`modDirlistingSubrequest` and `modDirlistingReset` act on the state `Req` of the request (the
response, `r->plugin_ctx[p->id]` and `r->handler_module`) and on the counter `p->processing`. What
the collaborators report during one step is a `StepOutcome`, with a field for each call the step can
make, so that a statement over every list of outcomes covers every behaviour of the file system, the
connection and the client. The calls on the directory and the cache files are returned as `Op`s.

The body is the sequence of bytes appended to `r->write_queue`; the module never removes bytes from
it (`mod_dirlisting_write_cq` and `mod_dirlisting_cache_stream_add_footer` move chunks out and back),
so the queue holds the body when the cache copies it.
-/

set_option autoImplicit false
set_option relaxedAutoImplicit false

namespace Dirlisting

/-! ### Response -/

/-- The response fields of `request_st` the module writes: `r->http_status`, the response headers,
the bytes appended to `r->write_queue`, `r->resp_body_started` and `r->resp_body_finished`. -/
structure Response where
  status : Nat
  headers : List (Bytes × Bytes)
  body : Bytes
  bodyStarted : Bool
  bodyFinished : Bool
  deriving DecidableEq, Repr

/-- The response of a request before the module runs. -/
def Response.empty : Response := ⟨0, [], [], false, false⟩

/-- `http_header_response_set`: the header `key`, replacing an earlier value. -/
def Response.setHeader (resp : Response) (key value : Bytes) : Response :=
  { resp with headers := resp.headers.filter (fun h ↦ h.1 != key) ++ [(key, value)] }

/-- `http_header_response_insert`: one more value of the header `key`. -/
def Response.insertHeader (resp : Response) (key value : Bytes) : Response :=
  { resp with headers := resp.headers ++ [(key, value)] }

/-- `http_header_response_unset`. -/
def Response.unsetHeader (resp : Response) (key : Bytes) : Response :=
  { resp with headers := resp.headers.filter (fun h ↦ h.1 != key) }

/-- `http_chunk_append_buffer` and the other appends to `r->write_queue`. -/
def Response.append (resp : Response) (data : Bytes) : Response :=
  { resp with body := resp.body ++ data }

@[simp] theorem Response.setHeader_body (resp : Response) (key value : Bytes) :
    (resp.setHeader key value).body = resp.body := rfl

@[simp] theorem Response.insertHeader_body (resp : Response) (key value : Bytes) :
    (resp.insertHeader key value).body = resp.body := rfl

@[simp] theorem Response.append_body (resp : Response) (data : Bytes) :
    (resp.append data).body = resp.body ++ data := rfl

@[simp] theorem Response.setHeader_status (resp : Response) (key value : Bytes) :
    (resp.setHeader key value).status = resp.status := rfl

@[simp] theorem Response.insertHeader_status (resp : Response) (key value : Bytes) :
    (resp.insertHeader key value).status = resp.status := rfl

@[simp] theorem Response.unsetHeader_status (resp : Response) (key : Bytes) :
    (resp.unsetHeader key).status = resp.status := rfl

@[simp] theorem Response.append_status (resp : Response) (data : Bytes) :
    (resp.append data).status = resp.status := rfl

/-- `mod_dirlisting_content_type`. -/
def modDirlistingContentType (resp : Response) (encoding : Option Bytes) : Response :=
  resp.setHeader (lit "Content-Type") <| match encoding with
    | none => lit "text/html"
    | some enc => lit "text/html;charset=" ++ enc

/-- `mod_dirlisting_cache_control`: `Cache-Control: max-age=...` unless the header is set. -/
def modDirlistingCacheControl (resp : Response) (maxAge : Int) : Response :=
  if resp.headers.any (fun h ↦ h.1 == lit "Cache-Control") then resp
  else resp.setHeader (lit "Cache-Control") (lit "max-age=" ++ liItostrn maxAge)

/-- `http_dirlist_auto_layout_early_hints`: a preload `Link` for the external style sheet and
script. -/
def httpDirlistAutoLayoutEarlyHints (resp : Response) (conf : PluginConfig) : Response :=
  let resp := match conf.externalCss with
    | some css => resp.insertHeader (lit "Link") (lit "<" ++ css ++ lit ">; rel=\"preload\"; as=\"style\"")
    | none => resp
  match conf.externalJs with
    | some js => resp.insertHeader (lit "Link") (lit "<" ++ js ++ lit ">; rel=\"preload\"; as=\"script\"")
    | none => resp

@[simp] theorem modDirlistingContentType_body (resp : Response) (encoding : Option Bytes) :
    (modDirlistingContentType resp encoding).body = resp.body := rfl

@[simp] theorem modDirlistingCacheControl_body (resp : Response) (maxAge : Int) :
    (modDirlistingCacheControl resp maxAge).body = resp.body := by
  unfold modDirlistingCacheControl; split_ifs <;> rfl

@[simp] theorem httpDirlistAutoLayoutEarlyHints_body (resp : Response) (conf : PluginConfig) :
    (httpDirlistAutoLayoutEarlyHints resp conf).body = resp.body := by
  unfold httpDirlistAutoLayoutEarlyHints; split <;> split <;> rfl

@[simp] theorem modDirlistingContentType_status (resp : Response) (encoding : Option Bytes) :
    (modDirlistingContentType resp encoding).status = resp.status := rfl

@[simp] theorem modDirlistingCacheControl_status (resp : Response) (maxAge : Int) :
    (modDirlistingCacheControl resp maxAge).status = resp.status := by
  unfold modDirlistingCacheControl; split_ifs <;> rfl

@[simp] theorem httpDirlistAutoLayoutEarlyHints_status (resp : Response) (conf : PluginConfig) :
    (httpDirlistAutoLayoutEarlyHints resp conf).status = resp.status := by
  unfold httpDirlistAutoLayoutEarlyHints; split <;> split <;> rfl

/-! ### Outcomes of the collaborators -/

/-- What `fdevent_mkostemp` returns on success: the descriptor and the six bytes it writes over
`XXXXXX`. -/
structure TempFile where
  fd : Nat
  fill : Bytes
  fill_length : fill.length = 6

/-- The name `fdevent_mkostemp` gives to the template `base ++ ".XXXXXX"`. -/
def TempFile.name (t : TempFile) (base : Bytes) : Bytes := base ++ lit "." ++ t.fill

/-- The `.XXXXXX` that `mod_dirlisting_cache_stream` cuts from the temporary name gives back the
name it was made from. -/
theorem TempFile.name_take (t : TempFile) (base : Bytes) :
    (t.name base).take ((t.name base).length - 7) = base := by
  simp [TempFile.name, lit, t.fill_length]

/-- What the collaborators report during one step of a request, one field for each call the step
can make: the deferral test of `mod_dirlisting_subrequest`, the result of `write_all` in
`mod_dirlisting_stream_append` and of `mod_dirlisting_write_cq` for the header, the footer and
`mod_dirlisting_cache_add`, `r->resp_send_chunked`, whether `r->resp_header_len` is set,
`stat_cache_path_isdir` on the cache directory and each `mkdir` of `mkdir_recursive`, `fdevent_mkostemp`,
`fdevent_rename`, the `ETag` of `mod_dirlisting_cache_etag`, the spills of the page,
`http_chunk_append_file_ref` and `http_response_send_1xx`. -/
structure StepOutcome where
  backpressure : Bool
  appendWriteOk : Bool
  headerWriteOk : Bool
  footerWriteOk : Bool
  cacheWriteOk : Bool
  sendChunked : Bool
  headersSent : Bool
  cacheIsDir : Bool
  mkdir : Nat → Bytes → MkdirResult
  tempFile : Option TempFile
  renameOk : Bool
  etag : Option Bytes
  page : PageOutcome
  fileRefOk : Bool
  send1xxOk : Bool

/-! ### Streaming and the cache file -/

/-- The buffer that receives the stream: `hctx->jb` in JSON mode, else `hctx->hb`. -/
def HandlerCtx.streamBuf (p : HandlerCtx) : Bytes := (p.jb <|> p.hb).getD []

/-- The handler with its stream buffer cleared by `http_chunk_append_buffer`. -/
def HandlerCtx.clearStream (p : HandlerCtx) : HandlerCtx :=
  if p.jb.isSome then { p with jb := some [] } else { p with hb := some [] }

/-- The handler after its cache file is given up: `close (hctx->jfd)`, `unlink (hctx->jfn)`. -/
def HandlerCtx.dropCacheFile (p : HandlerCtx) : HandlerCtx := { p with jfd := -1, jfn := none }

@[simp] theorem HandlerCtx.clearStream_jfd (p : HandlerCtx) : p.clearStream.jfd = p.jfd := by
  unfold HandlerCtx.clearStream; split_ifs <;> rfl

@[simp] theorem HandlerCtx.clearStream_jfn (p : HandlerCtx) : p.clearStream.jfn = p.jfn := by
  unfold HandlerCtx.clearStream; split_ifs <;> rfl

theorem HandlerCtx.sameMode_clearStream {p : HandlerCtx} (hs : p.streaming = true) :
    SameMode p p.clearStream := by
  unfold HandlerCtx.clearStream
  split_ifs with hjb
  · exact ⟨rfl, by simp [hjb], rfl⟩
  · exact ⟨rfl, rfl, by simp_all [HandlerCtx.streaming]⟩

theorem HandlerCtx.sameMode_dropCacheFile (p : HandlerCtx) : SameMode p p.dropCacheFile :=
  ⟨rfl, rfl, rfl⟩

/-- `buffer_append_char (hctx->jb, ']')`, which closes the JSON array. -/
def HandlerCtx.closeJson (p : HandlerCtx) : HandlerCtx :=
  match p.jb with
  | some jb => { p with jb := some (jb ++ lit "]") }
  | none => p

@[simp] theorem HandlerCtx.closeJson_jfd (p : HandlerCtx) : p.closeJson.jfd = p.jfd := by
  unfold HandlerCtx.closeJson; split <;> rfl

@[simp] theorem HandlerCtx.closeJson_jfn (p : HandlerCtx) : p.closeJson.jfn = p.jfn := by
  unfold HandlerCtx.closeJson; split <;> rfl

theorem HandlerCtx.sameMode_closeJson (p : HandlerCtx) : SameMode p p.closeJson := by
  unfold HandlerCtx.closeJson
  split
  · rename_i hjb
    exact ⟨rfl, by simp [hjb], rfl⟩
  · exact .refl p

/-- `mod_dirlisting_stream_append`: unless `fin`, nothing happens while the buffer holds less than
16384 - 1024 bytes. Otherwise the buffer is written to the cache file, which a failed `write_all`
gives up, appended to the response and cleared. -/
def modDirlistingStreamAppend (writeOk fin : Bool) (p : HandlerCtx) (resp : Response) :
    HandlerCtx × Response × List Op :=
  if !fin && p.streamBuf.length < 16384 - 1024 then (p, resp, [])
  else
    match p.jfn with
    | none => (p.clearStream, resp.append p.streamBuf, [])
    | some jfn =>
      if writeOk then (p.clearStream, resp.append p.streamBuf, [.write p.jfd p.streamBuf true])
      else (p.dropCacheFile.clearStream, resp.append p.streamBuf,
        [.write p.jfd p.streamBuf false, .close p.jfd, .unlink jfn])

/-- `mod_dirlisting_cache_stream_append_cq`: the bytes `cq` of `r->write_queue` go to the cache
file; it is given up when the response is sent chunked or the write fails. -/
def modDirlistingCacheStreamAppendCq (sendChunked writeOk : Bool) (cq : Bytes) (p : HandlerCtx) :
    HandlerCtx × List Op :=
  if cq = [] ∨ p.jfd = -1 then (p, [])
  else if !sendChunked && writeOk then (p, [.write p.jfd cq true])
  else (p.dropCacheFile, (if sendChunked then [] else [.write p.jfd cq false]) ++
    [.close p.jfd] ++ (p.jfn.map Op.unlink).toList)

/-- The test that opens `mod_dirlisting_cache_add` and `mod_dirlisting_cache_stream_init` on the
cache directory of a request, `cache->path` joined with `r->physical.path`: it is there when
`stat_cache_path_isdir` finds it or `mkdir_recursive (tb->ptr, buffer_clen (cache->path))` returns 0.
With the `mkdir` calls made. `mkdir_recursive` always returns (`mkdirRecursive_isSome`). -/
def cacheDirReady (env : PageEnv) (r : Request) (o : StepOutcome) (cache : DirlistCache) :
    Bool × List Op :=
  if o.cacheIsDir then (true, [])
  else match mkdirRecursive o.mkdir (env.pathJoin cache.path r.physicalPath) cache.path.length with
    | some run => (run.rc == 0, run.calls.map .mkdir)
    | none => (false, [])

/-- The test on the cache directory makes `mkdir` calls only. -/
theorem cacheDirReady_mkdirs (env : PageEnv) (r : Request) (o : StepOutcome) (cache : DirlistCache) :
    ∃ paths : List Bytes, (cacheDirReady env r o cache).2 = paths.map .mkdir := by
  unfold cacheDirReady
  split_ifs
  · exact ⟨[], rfl⟩
  · split
    · exact ⟨_, rfl⟩
    · exact ⟨[], rfl⟩

/-- The part of `mod_dirlisting_cache_stream_init` after the test on the cache directory: when it
is there, a temporary file `dirlist.json.XXXXXX` or `dirlist.html.XXXXXX` in it becomes
`hctx->jfd` and `hctx->jfn`, and in HTML mode the header already in `r->write_queue` is copied to
it. -/
def cacheStreamCreate (env : PageEnv) (r : Request) (o : StepOutcome) (cache : DirlistCache)
    (ready : Bool) (p : HandlerCtx) (resp : Response) : HandlerCtx × List Op :=
  if !ready then (p, [])
  else match o.tempFile with
    | none => (p, [])
    | some t =>
      let jfn := t.name (env.pathJoin cache.path r.physicalPath ++
        lit (if p.jb.isSome then "dirlist.json" else "dirlist.html"))
      let p := { p with jfd := t.fd, jfn := some jfn }
      let (p, ops) := if p.hb.isSome then
          modDirlistingCacheStreamAppendCq o.sendChunked o.headerWriteOk resp.body p
        else (p, [])
      (p, .mkostemp jfn t.fd :: ops)

/-- `mod_dirlisting_cache_stream_init`: the cache directory is created if missing, then
`cacheStreamCreate`. -/
def modDirlistingCacheStreamInit (env : PageEnv) (r : Request) (o : StepOutcome)
    (cache : DirlistCache) (p : HandlerCtx) (resp : Response) : HandlerCtx × List Op :=
  let (ready, mkdirs) := cacheDirReady env r o cache
  let (p, ops) := cacheStreamCreate env r o cache ready p resp
  (p, mkdirs ++ ops)

theorem modDirlistingCacheStreamInit_eq (env : PageEnv) (r : Request) (o : StepOutcome)
    (cache : DirlistCache) (p : HandlerCtx) (resp : Response) :
    modDirlistingCacheStreamInit env r o cache p resp =
      ((cacheStreamCreate env r o cache (cacheDirReady env r o cache).1 p resp).1,
        (cacheDirReady env r o cache).2 ++
          (cacheStreamCreate env r o cache (cacheDirReady env r o cache).1 p resp).2) :=
  rfl

/-- `mod_dirlisting_cache_stream_add_footer`: the footer is appended to the response and copied to
the cache file. -/
def modDirlistingCacheStreamAddFooter (env : PageEnv) (r : Request) (o : StepOutcome)
    (p : HandlerCtx) (resp : Response) : HandlerCtx × Response × List Op :=
  let footer := httpListDirectoryFooter env r p.conf o.page.readmeSpill
  let (p, ops) := modDirlistingCacheStreamAppendCq o.sendChunked o.footerWriteOk footer p
  (p, resp.append footer, ops)

/-- `mod_dirlisting_cache_etag`. -/
def modDirlistingCacheEtag (resp : Response) (etag : Option Bytes) : Response :=
  match etag with
  | some tag => resp.setHeader (lit "ETag") tag
  | none => resp

@[simp] theorem modDirlistingCacheEtag_body (resp : Response) (etag : Option Bytes) :
    (modDirlistingCacheEtag resp etag).body = resp.body := by
  unfold modDirlistingCacheEtag; split <;> rfl

@[simp] theorem modDirlistingCacheEtag_bodyFinished (resp : Response) (etag : Option Bytes) :
    (modDirlistingCacheEtag resp etag).bodyFinished = resp.bodyFinished := by
  unfold modDirlistingCacheEtag; split <;> rfl

@[simp] theorem modDirlistingCacheEtag_status (resp : Response) (etag : Option Bytes) :
    (modDirlistingCacheEtag resp etag).status = resp.status := by
  unfold modDirlistingCacheEtag; split <;> rfl

/-- `mod_dirlisting_cache_stream`: the cache file is closed and renamed to its name without
`.XXXXXX`, or unlinked when the rename fails. -/
def modDirlistingCacheStream (o : StepOutcome) (cache : DirlistCache) (p : HandlerCtx)
    (resp : Response) : HandlerCtx × Response × List Op :=
  let jfn := p.jfn.getD []
  let resp := if o.headersSent then resp else modDirlistingCacheEtag resp o.etag
  let resp := if o.renameOk && !o.headersSent then modDirlistingCacheControl resp cache.maxAge
    else resp
  (p.dropCacheFile, resp, [.close p.jfd, .rename jfn (jfn.take (jfn.length - 7)) o.renameOk] ++
    if o.renameOk then [] else [.unlink jfn])

@[simp] theorem modDirlistingCacheStreamAddFooter_status (env : PageEnv) (r : Request) (o : StepOutcome)
    (p : HandlerCtx) (resp : Response) :
    (modDirlistingCacheStreamAddFooter env r o p resp).2.1.status = resp.status := rfl

@[simp] theorem modDirlistingCacheStream_status (o : StepOutcome) (cache : DirlistCache) (p : HandlerCtx)
    (resp : Response) : (modDirlistingCacheStream o cache p resp).2.1.status = resp.status := by
  unfold modDirlistingCacheStream
  split_ifs <;> simp

/-- The part of `mod_dirlisting_cache_add` after the test on the cache directory: when it is there
and the name fits in `PATH_MAX`, the whole of `r->write_queue` is written to a temporary file in
it, which is renamed to `dirlist.html` when the write succeeded. -/
def cacheAddWrite (env : PageEnv) (r : Request) (o : StepOutcome) (cache : DirlistCache)
    (ready : Bool) (resp : Response) : Response × List Op :=
  let newpath := env.pathJoin cache.path r.physicalPath ++ lit "dirlist.html"
  if !ready ∨ 4096 ≤ newpath.length + 7 then (resp, [])
  else match o.tempFile with
    | none => (resp, [])
    | some t =>
      let oldpath := t.name newpath
      let resp := if o.cacheWriteOk then modDirlistingCacheEtag resp o.etag else resp
      let ops := [.mkostemp oldpath t.fd, .write t.fd resp.body o.cacheWriteOk, .close t.fd]
      if o.cacheWriteOk then
        if o.renameOk then (modDirlistingCacheControl resp cache.maxAge, ops ++ [.rename oldpath newpath true])
        else (resp, ops ++ [.rename oldpath newpath false, .unlink oldpath])
      else (resp, ops ++ [.unlink oldpath])

/-- `mod_dirlisting_cache_add`: the cache directory is created if missing, then `cacheAddWrite`. -/
def modDirlistingCacheAdd (env : PageEnv) (r : Request) (o : StepOutcome) (cache : DirlistCache)
    (resp : Response) : Response × List Op :=
  let (ready, mkdirs) := cacheDirReady env r o cache
  let (resp, ops) := cacheAddWrite env r o cache ready resp
  (resp, mkdirs ++ ops)

theorem modDirlistingCacheAdd_eq (env : PageEnv) (r : Request) (o : StepOutcome) (cache : DirlistCache)
    (resp : Response) : modDirlistingCacheAdd env r o cache resp =
      ((cacheAddWrite env r o cache (cacheDirReady env r o cache).1 resp).1,
        (cacheDirReady env r o cache).2 ++ (cacheAddWrite env r o cache (cacheDirReady env r o cache).1 resp).2) :=
  rfl

@[simp] theorem cacheAddWrite_body (env : PageEnv) (r : Request) (o : StepOutcome)
    (cache : DirlistCache) (ready : Bool) (resp : Response) :
    (cacheAddWrite env r o cache ready resp).1.body = resp.body := by
  unfold cacheAddWrite
  dsimp only
  split_ifs <;> (try split) <;> simp

@[simp] theorem cacheAddWrite_status (env : PageEnv) (r : Request) (o : StepOutcome)
    (cache : DirlistCache) (ready : Bool) (resp : Response) :
    (cacheAddWrite env r o cache ready resp).1.status = resp.status := by
  unfold cacheAddWrite
  dsimp only
  split_ifs <;> (try split) <;> simp

@[simp] theorem modDirlistingCacheAdd_body (env : PageEnv) (r : Request) (o : StepOutcome)
    (cache : DirlistCache) (resp : Response) : (modDirlistingCacheAdd env r o cache resp).1.body = resp.body := by
  rw [modDirlistingCacheAdd_eq, cacheAddWrite_body]

@[simp] theorem modDirlistingCacheAdd_status (env : PageEnv) (r : Request) (o : StepOutcome)
    (cache : DirlistCache) (resp : Response) :
    (modDirlistingCacheAdd env r o cache resp).1.status = resp.status := by
  rw [modDirlistingCacheAdd_eq, cacheAddWrite_status]

/-! ### Handler context -/

/-- `mod_dirlisting_handler_ctx_init`: a zeroed handler with a copy of `p->conf`. -/
def modDirlistingHandlerCtxInit (conf : PluginConfig) : HandlerCtx :=
  ⟨none, .empty, .empty, 0, none, none, false, 0, none, conf⟩

/-- `mod_dirlisting_handler_ctx_free`: the directory is closed if still open and, in the streaming
modes, the cache file closed and unlinked if still there. -/
def modDirlistingHandlerCtxFree (p : HandlerCtx) : List Op :=
  (if p.dp.isSome then [.closedir] else []) ++
    if p.jb.isSome || p.hb.isSome then
      (if p.jfd ≠ -1 then [.close p.jfd] else []) ++ (p.jfn.map Op.unlink).toList
    else []

/-- `http_open_directory`: `name_max` is `PATH_MAX - dlen - 1` as an `uint32_t`, and the stream is
the directory's, `none` when it cannot be opened. -/
def httpOpenDirectory (r : Request) (dir : Option (List RawEnt)) (p : HandlerCtx) :
    Option HandlerCtx :=
  dir.map fun stream ↦
    { p with nameMax := ((4096 - 1 - (r.physicalPath.length : Int)) % 2 ^ 32).toNat, dp := some stream }

/-! ### The steps of a request -/

/-- The state of a request as the module sees it: the response, `r->plugin_ctx[p->id]` and whether
`r->handler_module` is this module. -/
structure Req where
  resp : Response
  hctx : Option HandlerCtx
  handlerModule : Bool

/-- `mod_dirlisting_reset`: a request with a handler gives back its slot of `p->processing` and its
handler is freed. -/
def modDirlistingReset (q : Req) (processing : Int) : Req × Int × List Op :=
  match q.hctx with
  | none => (q, processing, [])
  | some p => ({ q with hctx := none }, processing - 1, modDirlistingHandlerCtxFree p)

/-- The `HANDLER_FINISHED` branch of `mod_dirlisting_subrequest` before the reset: in the streaming
modes the closing `]`, the last flush, the footer and `mod_dirlisting_cache_stream`; in the sorted
mode `mod_dirlisting_response` and `mod_dirlisting_cache_add`. `none` when the page does not
return. -/
def finishListing (env : PageEnv) (r : Request) (o : StepOutcome) (p : HandlerCtx) (resp : Response) :
    Option (HandlerCtx × Response × List Op) :=
  if p.jb.isSome || p.hb.isSome then
    let (p, resp, ops) := modDirlistingStreamAppend o.appendWriteOk true p.closeJson resp
    let (p, resp, ops') := if p.hb.isSome then modDirlistingCacheStreamAddFooter env r o p resp
      else (p, resp, [])
    let (p, resp, ops'') := match p.jfn, p.conf.cache with
      | some _, some cache => modDirlistingCacheStream o cache p resp
      | _, _ => (p, resp, [])
    some (p, resp, ops ++ ops' ++ ops'')
  else
    (modDirlistingResponse env r p o.page).map fun page ↦
      let resp := modDirlistingContentType (resp.append page) p.conf.encoding
      let (resp, ops) := match p.conf.cache with
        | some cache => modDirlistingCacheAdd env r o cache resp
        | none => (resp, [])
      (p, resp, ops)

theorem modDirlistingStreamAppend_status (ok fin : Bool) (p : HandlerCtx) (resp : Response) :
    (modDirlistingStreamAppend ok fin p resp).2.1.status = resp.status := by
  unfold modDirlistingStreamAppend
  split_ifs <;> (try split) <;> rfl

theorem modDirlistingStreamAppend_bodyFinished (ok fin : Bool) (p : HandlerCtx) (resp : Response) :
    (modDirlistingStreamAppend ok fin p resp).2.1.bodyFinished = resp.bodyFinished := by
  unfold modDirlistingStreamAppend
  split_ifs <;> (try split) <;> rfl

theorem finishListing_status {env : PageEnv} {r : Request} {o : StepOutcome} {p p' : HandlerCtx}
    {resp resp' : Response} {ops : List Op} (h : finishListing env r o p resp = some (p', resp', ops)) :
    resp'.status = resp.status := by
  unfold finishListing at h
  split_ifs at h
  · rcases ha : modDirlistingStreamAppend o.appendWriteOk true p.closeJson resp with ⟨p3, resp3, ops1⟩
    have h3 : resp3.status = resp.status := by
      rw [← modDirlistingStreamAppend_status o.appendWriteOk true p.closeJson resp, ha]
    rw [ha] at h
    dsimp only at h
    rcases hb : (if p3.hb.isSome then modDirlistingCacheStreamAddFooter env r o p3 resp3
      else (p3, resp3, [])) with ⟨p4, resp4, ops2⟩
    have h4 : resp4.status = resp3.status := by
      have := congrArg (·.2.1.status) hb
      split_ifs at this <;> simpa using this.symm
    rw [hb] at h
    dsimp only at h
    split at h
    · rename_i cache _ _
      rcases hc : modDirlistingCacheStream o cache p4 resp4 with ⟨p5, resp5, ops3⟩
      rw [hc] at h
      cases h
      rw [← h3, ← h4, ← modDirlistingCacheStream_status o cache p4 resp4, hc]
    · cases h
      rw [h4, h3]
  · obtain ⟨page, -, h⟩ := Option.map_eq_some'.mp h
    dsimp only at h
    split at h
    · rename_i cache _
      rcases hadd : modDirlistingCacheAdd env r o cache
        (modDirlistingContentType (resp.append page) p.conf.encoding) with ⟨resp2, ops2⟩
      rw [hadd] at h
      cases h
      simpa [hadd] using modDirlistingCacheAdd_status env r o cache
        (modDirlistingContentType (resp.append page) p.conf.encoding)
    · cases h
      rfl

/-- `mod_dirlisting_subrequest`: deferred while the client does not keep up; otherwise one batch of
`http_read_directory`, a flush of the stream at a yield, and at the end the rest of the response and
`mod_dirlisting_reset`. `none` when the step does not return. -/
def modDirlistingSubrequest (env : PageEnv) (r : Request) (o : StepOutcome) (q : Req)
    (processing : Int) : Option (Req × Int × Handler × List Op) :=
  if o.backpressure then some (q, processing, .waitForEvent, [])
  else match q.hctx with
    | none => some (q, processing, .goOn, [])
    | some p =>
      (httpReadDirectory env.toRenderEnv p).bind fun (p, rc, ops) ↦
        match rc with
        | .finished =>
          (finishListing env r o p q.resp).map fun (p, resp, ops') ↦
            let (q, processing, ops'') :=
              modDirlistingReset { q with resp := { resp with bodyFinished := true }, hctx := some p }
                processing
            (q, processing, .finished, ops ++ ops' ++ ops'')
        | .waitForEvent =>
          if p.jb.isSome || p.hb.isSome then
            let (p, resp, ops') := modDirlistingStreamAppend o.appendWriteOk false p q.resp
            some ({ q with resp := resp, hctx := some p }, processing, .waitForEvent, ops ++ ops')
          else some ({ q with hctx := some p }, processing, .waitForEvent, ops)
        | rc => some ({ q with hctx := some p }, processing, rc, ops)

/-- `mod_dirlisting_cache_check`: a cache file `dirlist.json` or `dirlist.html` for
`r->physical.path` whose `max-age` has not run out at `now` is sent as the whole response
(`HANDLER_FINISHED`); otherwise `HANDLER_GO_ON`. `entry` is `stat_cache_get_entry_open`, giving the
`st_mtime` and the contents of an open file. -/
def modDirlistingCacheCheck (env : PageEnv) (r : Request) (o : StepOutcome) (conf : PluginConfig)
    (cache : DirlistCache) (entry : Bytes → Option (Int × Bytes)) (now : Int) (resp : Response) :
    Handler × Response :=
  let path := env.pathJoin cache.path r.physicalPath ++
    lit (if conf.json then "dirlist.json" else "dirlist.html")
  match entry path with
  | none => (.goOn, resp)
  | some (mtime, content) =>
    if mtime + cache.maxAge < now then (.goOn, resp)
    else
      let resp := if conf.json then resp.setHeader (lit "Content-Type") (lit "application/json")
        else modDirlistingContentType resp conf.encoding
      if !o.fileRefOk then (.goOn, { resp.unsetHeader (lit "Content-Type") with body := [] })
      else
        let resp := modDirlistingCacheEtag
          (modDirlistingCacheControl (resp.append content) (mtime + cache.maxAge - now)) o.etag
        let resp := if conf.autoLayout then httpDirlistAutoLayoutEarlyHints resp conf else resp
        (.finished, { resp with bodyFinished := true })

/-- `dirlist_max_in_progress`: `server.max-connections >> 4`, at least 1. -/
def dirlistMaxInProgress (maxConns : Nat) : Int :=
  if maxConns >>> 4 = 0 then 1 else (maxConns >>> 4 : Nat)

/-- The world of a request at `mod_dirlisting_subrequest_start`: the configuration
`mod_dirlisting_patch_config` gives it, the cache files, the time `log_epoch_secs`, and the stream
of its directory (`none` when it cannot be opened). -/
structure StartEnv where
  conf : PluginConfig
  entry : Bytes → Option (Int × Bytes)
  now : Int
  dir : Option (List RawEnt)

/-- The mode of a new listing: `[` in `hctx->jb` and the JSON content type in JSON mode; otherwise
the early hints of the automatic layout and, when unsorted, the HTML content type, the header and an
empty `hctx->hb`. -/
def startMode (env : PageEnv) (r : Request) (o : StepOutcome) (conf : PluginConfig) (p : HandlerCtx)
    (resp : Response) : HandlerCtx × Response :=
  if conf.json then
    ({ p with jb := some (lit "[") }, resp.setHeader (lit "Content-Type") (lit "application/json"))
  else
    let resp := if conf.autoLayout then httpDirlistAutoLayoutEarlyHints resp conf else resp
    if !conf.sort then
      ({ p with hb := some [] }, (modDirlistingContentType resp p.conf.encoding).append
        (httpListDirectoryHeader env r p.conf o.page.headerSpill))
    else (p, resp)

/-- The streaming setup of a new listing: no cache file yet, the cache file of
`mod_dirlisting_cache_stream_init` when `dir-listing.cache` is set, and a started `200`
response. -/
def startStream (env : PageEnv) (r : Request) (o : StepOutcome) (conf : PluginConfig)
    (p : HandlerCtx) (resp : Response) : HandlerCtx × Response × List Op :=
  if p.jb.isSome || p.hb.isSome then
    let p := { p with jfd := -1 }
    let (p, ops) := match conf.cache with
      | some cache => modDirlistingCacheStreamInit env r o cache p resp
      | none => (p, [])
    (p, { resp with status := 200, bodyStarted := true }, ops)
  else (p, resp, [])

@[simp] theorem startMode_status (env : PageEnv) (r : Request) (o : StepOutcome) (conf : PluginConfig)
    (p : HandlerCtx) (resp : Response) : (startMode env r o conf p resp).2.status = resp.status := by
  unfold startMode
  split_ifs <;> simp

theorem startStream_status (env : PageEnv) (r : Request) (o : StepOutcome) (conf : PluginConfig)
    (p : HandlerCtx) (resp : Response) :
    (startStream env r o conf p resp).2.1.status = 200 ∨
      (startStream env r o conf p resp).2.1.status = resp.status := by
  unfold startStream
  split_ifs
  · exact .inl rfl
  · exact .inr rfl

/-- The part of `mod_dirlisting_subrequest_start` after the admission: the handler is set up for
the mode, installed, and the first `mod_dirlisting_subrequest` runs; a yield may then send `103 Early
Hints`. -/
def startListing (env : PageEnv) (r : Request) (o : StepOutcome) (conf : PluginConfig)
    (p : HandlerCtx) (q : Req) (processing : Int) : Option (Req × Int × Handler × List Op) :=
  let (p, resp) := startMode env r o conf p q.resp
  let (p, resp, ops) := startStream env r o conf p resp
  (modDirlistingSubrequest env r o { resp := resp, hctx := some p, handlerModule := true }
      processing).map fun (q, processing, rc, ops') ↦
    if rc = .waitForEvent && conf.autoLayout && (conf.externalJs.isSome || conf.externalCss.isSome) &&
        !q.resp.bodyStarted && r.http2 then
      ({ q with resp := { q.resp with status := 103 } }, processing,
        if o.send1xxOk then rc else .error, ops ++ ops')
    else (q, processing, rc, ops ++ ops')

/-- The configuration of a request: `p->conf` as patched for it, in JSON mode and without the
automatic layout when the query has the length of `json` and `memcmp` finds its first
`CONST_STR_LEN("json")-1` bytes, the 3 bytes `jso`, equal. -/
def requestConf (r : Request) (conf : PluginConfig) : PluginConfig :=
  if r.uriQuery.length = 4 ∧ r.uriQuery.take 3 = lit "jso" then
    { conf with json := true, autoLayout := false }
  else conf

/-- The cache check of `mod_dirlisting_subrequest_start`, made when `dir-listing.cache` is set. -/
def cacheCheckEnabled (env : PageEnv) (r : Request) (o : StepOutcome) (conf : PluginConfig)
    (start : StartEnv) (resp : Response) : Handler × Response :=
  match conf.cache with
  | some cache => modDirlistingCacheCheck env r o conf cache start.entry start.now resp
  | none => (.goOn, resp)

/-- `mod_dirlisting_subrequest_start`: requests for a directory by GET or HEAD with the listing
enabled are answered from the cache, refused with 503 when `p->processing` has reached
`dirlist_max_in_progress`, refused with 403 when the directory cannot be opened, and otherwise
admitted: `p->processing` is incremented and `startListing` runs. -/
def modDirlistingSubrequestStart (env : PageEnv) (r : Request) (o : StepOutcome) (start : StartEnv)
    (maxInProgress : Int) (q : Req) (processing : Int) : Option (Req × Int × Handler × List Op) :=
  if q.handlerModule || r.uriPath.getLast? != some 47 || !r.getOrHead || !start.conf.dirListing then
    some (q, processing, .goOn, [])
  else
    let conf := requestConf r start.conf
    let (rc, resp) := cacheCheckEnabled env r o conf start q.resp
    if rc ≠ .goOn then some ({ q with resp := resp }, processing, rc, [])
    else if processing = maxInProgress then
      some ({ q with resp := { resp.setHeader (lit "Retry-After") (lit "2") with status := 503 } },
        processing, .finished, [])
    else match httpOpenDirectory r start.dir (modDirlistingHandlerCtxInit conf) with
      | none => some ({ q with resp := { resp with status := 403 } }, processing, .finished, [])
      | some p => startListing env r o conf p { q with resp := resp } (processing + 1)

/-- A call of `mod_dirlisting_subrequest` whose batch does not return does not return. -/
theorem modDirlistingSubrequest_of_scan_none {env : PageEnv} {r : Request} {o : StepOutcome}
    {q : Req} {p : HandlerCtx} {processing : Int} (hbp : o.backpressure = false)
    (hq : q.hctx = some p) (hscan : httpReadDirectory env.toRenderEnv p = none) :
    modDirlistingSubrequest env r o q processing = none := by
  simp [modDirlistingSubrequest, hbp, hq, hscan]

/-- The spec of an admission: when the request passes the guards, the cache check goes on and
`p->processing` is below the bound, the start opens the directory and runs `startListing` with one
more request in progress. -/
theorem modDirlistingSubrequestStart_admission {env : PageEnv} {r : Request} {o : StepOutcome}
    {start : StartEnv} {maxInProgress : Int} {q : Req} {processing : Int} {resp : Response}
    (hguard : (q.handlerModule || r.uriPath.getLast? != some 47 || !r.getOrHead ||
      !start.conf.dirListing) = false)
    (hcheck : cacheCheckEnabled env r o (requestConf r start.conf) start q.resp = (.goOn, resp))
    (hmax : processing ≠ maxInProgress) :
    modDirlistingSubrequestStart env r o start maxInProgress q processing =
      match httpOpenDirectory r start.dir (modDirlistingHandlerCtxInit (requestConf r start.conf)) with
      | none => some ({ q with resp := { resp with status := 403 } }, processing, .finished, [])
      | some p => startListing env r o (requestConf r start.conf) p { q with resp := resp }
          (processing + 1) := by
  simp only [modDirlistingSubrequestStart, hguard, hcheck, hmax, Bool.false_eq_true, if_false, ne_eq,
    not_true_eq_false]

end Dirlisting
