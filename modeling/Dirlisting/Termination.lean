import Dirlisting.Truncation

/-!
# When the calls of a listing request return

A call of the module fails to return in one place only: the loop of
`http_list_directory_sizefmt`, which never ends on a negative `st_size`
(`httpListDirectorySizefmt_of_neg`). The row of a file reaches it in the unsorted HTML mode, from
the dispatch of `http_read_directory`, and in the sorted mode, from `mod_dirlisting_response` at
the end. `mkdir_recursive` always returns (`mkdirRecursive_isSome`).

`HandlerCtx.Returns` is what keeps the calls returning: the handler holds a stream in which no file
reports a negative size, and no file stored in `hctx->files` has one. A call of
`http_read_directory` on such a handler returns (`httpReadDirectory_returns`), and so does a call
of `mod_dirlisting_subrequest` (`modDirlistingSubrequest_isSome`); every call keeps the property
(`returns_invariant`). So when no file of the directory reports a negative size, every run of a
listing request returns, whatever the configuration, the outcomes and the events
(`listingRun_isSome`): the laws stated over the runs of `listingRun` are then about runs that
exist.

Without that, caching breaks. In the unsorted HTML mode `mod_dirlisting_cache_stream_init` creates
the temporary cache file and copies the header to it before the first call of
`mod_dirlisting_subrequest`; on a directory with a file of `st_size = -1` that call does not
return, so no run of the request closes, renames or unlinks the file
(`listingRun_negativeSizeCached`).
-/

set_option autoImplicit false
set_option relaxedAutoImplicit false

namespace Dirlisting

/-! ### Handlers whose calls return -/

/-- A raw entry whose row can be formatted: its `fstatat` fails, it is a directory, or its
`st_size` is not negative. -/
def RawEnt.SizeOk (raw : RawEnt) : Prop := ∀ st ∈ raw.stat, st.isDir = false → 0 ≤ st.size

/-- A handler whose calls return: it holds a stream whose entries have `SizeOk`, and the files it
has stored have non-negative sizes. -/
structure HandlerCtx.Returns (p : HandlerCtx) : Prop where
  stream : ∃ stream, p.dp = some stream ∧ ∀ raw ∈ stream, raw.SizeOk
  files : ∀ e ∈ p.files.ent.toList, 0 ≤ e.size

/-- A request whose handler, if it has one, has `Returns`. -/
def Req.Returns (q : Req) : Prop := ∀ p, q.hctx = some p → p.Returns

theorem HandlerCtx.Returns.frame {p p' : HandlerCtx} (h : p.Returns) (hdp : p'.dp = p.dp)
    (hfiles : p'.files = p.files) : p'.Returns :=
  ⟨hdp ▸ h.stream, hfiles ▸ h.files⟩

theorem Req.fresh_returns : Req.fresh.Returns := fun _ h ↦ by cases h

theorem keptEntry_size {conf : PluginConfig} {nameMax : Nat} {raw : RawEnt} {ent : DirlsEntry}
    {isDir : Bool} (hraw : raw.SizeOk) (h : keptEntry conf nameMax raw = some (ent, isDir))
    (hfile : isDir = false) : 0 ≤ ent.size := by
  unfold keptEntry at h
  split_ifs at h
  obtain ⟨st, hst, heq⟩ := Option.map_eq_some'.mp h
  cases heq
  exact hraw st hst hfile

/-! ### One call -/

/-- The dispatch of a directory, or of a file with a non-negative size, returns, keeps the stream,
and stores no file with a negative size. -/
theorem httpReadDirectoryDispatch_returns (env : RenderEnv) {p : HandlerCtx} {ent : DirlsEntry}
    {isDir : Bool} (hsize : isDir = false → 0 ≤ ent.size) (hfiles : ∀ e ∈ p.files.ent.toList, 0 ≤ e.size) :
    ∃ q, httpReadDirectoryDispatch env p ent isDir = some q ∧ q.dp = p.dp ∧
      ∀ e ∈ q.files.ent.toList, 0 ≤ e.size := by
  unfold httpReadDirectoryDispatch
  split
  · exact ⟨_, rfl, rfl, hfiles⟩
  · cases isDir
    · obtain ⟨row, hrow⟩ := Option.isSome_iff_exists.mp (httpListDirectoryFilename_isSome env (hsize rfl))
      rw [hrow]
      exact ⟨_, rfl, rfl, hfiles⟩
    · exact ⟨_, rfl, rfl, hfiles⟩
  · cases isDir
    · refine ⟨_, rfl, rfl, fun e he ↦ ?_⟩
      simp only [Bool.false_eq_true, if_false, DirlsList.append_ent, Array.push_toList,
        List.concat_eq_append, List.mem_append, List.mem_singleton] at he
      rcases he with he | rfl
      exacts [hfiles e he, hsize rfl]
    · exact ⟨_, rfl, rfl, hfiles⟩

theorem dispatchAll_returns (env : RenderEnv) {l : List (DirlsEntry × Bool)}
    (hl : ∀ x ∈ l, x.2 = false → 0 ≤ x.1.size) {p : HandlerCtx}
    (hfiles : ∀ e ∈ p.files.ent.toList, 0 ≤ e.size) :
    ∃ q, dispatchAll env p l = some q ∧ q.dp = p.dp ∧ ∀ e ∈ q.files.ent.toList, 0 ≤ e.size := by
  induction l generalizing p with
  | nil => exact ⟨p, rfl, rfl, hfiles⟩
  | cons x rest ih =>
    obtain ⟨q1, h1, hdp1, hfiles1⟩ := httpReadDirectoryDispatch_returns env (hl x (List.mem_cons_self _ _)) hfiles
    obtain ⟨q, h, hdp, hfiles'⟩ := ih (fun y hy ↦ hl y (List.mem_cons_of_mem _ hy)) hfiles1
    exact ⟨q, by simp [dispatchAll, h1, h], hdp.trans hdp1, hfiles'⟩

/-- A call of `http_read_directory` on a handler with `Returns` returns. The handler it leaves
stores no file with a negative size, and has `Returns` unless the call returned
`HANDLER_FINISHED`. -/
theorem httpReadDirectory_returns (env : RenderEnv) {p : HandlerCtx} (hp : p.Returns) :
    ∃ p1 rc ops, httpReadDirectory env p = some (p1, rc, ops) ∧
      (∀ e ∈ p1.files.ent.toList, 0 ≤ e.size) ∧ (rc ≠ .finished → p1.Returns) := by
  obtain ⟨stream, hdp, hstream⟩ := hp.stream
  have hkept : ∀ x ∈ (stream.take dirlistBatch).filterMap (keptEntry p.conf p.nameMax),
      x.2 = false → 0 ≤ x.1.size := by
    intro x hx
    obtain ⟨raw, hraw, hx⟩ := List.mem_filterMap.mp hx
    exact keptEntry_size (hstream raw (List.mem_of_mem_take hraw)) hx
  obtain ⟨q, hq, -, hqfiles⟩ := dispatchAll_returns env hkept hp.files
  rw [httpReadDirectory_eq env hdp, hq, Option.map_some']
  split_ifs
  · exact ⟨_, _, _, rfl, hqfiles,
      fun _ ↦ ⟨⟨_, rfl, fun raw hraw ↦ hstream raw (List.mem_of_mem_drop hraw)⟩, hqfiles⟩⟩
  · exact ⟨_, _, _, rfl, hqfiles, fun h ↦ absurd rfl h⟩

/-- The end of a listing returns when no stored file has a negative size. -/
theorem finishListing_isSome (env : PageEnv) (r : Request) (o : StepOutcome) {p : HandlerCtx}
    (hfiles : ∀ e ∈ p.files.ent.toList, 0 ≤ e.size) (resp : Response) :
    (finishListing env r o p resp).isSome := by
  unfold finishListing
  split_ifs
  · rfl
  · rw [Option.isSome_map']
    exact modDirlistingResponse_isSome env r p o.page hfiles

/-- A call of `mod_dirlisting_subrequest` on a request with `Returns` returns. -/
theorem modDirlistingSubrequest_isSome (env : PageEnv) (r : Request) (o : StepOutcome) {q : Req}
    (hq : q.Returns) (n : Int) : (modDirlistingSubrequest env r o q n).isSome := by
  unfold modDirlistingSubrequest
  split_ifs
  · rfl
  cases hctx : q.hctx with
  | none => rfl
  | some p =>
    obtain ⟨p1, rc, ops, hread, hfiles, -⟩ := httpReadDirectory_returns env.toRenderEnv (hq p hctx)
    dsimp only
    rw [hread, Option.some_bind]
    split
    · rw [Option.isSome_map']
      exact finishListing_isSome env r o hfiles q.resp
    · split <;> rfl
    · rfl

/-- Every call of `mod_dirlisting_subrequest` and of `mod_dirlisting_reset` keeps `Returns`. -/
theorem returns_invariant (env : PageEnv) (r : Request) : ReqInvariant env r Req.Returns fun _ ↦ True where
  subrequest hq h := by
    refine ⟨?_, fun _ _ ↦ trivial⟩
    rcases modDirlistingSubrequest_cases h with ⟨rfl, -, -⟩ | ⟨p, p1, ops1, hctx, hread, -, hcase⟩ |
      ⟨p, p1, ops1, p2, resp2, ops2, -, -, -, rfl, -, -⟩
    · exact hq
    · obtain ⟨p1', rc, ops', hread', -, hret⟩ := httpReadDirectory_returns _ (hq p hctx)
      rw [hread, Option.some.injEq, Prod.mk.injEq, Prod.mk.injEq] at hread'
      obtain ⟨rfl, rfl, -⟩ := hread'
      have hp1 := hret nofun
      rcases hcase with ⟨-, rfl, -⟩ | ⟨-, rfl, -⟩ <;> rintro p' ⟨⟩
      · obtain ⟨jb, hb, jfd, jfn, heq⟩ := streamAppend_frame _ false _ _
        rw [heq]
        exact hp1.frame rfl rfl
      · exact hp1
    · rintro p' ⟨⟩
  reset hq h := by
    refine ⟨?_, fun _ _ ↦ trivial⟩
    rcases modDirlistingReset_cases h with ⟨-, rfl, -⟩ | ⟨p, -, rfl, -⟩
    · exact hq
    · rintro p' ⟨⟩

/-! ### Runs -/

/-- From a request with `Returns`, every run of events returns. -/
theorem reqRun_isSome (env : PageEnv) (r : Request) :
    ∀ (es : List ReqEvent) {q : Req} (n : Int), q.Returns → (reqRun env r es (q, n)).isSome
  | [], _, _, _ => rfl
  | .subrequest o :: es, q, n, hq => by
    obtain ⟨⟨q1, n1, rc, ops1⟩, h1⟩ :=
      Option.isSome_iff_exists.mp (modDirlistingSubrequest_isSome env r o hq n)
    simp only [reqRun, reqStep, h1, Option.map_some', Option.some_bind, Option.isSome_map']
    exact reqRun_isSome env r es n1 ((returns_invariant env r).subrequest hq h1).1
  | .reset :: es, q, n, hq => by
    rcases hres : modDirlistingReset q n with ⟨q1, n1, ops1⟩
    simp only [reqRun, reqStep, hres, Option.some_bind, Option.isSome_map']
    exact reqRun_isSome env r es n1 ((returns_invariant env r).reset hq hres).1

/-- The part of the start after the admission returns on a handler with `Returns`, and the handler
it installs keeps it. -/
theorem startListing_returns (env : PageEnv) (r : Request) (o : StepOutcome) (conf : PluginConfig)
    {p : HandlerCtx} (hp : p.Returns) (q : Req) (n : Int) :
    ∃ q' n' rc ops, startListing env r o conf p q n = some (q', n', rc, ops) ∧ q'.Returns := by
  obtain ⟨jfd, jfn, hstream⟩ := @startStream_frame env r o conf (startMode env r o conf p q.resp).1
    (startMode env r o conf p q.resp).2
  obtain ⟨jb, hb, hmode⟩ : ∃ jb hb, (startMode env r o conf p q.resp).1 = { p with jb := jb, hb := hb } := by
    unfold startMode
    split_ifs <;> exact ⟨_, _, rfl⟩
  have hinstalled : Req.Returns ⟨(startStream env r o conf (startMode env r o conf p q.resp).1
      (startMode env r o conf p q.resp).2).2.1, some (startStream env r o conf
      (startMode env r o conf p q.resp).1 (startMode env r o conf p q.resp).2).1, true⟩ := by
    rintro p' ⟨⟩
    rw [hstream, hmode]
    exact hp.frame rfl rfl
  have hsome : (startListing env r o conf p q n).isSome := by
    unfold startListing
    exact Option.isSome_map'.trans (modDirlistingSubrequest_isSome env r o hinstalled n)
  obtain ⟨⟨q', n', rc, ops⟩, h⟩ := Option.isSome_iff_exists.mp hsome
  obtain ⟨q3, rc3, ops3, h3, -, hq'⟩ := startListing_cases h
  have hq3 := ((returns_invariant env r).subrequest hinstalled h3).1
  refine ⟨q', n', rc, ops, h, ?_⟩
  rcases hq' with rfl | ⟨-, rfl⟩ <;> exact hq3

/-- `mod_dirlisting_subrequest_start` on a directory whose entries have `SizeOk` returns, and keeps
`Returns`. -/
theorem modDirlistingSubrequestStart_returns (env : PageEnv) (r : Request) (o : StepOutcome)
    {start : StartEnv} (hdir : ∀ dir ∈ start.dir, ∀ raw ∈ dir, raw.SizeOk) (maxInProgress : Int)
    {q : Req} (hq : q.Returns) (n : Int) :
    ∃ q' n' rc ops, modDirlistingSubrequestStart env r o start maxInProgress q n =
      some (q', n', rc, ops) ∧ q'.Returns := by
  unfold modDirlistingSubrequestStart
  by_cases hguard : (q.handlerModule || r.uriPath.getLast? != some 47 || !r.getOrHead ||
      !start.conf.dirListing) = true
  · rw [if_pos hguard]
    exact ⟨_, _, _, _, rfl, hq⟩
  rw [if_neg hguard]
  rcases hcheck : cacheCheckEnabled env r o (requestConf r start.conf) start q.resp with ⟨rc0, resp⟩
  simp only [hcheck]
  split_ifs
  · exact ⟨_, _, _, _, rfl, hq⟩
  · exact ⟨_, _, _, _, rfl, hq⟩
  cases hopen : httpOpenDirectory r start.dir (modDirlistingHandlerCtxInit (requestConf r start.conf)) with
  | none => exact ⟨_, _, _, _, rfl, hq⟩
  | some p =>
    obtain ⟨stream, hs, rfl⟩ := Option.map_eq_some'.mp hopen
    refine startListing_returns env r o _ ⟨⟨stream, rfl, hdir stream hs⟩, ?_⟩ _ _
    rintro e ⟨⟩

/-- When no file of the directory reports a negative `st_size`, every run of a listing request
returns: the start and every later call of `mod_dirlisting_subrequest` and
`mod_dirlisting_reset`, for any configuration, outcomes, bound and events. -/
theorem listingRun_isSome (env : PageEnv) (r : Request) (o : StepOutcome) {start : StartEnv}
    (hdir : ∀ dir ∈ start.dir, ∀ raw ∈ dir, raw.SizeOk) (maxInProgress processing : Int)
    (es : List ReqEvent) : (listingRun env r o start maxInProgress processing es).isSome := by
  obtain ⟨q, n, rc, ops, hstart, hq⟩ :=
    modDirlistingSubrequestStart_returns env r o hdir maxInProgress Req.fresh_returns processing
  rw [listingRun, hstart, Option.some_bind, Option.isSome_map']
  exact reqRun_isSome env r es n hq

/-- `negativeSizeDir` with the size of `a` reported as 1. -/
def sizedDir : List RawEnt :=
  [⟨lit "a", some ⟨false, 1, 0⟩⟩, ⟨lit "b", some ⟨false, 0, 0⟩⟩]

theorem listingRun_isSome_sizedDir :
    (∀ dir ∈ some sizedDir, ∀ raw ∈ dir, raw.SizeOk) ∧
      (listingRun plainPageEnv dirRequest okOutcome ⟨unsortedConf, fun _ ↦ none, 0, some sizedDir⟩
        (dirlistMaxInProgress 1024) 0 [.subrequest okOutcome, .reset]).isSome := by
  have hdir : ∀ dir ∈ some sizedDir, ∀ raw ∈ dir, raw.SizeOk := by
    rintro dir ⟨⟩ raw hraw st hst -
    simp only [sizedDir, List.mem_cons, List.mem_singleton, List.not_mem_nil, or_false] at hraw
    rcases hraw with rfl | rfl <;> cases hst <;> decide
  exact ⟨hdir, listingRun_isSome _ _ _ hdir _ _ _⟩

/-! ### A cache file left open -/

/-- With a cache, the cache directory there, a temporary file and the header copied in full, the
streaming setup of a handler opens the temporary file and leaves it open. -/
theorem startStream_opens {env : PageEnv} {r : Request} {o : StepOutcome} {conf : PluginConfig}
    {p : HandlerCtx} {cache : DirlistCache} {t : TempFile} (hs : p.streaming = true)
    (hcache : conf.cache = some cache) (hdir : o.cacheIsDir = true) (ht : o.tempFile = some t)
    (hchunked : o.sendChunked = false) (hok : o.headerWriteOk = true) (resp : Response) :
    ∃ f, CacheFile.absent.run (startStream env r o conf p resp).2.2 = some f ∧ f.pending = true := by
  unfold startStream
  rw [if_pos (show (p.jb.isSome || p.hb.isSome) = true from hs)]
  simp only [hcache, modDirlistingCacheStreamInit_eq, cacheDirReady, hdir, if_true, cacheStreamCreate,
    ht, Bool.not_true, Bool.false_eq_true, if_false, List.nil_append, CacheFile.run_cons,
    CacheFile.step_mkostemp, Option.some_bind]
  by_cases hhb : p.hb.isSome = true
  · simp only [if_pos hhb, modDirlistingCacheStreamAppendCq, hchunked, hok, Bool.not_false,
      Bool.and_self, if_true]
    by_cases hc : resp.body = [] ∨ (t.fd : Int) = -1
    · rw [if_pos hc]
      exact ⟨_, rfl, rfl⟩
    · rw [if_neg hc]
      simp [CacheFile.pending]
  · rw [if_neg hhb]
    exact ⟨_, rfl, rfl⟩

/-- The streaming setup changes only the cache file of a handler: a call of `http_read_directory`
whose first entry is a kept file with a negative size still does not return. -/
theorem httpReadDirectory_startStream {env : PageEnv} {r : Request} {o : StepOutcome}
    {conf : PluginConfig} {p : HandlerCtx} {resp : Response} {raw : RawEnt} {rest : List RawEnt}
    {hb : Bytes} {ent : DirlsEntry} (hdp : p.dp = some (raw :: rest)) (hjb : p.jb = none)
    (hhb : p.hb = some hb) (hkept : keptEntry p.conf p.nameMax raw = some (ent, false))
    (hsize : ent.size < 0) : httpReadDirectory env.toRenderEnv (startStream env r o conf p resp).1 = none := by
  obtain ⟨jfd, jfn, h⟩ := startStream_frame conf p resp
  rw [h]
  exact httpReadDirectory_of_neg_size _ hdp hjb hhb hkept hsize

/-- The unsorted HTML listing with `dir-listing.cache` set. -/
def cachedUnsortedConf : PluginConfig :=
  { unsortedConf with cache := some ⟨600, lit "/var/cache/dirlist"⟩ }

/-- A cached unsorted HTML listing of `negativeSizeDir`. The streaming setup of the handler that
`http_open_directory` opens creates the temporary cache file and leaves it open, and the start's
first call of `mod_dirlisting_subrequest` does not return; so no run of the request goes on to
close, rename or unlink the file. -/
theorem listingRun_negativeSizeCached (env : PageEnv) (now : Int) :
    (∃ p, httpOpenDirectory dirRequest (some negativeSizeDir)
        (modDirlistingHandlerCtxInit cachedUnsortedConf) = some p ∧
      ∃ f, CacheFile.absent.run (startStream env dirRequest okOutcome cachedUnsortedConf
        (startMode env dirRequest okOutcome cachedUnsortedConf p Req.fresh.resp).1
        (startMode env dirRequest okOutcome cachedUnsortedConf p Req.fresh.resp).2).2.2 = some f ∧
      f.pending = true) ∧
      ∀ es, listingRun env dirRequest okOutcome ⟨cachedUnsortedConf, fun _ ↦ none, now, some negativeSizeDir⟩
        (dirlistMaxInProgress 1024) 0 es = none := by
  have hguard : (Req.fresh.handlerModule || dirRequest.uriPath.getLast? != some 47 ||
      !dirRequest.getOrHead || !cachedUnsortedConf.dirListing) = false := by decide
  have hcheck : cacheCheckEnabled env dirRequest okOutcome (requestConf dirRequest cachedUnsortedConf)
      ⟨cachedUnsortedConf, fun _ ↦ none, now, some negativeSizeDir⟩ Req.fresh.resp =
      (.goOn, Req.fresh.resp) := rfl
  have hstart : modDirlistingSubrequestStart env dirRequest okOutcome
      ⟨cachedUnsortedConf, fun _ ↦ none, now, some negativeSizeDir⟩ (dirlistMaxInProgress 1024) Req.fresh 0 =
      none := by
    rw [modDirlistingSubrequestStart_admission hguard hcheck (by decide)]
    simp only [httpOpenDirectory, Option.map_some']
    unfold startListing
    rw [Option.map_eq_none', modDirlistingSubrequest_of_scan_none rfl rfl]
    exact @httpReadDirectory_startStream _ _ _ _ _ _ _ _ _ ⟨lit "a", 0, -1⟩ rfl rfl rfl rfl (by decide)
  refine ⟨⟨_, rfl, startStream_opens (by rfl) rfl rfl rfl rfl rfl _⟩, fun es ↦ ?_⟩
  rw [listingRun, hstart, Option.none_bind]

end Dirlisting
