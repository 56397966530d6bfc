import Dirlisting.Request

/-!
# The directory stream of a request

`http_open_directory` opens the directory of a listing request and keeps its `DIR *` in
`hctx->dp`. Two functions close it: `http_read_directory`, whose last call reaches the end of the
stream, closes it and clears `hctx->dp` (`httpReadDirectory_dp`), and
`mod_dirlisting_handler_ctx_free` closes it when `hctx->dp` is still set
(`count_closedir_handlerCtxFree`). Every other function of a request leaves the directory alone
(`offDirectory_finishListing`, `offDirectory_startStream`) and keeps `hctx->dp`
(`finishListing_dp`).

The stream is conserved (`openDirs_rel`): from any state of a request, over any sequence of
calls of `mod_dirlisting_subrequest` and `mod_dirlisting_reset`, the `closedir`s made plus the
streams still held (`Req.openDirs`) equal the streams held before. No stream is closed twice, and
none is still open once its handler is freed. Over a whole listing request, from
`mod_dirlisting_subrequest_start` on, the `closedir`s made plus the streams still held are one when
the module took the request (`r->handler_module`, set only once `http_open_directory` succeeded) and
none otherwise (`listingRun_closedir`).
-/

set_option autoImplicit false
set_option relaxedAutoImplicit false

namespace Dirlisting

/-! ### The functions that leave the directory alone -/

/-- A list of operations none of which is on the directory, checked operation by operation. -/
theorem offDirectory_of_all {ops : List Op} (h : ops.all (fun op ↦ !op.onDirectory) = true) :
    ∀ op ∈ ops, op.onDirectory = false :=
  fun op hop ↦ by simpa using List.all_eq_true.mp h op hop

theorem count_closedir_of_offDirectory {ops : List Op} (h : ∀ op ∈ ops, op.onDirectory = false) :
    ops.count .closedir = 0 :=
  List.count_eq_zero.mpr fun hmem ↦ by cases h _ hmem

@[simp] theorem HandlerCtx.closeJson_dp (p : HandlerCtx) : p.closeJson.dp = p.dp := by
  unfold HandlerCtx.closeJson; split <;> rfl

section Steps

variable {env : PageEnv} {r : Request} {o : StepOutcome}

theorem offDirectory_streamAppend (ok fin : Bool) (p : HandlerCtx) (resp : Response) :
    ∀ op ∈ (modDirlistingStreamAppend ok fin p resp).2.2, op.onDirectory = false := by
  refine offDirectory_of_all ?_
  unfold modDirlistingStreamAppend
  split_ifs <;> (try split) <;> rfl

theorem offDirectory_cacheStreamAppendCq (chunked ok : Bool) (cq : Bytes) (p : HandlerCtx) :
    ∀ op ∈ (modDirlistingCacheStreamAppendCq chunked ok cq p).2, op.onDirectory = false := by
  refine offDirectory_of_all ?_
  unfold modDirlistingCacheStreamAppendCq
  split_ifs <;> cases p.jfn <;> rfl

theorem offDirectory_cacheStreamAddFooter (p : HandlerCtx) (resp : Response) :
    ∀ op ∈ (modDirlistingCacheStreamAddFooter env r o p resp).2.2, op.onDirectory = false :=
  offDirectory_cacheStreamAppendCq _ _ _ _

theorem offDirectory_cacheStream (cache : DirlistCache) (p : HandlerCtx) (resp : Response) :
    ∀ op ∈ (modDirlistingCacheStream o cache p resp).2.2, op.onDirectory = false := by
  refine offDirectory_of_all ?_
  unfold modDirlistingCacheStream
  split_ifs <;> rfl

theorem offDirectory_cacheDirReady (cache : DirlistCache) :
    ∀ op ∈ (cacheDirReady env r o cache).2, op.onDirectory = false := by
  obtain ⟨paths, h⟩ := cacheDirReady_mkdirs env r o cache
  rw [h]
  simp [Op.onDirectory]

theorem offDirectory_cacheAdd (cache : DirlistCache) (resp : Response) :
    ∀ op ∈ (modDirlistingCacheAdd env r o cache resp).2, op.onDirectory = false := by
  rw [modDirlistingCacheAdd_eq]
  refine List.forall_mem_append.mpr ⟨offDirectory_cacheDirReady cache, offDirectory_of_all ?_⟩
  unfold cacheAddWrite
  dsimp only
  split_ifs <;> (try split) <;> rfl

@[simp] theorem streamAppend_dp (ok fin : Bool) (p : HandlerCtx) (resp : Response) :
    (modDirlistingStreamAppend ok fin p resp).1.dp = p.dp := by
  obtain ⟨jb, hb, jfd, jfn, h⟩ := streamAppend_frame ok fin p resp
  rw [h]

@[simp] theorem cacheStreamAddFooter_dp (p : HandlerCtx) (resp : Response) :
    (modDirlistingCacheStreamAddFooter env r o p resp).1.dp = p.dp := by
  obtain ⟨jfd, jfn, h⟩ := cacheStreamAppendCq_frame o.sendChunked o.footerWriteOk
    (httpListDirectoryFooter env r p.conf o.page.readmeSpill) p
  have hdp := congrArg HandlerCtx.dp h
  exact hdp

@[simp] theorem cacheStream_dp (cache : DirlistCache) (p : HandlerCtx) (resp : Response) :
    (modDirlistingCacheStream o cache p resp).1.dp = p.dp := rfl

/-- The end of a listing makes no operation on the directory. -/
theorem offDirectory_finishListing {p p' : HandlerCtx} {resp resp' : Response} {ops : List Op}
    (h : finishListing env r o p resp = some (p', resp', ops)) : ∀ op ∈ ops, op.onDirectory = false := by
  rcases finishListing_cases h with
    ⟨-, p3, resp3, ops1, p4, resp4, ops2, ops3, h1, h2, h3, rfl⟩ | ⟨-, -, page, -, ⟨cache, -, hadd⟩ | ⟨-, rfl⟩⟩
  · have hops1 : ∀ op ∈ ops1, op.onDirectory = false := by
      simpa only [h1] using offDirectory_streamAppend o.appendWriteOk true p.closeJson resp
    have hops2 : ∀ op ∈ ops2, op.onDirectory = false := by
      split_ifs at h2
      · simpa only [h2] using @offDirectory_cacheStreamAddFooter env r o p3 resp3
      · cases h2
        simp
    have hops3 : ∀ op ∈ ops3, op.onDirectory = false := by
      rcases h3 with ⟨cache, -, hc⟩ | h3
      · simpa only [hc] using @offDirectory_cacheStream o cache p4 resp4
      · cases h3
        simp
    simp only [List.mem_append]
    rintro op ((hop | hop) | hop)
    exacts [hops1 op hop, hops2 op hop, hops3 op hop]
  · simpa only [hadd] using @offDirectory_cacheAdd env r o cache
      (modDirlistingContentType (resp.append page) p.conf.encoding)
  · simp

/-- The end of a listing keeps `hctx->dp`. -/
theorem finishListing_dp {p p' : HandlerCtx} {resp resp' : Response} {ops : List Op}
    (h : finishListing env r o p resp = some (p', resp', ops)) : p'.dp = p.dp := by
  rcases finishListing_cases h with
    ⟨-, p3, resp3, ops1, p4, resp4, ops2, ops3, h1, h2, h3, -⟩ | ⟨-, rfl, -⟩
  · have hd3 : p3.dp = p.dp := by
      simpa [h1] using streamAppend_dp o.appendWriteOk true p.closeJson resp
    have hd4 : p4.dp = p3.dp := by
      split_ifs at h2
      · simpa [h2] using @cacheStreamAddFooter_dp env r o p3 resp3
      · cases h2
        rfl
    have hd5 : p'.dp = p4.dp := by
      rcases h3 with ⟨cache, -, hc⟩ | h3
      · simpa [hc] using @cacheStream_dp o cache p4 resp4
      · cases h3
        rfl
    rw [hd5, hd4, hd3]
  · rfl

theorem offDirectory_cacheStreamInit (cache : DirlistCache) (p : HandlerCtx) (resp : Response) :
    ∀ op ∈ (modDirlistingCacheStreamInit env r o cache p resp).2, op.onDirectory = false := by
  rw [modDirlistingCacheStreamInit_eq]
  refine List.forall_mem_append.mpr ⟨offDirectory_cacheDirReady cache, ?_⟩
  unfold cacheStreamCreate
  split
  · simp
  split
  · simp
  dsimp only
  simp only [List.mem_cons]
  rintro op (rfl | hop)
  · rfl
  by_cases hhb : p.hb.isSome = true
  · rw [if_pos hhb] at hop
    exact offDirectory_cacheStreamAppendCq _ _ _ _ op hop
  · rw [if_neg hhb] at hop
    cases hop

theorem offDirectory_startStream (conf : PluginConfig) (p : HandlerCtx) (resp : Response) :
    ∀ op ∈ (startStream env r o conf p resp).2.2, op.onDirectory = false := by
  unfold startStream
  split_ifs
  · dsimp only
    split
    · exact offDirectory_cacheStreamInit _ _ _
    · simp
  · simp

end Steps

/-! ### The two functions that close it -/

/-- What one call of `http_read_directory` does to the stream: it needs one; a call that yields
keeps it and closes nothing; the last call closes it once and clears `hctx->dp`. -/
theorem httpReadDirectory_dp {env : RenderEnv} {p q : HandlerCtx} {rc : Handler} {ops : List Op}
    (h : httpReadDirectory env p = some (q, rc, ops)) :
    p.dp.isSome ∧ (rc = .waitForEvent ∧ q.dp.isSome ∧ ops.count .closedir = 0 ∨
      rc = .finished ∧ q.dp = none ∧ ops.count .closedir = 1) := by
  obtain ⟨stream, hdp, -⟩ := Option.bind_eq_some.mp h
  rw [httpReadDirectory_eq env hdp] at h
  obtain ⟨q', -, hres⟩ := Option.map_eq_some'.mp h
  refine ⟨by rw [hdp]; rfl, ?_⟩
  split_ifs at hres <;> cases hres
  · exact .inl ⟨rfl, rfl, count_closedir_loopOps _ _ _ _⟩
  · exact .inr ⟨rfl, rfl, by simp⟩

theorem count_closedir_handlerCtxFree (p : HandlerCtx) :
    (modDirlistingHandlerCtxFree p).count .closedir = if p.dp.isSome then 1 else 0 := by
  unfold modDirlistingHandlerCtxFree
  cases p.dp <;> cases p.jfn <;> simp [List.count_append] <;> split_ifs <;> simp

theorem httpOpenDirectory_dp {r : Request} {dir : Option (List RawEnt)} {p p' : HandlerCtx}
    (h : httpOpenDirectory r dir p = some p') : p'.dp.isSome := by
  obtain ⟨stream, -, rfl⟩ := Option.map_eq_some'.mp h
  rfl

@[simp] theorem startMode_dp {env : PageEnv} {r : Request} {o : StepOutcome} (conf : PluginConfig)
    (p : HandlerCtx) (resp : Response) : (startMode env r o conf p resp).1.dp = p.dp := by
  unfold startMode
  split_ifs <;> rfl

/-! ### Conservation -/

/-- The directory streams a request holds: one while its handler has `hctx->dp` set. -/
def Req.openDirs (q : Req) : Nat :=
  match q.hctx with
  | some p => if p.dp.isSome then 1 else 0
  | none => 0

section Run

variable {env : PageEnv} {r : Request}

/-- A call of `mod_dirlisting_subrequest` closes the stream exactly when it stops holding it, and
keeps `r->handler_module`. -/
theorem subrequest_openDirs {o : StepOutcome} {q q' : Req} {n n' : Int} {rc : Handler} {ops : List Op}
    (h : modDirlistingSubrequest env r o q n = some (q', n', rc, ops)) :
    q'.openDirs + ops.count .closedir = q.openDirs ∧ q'.handlerModule = q.handlerModule := by
  rcases modDirlistingSubrequest_cases h with
    ⟨rfl, -, rfl⟩ | ⟨p, p1, ops1, hp, hscan, -, hyield⟩ |
      ⟨p, p1, ops1, p2, resp2, ops2, hp, hscan, hfin, rfl, -, rfl⟩
  · exact ⟨rfl, rfl⟩
  · obtain ⟨hdp, ⟨-, hdp1, hc1⟩ | ⟨⟨⟩, -, -⟩⟩ := httpReadDirectory_dp hscan
    rcases hyield with ⟨-, rfl, rfl⟩ | ⟨-, rfl, rfl⟩
    · have hc := count_closedir_of_offDirectory (offDirectory_streamAppend o.appendWriteOk false p1 q.resp)
      refine ⟨?_, rfl⟩
      simp [Req.openDirs, hp, hdp, hdp1, hc1, hc, List.count_append]
    · exact ⟨by simp [Req.openDirs, hp, hdp, hdp1, hc1], rfl⟩
  · obtain ⟨hdp, ⟨⟨⟩, -, -⟩ | ⟨-, hdp1, hc1⟩⟩ := httpReadDirectory_dp hscan
    have hc := count_closedir_of_offDirectory (offDirectory_finishListing hfin)
    refine ⟨?_, rfl⟩
    simp [Req.openDirs, hp, hdp, hc1, hc, List.count_append, count_closedir_handlerCtxFree,
      finishListing_dp hfin, hdp1]

/-- A call of `mod_dirlisting_reset` closes the stream if the handler it frees still holds one, and
keeps `r->handler_module`. -/
theorem reset_openDirs {q q' : Req} {n n' : Int} {ops : List Op}
    (h : modDirlistingReset q n = (q', n', ops)) :
    q'.openDirs + ops.count .closedir = q.openDirs ∧ q'.handlerModule = q.handlerModule := by
  rcases modDirlistingReset_cases h with ⟨-, rfl, rfl⟩ | ⟨p, hp, rfl, rfl⟩
  · exact ⟨rfl, rfl⟩
  · exact ⟨by simp [Req.openDirs, hp, count_closedir_handlerCtxFree], rfl⟩

/-- The law over any sequence of calls, from any state of a request. -/
theorem openDirs_rel : ReqRel env r fun q q' ops ↦
    q'.openDirs + ops.count .closedir = q.openDirs ∧ q'.handlerModule = q.handlerModule where
  refl _ := ⟨rfl, rfl⟩
  trans h1 h2 := ⟨by have := h1.1; have := h2.1; rw [List.count_append]; omega, h2.2.trans h1.2⟩
  subrequest h := subrequest_openDirs h
  reset h := reset_openDirs h

/-- The start of a request holds the stream, or has closed it, exactly when it takes the request. -/
theorem subrequestStart_openDirs {o : StepOutcome} {start : StartEnv} {maxInProgress n n' : Int}
    {q' : Req} {rc : Handler} {ops : List Op}
    (h : modDirlistingSubrequestStart env r o start maxInProgress Req.fresh n = some (q', n', rc, ops)) :
    q'.openDirs + ops.count .closedir = if q'.handlerModule then 1 else 0 := by
  rcases modDirlistingSubrequestStart_cases h with
    ⟨rfl, rfl⟩ | ⟨resp, -, -, rfl, rfl⟩ | ⟨resp, -, rfl | rfl, rfl⟩ | ⟨resp, p, -, hopen, hstart⟩
  iterate 4 rfl
  obtain ⟨q3, rc3, ops3, hsub, rfl, hq'⟩ := startListing_cases hstart
  obtain ⟨h3, hm3⟩ := subrequest_openDirs hsub
  have hq3 : q'.openDirs = q3.openDirs ∧ q'.handlerModule = q3.handlerModule := by
    rcases hq' with rfl | ⟨-, rfl⟩ <;> exact ⟨rfl, rfl⟩
  obtain ⟨jfd, jfn, hp2⟩ := @startStream_frame env r o (requestConf r start.conf)
    (startMode env r o (requestConf r start.conf) p resp).1 (startMode env r o (requestConf r start.conf) p resp).2
  have hstream := count_closedir_of_offDirectory (@offDirectory_startStream env r o (requestConf r start.conf)
    (startMode env r o (requestConf r start.conf) p resp).1 (startMode env r o (requestConf r start.conf) p resp).2)
  rw [hq3.1, hq3.2, hm3, List.count_append, hstream, Nat.zero_add, h3]
  simp [Req.openDirs, hp2, httpOpenDirectory_dp hopen]

end Run

/-- Directory streams over a listing request: over every run of a listing request, the
`closedir`s made plus the streams still held are one when the module took the request
(`r->handler_module`) and none otherwise. A directory opened is closed once, by the last scan or by
the free after a reset, never twice, and never for a request the module did not take. -/
theorem listingRun_closedir {env : PageEnv} {r : Request} {o : StepOutcome} {start : StartEnv}
    {maxInProgress processing : Int} {es : List ReqEvent} {q : Req} {n : Int} {ops : List Op}
    (h : listingRun env r o start maxInProgress processing es = some (q, n, ops)) :
    q.openDirs + ops.count .closedir = if q.handlerModule then 1 else 0 := by
  obtain ⟨⟨q0, n0, rc, ops0⟩, hstart, h⟩ := Option.bind_eq_some.mp h
  obtain ⟨⟨q1, n1, ops1⟩, hrun, h⟩ := Option.map_eq_some'.mp h
  cases h
  have h0 := subrequestStart_openDirs hstart
  obtain ⟨h1, hm1⟩ := openDirs_rel.reqRun hrun
  rw [hm1, ← h0, ← h1, List.count_append]
  omega

/-- A JSON listing whose first scan is deferred and which is then reset: the free closes the
directory. -/
theorem listingRun_closedir_reset :
    ∃ q n ops, listingRun plainPageEnv jsonDirRequest { okOutcome with backpressure := true }
        fileDirStart 1 0 [.reset] = some (q, n, ops) ∧
      q.handlerModule = true ∧ q.openDirs + ops.count .closedir = if q.handlerModule then 1 else 0 := by
  obtain ⟨⟨q, n, ops⟩, h⟩ := Option.isSome_iff_exists.mp (show (listingRun plainPageEnv jsonDirRequest
    { okOutcome with backpressure := true } fileDirStart 1 0 [.reset]).isSome by decide)
  have htaken : (listingRun plainPageEnv jsonDirRequest { okOutcome with backpressure := true }
      fileDirStart 1 0 [.reset]).any (fun x ↦ x.1.handlerModule) := by decide
  rw [h] at htaken
  exact ⟨q, n, ops, h, htaken, listingRun_closedir h⟩

end Dirlisting
