import Dirlisting.Listing

/-!
# The runs of a listing request

A listing request starts with `mod_dirlisting_subrequest_start` on a fresh request; the server then
calls `mod_dirlisting_subrequest` whenever the request is scheduled, and `mod_dirlisting_reset` when
it ends or is aborted. `listingRun` is such a run, over any list of events and any outcomes of the
collaborators at each event.
-/

set_option autoImplicit false
set_option relaxedAutoImplicit false

namespace Dirlisting

/-- An event of a request after `mod_dirlisting_subrequest_start`: a call of
`mod_dirlisting_subrequest` with what its collaborators report, or `mod_dirlisting_reset`. -/
inductive ReqEvent
  | subrequest (o : StepOutcome)
  | reset

/-- One event on a request and `p->processing`, with the operations it makes. -/
def reqStep (env : PageEnv) (r : Request) : ReqEvent → Req × Int → Option (Req × Int × List Op)
  | .subrequest o, (q, n) => (modDirlistingSubrequest env r o q n).map fun (q, n, _, ops) ↦ (q, n, ops)
  | .reset, (q, n) => some (modDirlistingReset q n)

/-- The events of a request in order. `none` when a step does not return. -/
def reqRun (env : PageEnv) (r : Request) : List ReqEvent → Req × Int → Option (Req × Int × List Op)
  | [], (q, n) => some (q, n, [])
  | e :: es, s => (reqStep env r e s).bind fun (q, n, ops) ↦
    (reqRun env r es (q, n)).map fun (q, n, ops') ↦ (q, n, ops ++ ops')

/-- A request before any handler has run. -/
def Req.fresh : Req := ⟨Response.empty, none, false⟩

/-- The run of a listing request: `mod_dirlisting_subrequest_start` on a fresh request while
`p->processing` is `processing`, then the events. -/
def listingRun (env : PageEnv) (r : Request) (o : StepOutcome) (start : StartEnv)
    (maxInProgress processing : Int) (es : List ReqEvent) : Option (Req × Int × List Op) :=
  (modDirlistingSubrequestStart env r o start maxInProgress Req.fresh processing).bind
    fun (q, n, _, ops) ↦ (reqRun env r es (q, n)).map fun (q, n, ops') ↦ (q, n, ops ++ ops')

/-! ### Invariants of a request -/

/-- A relation between the states of a request before and after calls of
`mod_dirlisting_subrequest` and `mod_dirlisting_reset`, given the operations they make, that holds
for no call, composes, and holds for each call. -/
structure ReqRel (env : PageEnv) (r : Request) (R : Req → Req → List Op → Prop) : Prop where
  refl : ∀ q, R q q []
  trans : ∀ {q1 q2 q3 : Req} {ops1 ops2 : List Op}, R q1 q2 ops1 → R q2 q3 ops2 → R q1 q3 (ops1 ++ ops2)
  subrequest : ∀ {o : StepOutcome} {q q' : Req} {n n' : Int} {rc : Handler} {ops : List Op},
    modDirlistingSubrequest env r o q n = some (q', n', rc, ops) → R q q' ops
  reset : ∀ {q q' : Req} {n n' : Int} {ops : List Op}, modDirlistingReset q n = (q', n', ops) → R q q' ops

/-- The relation holds across every run of events. -/
theorem ReqRel.reqRun {env : PageEnv} {r : Request} {R : Req → Req → List Op → Prop}
    (hR : ReqRel env r R) {es : List ReqEvent} {q q' : Req} {n n' : Int} {ops : List Op}
    (h : reqRun env r es (q, n) = some (q', n', ops)) : R q q' ops := by
  induction es generalizing q n ops with
  | nil =>
    cases h
    exact hR.refl _
  | cons e es ih =>
    obtain ⟨⟨q1, n1, ops1⟩, hstep, h⟩ := Option.bind_eq_some.mp h
    obtain ⟨⟨q2, n2, ops2⟩, hrest, h⟩ := Option.map_eq_some'.mp h
    cases h
    refine hR.trans ?_ (ih hrest)
    cases e with
    | subrequest o =>
      obtain ⟨⟨q3, n3, rc, ops3⟩, hsub, h⟩ := Option.map_eq_some'.mp hstep
      cases h
      exact hR.subrequest hsub
    | reset => exact hR.reset (Option.some.inj hstep)

/-- An invariant `I` of a request that every call of `mod_dirlisting_subrequest` and of
`mod_dirlisting_reset` keeps, making only operations with the property `P`. -/
structure ReqInvariant (env : PageEnv) (r : Request) (I : Req → Prop) (P : Op → Prop) : Prop where
  subrequest : ∀ {o : StepOutcome} {q q' : Req} {n n' : Int} {rc : Handler} {ops : List Op},
    I q → modDirlistingSubrequest env r o q n = some (q', n', rc, ops) → I q' ∧ ∀ op ∈ ops, P op
  reset : ∀ {q q' : Req} {n n' : Int} {ops : List Op},
    I q → modDirlistingReset q n = (q', n', ops) → I q' ∧ ∀ op ∈ ops, P op

namespace ReqInvariant

variable {env : PageEnv} {r : Request} {I : Req → Prop} {P : Op → Prop}

theorem toReqRel (hI : ReqInvariant env r I P) :
    ReqRel env r fun q q' ops ↦ I q → I q' ∧ ∀ op ∈ ops, P op where
  refl _ hq := ⟨hq, by simp⟩
  trans h1 h2 hq :=
    ⟨(h2 (h1 hq).1).1, fun op hop ↦ (List.mem_append.mp hop).elim ((h1 hq).2 op) ((h2 (h1 hq).1).2 op)⟩
  subrequest h hq := hI.subrequest hq h
  reset h hq := hI.reset hq h

/-- Every run of events keeps the invariant and makes only operations with the property. -/
theorem reqRun (hI : ReqInvariant env r I P) {es : List ReqEvent} {q q' : Req} {n n' : Int}
    {ops : List Op} (hq : I q) (h : Dirlisting.reqRun env r es (q, n) = some (q', n', ops)) :
    I q' ∧ ∀ op ∈ ops, P op :=
  hI.toReqRel.reqRun h hq

/-- A run of a listing request keeps the invariant from the state its start leaves. -/
theorem listingRun (hI : ReqInvariant env r I P) {o : StepOutcome} {start : StartEnv}
    {maxInProgress processing : Int} {es : List ReqEvent} {q : Req} {n : Int} {ops : List Op}
    (hstart : ∀ {q n rc ops}, modDirlistingSubrequestStart env r o start maxInProgress Req.fresh
      processing = some (q, n, rc, ops) → I q ∧ ∀ op ∈ ops, P op)
    (h : Dirlisting.listingRun env r o start maxInProgress processing es = some (q, n, ops)) :
    I q ∧ ∀ op ∈ ops, P op := by
  obtain ⟨⟨q1, n1, rc, ops1⟩, h1, h⟩ := Option.bind_eq_some.mp h
  obtain ⟨⟨q2, n2, ops2⟩, hrun, h⟩ := Option.map_eq_some'.mp h
  cases h
  obtain ⟨hq1, hops1⟩ := hstart h1
  obtain ⟨hq2, hops2⟩ := hI.reqRun hq1 hrun
  exact ⟨hq2, fun op hop ↦ (List.mem_append.mp hop).elim (hops1 op) (hops2 op)⟩

end ReqInvariant

/-- What a call of `mod_dirlisting_reset` can do: nothing without a handler; otherwise drop the
handler and free it. -/
theorem modDirlistingReset_cases {q q' : Req} {n n' : Int} {ops : List Op}
    (h : modDirlistingReset q n = (q', n', ops)) :
    q.hctx = none ∧ q' = q ∧ ops = [] ∨
      ∃ p, q.hctx = some p ∧ q' = { q with hctx := none } ∧ ops = modDirlistingHandlerCtxFree p := by
  unfold modDirlistingReset at h
  split at h <;> cases h
  · exact .inl ⟨‹_›, rfl, rfl⟩
  · exact .inr ⟨_, ‹_›, rfl, rfl⟩

/-- The handler `http_open_directory` opens for a new request: its configuration, and no stream
buffer yet. -/
theorem httpOpenDirectory_handlerCtxInit {r : Request} {dir : Option (List RawEnt)}
    {conf : PluginConfig} {p : HandlerCtx}
    (h : httpOpenDirectory r dir (modDirlistingHandlerCtxInit conf) = some p) :
    p.conf = conf ∧ p.jb = none ∧ p.hb = none := by
  obtain ⟨stream, -, rfl⟩ := Option.map_eq_some'.mp h
  exact ⟨rfl, rfl, rfl⟩

/-- What a call of `mod_dirlisting_subrequest` can do: nothing when it defers or finds no handler;
after a batch that yields, flush a streamed listing; after the last batch, finish the listing and
free the handler. -/
theorem modDirlistingSubrequest_cases {env : PageEnv} {r : Request} {o : StepOutcome} {q q' : Req}
    {n n' : Int} {rc : Handler} {ops : List Op}
    (h : modDirlistingSubrequest env r o q n = some (q', n', rc, ops)) :
    q' = q ∧ n' = n ∧ ops = [] ∨
      (∃ p p1 ops1, q.hctx = some p ∧ httpReadDirectory env.toRenderEnv p = some (p1, .waitForEvent, ops1) ∧
        n' = n ∧
        (p1.streaming = true ∧
            q' = { q with resp := (modDirlistingStreamAppend o.appendWriteOk false p1 q.resp).2.1,
                          hctx := some (modDirlistingStreamAppend o.appendWriteOk false p1 q.resp).1 } ∧
            ops = ops1 ++ (modDirlistingStreamAppend o.appendWriteOk false p1 q.resp).2.2 ∨
          p1.streaming = false ∧ q' = { q with hctx := some p1 } ∧ ops = ops1)) ∨
      ∃ p p1 ops1 p2 resp2 ops2, q.hctx = some p ∧
        httpReadDirectory env.toRenderEnv p = some (p1, .finished, ops1) ∧
        finishListing env r o p1 q.resp = some (p2, resp2, ops2) ∧
        q' = ⟨{ resp2 with bodyFinished := true }, none, q.handlerModule⟩ ∧ n' = n - 1 ∧
        ops = ops1 ++ ops2 ++ modDirlistingHandlerCtxFree p2 := by
  unfold modDirlistingSubrequest at h
  split_ifs at h
  · cases h
    exact .inl ⟨rfl, rfl, rfl⟩
  cases hctx : q.hctx with
  | none =>
    rw [hctx] at h
    cases h
    exact .inl ⟨rfl, rfl, rfl⟩
  | some p =>
    rw [hctx] at h
    obtain ⟨⟨p1, rc1, ops1⟩, hscan, h⟩ := Option.bind_eq_some.mp h
    obtain ⟨-, hrc, -⟩ := httpReadDirectory_frame hscan
    rcases hrc with rfl | rfl
    · dsimp only at h
      split_ifs at h with hs <;> cases h
      · exact .inr (.inl ⟨p, p1, ops1, rfl, hscan, rfl, .inl ⟨hs, rfl, rfl⟩⟩)
      · exact .inr (.inl ⟨p, p1, _, rfl, hscan, rfl, .inr ⟨Bool.eq_false_iff.mpr hs, rfl, rfl⟩⟩)
    · obtain ⟨⟨p2, resp2, ops2⟩, hfin, h⟩ := Option.map_eq_some'.mp h
      cases h
      exact .inr (.inr ⟨p, p1, ops1, p2, resp2, ops2, rfl, hscan, hfin, rfl, rfl, rfl⟩)

/-- What a start can do: decline the request, answer it from the cache or with 503 or 403 without a
handler, or admit it and run `startListing` on the opened handler. -/
theorem modDirlistingSubrequestStart_cases {env : PageEnv} {r : Request} {o : StepOutcome}
    {start : StartEnv} {maxInProgress n n' : Int} {q q' : Req} {rc : Handler} {ops : List Op}
    (h : modDirlistingSubrequestStart env r o start maxInProgress q n = some (q', n', rc, ops)) :
    q' = q ∧ ops = [] ∨
      (∃ resp, cacheCheckEnabled env r o (requestConf r start.conf) start q.resp = (rc, resp) ∧
        rc ≠ .goOn ∧ q' = { q with resp := resp } ∧ ops = []) ∨
      (∃ resp, cacheCheckEnabled env r o (requestConf r start.conf) start q.resp = (.goOn, resp) ∧
        (q' = { q with resp := { resp.setHeader (lit "Retry-After") (lit "2") with status := 503 } } ∨
          q' = { q with resp := { resp with status := 403 } }) ∧ ops = []) ∨
      ∃ resp p, cacheCheckEnabled env r o (requestConf r start.conf) start q.resp = (.goOn, resp) ∧
        httpOpenDirectory r start.dir (modDirlistingHandlerCtxInit (requestConf r start.conf)) = some p ∧
        startListing env r o (requestConf r start.conf) p { q with resp := resp } (n + 1) =
          some (q', n', rc, ops) := by
  unfold modDirlistingSubrequestStart at h
  split at h
  · cases h
    exact .inl ⟨rfl, rfl⟩
  dsimp only at h
  rcases hcheck : cacheCheckEnabled env r o (requestConf r start.conf) start q.resp with ⟨rc0, resp⟩
  rw [hcheck] at h
  dsimp only at h
  split at h
  · cases h
    exact .inr (.inl ⟨resp, rfl, ‹_›, rfl, rfl⟩)
  rename_i hrc
  rw [not_not] at hrc
  subst hrc
  split at h
  · cases h
    exact .inr (.inr (.inl ⟨resp, rfl, .inl rfl, rfl⟩))
  rcases hopen : httpOpenDirectory r start.dir (modDirlistingHandlerCtxInit (requestConf r start.conf))
    with _ | p <;> rw [hopen] at h
  · cases h
    exact .inr (.inr (.inl ⟨resp, rfl, .inr rfl, rfl⟩))
  · exact .inr (.inr (.inr ⟨resp, p, rfl, rfl, h⟩))

/-- What `startListing` does: the mode and the stream are set up, the first
`mod_dirlisting_subrequest` runs, and a yield before the body has started may turn the status to
103 and the result to `HANDLER_ERROR`. -/
theorem startListing_cases {env : PageEnv} {r : Request} {o : StepOutcome} {conf : PluginConfig}
    {p : HandlerCtx} {q q' : Req} {n n' : Int} {rc : Handler} {ops : List Op}
    (h : startListing env r o conf p q n = some (q', n', rc, ops)) :
    ∃ q3 rc3 ops3, modDirlistingSubrequest env r o
        ⟨(startStream env r o conf (startMode env r o conf p q.resp).1
          (startMode env r o conf p q.resp).2).2.1,
         some (startStream env r o conf (startMode env r o conf p q.resp).1
          (startMode env r o conf p q.resp).2).1, true⟩ n = some (q3, n', rc3, ops3) ∧
      ops = (startStream env r o conf (startMode env r o conf p q.resp).1
        (startMode env r o conf p q.resp).2).2.2 ++ ops3 ∧
      (q' = q3 ∨ q3.resp.bodyStarted = false ∧ q' = { q3 with resp := { q3.resp with status := 103 } }) := by
  unfold startListing at h
  dsimp only at h
  obtain ⟨⟨q3, n3, rc3, ops3⟩, hsub, h⟩ := Option.map_eq_some'.mp h
  refine ⟨q3, rc3, ops3, ?_⟩
  dsimp only at h
  split at h <;> cases h
  · exact ⟨hsub, rfl, .inr ⟨by simp_all, rfl⟩⟩
  · exact ⟨hsub, rfl, .inl rfl⟩

/-- The cache setup of a stream changes nothing of the handler but its cache file. -/
theorem cacheStreamAppendCq_frame (chunked ok : Bool) (cq : Bytes) (p : HandlerCtx) :
    ∃ jfd jfn, (modDirlistingCacheStreamAppendCq chunked ok cq p).1 = { p with jfd := jfd, jfn := jfn } := by
  unfold modDirlistingCacheStreamAppendCq HandlerCtx.dropCacheFile
  split_ifs <;> exact ⟨_, _, rfl⟩

theorem cacheStreamInit_frame {env : PageEnv} {r : Request} {o : StepOutcome} (cache : DirlistCache)
    (p : HandlerCtx) (resp : Response) :
    ∃ jfd jfn, (modDirlistingCacheStreamInit env r o cache p resp).1 = { p with jfd := jfd, jfn := jfn } := by
  rw [modDirlistingCacheStreamInit_eq]
  unfold cacheStreamCreate
  split
  · exact ⟨_, _, rfl⟩
  split
  · exact ⟨_, _, rfl⟩
  dsimp only
  split
  · obtain ⟨jfd, jfn, h⟩ := cacheStreamAppendCq_frame o.sendChunked o.headerWriteOk resp.body
      { p with jfd := _, jfn := some _ }
    exact ⟨jfd, jfn, h⟩
  · exact ⟨_, _, rfl⟩

theorem startStream_frame {env : PageEnv} {r : Request} {o : StepOutcome} (conf : PluginConfig)
    (p : HandlerCtx) (resp : Response) :
    ∃ jfd jfn, (startStream env r o conf p resp).1 = { p with jfd := jfd, jfn := jfn } := by
  unfold startStream
  split_ifs
  · dsimp only
    split
    · obtain ⟨jfd, jfn, h⟩ := @cacheStreamInit_frame env r o _ { p with jfd := -1 } resp
      exact ⟨jfd, jfn, h⟩
    · exact ⟨_, _, rfl⟩
  · exact ⟨_, _, rfl⟩

theorem streamAppend_frame (ok fin : Bool) (p : HandlerCtx) (resp : Response) :
    ∃ jb hb jfd jfn, (modDirlistingStreamAppend ok fin p resp).1 =
      { p with jb := jb, hb := hb, jfd := jfd, jfn := jfn } := by
  unfold modDirlistingStreamAppend HandlerCtx.clearStream HandlerCtx.dropCacheFile
  split_ifs <;> (try split) <;> exact ⟨_, _, _, _, rfl⟩

/-- What the end of a listing can do: in the streaming modes the last flush of the closed stream,
the footer of an HTML stream and the publication of a cache file; in the sorted mode the page, its
`Content-Type` and `mod_dirlisting_cache_add`. -/
theorem finishListing_cases {env : PageEnv} {r : Request} {o : StepOutcome} {p p' : HandlerCtx}
    {resp resp' : Response} {ops : List Op} (h : finishListing env r o p resp = some (p', resp', ops)) :
    (p.streaming = true ∧ ∃ p3 resp3 ops1 p4 resp4 ops2 ops3,
      modDirlistingStreamAppend o.appendWriteOk true p.closeJson resp = (p3, resp3, ops1) ∧
      (if p3.hb.isSome then modDirlistingCacheStreamAddFooter env r o p3 resp3 else (p3, resp3, [])) =
        (p4, resp4, ops2) ∧
      ((∃ cache, p4.conf.cache = some cache ∧ modDirlistingCacheStream o cache p4 resp4 = (p', resp', ops3)) ∨
        (p', resp', ops3) = (p4, resp4, [])) ∧
      ops = ops1 ++ ops2 ++ ops3) ∨
    (p.streaming = false ∧ p' = p ∧ ∃ page, modDirlistingResponse env r p o.page = some page ∧
      ((∃ cache, p.conf.cache = some cache ∧
        modDirlistingCacheAdd env r o cache (modDirlistingContentType (resp.append page) p.conf.encoding) =
          (resp', ops)) ∨
        resp' = modDirlistingContentType (resp.append page) p.conf.encoding ∧ ops = [])) := by
  unfold finishListing at h
  by_cases hs : p.streaming = true
  · rw [if_pos (show (p.jb.isSome || p.hb.isSome) = true from hs)] at h
    generalize ha : modDirlistingStreamAppend o.appendWriteOk true p.closeJson resp = x at h
    obtain ⟨p3, resp3, ops1⟩ := x
    dsimp only at h
    generalize hb : (if p3.hb.isSome then modDirlistingCacheStreamAddFooter env r o p3 resp3
      else (p3, resp3, [])) = y at h
    obtain ⟨p4, resp4, ops2⟩ := y
    dsimp only at h
    refine .inl ⟨hs, ?_⟩
    split at h
    · rename_i cache _ hcache
      generalize hc : modDirlistingCacheStream o cache p4 resp4 = z at h
      obtain ⟨p5, resp5, ops3⟩ := z
      cases h
      exact ⟨p3, resp3, ops1, p4, resp4, ops2, ops3, rfl, hb, .inl ⟨cache, hcache, hc⟩, rfl⟩
    · cases h
      exact ⟨p3, resp3, ops1, p4, resp4, ops2, [], rfl, hb, .inr rfl, by simp⟩
  · rw [if_neg (show ¬(p.jb.isSome || p.hb.isSome) = true from hs)] at h
    obtain ⟨page, hpage, h⟩ := Option.map_eq_some'.mp h
    refine .inr ⟨by simpa using hs, ?_⟩
    dsimp only at h
    split at h
    · rename_i cache hcache
      generalize hadd : modDirlistingCacheAdd env r o cache
        (modDirlistingContentType (resp.append page) p.conf.encoding) = z at h
      obtain ⟨resp2, ops2⟩ := z
      cases h
      exact ⟨rfl, page, hpage, .inl ⟨cache, hcache, hadd⟩⟩
    · cases h
      exact ⟨rfl, page, hpage, .inr ⟨rfl, rfl⟩⟩

/-! ### A request on a file with a negative size -/

/-- A resumption of the unsorted HTML listing of `negativeSizeDir` does not return: the file `b`
after `a` is never dispatched. -/
theorem modDirlistingSubrequest_negativeSize (env : PageEnv) (r : Request) (o : StepOutcome)
    (resp : Response) (processing : Int) :
    modDirlistingSubrequest env r { o with backpressure := false }
      ⟨resp, some (unsortedCtx negativeSizeDir), true⟩ processing = none := by
  simp only [modDirlistingSubrequest, Bool.false_eq_true, if_false, httpReadDirectory_unsortedCtx,
    Option.none_bind]

/-- Every collaborator succeeds; the temporary file is descriptor `3`. -/
def okOutcome : StepOutcome where
  backpressure := false
  appendWriteOk := true
  headerWriteOk := true
  footerWriteOk := true
  cacheWriteOk := true
  sendChunked := false
  headersSent := false
  cacheIsDir := true
  mkdir _ _ := .ok
  tempFile := some ⟨3, lit "abcdef", rfl⟩
  renameOk := true
  etag := none
  page := ⟨fun _ ↦ .ok, ⟨fun _ ↦ false, fun _ ↦ .ok⟩, fun _ ↦ .ok⟩
  fileRefOk := true
  send1xxOk := true

/-- The unsorted HTML listing of `negativeSizeDir` never gets past its first step: after the header,
the start's first call of `mod_dirlisting_subrequest` does not return, so neither the row of `b` nor
the footer is ever appended. -/
theorem modDirlistingSubrequestStart_negativeSize (env : PageEnv) (o : StepOutcome)
    (entry : Bytes → Option (Int × Bytes)) (now : Int) :
    modDirlistingSubrequestStart env dirRequest { o with backpressure := false }
      ⟨unsortedConf, entry, now, some negativeSizeDir⟩ (dirlistMaxInProgress 1024) Req.fresh 0 = none := by
  have hguard : (Req.fresh.handlerModule || dirRequest.uriPath.getLast? != some 47 ||
      !dirRequest.getOrHead || !unsortedConf.dirListing) = false := by decide
  have hcheck : cacheCheckEnabled env dirRequest { o with backpressure := false }
      (requestConf dirRequest unsortedConf) ⟨unsortedConf, entry, now, some negativeSizeDir⟩
      Req.fresh.resp = (.goOn, Req.fresh.resp) := rfl
  rw [modDirlistingSubrequestStart_admission hguard hcheck (by decide)]
  simp only [httpOpenDirectory, Option.map_some']
  unfold startListing
  rw [Option.map_eq_none', modDirlistingSubrequest_of_scan_none rfl rfl]
  exact @httpReadDirectory_of_neg_size _ _ _ _ _ ⟨lit "a", 0, -1⟩ rfl rfl rfl rfl (by decide)

/-- A request for `/d/?json`. -/
def jsonDirRequest : Request := { dirRequest with uriQuery := lit "json" }

/-- A listing of `/d/`, which holds the file `a`. -/
def fileDirStart : StartEnv where
  conf := { PluginConfig.defaults with dirListing := true }
  entry _ := none
  now := 0
  dir := some [⟨lit "a", some ⟨false, 1, 0⟩⟩]

end Dirlisting
