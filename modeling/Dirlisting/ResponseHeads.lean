import Dirlisting.Request

/-!
# The heads of a listing response

A listing is answered with `Content-Type: application/json` in JSON mode and `text/html`, with the
configured charset, otherwise (`listingContentType`). In the streaming modes the start sets it, and
the status 200, before the body starts (`mod_dirlisting_subrequest_start`); in the sorted mode
`mod_dirlisting_response` sets it with the finished page; on a cache hit `mod_dirlisting_cache_check`
sets it for the cached file. Every other function of a request leaves the `Content-Type`, the status
and the progress of the body as they are (`SameHeads`): the cache headers, the early hints and the
appends to the body.

Over every run of a listing request, a response whose body has started or been finished carries
exactly one `Content-Type`, that of the request's mode, and a started body has status 200
(`listingRun_heads`); in particular the `103 Early Hints` of the start is never sent once the body
has started.
-/

set_option autoImplicit false
set_option relaxedAutoImplicit false

namespace Dirlisting

/-! ### Headers -/

/-- The values of the header `key` in a response, in order. -/
def Response.header (resp : Response) (key : Bytes) : List Bytes :=
  (resp.headers.filter fun h ↦ h.1 == key).map Prod.snd

section Header

variable (resp : Response) {key key' : Bytes} (value : Bytes)

theorem Response.header_setHeader_self : (resp.setHeader key value).header key = [value] := by
  simp [Response.header, Response.setHeader, List.filter_append, List.filter_filter]

theorem Response.header_setHeader_of_ne (h : key' ≠ key) :
    (resp.setHeader key' value).header key = resp.header key := by
  unfold Response.header Response.setHeader
  rw [List.filter_append, List.filter_filter]
  have hfilter : (resp.headers.filter fun x ↦ x.1 == key && x.1 != key') =
      resp.headers.filter fun x ↦ x.1 == key :=
    List.filter_congr fun x _ ↦ by by_cases hx : x.1 = key <;> simp [hx, Ne.symm h]
  simp [hfilter, h]

theorem Response.header_insertHeader_of_ne (h : key' ≠ key) :
    (resp.insertHeader key' value).header key = resp.header key := by
  simp [Response.header, Response.insertHeader, List.filter_append, h]

theorem Response.header_unsetHeader_self : (resp.unsetHeader key).header key = [] := by
  simp [Response.header, Response.unsetHeader, List.filter_filter]

end Header

/-- The `Content-Type` of a listing in the mode of `conf`: `application/json`, or `text/html` with
the configured charset. -/
def listingContentType (conf : PluginConfig) : Bytes :=
  if conf.json then lit "application/json"
  else match conf.encoding with
    | none => lit "text/html"
    | some enc => lit "text/html;charset=" ++ enc

theorem modDirlistingContentType_header (resp : Response) {conf : PluginConfig}
    (hjson : conf.json = false) :
    (modDirlistingContentType resp conf.encoding).header (lit "Content-Type") =
      [listingContentType conf] := by
  unfold modDirlistingContentType listingContentType
  rw [Response.header_setHeader_self, hjson]
  rfl

/-! ### Responses with the same heads -/

/-- Two responses with the same status, the same `Content-Type` and the same progress of the body. -/
structure SameHeads (resp resp' : Response) : Prop where
  contentType : resp'.header (lit "Content-Type") = resp.header (lit "Content-Type")
  status : resp'.status = resp.status
  bodyStarted : resp'.bodyStarted = resp.bodyStarted
  bodyFinished : resp'.bodyFinished = resp.bodyFinished

namespace SameHeads

theorem refl (resp : Response) : SameHeads resp resp := ⟨rfl, rfl, rfl, rfl⟩

theorem trans {a b c : Response} (hab : SameHeads a b) (hbc : SameHeads b c) : SameHeads a c :=
  ⟨hbc.1.trans hab.1, hbc.2.trans hab.2, hbc.3.trans hab.3, hbc.4.trans hab.4⟩

theorem ite {a b b' : Response} (c : Prop) [Decidable c] (hb : SameHeads a b) (hb' : SameHeads a b') :
    SameHeads a (if c then b else b') := by
  split_ifs
  exacts [hb, hb']

theorem append (resp : Response) (data : Bytes) : SameHeads resp (resp.append data) :=
  ⟨rfl, rfl, rfl, rfl⟩

theorem setHeader {resp : Response} {key : Bytes} (value : Bytes) (h : key ≠ lit "Content-Type") :
    SameHeads resp (resp.setHeader key value) :=
  ⟨resp.header_setHeader_of_ne value h, rfl, rfl, rfl⟩

theorem cacheControl (resp : Response) (maxAge : Int) :
    SameHeads resp (modDirlistingCacheControl resp maxAge) := by
  unfold modDirlistingCacheControl
  split_ifs
  exacts [refl resp, setHeader _ (by decide)]

theorem cacheEtag (resp : Response) (etag : Option Bytes) :
    SameHeads resp (modDirlistingCacheEtag resp etag) := by
  unfold modDirlistingCacheEtag
  split
  exacts [setHeader _ (by decide), refl resp]

theorem earlyHints (resp : Response) (conf : PluginConfig) :
    SameHeads resp (httpDirlistAutoLayoutEarlyHints resp conf) := by
  have hlink : ∀ (resp : Response) value, SameHeads resp (resp.insertHeader (lit "Link") value) :=
    fun resp value ↦ ⟨resp.header_insertHeader_of_ne value (by decide), rfl, rfl, rfl⟩
  unfold httpDirlistAutoLayoutEarlyHints
  split <;> split
  exacts [(hlink _ _).trans (hlink _ _), hlink _ _, hlink _ _, refl resp]

end SameHeads

/-! ### The functions of a request -/

section Steps

variable {env : PageEnv} {r : Request} {o : StepOutcome}

theorem sameHeads_streamAppend (ok fin : Bool) (p : HandlerCtx) (resp : Response) :
    SameHeads resp (modDirlistingStreamAppend ok fin p resp).2.1 := by
  unfold modDirlistingStreamAppend
  split_ifs <;> (try split) <;> first | exact .refl _ | exact .append _ _

theorem sameMode_streamAppend {p : HandlerCtx} (hs : p.streaming = true) (ok fin : Bool)
    (resp : Response) : SameMode p (modDirlistingStreamAppend ok fin p resp).1 := by
  unfold modDirlistingStreamAppend
  split_ifs <;> (try split) <;>
    first
    | exact .refl p
    | exact HandlerCtx.sameMode_clearStream hs
    | exact (HandlerCtx.sameMode_dropCacheFile p).trans (HandlerCtx.sameMode_clearStream hs)

theorem sameHeads_cacheStream (cache : DirlistCache) (p : HandlerCtx) (resp : Response) :
    SameHeads resp (modDirlistingCacheStream o cache p resp).2.1 := by
  have hetag := SameHeads.ite (o.headersSent = true) (.refl resp) (.cacheEtag resp o.etag)
  unfold modDirlistingCacheStream
  dsimp only
  exact .ite _ (hetag.trans (.cacheControl _ _)) hetag

theorem sameHeads_cacheAdd (cache : DirlistCache) (resp : Response) :
    SameHeads resp (modDirlistingCacheAdd env r o cache resp).1 := by
  have hetag := SameHeads.ite (o.cacheWriteOk = true) (.cacheEtag resp o.etag) (.refl resp)
  rw [modDirlistingCacheAdd_eq]
  unfold cacheAddWrite
  dsimp only
  generalize (if o.cacheWriteOk then modDirlistingCacheEtag resp o.etag else resp) = resp1 at hetag ⊢
  split_ifs <;> (try split) <;>
    first | exact .refl resp | exact hetag.trans (.cacheControl _ _) | exact hetag

/-- The end of a listing keeps the heads of a streamed response, and gives a sorted page the
`Content-Type` of `mod_dirlisting_response`. -/
theorem sameHeads_finishListing {p p' : HandlerCtx} {resp resp' : Response} {ops : List Op}
    (h : finishListing env r o p resp = some (p', resp', ops)) :
    SameHeads (if p.streaming then resp else modDirlistingContentType resp p.conf.encoding) resp' := by
  rcases finishListing_cases h with
    ⟨hs, p3, resp3, ops1, p4, resp4, ops2, ops3, h1, h2, h3, -⟩ | ⟨hs, -, page, -, hadd⟩
  · rw [if_pos hs]
    have h1' : SameHeads resp resp3 := by
      simpa only [h1] using sameHeads_streamAppend o.appendWriteOk true p.closeJson resp
    have h2' : SameHeads resp3 resp4 := by
      split_ifs at h2
      · have hf : SameHeads resp3 (modDirlistingCacheStreamAddFooter env r o p3 resp3).2.1 := .append _ _
        simpa only [h2] using hf
      · cases h2
        exact .refl _
    have h3' : SameHeads resp4 resp' := by
      rcases h3 with ⟨cache, -, hc⟩ | h3
      · simpa only [hc] using @sameHeads_cacheStream o cache p4 resp4
      · cases h3
        exact .refl _
    exact h1'.trans (h2'.trans h3')
  · rw [if_neg (by simp [hs])]
    have h0 : SameHeads (modDirlistingContentType resp p.conf.encoding)
        (modDirlistingContentType (resp.append page) p.conf.encoding) := ⟨rfl, rfl, rfl, rfl⟩
    rcases hadd with ⟨cache, -, hadd⟩ | ⟨rfl, -⟩
    · have hc := @sameHeads_cacheAdd env r o cache
        (modDirlistingContentType (resp.append page) p.conf.encoding)
      rw [hadd] at hc
      exact h0.trans hc
    · exact h0

/-- The cache check leaves the status and the start of the body alone; it either goes on with the
body not finished, or answers with the `Content-Type` of the request's mode and a finished body. -/
theorem cacheCheckEnabled_heads {conf : PluginConfig} {start : StartEnv} {resp resp' : Response}
    {rc : Handler} (h : cacheCheckEnabled env r o conf start resp = (rc, resp')) :
    resp'.status = resp.status ∧ resp'.bodyStarted = resp.bodyStarted ∧
      (rc = .goOn ∧ resp'.bodyFinished = resp.bodyFinished ∨
        rc = .finished ∧ resp'.bodyFinished = true ∧
          resp'.header (lit "Content-Type") = [listingContentType conf]) := by
  unfold cacheCheckEnabled at h
  split at h
  · rename_i cache _
    unfold modDirlistingCacheCheck at h
    dsimp only at h
    obtain ⟨typed, hT, hct, hst, hbs, hbf⟩ : ∃ typed : Response,
        (if conf.json then resp.setHeader (lit "Content-Type") (lit "application/json")
          else modDirlistingContentType resp conf.encoding) = typed ∧
        typed.header (lit "Content-Type") = [listingContentType conf] ∧ typed.status = resp.status ∧
          typed.bodyStarted = resp.bodyStarted ∧ typed.bodyFinished = resp.bodyFinished := by
      refine ⟨_, rfl, ?_⟩
      cases hj : conf.json
      · simp only [Bool.false_eq_true, if_false]
        exact ⟨modDirlistingContentType_header resp hj, rfl, rfl, rfl⟩
      · simp only [if_true]
        exact ⟨(resp.header_setHeader_self _).trans (by simp [listingContentType, hj]), rfl, rfl, rfl⟩
    rw [hT] at h
    split at h
    · cases h
      exact ⟨rfl, rfl, .inl ⟨rfl, rfl⟩⟩
    rename_i mtime content _
    split_ifs at h
    · cases h
      exact ⟨rfl, rfl, .inl ⟨rfl, rfl⟩⟩
    · cases h
      exact ⟨hst, hbs, .inl ⟨rfl, hbf⟩⟩
    all_goals
      cases h
      have hX := ((SameHeads.append typed content).trans
        (.cacheControl _ (mtime + cache.maxAge - start.now))).trans (.cacheEtag _ o.etag)
    · have hfinal := hX.trans (.earlyHints _ conf)
      exact ⟨hfinal.status.trans hst, hfinal.bodyStarted.trans hbs,
        .inr ⟨rfl, rfl, hfinal.contentType.trans hct⟩⟩
    · exact ⟨hX.status.trans hst, hX.bodyStarted.trans hbs, .inr ⟨rfl, rfl, hX.contentType.trans hct⟩⟩
  · cases h
    exact ⟨rfl, rfl, .inl ⟨rfl, rfl⟩⟩

/-- The mode setup of a new handler: JSON or unsorted HTML streams with the `Content-Type` of the
mode already set, and the sorted mode does not stream; the status and the body are untouched. -/
theorem startMode_heads {conf : PluginConfig} {p : HandlerCtx} (hconf : p.conf = conf)
    (hjb : p.jb = none) (hhb : p.hb = none) (resp : Response) :
    (startMode env r o conf p resp).1.conf = conf ∧
      ((startMode env r o conf p resp).1.streaming = true ∨ conf.json = false) ∧
      ((startMode env r o conf p resp).1.streaming = true →
        (startMode env r o conf p resp).2.header (lit "Content-Type") = [listingContentType conf]) ∧
      (startMode env r o conf p resp).2.status = resp.status ∧
      (startMode env r o conf p resp).2.bodyStarted = resp.bodyStarted ∧
      (startMode env r o conf p resp).2.bodyFinished = resp.bodyFinished := by
  unfold startMode
  by_cases hjson : conf.json = true
  · rw [if_pos hjson]
    refine ⟨hconf, .inl rfl, fun _ ↦ ?_, rfl, rfl, rfl⟩
    rw [Response.header_setHeader_self]
    simp [listingContentType, hjson]
  · have hjson' : conf.json = false := by simpa using hjson
    rw [if_neg hjson]
    have hhints := SameHeads.ite (conf.autoLayout = true) (.earlyHints resp conf) (.refl resp)
    generalize (if conf.autoLayout = true then httpDirlistAutoLayoutEarlyHints resp conf else resp) =
      resp1 at hhints ⊢
    split_ifs
    · refine ⟨hconf, .inl (by simp [HandlerCtx.streaming]), fun _ ↦ ?_, hhints.status,
        hhints.bodyStarted, hhints.bodyFinished⟩
      rw [hconf]
      exact (SameHeads.append _ _).contentType.trans (modDirlistingContentType_header resp1 hjson')
    · exact ⟨hconf, .inr hjson', fun hs ↦ absurd hs (by simp [HandlerCtx.streaming, hjb, hhb]),
        hhints.status, hhints.bodyStarted, hhints.bodyFinished⟩

theorem sameMode_cacheStreamAppendCq (chunked ok : Bool) (cq : Bytes) (p : HandlerCtx) :
    SameMode p (modDirlistingCacheStreamAppendCq chunked ok cq p).1 := by
  unfold modDirlistingCacheStreamAppendCq
  split_ifs <;> first | exact .refl p | exact HandlerCtx.sameMode_dropCacheFile p

theorem sameMode_cacheStreamInit (cache : DirlistCache) (p : HandlerCtx) (resp : Response) :
    SameMode p (modDirlistingCacheStreamInit env r o cache p resp).1 := by
  rw [modDirlistingCacheStreamInit_eq]
  unfold cacheStreamCreate
  split
  · exact .refl p
  split
  · exact .refl p
  dsimp only
  split
  · refine .trans ?_ (sameMode_cacheStreamAppendCq _ _ _ _)
    exact ⟨rfl, rfl, rfl⟩
  · exact ⟨rfl, rfl, rfl⟩

/-- The streaming setup keeps the mode and starts a streamed body with status 200. -/
theorem startStream_heads (conf : PluginConfig) (p : HandlerCtx) (resp : Response) :
    SameMode p (startStream env r o conf p resp).1 ∧
      (startStream env r o conf p resp).2.1 =
        if p.streaming then { resp with status := 200, bodyStarted := true } else resp := by
  unfold startStream
  by_cases hs : p.streaming = true
  · rw [if_pos (show (p.jb.isSome || p.hb.isSome) = true from hs), if_pos hs]
    dsimp only
    split
    · refine ⟨.trans ?_ (sameMode_cacheStreamInit _ _ _), rfl⟩
      exact ⟨rfl, rfl, rfl⟩
    · exact ⟨⟨rfl, rfl, rfl⟩, rfl⟩
  · rw [if_neg (show ¬(p.jb.isSome || p.hb.isSome) = true from hs), if_neg hs]
    exact ⟨.refl p, rfl⟩

end Steps

/-! ### Over a run -/

/-- The heads of a request configured by `conf`: once the body has started or been finished, the
`Content-Type` is that of the mode; a started body has status 200; a handler has the request's
configuration, streams unless in HTML mode, and streams only once the body has started; and a
request with a handler has not finished its body. -/
structure Req.Heads (conf : PluginConfig) (q : Req) : Prop where
  typed : q.resp.bodyStarted = true ∨ q.resp.bodyFinished = true →
    q.resp.header (lit "Content-Type") = [listingContentType conf]
  status : q.resp.bodyStarted = true → q.resp.status = 200
  handler : ∀ p, q.hctx = some p →
    p.conf = conf ∧ (p.streaming = true ∨ conf.json = false) ∧
      (p.streaming = true → q.resp.bodyStarted = true)
  unfinished : ∀ p, q.hctx = some p → q.resp.bodyFinished = false

namespace Req.Heads

variable {conf : PluginConfig} {q q' : Req}

theorem of_unstarted (hctx : q.hctx = none) (hs : q.resp.bodyStarted = false)
    (hf : q.resp.bodyFinished = false) : q.Heads conf :=
  ⟨fun h ↦ by simp [hs, hf] at h, fun h ↦ by simp [hs] at h, (fun p hp ↦ by rw [hctx] at hp; cases hp),
    fun p hp ↦ by rw [hctx] at hp; cases hp⟩

/-- A step that keeps the heads of the response and the mode of the handler keeps the invariant. -/
theorem of_sameHeads (hq : q.Heads conf) (hs : SameHeads q.resp q'.resp)
    (hctx : ∀ p', q'.hctx = some p' → ∃ p, q.hctx = some p ∧ SameMode p p') : q'.Heads conf := by
  refine ⟨fun h ↦ ?_, fun h ↦ ?_, fun p' hp' ↦ ?_, fun p' hp' ↦ ?_⟩
  · rw [hs.bodyStarted, hs.bodyFinished] at h
    rw [hs.contentType, hq.typed h]
  · rw [hs.status, hq.status (hs.bodyStarted ▸ h)]
  · obtain ⟨p, hp, hm⟩ := hctx p' hp'
    obtain ⟨hconf, hmode, hstream⟩ := hq.handler p hp
    rw [hm.conf, hm.streaming, hs.bodyStarted]
    exact ⟨hconf, hmode, hstream⟩
  · obtain ⟨p, hp, -⟩ := hctx p' hp'
    rw [hs.bodyFinished, hq.unfinished p hp]

end Req.Heads

/-- Every call of `mod_dirlisting_subrequest` and `mod_dirlisting_reset` keeps the heads. -/
theorem heads_invariant (env : PageEnv) (r : Request) (conf : PluginConfig) :
    ReqInvariant env r (Req.Heads conf) (fun _ ↦ True) where
  subrequest := by
    intro o q q' n n' rc ops hq h
    refine ⟨?_, fun _ _ ↦ trivial⟩
    rcases modDirlistingSubrequest_cases h with
      ⟨rfl, -, -⟩ | ⟨p, p1, ops1, hp, hscan, -, ⟨hs, rfl, -⟩ | ⟨-, rfl, -⟩⟩ |
        ⟨p, p1, ops1, p2, resp2, ops2, hp, hscan, hfin, rfl, -, -⟩
    · exact hq
    all_goals have hsame := (httpReadDirectory_frame hscan).1
    · refine hq.of_sameHeads (sameHeads_streamAppend _ _ _ _) fun p' hp' ↦ ⟨p, hp, ?_⟩
      cases hp'
      exact hsame.toSameMode.trans (sameMode_streamAppend hs _ _ _)
    · exact hq.of_sameHeads (.refl _) fun p' hp' ↦ ⟨p, hp, by cases hp'; exact hsame.toSameMode⟩
    · obtain ⟨hconf, hmode, hstream⟩ := hq.handler p hp
      have hf := sameHeads_finishListing hfin
      have hbase : (if p1.streaming then q.resp
          else modDirlistingContentType q.resp p1.conf.encoding).status = q.resp.status ∧
          (if p1.streaming then q.resp
            else modDirlistingContentType q.resp p1.conf.encoding).bodyStarted = q.resp.bodyStarted := by
        split_ifs <;> exact ⟨rfl, rfl⟩
      refine ⟨fun _ ↦ ?_, fun hst ↦ ?_, (fun p' hp' ↦ by cases hp'), fun p' hp' ↦ by cases hp'⟩
      · show resp2.header _ = _
        rw [hf.contentType]
        split_ifs with hs1
        · exact hq.typed (.inl (hstream (hsame.streaming ▸ hs1)))
        · rw [hsame.conf, hconf]
          exact modDirlistingContentType_header _ (hmode.resolve_left (hsame.streaming ▸ hs1))
      · show resp2.status = 200
        rw [hf.status, hbase.1]
        exact hq.status (hbase.2 ▸ hf.bodyStarted ▸ hst)
  reset hq h := by
    refine ⟨?_, fun _ _ ↦ trivial⟩
    rcases modDirlistingReset_cases h with ⟨-, rfl, -⟩ | ⟨-, -, rfl, -⟩
    · exact hq
    · exact hq.of_sameHeads (.refl _) fun p' hp' ↦ by cases hp'

/-- The start of a request establishes the heads. -/
theorem heads_subrequestStart {env : PageEnv} {r : Request} {o : StepOutcome} {start : StartEnv}
    {maxInProgress n n' : Int} {q' : Req} {rc : Handler} {ops : List Op}
    (h : modDirlistingSubrequestStart env r o start maxInProgress Req.fresh n = some (q', n', rc, ops)) :
    q'.Heads (requestConf r start.conf) ∧ ∀ op ∈ ops, True := by
  refine ⟨?_, fun _ _ ↦ trivial⟩
  rcases modDirlistingSubrequestStart_cases h with
    ⟨rfl, -⟩ | ⟨resp, hcheck, hrc, rfl, -⟩ | ⟨resp, hcheck, hq | hq, -⟩ | ⟨resp, p, hcheck, hopen, hstart⟩
  · exact .of_unstarted rfl rfl rfl
  · obtain ⟨-, hbs, hgo | ⟨-, -, hct⟩⟩ := cacheCheckEnabled_heads hcheck
    · exact absurd hgo.1 hrc
    · exact ⟨fun _ ↦ hct, fun hs ↦ by simp_all [Req.fresh, Response.empty],
        (fun p hp ↦ by cases hp), fun p hp ↦ by cases hp⟩
  all_goals obtain ⟨-, hbs, ⟨-, hbf⟩ | ⟨hgo, -⟩⟩ := cacheCheckEnabled_heads hcheck
  all_goals try exact absurd hgo (by decide)
  · subst hq
    exact .of_unstarted rfl hbs hbf
  · subst hq
    exact .of_unstarted rfl hbs hbf
  · have hp := httpOpenDirectory_handlerCtxInit hopen
    obtain ⟨q3, rc3, ops3, hsub, -, hq'⟩ := startListing_cases hstart
    dsimp only at hsub
    have hm := @startMode_heads env r o _ p hp.1 hp.2.1 hp.2.2 resp
    generalize startMode env r o (requestConf r start.conf) p resp = m at hm hsub
    obtain ⟨p1, resp1⟩ := m
    obtain ⟨hconf1, hmode1, htyped1, -, hbs1, hbf1⟩ := hm
    have hs := @startStream_heads env r o (requestConf r start.conf) p1 resp1
    generalize startStream env r o (requestConf r start.conf) p1 resp1 = x at hs hsub
    obtain ⟨p2, resp2, ops2⟩ := x
    obtain ⟨hm2, hresp2⟩ := hs
    dsimp only at hm2 hresp2 hsub
    have hq2 : Req.Heads (requestConf r start.conf) ⟨resp2, some p2, true⟩ := by
      subst hresp2
      by_cases hs1 : p1.streaming = true
      · simp only [hs1, if_true]
        refine ⟨fun _ ↦ htyped1 hs1, fun _ ↦ rfl, fun p' hp' ↦ ?_, fun _ _ ↦ hbf1.trans hbf⟩
        cases hp'
        exact ⟨hm2.conf.trans hconf1, hm2.streaming ▸ hmode1, fun _ ↦ rfl⟩
      · simp only [hs1, Bool.false_eq_true, if_false]
        have hunstarted : resp1.bodyStarted = false := hbs1.trans hbs
        refine ⟨fun h ↦ ?_, fun h ↦ ?_, fun p' hp' ↦ ?_, fun _ _ ↦ hbf1.trans hbf⟩
        · rw [hunstarted, hbf1.trans hbf] at h
          simp [Req.fresh, Response.empty] at h
        · simp [hunstarted] at h
        · cases hp'
          refine ⟨hm2.conf.trans hconf1, hm2.streaming ▸ hmode1, fun h ↦ ?_⟩
          exact absurd (hm2.streaming ▸ h) hs1
    obtain ⟨hq3, -⟩ := (heads_invariant env r _).subrequest hq2 hsub
    rcases hq' with rfl | ⟨hb3, rfl⟩
    · exact hq3
    · exact ⟨hq3.typed, fun hs ↦ absurd (hb3 ▸ hs) (by decide), hq3.handler, hq3.unfinished⟩

/-- The heads of every listing response: over every run of a listing request, once the body has
started or been finished the response carries exactly one `Content-Type`, `application/json` in JSON
mode and `text/html` with the configured charset otherwise, and a started body has status 200. -/
theorem listingRun_heads {env : PageEnv} {r : Request} {o : StepOutcome} {start : StartEnv}
    {maxInProgress processing : Int} {es : List ReqEvent} {q : Req} {n : Int} {ops : List Op}
    (h : listingRun env r o start maxInProgress processing es = some (q, n, ops)) :
    (q.resp.bodyStarted = true ∨ q.resp.bodyFinished = true →
      q.resp.header (lit "Content-Type") = [listingContentType (requestConf r start.conf)]) ∧
    (q.resp.bodyStarted = true → q.resp.status = 200) := by
  obtain ⟨hq, -⟩ := (heads_invariant env r _).listingRun heads_subrequestStart h
  exact ⟨hq.typed, hq.status⟩

theorem listingRun_heads_fileDir :
    ∃ q n ops, listingRun plainPageEnv jsonDirRequest okOutcome fileDirStart 1 0 [] = some (q, n, ops) ∧
      q.resp.bodyFinished = true ∧
      q.resp.header (lit "Content-Type") = [listingContentType (requestConf jsonDirRequest fileDirStart.conf)] ∧
      (q.resp.bodyStarted = true → q.resp.status = 200) := by
  obtain ⟨⟨q, n, ops⟩, h⟩ := Option.isSome_iff_exists.mp
    (show (listingRun plainPageEnv jsonDirRequest okOutcome fileDirStart 1 0 []).isSome by decide)
  have hfin : q.resp.bodyFinished = true := by
    have := congrArg (Option.map fun x ↦ x.1.resp.bodyFinished) h
    exact Option.some.inj (this.symm.trans (by decide))
  obtain ⟨htyped, hstatus⟩ := listingRun_heads h
  exact ⟨q, n, ops, h, hfin, htyped (.inr hfin), hstatus⟩

end Dirlisting
