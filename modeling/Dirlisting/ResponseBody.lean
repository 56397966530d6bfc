import Dirlisting.ResponseHeads

/-!
# The body of a listing response

Every function of a request appends to `r->write_queue` and never takes back what it appended: the
flushes of `mod_dirlisting_stream_append` (`body_streamAppend`), the closing `]`, the footer and the
page of `mod_dirlisting_response` (`body_finishListing`); the cache functions only set headers
(`cacheStream_body`). A request without a handler is left as it is by every later call, which makes
no operation. So from any state of a request, over any sequence of calls of
`mod_dirlisting_subrequest` and `mod_dirlisting_reset`, the body only grows, and nothing happens
to a request without a handler (`body_rel`).

A request whose body is finished has no handler (`Req.Heads.unfinished`). Over every run of a
listing request and any further calls, the body of the run is a prefix of the body after the
calls, and a finished response stays as it is, with no further operation (`listingRun_body`).
-/

set_option autoImplicit false
set_option relaxedAutoImplicit false

namespace Dirlisting

section Steps

variable {env : PageEnv} {r : Request} {o : StepOutcome}

theorem body_streamAppend (ok fin : Bool) (p : HandlerCtx) (resp : Response) :
    resp.body <+: (modDirlistingStreamAppend ok fin p resp).2.1.body := by
  unfold modDirlistingStreamAppend
  split_ifs <;> (try split) <;> simp

@[simp] theorem cacheStream_body (cache : DirlistCache) (p : HandlerCtx) (resp : Response) :
    (modDirlistingCacheStream o cache p resp).2.1.body = resp.body := by
  unfold modDirlistingCacheStream
  split_ifs <;> simp

/-- The end of a listing appends to the body. -/
theorem body_finishListing {p p' : HandlerCtx} {resp resp' : Response} {ops : List Op}
    (h : finishListing env r o p resp = some (p', resp', ops)) : resp.body <+: resp'.body := by
  rcases finishListing_cases h with
    ⟨-, p3, resp3, ops1, p4, resp4, ops2, ops3, h1, h2, h3, -⟩ |
      ⟨-, -, page, -, ⟨cache, -, hadd⟩ | ⟨rfl, -⟩⟩
  · have h1' : resp.body <+: resp3.body := by
      simpa only [h1] using body_streamAppend o.appendWriteOk true p.closeJson resp
    have h2' : resp3.body <+: resp4.body := by
      split_ifs at h2
      · have hf : resp3.body <+: (modDirlistingCacheStreamAddFooter env r o p3 resp3).2.1.body :=
          List.prefix_append _ _
        simpa only [h2] using hf
      · cases h2
        exact List.prefix_refl _
    have h3' : resp'.body = resp4.body := by
      rcases h3 with ⟨cache, -, hc⟩ | h3
      · simpa only [hc] using @cacheStream_body o cache p4 resp4
      · cases h3
        rfl
    exact h1'.trans (h3' ▸ h2')
  · have hb := modDirlistingCacheAdd_body env r o cache
      (modDirlistingContentType (resp.append page) p.conf.encoding)
    rw [hadd] at hb
    rw [show resp'.body = _ from hb]
    simp
  · simp

end Steps

/-- A call of `mod_dirlisting_subrequest` appends to the body, and changes nothing of a request
without a handler. -/
theorem body_subrequest {env : PageEnv} {r : Request} {o : StepOutcome} {q q' : Req} {n n' : Int}
    {rc : Handler} {ops : List Op} (h : modDirlistingSubrequest env r o q n = some (q', n', rc, ops)) :
    q.resp.body <+: q'.resp.body ∧ (q.hctx = none → q' = q ∧ ops = []) := by
  rcases modDirlistingSubrequest_cases h with
    ⟨rfl, -, rfl⟩ | ⟨p, p1, ops1, hp, -, -, hyield⟩ |
      ⟨p, p1, ops1, p2, resp2, ops2, hp, -, hfin, rfl, -, -⟩
  · exact ⟨List.prefix_refl _, fun _ ↦ ⟨rfl, rfl⟩⟩
  · refine ⟨?_, fun hnone ↦ by rw [hnone] at hp; cases hp⟩
    rcases hyield with ⟨-, rfl, -⟩ | ⟨-, rfl, -⟩
    exacts [body_streamAppend _ _ _ _, List.prefix_refl _]
  · exact ⟨(body_finishListing hfin : q.resp.body <+: resp2.body),
      fun hnone ↦ by rw [hnone] at hp; cases hp⟩

/-- The body over any sequence of calls, from any state of a request. -/
theorem body_rel (env : PageEnv) (r : Request) :
    ReqRel env r fun q q' ops ↦ q.resp.body <+: q'.resp.body ∧ (q.hctx = none → q' = q ∧ ops = []) where
  refl _ := ⟨List.prefix_refl _, fun _ ↦ ⟨rfl, rfl⟩⟩
  trans h1 h2 := by
    refine ⟨h1.1.trans h2.1, fun hnone ↦ ?_⟩
    obtain ⟨rfl, rfl⟩ := h1.2 hnone
    obtain ⟨rfl, rfl⟩ := h2.2 hnone
    exact ⟨rfl, rfl⟩
  subrequest h := body_subrequest h
  reset h := by
    rcases modDirlistingReset_cases h with ⟨-, rfl, rfl⟩ | ⟨p, hp, rfl, -⟩
    · exact ⟨List.prefix_refl _, fun _ ↦ ⟨rfl, rfl⟩⟩
    · exact ⟨List.prefix_refl _, fun hnone ↦ by rw [hnone] at hp; cases hp⟩

/-- A listing response only grows and is final once finished: over every run of a listing request
and any further calls of `mod_dirlisting_subrequest` and `mod_dirlisting_reset`, the body of the run
is a prefix of the body after them, and once the body is finished the calls leave the request as it
is and make no operation. -/
theorem listingRun_body {env : PageEnv} {r : Request} {o : StepOutcome} {start : StartEnv}
    {maxInProgress processing : Int} {es es' : List ReqEvent} {q q' : Req} {n n' : Int}
    {ops ops' : List Op}
    (h : listingRun env r o start maxInProgress processing es = some (q, n, ops))
    (h' : reqRun env r es' (q, n) = some (q', n', ops')) :
    q.resp.body <+: q'.resp.body ∧ (q.resp.bodyFinished = true → q' = q ∧ ops' = []) := by
  obtain ⟨hq, -⟩ := (heads_invariant env r _).listingRun heads_subrequestStart h
  obtain ⟨hbody, hidle⟩ := (body_rel env r).reqRun h'
  refine ⟨hbody, fun hfin ↦ hidle ?_⟩
  cases hctx : q.hctx with
  | none => rfl
  | some p => exact absurd (hq.unfinished p hctx) (by rw [hfin]; decide)

/-- The JSON listing of `/d/`, finished by its start, is left as it is by a later call and a
reset. -/
theorem listingRun_body_finished :
    ∃ q n ops q' n' ops', listingRun plainPageEnv jsonDirRequest okOutcome fileDirStart 1 0 [] =
        some (q, n, ops) ∧
      reqRun plainPageEnv jsonDirRequest [.subrequest okOutcome, .reset] (q, n) = some (q', n', ops') ∧
      q.resp.bodyFinished = true ∧
      q.resp.body <+: q'.resp.body ∧ (q.resp.bodyFinished = true → q' = q ∧ ops' = []) := by
  obtain ⟨⟨q, n, ops⟩, h⟩ := Option.isSome_iff_exists.mp
    (show (listingRun plainPageEnv jsonDirRequest okOutcome fileDirStart 1 0 []).isSome by decide)
  have hnext : ((listingRun plainPageEnv jsonDirRequest okOutcome fileDirStart 1 0 []).bind fun x ↦
      reqRun plainPageEnv jsonDirRequest [.subrequest okOutcome, .reset] (x.1, x.2.1)).isSome := by
    decide
  have hfin : (listingRun plainPageEnv jsonDirRequest okOutcome fileDirStart 1 0 []).any
      (fun x ↦ x.1.resp.bodyFinished) := by decide
  rw [h] at hnext hfin
  obtain ⟨⟨q', n', ops'⟩, h'⟩ := Option.isSome_iff_exists.mp hnext
  exact ⟨q, n, ops, q', n', ops', h, h', hfin, listingRun_body h h'⟩

end Dirlisting
