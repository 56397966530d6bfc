import Dirlisting.CacheFile

/-!
# Serving a published listing

`mod_dirlisting_cache_check` finds the cache file by `cache.path`, `r->physical.path` and the JSON
flag alone: the name `cacheBase` under which `mod_dirlisting_cache_add` and
`mod_dirlisting_cache_stream` publish. `publish` is the cache directory after a request, with the
file the request renamed into place stamped with the time of the rename.

A later request with the same key that finds the file within `max-age` is answered with the body
the publishing request completed, with no scan and no change to `p->processing`
(`modDirlistingSubrequestStart_cacheHit`). The key holds neither `r->uri.path` nor the filters nor
the layout options, so that body need not be the one the later request would render: a request
that hides dot-files is served the listing of one that does not (`listingRun_sharedCacheFile`).
-/

set_option autoImplicit false
set_option relaxedAutoImplicit false

namespace Dirlisting

/-- The `Cache-Control` values of a response. -/
def Response.cacheControl (resp : Response) : List Bytes :=
  (resp.headers.filter fun h ↦ h.1 == lit "Cache-Control").map (·.2)

theorem Response.cacheControl_setHeader (resp : Response) {key : Bytes} (value : Bytes)
    (hkey : key ≠ lit "Cache-Control") : (resp.setHeader key value).cacheControl = resp.cacheControl := by
  simp only [Response.cacheControl, Response.setHeader, List.filter_append, List.filter_filter]
  congr 1
  rw [List.filter_cons_of_neg (by simpa using hkey), List.filter_nil, List.append_nil]
  refine List.filter_congr fun h _ ↦ ?_
  by_cases hh : h.1 = lit "Cache-Control" <;> simp [hh, hkey.symm]

theorem Response.cacheControl_insertHeader (resp : Response) {key : Bytes} (value : Bytes)
    (hkey : key ≠ lit "Cache-Control") : (resp.insertHeader key value).cacheControl = resp.cacheControl := by
  simp [Response.cacheControl, Response.insertHeader, hkey]

theorem Response.cacheControl_unsetHeader (resp : Response) {key : Bytes}
    (hkey : key ≠ lit "Cache-Control") : (resp.unsetHeader key).cacheControl = resp.cacheControl := by
  simp only [Response.cacheControl, Response.unsetHeader, List.filter_filter]
  congr 1
  refine List.filter_congr fun h _ ↦ ?_
  by_cases hh : h.1 = lit "Cache-Control" <;> simp [hh, hkey.symm]

@[simp] theorem Response.cacheControl_bodyFinished (resp : Response) (b : Bool) :
    Response.cacheControl { resp with bodyFinished := b } = resp.cacheControl := rfl

@[simp] theorem Response.cacheControl_body (resp : Response) (body : Bytes) :
    Response.cacheControl { resp with body := body } = resp.cacheControl := rfl

@[simp] theorem Response.append_cacheControl (resp : Response) (data : Bytes) :
    (resp.append data).cacheControl = resp.cacheControl := rfl

@[simp] theorem modDirlistingCacheEtag_cacheControl (resp : Response) (etag : Option Bytes) :
    (modDirlistingCacheEtag resp etag).cacheControl = resp.cacheControl := by
  unfold modDirlistingCacheEtag
  split
  · exact Response.cacheControl_setHeader _ _ (by decide)
  · rfl

@[simp] theorem modDirlistingContentType_cacheControl (resp : Response) (encoding : Option Bytes) :
    (modDirlistingContentType resp encoding).cacheControl = resp.cacheControl :=
  Response.cacheControl_setHeader _ _ (by decide)

@[simp] theorem httpDirlistAutoLayoutEarlyHints_cacheControl (resp : Response) (conf : PluginConfig) :
    (httpDirlistAutoLayoutEarlyHints resp conf).cacheControl = resp.cacheControl := by
  unfold httpDirlistAutoLayoutEarlyHints
  split <;> split <;> simp only [Response.cacheControl_insertHeader _ _ (by decide : lit "Link" ≠ _)]

/-- `mod_dirlisting_cache_control` sets `max-age=` of its argument when the response has no
`Cache-Control` yet, and changes nothing otherwise. -/
theorem modDirlistingCacheControl_cacheControl (resp : Response) (maxAge : Int) :
    (modDirlistingCacheControl resp maxAge).cacheControl =
      if resp.cacheControl = [] then [lit "max-age=" ++ liItostrn maxAge] else resp.cacheControl := by
  have hnil : resp.cacheControl = [] ↔ resp.headers.any (fun h ↦ h.1 == lit "Cache-Control") = false := by
    simp [Response.cacheControl, List.filter_eq_nil_iff]
  unfold modDirlistingCacheControl
  by_cases hany : resp.headers.any (fun h ↦ h.1 == lit "Cache-Control") = true
  · rw [if_pos hany, if_neg (by simp [hnil, hany])]
  · rw [if_neg hany, if_pos (hnil.mpr (Bool.eq_false_iff.mpr hany))]
    simp [Response.cacheControl, Response.setHeader, List.filter_filter]

theorem mem_cacheControl_modDirlistingCacheControl {resp : Response} {maxAge : Int} {v : Bytes}
    (hv : v ∈ (modDirlistingCacheControl resp maxAge).cacheControl) :
    v ∈ resp.cacheControl ∨ v = lit "max-age=" ++ liItostrn maxAge := by
  rw [modDirlistingCacheControl_cacheControl] at hv
  split_ifs at hv
  · exact .inr (List.mem_singleton.mp hv)
  · exact .inl hv

/-- The response after `mod_dirlisting_cache_add`: unchanged, with the `ETag`, or with the `ETag`
and then `mod_dirlisting_cache_control` of the configured `max-age`. -/
theorem modDirlistingCacheAdd_resp (env : PageEnv) (r : Request) (o : StepOutcome) (cache : DirlistCache)
    (resp : Response) : (modDirlistingCacheAdd env r o cache resp).1 ∈ [resp,
      modDirlistingCacheEtag resp o.etag,
      modDirlistingCacheControl (modDirlistingCacheEtag resp o.etag) cache.maxAge] := by
  rw [modDirlistingCacheAdd_eq]
  unfold cacheAddWrite
  dsimp only
  split_ifs <;> (try split) <;> simp

/-- The response after `mod_dirlisting_cache_stream`: unchanged or with the `ETag`, and then maybe
`mod_dirlisting_cache_control` of the configured `max-age`. -/
theorem modDirlistingCacheStream_resp (o : StepOutcome) (cache : DirlistCache) (p : HandlerCtx)
    (resp : Response) : (modDirlistingCacheStream o cache p resp).2.1 ∈ [resp,
      modDirlistingCacheEtag resp o.etag,
      modDirlistingCacheControl resp cache.maxAge,
      modDirlistingCacheControl (modDirlistingCacheEtag resp o.etag) cache.maxAge] := by
  unfold modDirlistingCacheStream
  dsimp only
  split_ifs <;> simp

/-- `mod_dirlisting_cache_add` adds no `Cache-Control` value but `max-age=` of the configured
`max-age`. -/
theorem modDirlistingCacheAdd_cacheControl (env : PageEnv) (r : Request) (o : StepOutcome)
    (cache : DirlistCache) (resp : Response) :
    ∀ v ∈ (modDirlistingCacheAdd env r o cache resp).1.cacheControl,
      v ∈ resp.cacheControl ∨ v = lit "max-age=" ++ liItostrn cache.maxAge := by
  intro v hv
  rcases List.mem_cons.mp (modDirlistingCacheAdd_resp env r o cache resp) with h | h
  · exact .inl (h ▸ hv)
  simp only [List.mem_cons, List.mem_singleton, List.not_mem_nil, or_false] at h
  rcases h with h | h <;> rw [h] at hv
  · exact .inl (by simpa using hv)
  · simpa using mem_cacheControl_modDirlistingCacheControl hv

/-- `mod_dirlisting_cache_stream` adds no `Cache-Control` value but `max-age=` of the configured
`max-age`. -/
theorem modDirlistingCacheStream_cacheControl (o : StepOutcome) (cache : DirlistCache) (p : HandlerCtx)
    (resp : Response) : ∀ v ∈ (modDirlistingCacheStream o cache p resp).2.1.cacheControl,
      v ∈ resp.cacheControl ∨ v = lit "max-age=" ++ liItostrn cache.maxAge := by
  intro v hv
  rcases List.mem_cons.mp (modDirlistingCacheStream_resp o cache p resp) with h | h
  · exact .inl (h ▸ hv)
  simp only [List.mem_cons, List.mem_singleton, List.not_mem_nil, or_false] at h
  rcases h with h | h | h <;> rw [h] at hv
  · exact .inl (by simpa using hv)
  · exact mem_cacheControl_modDirlistingCacheControl hv
  · simpa using mem_cacheControl_modDirlistingCacheControl hv

/-- On a hit `mod_dirlisting_cache_check` adds no `Cache-Control` value but `max-age=` of the
freshness left to the cache file it sends, `st_mtime` plus `max-age` minus `now`, which the
freshness test keeps non-negative. -/
theorem modDirlistingCacheCheck_cacheControl (env : PageEnv) (r : Request) (o : StepOutcome)
    (conf : PluginConfig) (cache : DirlistCache) (entry : Bytes → Option (Int × Bytes)) (now : Int)
    (resp : Response) : ∀ v ∈ (modDirlistingCacheCheck env r o conf cache entry now resp).2.cacheControl,
      v ∈ resp.cacheControl ∨ ∃ mtime content,
        entry (env.pathJoin cache.path r.physicalPath ++
          lit (if conf.json then "dirlist.json" else "dirlist.html")) = some (mtime, content) ∧
        0 ≤ mtime + cache.maxAge - now ∧ v = lit "max-age=" ++ liItostrn (mtime + cache.maxAge - now) := by
  intro v hv
  unfold modDirlistingCacheCheck at hv
  dsimp only at hv
  split at hv
  · exact .inl hv
  rename_i mtime content hentry
  have hct : (if conf.json then resp.setHeader (lit "Content-Type") (lit "application/json")
      else modDirlistingContentType resp conf.encoding).cacheControl = resp.cacheControl := by
    split
    · exact Response.cacheControl_setHeader _ _ (by decide)
    · simp
  generalize (if conf.json then resp.setHeader (lit "Content-Type") (lit "application/json")
    else modDirlistingContentType resp conf.encoding) = resp1 at hv hct
  split_ifs at hv with hstale hfile
  · exact .inl hv
  · rw [← hct, ← @Response.cacheControl_unsetHeader resp1 (lit "Content-Type") (by decide)]
    exact .inl (by simpa using hv)
  all_goals
    have hv' : v ∈ (modDirlistingCacheControl (resp1.append content)
        (mtime + cache.maxAge - now)).cacheControl := by
      dsimp only at hv
      rw [Response.cacheControl_bodyFinished] at hv
      simpa using hv
    rcases mem_cacheControl_modDirlistingCacheControl hv' with h | h
    · exact .inl (by simpa [hct] using h)
    · exact .inr ⟨mtime, content, hentry, by omega, h⟩

/-- The `max-age` of every `Cache-Control` value the module adds: the configured `max-age` when a
listing is published, and on a cache hit the freshness left to the file sent, which is never
negative, and at most the configured `max-age` when the file's `st_mtime` is not after `now`. -/
theorem cacheControl_maxAge :
    (∀ (env : PageEnv) (r : Request) (o : StepOutcome) (conf : PluginConfig) (cache : DirlistCache)
      (entry : Bytes → Option (Int × Bytes)) (now : Int) (resp : Response),
      ∀ v ∈ (modDirlistingCacheCheck env r o conf cache entry now resp).2.cacheControl,
        v ∈ resp.cacheControl ∨ ∃ mtime content,
          entry (env.pathJoin cache.path r.physicalPath ++
            lit (if conf.json then "dirlist.json" else "dirlist.html")) = some (mtime, content) ∧
          v = lit "max-age=" ++ liItostrn (mtime + cache.maxAge - now) ∧ 0 ≤ mtime + cache.maxAge - now ∧
          (mtime ≤ now → mtime + cache.maxAge - now ≤ cache.maxAge)) ∧
    (∀ (env : PageEnv) (r : Request) (o : StepOutcome) (cache : DirlistCache) (resp : Response),
      ∀ v ∈ (modDirlistingCacheAdd env r o cache resp).1.cacheControl,
        v ∈ resp.cacheControl ∨ v = lit "max-age=" ++ liItostrn cache.maxAge) ∧
    (∀ (o : StepOutcome) (cache : DirlistCache) (p : HandlerCtx) (resp : Response),
      ∀ v ∈ (modDirlistingCacheStream o cache p resp).2.1.cacheControl,
        v ∈ resp.cacheControl ∨ v = lit "max-age=" ++ liItostrn cache.maxAge) := by
  refine ⟨fun env r o conf cache entry now resp v hv ↦ ?_, modDirlistingCacheAdd_cacheControl,
    modDirlistingCacheStream_cacheControl⟩
  obtain h | ⟨mtime, content, hentry, hpos, hv⟩ := modDirlistingCacheCheck_cacheControl env r o conf cache entry
    now resp v hv
  · exact .inl h
  · exact .inr ⟨mtime, content, hentry, hv, hpos, fun _ ↦ by omega⟩

/-- Two JSON requests for `/d/`: with a configured `max-age` of 15 and a cache file whose `st_mtime`
lies 10 s after the clock, as after the clock stepped back, the hit is answered with `max-age=25`;
with a configured `max-age` of -1, which `mod_dirlisting_parse_cache` accepts, the listing is
published with `max-age=-1`. -/
theorem listingRun_maxAgeOutOfRange :
    (listingRun plainPageEnv dirRequest okOutcome
        { cachedJsonStart with
          conf := { cachedJsonStart.conf with cache := some ⟨15, lit "/c"⟩ }
          entry := fun _ ↦ some (10, []) } 1 0 []).map (·.1.resp.cacheControl) =
      some [lit "max-age=25"] ∧
    (listingRun plainPageEnv dirRequest okOutcome
        { cachedJsonStart with conf := { cachedJsonStart.conf with cache := some ⟨-1, lit "/c"⟩ } } 1 0 []).map
        (·.1.resp.cacheControl) = some [lit "max-age=-1"] := by
  decide

end Dirlisting
