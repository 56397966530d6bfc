import Dirlisting.Request

/-!
# The sorted HTML listing

In the sorted mode the dispatch of `http_read_directory` only collects the kept records into
`hctx->dirs` and `hctx->files`; once a call returns `HANDLER_FINISHED`, `mod_dirlisting_response`
sorts both stores with `http_dirls_sort` and appends the header, the directory rows, the file rows
and the footer.

`SortedPage` is that page as the spec words it: the rows of the kept directories and then those of
the kept files, each in strictly increasing `strcmp` order of names (`NameOrder`). When every spill
of `http_list_directory` succeeds and no kept file reports a negative size, the calls end and the
page is `SortedPage`, the same for every permutation of the stream (`sortedListing_body`). A failed
spill ends the loop that made it and a failed last spill is ignored, so a listing of more than 256
records can lose its rows (`sortedListing_manyDirs`).
-/

set_option autoImplicit false
set_option relaxedAutoImplicit false

namespace Dirlisting

/-! ### Name order -/

/-- `out` holds the records of `src`, each once, in strictly increasing `strcmp` order of names. -/
structure NameOrder (out src : List DirlsEntry) : Prop where
  perm : out.Perm src
  sorted : out.Sorted NameLt

theorem NameOrder.unique {out out' src : List DirlsEntry} (h : NameOrder out src)
    (h' : NameOrder out' src) : out = out' :=
  List.eq_of_perm_of_sorted (h.perm.trans h'.perm.symm) h.sorted h'.sorted

theorem NameOrder.of_perm {out src src' : List DirlsEntry} (h : NameOrder out src)
    (hsrc : src.Perm src') : NameOrder out src' :=
  ⟨h.perm.trans hsrc, h.sorted⟩

/-- The stores as `http_list_directory` renders them: sorted when not empty. -/
theorem nameOrder_sortStore {ent : Array DirlsEntry} (hdistinct : (ent.toList.map DirlsEntry.name).Nodup) :
    NameOrder (if ent.size ≠ 0 then httpDirlsSort ent else ent).toList ent.toList := by
  split_ifs with hsize
  · exact ⟨httpDirlsSort_perm ent, httpDirlsSort_strictly_sorted hdistinct⟩
  · have hnil : ent.toList = [] := List.eq_nil_of_length_eq_zero (by simpa using hsize)
    rw [hnil]
    exact ⟨List.Perm.refl _, List.sorted_nil⟩

/-! ### The kept records of a stream -/

/-- The kept directories of a stream, in stream order. -/
def keptDirs (conf : PluginConfig) (nameMax : Nat) (stream : List RawEnt) : List DirlsEntry :=
  ((stream.filterMap (keptEntry conf nameMax)).filter (·.2)).map (·.1)

/-- The kept non-directories of a stream, in stream order. -/
def keptFiles (conf : PluginConfig) (nameMax : Nat) (stream : List RawEnt) : List DirlsEntry :=
  ((stream.filterMap (keptEntry conf nameMax)).filter (!·.2)).map (·.1)

theorem keptEntry_name {conf : PluginConfig} {nameMax : Nat} {raw : RawEnt} {e : DirlsEntry × Bool}
    (h : keptEntry conf nameMax raw = some e) : e.1.name = raw.name := by
  unfold keptEntry at h
  split_ifs at h
  obtain ⟨st, -, rfl⟩ := Option.map_eq_some'.mp h
  rfl

/-- The records kept from a stream of pairwise distinct names have pairwise distinct names, whatever
part of them is selected. -/
theorem nodup_kept_names {conf : PluginConfig} {nameMax : Nat} {stream : List RawEnt}
    (hdistinct : (stream.map RawEnt.name).Nodup) (sel : DirlsEntry × Bool → Bool) :
    ((((stream.filterMap (keptEntry conf nameMax)).filter sel).map (·.1)).map DirlsEntry.name).Nodup := by
  rw [List.Nodup, List.pairwise_map] at hdistinct
  rw [List.Nodup, List.map_map, List.pairwise_map]
  refine (hdistinct.filterMap _ fun a b hab e he e' he' ↦ ?_).filter sel
  rw [Function.comp, Function.comp, keptEntry_name he, keptEntry_name he']
  exact hab

theorem keptDirs_perm {conf : PluginConfig} {nameMax : Nat} {stream stream' : List RawEnt}
    (h : stream'.Perm stream) : (keptDirs conf nameMax stream').Perm (keptDirs conf nameMax stream) :=
  ((h.filterMap _).filter _).map _

theorem keptFiles_perm {conf : PluginConfig} {nameMax : Nat} {stream stream' : List RawEnt}
    (h : stream'.Perm stream) : (keptFiles conf nameMax stream').Perm (keptFiles conf nameMax stream) :=
  ((h.filterMap _).filter _).map _

/-! ### The scan -/

/-- A handler of the sorted HTML mode as `http_open_directory` leaves it for `stream`: the stores
empty and neither stream buffer set. -/
structure SortedStart (p : HandlerCtx) (stream : List RawEnt) : Prop where
  dp : p.dp = some stream
  jb : p.jb = none
  hb : p.hb = none
  dirs : p.dirs.ent = #[]
  files : p.files.ent = #[]
  json : p.conf.json = false
  sort : p.conf.sort = true

theorem SortedStart.withStream {p : HandlerCtx} {stream : List RawEnt} (h : SortedStart p stream)
    (stream' : List RawEnt) : SortedStart { p with dp := some stream' } stream' :=
  ⟨rfl, h.jb, h.hb, h.dirs, h.files, h.json, h.sort⟩

/-- The handler at the end of the sorted scan of `stream`: the stream closed and the kept records
appended to the stores by type, in stream order. -/
def sortedScan (p : HandlerCtx) (stream : List RawEnt) : HandlerCtx :=
  { p with
    dp := none
    dirs := p.dirs.appendAll (keptDirs p.conf p.nameMax stream)
    files := p.files.appendAll (keptFiles p.conf p.nameMax stream) }

@[simp] theorem sortedScan_conf (p : HandlerCtx) (stream : List RawEnt) :
    (sortedScan p stream).conf = p.conf :=
  rfl

theorem SortedStart.dirs_sortedScan {p : HandlerCtx} {stream : List RawEnt} (hp : SortedStart p stream) :
    (sortedScan p stream).dirs.ent.toList = keptDirs p.conf p.nameMax stream := by
  simp [sortedScan, hp.dirs]

theorem SortedStart.files_sortedScan {p : HandlerCtx} {stream : List RawEnt} (hp : SortedStart p stream) :
    (sortedScan p stream).files.ent.toList = keptFiles p.conf p.nameMax stream := by
  simp [sortedScan, hp.files]

/-- The calls of `http_read_directory` of the sorted mode end in `sortedScan`. -/
theorem readDirectoryCalls_sorted (env : RenderEnv) {p : HandlerCtx} {stream : List RawEnt}
    (hp : SortedStart p stream) :
    ∃ calls, readDirectoryCalls env (stream.length / dirlistBatch + 1) p = some (sortedScan p stream, calls) ∧
      calls.getLast?.map Prod.fst = some .finished := by
  obtain ⟨calls, hcalls, hrcs, -⟩ :=
    readDirectoryCalls_eq env hp.dp (dispatchAll_sorted env hp.jb hp.hb _)
  refine ⟨calls, hcalls, ?_⟩
  rw [← List.getLast?_map, hrcs, List.getLast?_concat]

/-! ### The page -/

/-- When every spill succeeds, `mod_dirlisting_response` renders the sorted stores. -/
theorem modDirlistingResponse_allOk (env : PageEnv) (r : Request) {o : PageOutcome}
    (hok : ∀ k, o.list.spill k = .ok) (p : HandlerCtx) :
    modDirlistingResponse env r p o =
      ((if p.files.ent.size ≠ 0 then httpDirlsSort p.files.ent else p.files.ent).toList.mapM
          (httpListDirectoryFilename env.toRenderEnv)).map fun rows ↦
        httpListDirectoryHeader env r p.conf o.headerSpill ++
          ((if p.dirs.ent.size ≠ 0 then httpDirlsSort p.dirs.ent else p.dirs.ent).toList.map
            (httpListDirectoryDirname env.toRenderEnv)).flatten ++ rows.flatten ++
          httpListDirectoryFooter env r p.conf o.readmeSpill := by
  have hlist : o.list = ⟨o.list.spillDue, fun _ ↦ .ok⟩ := by rw [← funext hok]
  rw [modDirlistingResponse, hlist, httpListDirectory_allOk, Option.map_map]
  simp [Function.comp_def]

theorem mapM_httpListDirectoryFilename (env : RenderEnv) {ents : List DirlsEntry}
    (hsize : ∀ e ∈ ents, 0 ≤ e.size) : ∃ rows, ents.mapM (httpListDirectoryFilename env) = some rows := by
  induction ents with
  | nil => exact ⟨[], rfl⟩
  | cons e rest ih =>
    obtain ⟨row, hrow⟩ := Option.isSome_iff_exists.mp
      (httpListDirectoryFilename_isSome env (hsize e (List.mem_cons_self _ _)))
    obtain ⟨rows, hrows⟩ := ih fun e he ↦ hsize e (List.mem_cons_of_mem _ he)
    exact ⟨row :: rows, by rw [List.mapM_cons, hrow, hrows]; rfl⟩

/-- The page of the spec for a handler `p` that scanned `stream`: the header, the rows of the kept
directories and then those of the kept files, each in strictly increasing `strcmp` order of names,
and the footer. -/
def SortedPage (env : PageEnv) (r : Request) (o : PageOutcome) (p : HandlerCtx) (stream : List RawEnt)
    (page : Bytes) : Prop :=
  ∃ dirs files fileRows, NameOrder dirs (keptDirs p.conf p.nameMax stream) ∧
    NameOrder files (keptFiles p.conf p.nameMax stream) ∧
    files.mapM (httpListDirectoryFilename env.toRenderEnv) = some fileRows ∧
    page = httpListDirectoryHeader env r p.conf o.headerSpill ++
      (dirs.map (httpListDirectoryDirname env.toRenderEnv)).flatten ++ fileRows.flatten ++
      httpListDirectoryFooter env r p.conf o.readmeSpill

/-- The name order of the kept records fixes the page. -/
theorem SortedPage.unique {env : PageEnv} {r : Request} {o : PageOutcome} {p : HandlerCtx}
    {stream stream' : List RawEnt} {page page' : Bytes} (hperm : stream'.Perm stream)
    (h : SortedPage env r o p stream page) (h' : SortedPage env r o p stream' page') : page' = page := by
  obtain ⟨dirs, files, rows, hdirs, hfiles, hrows, rfl⟩ := h
  obtain ⟨dirs', files', rows', hdirs', hfiles', hrows', rfl⟩ := h'
  obtain rfl := (hdirs'.of_perm (keptDirs_perm hperm)).unique hdirs
  obtain rfl := (hfiles'.of_perm (keptFiles_perm hperm)).unique hfiles
  obtain rfl := Option.some.inj (hrows'.symm.trans hrows)
  rfl

/-- The page of a sorted scan of pairwise distinct names, when every spill succeeds and no kept
file reports a negative size. -/
theorem sortedScan_page (env : PageEnv) (r : Request) (o : PageOutcome) {p : HandlerCtx}
    {stream : List RawEnt} (hp : SortedStart p stream) (hdistinct : (stream.map RawEnt.name).Nodup)
    (hok : ∀ k, o.list.spill k = .ok) (hsize : ∀ e ∈ keptFiles p.conf p.nameMax stream, 0 ≤ e.size) :
    ∃ page, modDirlistingResponse env r (sortedScan p stream) o = some page ∧
      SortedPage env r o p stream page := by
  have hdirs := @nameOrder_sortStore (sortedScan p stream).dirs.ent
    (by rw [hp.dirs_sortedScan]; exact nodup_kept_names hdistinct (·.2))
  have hfiles := @nameOrder_sortStore (sortedScan p stream).files.ent
    (by rw [hp.files_sortedScan]; exact nodup_kept_names hdistinct (!·.2))
  rw [hp.dirs_sortedScan] at hdirs
  rw [hp.files_sortedScan] at hfiles
  obtain ⟨rows, hrows⟩ := mapM_httpListDirectoryFilename env.toRenderEnv
    fun e he ↦ hsize e (hfiles.perm.subset he)
  refine ⟨_, ?_, _, _, rows, hdirs, hfiles, hrows, rfl⟩
  rw [modDirlistingResponse_allOk env r hok, hrows]
  rfl

theorem sortedListing_body (env : PageEnv) (r : Request) (o : PageOutcome) {p : HandlerCtx}
    {stream : List RawEnt} (hp : SortedStart p stream) (hdistinct : (stream.map RawEnt.name).Nodup)
    (hok : ∀ k, o.list.spill k = .ok) (hsize : ∀ e ∈ keptFiles p.conf p.nameMax stream, 0 ≤ e.size) :
    ∃ q calls page, readDirectoryCalls env.toRenderEnv (stream.length / dirlistBatch + 1) p =
        some (q, calls) ∧ calls.getLast?.map Prod.fst = some .finished ∧
      modDirlistingResponse env r q o = some page ∧ SortedPage env r o p stream page ∧
      ∀ stream', stream'.Perm stream → ∃ q' calls',
        readDirectoryCalls env.toRenderEnv (stream'.length / dirlistBatch + 1) { p with dp := some stream' } =
          some (q', calls') ∧ modDirlistingResponse env r q' o = some page := by
  obtain ⟨calls, hcalls, hlast⟩ := readDirectoryCalls_sorted env.toRenderEnv hp
  obtain ⟨page, hresp, hpage⟩ := sortedScan_page env r o hp hdistinct hok hsize
  refine ⟨_, calls, page, hcalls, hlast, hresp, hpage, fun stream' hperm ↦ ?_⟩
  obtain ⟨calls', hcalls', -⟩ := readDirectoryCalls_sorted env.toRenderEnv (hp.withStream stream')
  obtain ⟨page', hresp', hpage'⟩ := sortedScan_page env r o (hp.withStream stream')
    ((hperm.map _).nodup_iff.mpr hdistinct) hok fun e he ↦ hsize e ((keptFiles_perm hperm).subset he)
  exact ⟨_, calls', hcalls', hresp'.trans (congrArg some (hpage.unique hperm hpage'))⟩

/-- A file `b` of five bytes and a directory `a`. -/
def mixedDir : List RawEnt := [⟨lit "b", some ⟨false, 5, 0⟩⟩, ⟨lit "a", some ⟨true, 0, 0⟩⟩]

theorem sortedListing_body_mixedDir :
    SortedStart (openedCtx 4086 (some mixedDir)) mixedDir ∧ (mixedDir.map RawEnt.name).Nodup ∧
      (∀ k, okOutcome.page.list.spill k = .ok) ∧
      (∀ e ∈ keptFiles (openedCtx 4086 none).conf 4086 mixedDir, 0 ≤ e.size) ∧
      ∃ q calls page, readDirectoryCalls plainPageEnv.toRenderEnv (mixedDir.length / dirlistBatch + 1)
          (openedCtx 4086 (some mixedDir)) = some (q, calls) ∧ calls.getLast?.map Prod.fst = some .finished ∧
        modDirlistingResponse plainPageEnv dirRequest q okOutcome.page = some page ∧
        SortedPage plainPageEnv dirRequest okOutcome.page (openedCtx 4086 (some mixedDir)) mixedDir page ∧
        ∀ stream', stream'.Perm mixedDir → ∃ q' calls',
          readDirectoryCalls plainPageEnv.toRenderEnv (stream'.length / dirlistBatch + 1)
            { openedCtx 4086 (some mixedDir) with dp := some stream' } = some (q', calls') ∧
          modDirlistingResponse plainPageEnv dirRequest q' okOutcome.page = some page :=
  ⟨⟨rfl, rfl, rfl, rfl, rfl, rfl, rfl⟩, by decide, fun _ ↦ rfl, by decide,
    sortedListing_body plainPageEnv dirRequest okOutcome.page ⟨rfl, rfl, rfl, rfl, rfl, rfl, rfl⟩ (by decide)
      (fun _ ↦ rfl) (by decide)⟩

/-! ### Failed spills -/

/-- Every spill of the listing fails before writing anything, one being due after every row. -/
def failedSpills : ListOutcome := ⟨fun _ ↦ true, fun _ ↦ .fail 0⟩

/-- With more than 256 directories and no file, a listing whose spills all fail queues nothing: the
first failure ends the directory loop, and the last spill fails too. -/
theorem httpListDirectory_failedSpills (env : RenderEnv) {dirs : Array DirlsEntry}
    (hmany : 256 < dirs.size) : httpListDirectory env failedSpills dirs #[] = some [] := by
  have hlen : (httpDirlsSort dirs).toList.length = dirs.size := by
    rw [(httpDirlsSort_perm dirs).length_eq, Array.length_toList]
  obtain ⟨d, ds, hd⟩ := List.exists_cons_of_length_pos (show 0 < (httpDirlsSort dirs).toList.length by omega)
  have hds : 255 < ds.length := by
    have := congrArg List.length hd
    simp only [List.length_cons] at this
    omega
  simp [httpListDirectory, show dirs.size ≠ 0 by omega, hd, hds, spillRows, failedSpills,
    SpillOutcome.queued]

/-- A directory of 257 subdirectories `a`, `aa`, `aaa` and so on. -/
def manyDirs : List RawEnt :=
  (List.range 257).map fun i ↦ ⟨List.replicate (i + 1) 97, some ⟨true, 0, 0⟩⟩

theorem keptEntries_manyDirs : manyDirs.filterMap (keptEntry (openedCtx 4086 none).conf 4086) =
    manyDirs.map fun raw ↦ (mkEntry raw.name ⟨true, 0, 0⟩, true) := by
  rw [List.filterMap_eq_map_iff_forall_eq_some]
  intro raw hraw
  obtain ⟨i, hi, rfl⟩ := List.mem_map.mp hraw
  have hi : i < 257 := List.mem_range.mp hi
  simp [keptEntry, httpReadDirectorySkip, openedCtx, PluginConfig.defaults, List.replicate_succ]
  omega

/-- The sorted listing of `manyDirs` with every spill failing appends no row: the page is the header
and the footer, while the stores hold the 257 kept directories. -/
theorem sortedListing_manyDirs :
    (manyDirs.map RawEnt.name).Nodup ∧ ∃ q calls,
      readDirectoryCalls plainPageEnv.toRenderEnv (manyDirs.length / dirlistBatch + 1)
        (openedCtx 4086 (some manyDirs)) = some (q, calls) ∧ q.dirs.ent.size = 257 ∧
      modDirlistingResponse plainPageEnv dirRequest q ⟨fun _ ↦ .ok, failedSpills, fun _ ↦ .ok⟩ =
        some (httpListDirectoryHeader plainPageEnv dirRequest q.conf (fun _ ↦ .ok) ++
          httpListDirectoryFooter plainPageEnv dirRequest q.conf (fun _ ↦ .ok)) := by
  have hnodup : (manyDirs.map RawEnt.name).Nodup := by
    rw [manyDirs, List.map_map]
    exact (List.nodup_range 257).map fun i j h ↦ by
      simpa using congrArg List.length h
  have hstart : SortedStart (openedCtx 4086 (some manyDirs)) manyDirs := ⟨rfl, rfl, rfl, rfl, rfl, rfl, rfl⟩
  obtain ⟨calls, hcalls, -⟩ := readDirectoryCalls_sorted plainPageEnv.toRenderEnv hstart
  have hsize : (keptDirs (openedCtx 4086 none).conf 4086 manyDirs).length = 257 := by
    rw [keptDirs, keptEntries_manyDirs, List.filter_eq_self.mpr (by simp), List.length_map, List.length_map,
      manyDirs, List.length_map, List.length_range]
  have hfiles : keptFiles (openedCtx 4086 none).conf 4086 manyDirs = [] := by
    rw [keptFiles, keptEntries_manyDirs, List.filter_eq_nil_iff.mpr (by simp)]
    rfl
  have hstore : (sortedScan (openedCtx 4086 (some manyDirs)) manyDirs).dirs.ent.size = 257 := by
    rw [← Array.length_toList, hstart.dirs_sortedScan]
    exact hsize
  have hnofiles : (sortedScan (openedCtx 4086 (some manyDirs)) manyDirs).files.ent = #[] := by
    exact Array.ext' (hstart.files_sortedScan.trans hfiles)
  refine ⟨hnodup, _, calls, hcalls, hstore, ?_⟩
  rw [modDirlistingResponse, hnofiles, httpListDirectory_failedSpills _ (by omega), Option.map_some',
    List.append_nil]

end Dirlisting
