import Dirlisting.Request

/-!
# The cache file of a listing request

With `dir-listing.cache` set, a streaming listing writes its body to a temporary file as it goes
(`mod_dirlisting_cache_stream_init`, `mod_dirlisting_stream_append`,
`mod_dirlisting_cache_stream_append_cq`) and renames it at the end (`mod_dirlisting_cache_stream`),
while a sorted listing writes the finished body at once (`mod_dirlisting_cache_add`). A failed write,
a chunked response or `mod_dirlisting_handler_ctx_free` gives the file up.

`CacheFile.step` is the life of one temporary file as the file system sees it, and `CacheFile.run`
replays the operations of a run on it. `ReqFile` relates the state of a request to its file. Every
step keeps it, so over every run of `listingRun` the operations replay, `hctx->jfn` is set exactly
when `hctx->jfd` is open, no file is left open or under its temporary name once the request is gone,
and a renamed file holds the body under the cache name (`listingRun_cacheFile`). The law is about
the runs that return; `Dirlisting.Termination` shows which do, and the file a run that does not
return leaves open.
-/

set_option autoImplicit false
set_option relaxedAutoImplicit false

namespace Dirlisting

/-! ### The life of a temporary file -/

/-- One temporary cache file: not created yet, open on a descriptor with the bytes written so far
and whether every write succeeded, closed under its temporary name, renamed, or unlinked. -/
inductive CacheFile
  | absent
  | opened (name : Bytes) (fd : Int) (content : Bytes) (clean : Bool)
  | closed (name : Bytes) (content : Bytes) (clean : Bool)
  | renamed (name : Bytes) (content : Bytes) (clean : Bool)
  | unlinked
  deriving DecidableEq, Repr

/-- The file is created once, written, closed once, and then renamed or unlinked once; a failed
rename leaves it closed. An operation out of this order is `none`, and the operations on the
directory and the `mkdir` of the cache directory leave the file alone. -/
def CacheFile.step : CacheFile → Op → Option CacheFile
  | .absent, .mkostemp name fd => some (.opened name fd [] true)
  | .opened name fd content clean, .write fd' data ok =>
    if fd' = fd then some (.opened name fd (content ++ data) (clean && ok)) else none
  | .opened name fd content clean, .close fd' =>
    if fd' = fd then some (.closed name content clean) else none
  | .closed name content clean, .rename src dst ok =>
    if src = name then some (if ok then .renamed dst content clean else .closed name content clean)
    else none
  | .closed name _ _, .unlink path => if path = name then some .unlinked else none
  | f, .mkdir _ => some f
  | f, op => if op.onDirectory then some f else none

/-- The file after a list of operations, `none` when one of them is out of order. -/
def CacheFile.run : CacheFile → List Op → Option CacheFile
  | f, [] => some f
  | f, op :: ops => (f.step op).bind fun f ↦ f.run ops

/-- A file still open or still under its temporary name. -/
def CacheFile.pending : CacheFile → Bool
  | .opened .. | .closed .. => true
  | _ => false

namespace CacheFile

@[simp] theorem run_nil (f : CacheFile) : f.run [] = some f := rfl

@[simp] theorem run_cons (f : CacheFile) (op : Op) (ops : List Op) :
    f.run (op :: ops) = (f.step op).bind fun f ↦ f.run ops := rfl

@[simp] theorem step_mkostemp (name : Bytes) (fd : Int) :
    absent.step (.mkostemp name fd) = some (.opened name fd [] true) := rfl

@[simp] theorem step_write (name : Bytes) (fd : Int) (content data : Bytes) (clean ok : Bool) :
    (opened name fd content clean).step (.write fd data ok) =
      some (.opened name fd (content ++ data) (clean && ok)) := if_pos rfl

@[simp] theorem step_close (name : Bytes) (fd : Int) (content : Bytes) (clean : Bool) :
    (opened name fd content clean).step (.close fd) = some (.closed name content clean) := if_pos rfl

@[simp] theorem step_rename (name dst content : Bytes) (clean ok : Bool) :
    (closed name content clean).step (.rename name dst ok) =
      some (if ok then .renamed dst content clean else .closed name content clean) := if_pos rfl

@[simp] theorem step_unlink (name content : Bytes) (clean : Bool) :
    (closed name content clean).step (.unlink name) = some .unlinked := if_pos rfl

theorem run_append (f : CacheFile) (a b : List Op) :
    f.run (a ++ b) = (f.run a).bind fun f ↦ f.run b := by
  induction a generalizing f with
  | nil => rfl
  | cons op ops ih => simp only [List.cons_append, run_cons, ih, Option.bind_assoc]

@[simp] theorem step_mkdir (f : CacheFile) (path : Bytes) : f.step (.mkdir path) = some f := by
  cases f <;> rfl

/-- The `mkdir` calls that create the cache directory leave the file alone. -/
theorem run_cacheDirReady (f : CacheFile) {env : PageEnv} {r : Request} {o : StepOutcome}
    {cache : DirlistCache} (ops : List Op) :
    f.run ((cacheDirReady env r o cache).2 ++ ops) = f.run ops := by
  obtain ⟨paths, h⟩ := cacheDirReady_mkdirs env r o cache
  rw [h]
  clear h
  induction paths with
  | nil => rfl
  | cons path paths ih => rw [List.map_cons, List.cons_append, run_cons, step_mkdir, Option.some_bind, ih]

theorem step_onDirectory (f : CacheFile) {op : Op} (h : op.onDirectory) : f.step op = some f := by
  cases op <;> simp only [Op.onDirectory, Bool.false_eq_true] at h <;> cases f <;> rfl

theorem run_onDirectory (f : CacheFile) {ops : List Op} (h : ∀ op ∈ ops, op.onDirectory) :
    f.run ops = some f := by
  induction ops with
  | nil => rfl
  | cons op ops ih =>
    rw [run_cons, step_onDirectory f (h op (List.mem_cons_self _ _)), Option.some_bind]
    exact ih fun op hop ↦ h op (List.mem_cons_of_mem _ hop)

end CacheFile

/-- The name a listing is cached under: the cache directory joined with the physical path, then
`dirlist.json` or `dirlist.html`; `none` without a cache. -/
def cacheBase (env : PageEnv) (r : Request) (conf : PluginConfig) : Option Bytes :=
  conf.cache.map fun cache ↦
    env.pathJoin cache.path r.physicalPath ++ lit (if conf.json then "dirlist.json" else "dirlist.html")

/-! ### The invariant -/

section Invariant

variable (env : PageEnv) (r : Request) (conf : PluginConfig)

/-- The cache file of a streaming handler whose body so far is `body`: none, with
`hctx->jfn == NULL` and `hctx->jfd == -1`, or open on `hctx->jfd` under the name `hctx->jfn`, a
temporary name for the cache name, with every write successful and the body as content. -/
def StreamFile (p : HandlerCtx) (body : Bytes) : CacheFile → Prop
  | .absent | .unlinked => p.jfn = none ∧ p.jfd = -1
  | .opened name fd content clean => p.jfn = some name ∧ p.jfd = fd ∧ fd ≠ -1 ∧ clean = true ∧
      content = body ∧ some (name.take (name.length - 7)) = cacheBase env r conf
  | _ => False

/-- The cache file of a handler of the request: `StreamFile` in the streaming modes, none yet in the
sorted mode. -/
def HandlerFile (p : HandlerCtx) (body : Bytes) (f : CacheFile) : Prop :=
  p.conf = conf ∧ p.jb.isSome = conf.json ∧
    if p.streaming then StreamFile env r conf p body f else f = .absent

/-- The cache file once the request has no handler: none, unlinked, or renamed to the cache name
after `HANDLER_FINISHED`, every write to it successful and the body as content. -/
def Settled (resp : Response) : CacheFile → Prop
  | .absent | .unlinked => True
  | .renamed name content clean => clean = true ∧ content = resp.body ∧ resp.bodyFinished = true ∧
      some name = cacheBase env r conf
  | _ => False

/-- The invariant of a listing request and its cache file between two steps. -/
def ReqFile (q : Req) (f : CacheFile) : Prop :=
  match q.hctx with
  | some p => HandlerFile env r conf p q.resp.body f
  | none => Settled env r conf q.resp f

variable {env r conf}

theorem StreamFile.of_gone {p : HandlerCtx} {body : Bytes} {f : CacheFile}
    (hf : f = .absent ∨ f = .unlinked) (hjfn : p.jfn = none) (hjfd : p.jfd = -1) :
    StreamFile env r conf p body f := by
  rcases hf with rfl | rfl <;> exact ⟨hjfn, hjfd⟩

theorem StreamFile.of_jfn_none {p : HandlerCtx} {body : Bytes} {f : CacheFile}
    (hf : StreamFile env r conf p body f) (hjfn : p.jfn = none) :
    (f = .absent ∨ f = .unlinked) ∧ p.jfd = -1 := by
  cases f <;> simp_all [StreamFile]

theorem StreamFile.of_jfn_some {p : HandlerCtx} {body name : Bytes} {f : CacheFile}
    (hf : StreamFile env r conf p body f) (hjfn : p.jfn = some name) :
    f = .opened name p.jfd body true ∧ p.jfd ≠ -1 ∧
      some (name.take (name.length - 7)) = cacheBase env r conf := by
  cases f <;> simp_all [StreamFile]

theorem StreamFile.of_jfd {p : HandlerCtx} {body : Bytes} {f : CacheFile}
    (hf : StreamFile env r conf p body f) (hjfd : p.jfd = -1) :
    (f = .absent ∨ f = .unlinked) ∧ p.jfn = none := by
  cases f with
  | opened name fd content clean =>
    obtain ⟨-, hfd, hne, -⟩ := hf
    exact absurd (hfd.symm.trans hjfd) hne
  | _ => simp_all [StreamFile]

theorem StreamFile.congr {p p' : HandlerCtx} {body : Bytes} {f : CacheFile}
    (hjfn : p'.jfn = p.jfn) (hjfd : p'.jfd = p.jfd) (hf : StreamFile env r conf p body f) :
    StreamFile env r conf p' body f := by
  cases f <;> simp only [StreamFile, hjfn, hjfd] at hf ⊢ <;> exact hf

/-- `hctx->jfn` is set exactly when `hctx->jfd` is open. -/
theorem StreamFile.jfn_isSome_iff {p : HandlerCtx} {body : Bytes} {f : CacheFile}
    (hf : StreamFile env r conf p body f) : p.jfn.isSome ↔ p.jfd ≠ -1 := by
  cases f <;> simp_all [StreamFile]

/-! ### The operations on the file -/

/-- `mod_dirlisting_stream_append` keeps the file of a streaming handler: the flushed bytes go to
the body and, while the file is open, to the file; a failed write gives the file up. -/
theorem StreamFile.streamAppend {p p' : HandlerCtx} {resp resp' : Response} {ops : List Op}
    {f : CacheFile} {ok fin : Bool} (hs : p.streaming = true)
    (hf : StreamFile env r conf p resp.body f)
    (h : modDirlistingStreamAppend ok fin p resp = (p', resp', ops)) :
    ∃ f', f.run ops = some f' ∧ StreamFile env r conf p' resp'.body f' ∧ SameMode p p' := by
  unfold modDirlistingStreamAppend at h
  by_cases hsmall : (!fin && decide (p.streamBuf.length < 16384 - 1024)) = true
  · rw [if_pos hsmall] at h
    cases h
    exact ⟨f, rfl, hf, .refl p⟩
  rw [if_neg hsmall] at h
  cases hjfn : p.jfn with
  | none =>
    rw [hjfn] at h
    cases h
    obtain ⟨hgone, hjfd⟩ := hf.of_jfn_none hjfn
    exact ⟨f, rfl, .of_gone hgone (by simp [hjfn]) (by simp [hjfd]), p.sameMode_clearStream hs⟩
  | some name =>
    rw [hjfn] at h
    obtain ⟨rfl, hne, hbase⟩ := hf.of_jfn_some hjfn
    cases ok <;> cases h
    · exact ⟨.unlinked, by simp,
        .of_gone (.inr rfl) (by simp [HandlerCtx.dropCacheFile]) (by simp [HandlerCtx.dropCacheFile]),
        p.sameMode_dropCacheFile.trans (HandlerCtx.sameMode_clearStream hs)⟩
    · exact ⟨.opened name p.jfd (resp.body ++ p.streamBuf) true, by simp,
        ⟨by simp [hjfn], by simp, hne, rfl, rfl, hbase⟩, p.sameMode_clearStream hs⟩

/-- `mod_dirlisting_cache_stream_append_cq` keeps the file of a streaming handler: the bytes `cq`
go to the open file, which a chunked response or a failed write gives up. -/
theorem StreamFile.appendCq {p p' : HandlerCtx} {body cq : Bytes} {ops : List Op} {f : CacheFile}
    {chunked ok : Bool} (hf : StreamFile env r conf p body f)
    (h : modDirlistingCacheStreamAppendCq chunked ok cq p = (p', ops)) :
    ∃ f', f.run ops = some f' ∧ StreamFile env r conf p' (body ++ cq) f' ∧ SameMode p p' := by
  unfold modDirlistingCacheStreamAppendCq at h
  split_ifs at h with hskip hwrite <;> cases h
  · refine ⟨f, rfl, ?_, .refl p⟩
    rcases hskip with rfl | hjfd
    · simpa using hf
    · obtain ⟨hgone, hjfn⟩ := hf.of_jfd hjfd
      exact .of_gone hgone hjfn hjfd
  all_goals
    obtain ⟨name, hjfn⟩ := Option.isSome_iff_exists.mp
      (hf.jfn_isSome_iff.mpr (not_or.mp hskip).2)
    obtain ⟨rfl, hne, hbase⟩ := hf.of_jfn_some hjfn
  · exact ⟨.opened name p.jfd (body ++ cq) true, by simp,
      ⟨hjfn, rfl, hne, rfl, rfl, hbase⟩, .refl p⟩
  all_goals exact ⟨.unlinked, by simp [hjfn], .of_gone (.inr rfl) rfl rfl,
    p.sameMode_dropCacheFile⟩

/-- Once the cache directory is there, `mod_dirlisting_cache_stream_init` creates the file of a
streaming handler under a temporary name for the cache name and, in HTML mode, copies the header
already in the body to it. -/
theorem StreamFile.create {o : StepOutcome} {cache : DirlistCache} {ready : Bool}
    {p p' : HandlerCtx} {resp : Response} {ops : List Op} (hcache : conf.cache = some cache)
    (hjson : p.jb.isSome = conf.json) (hjfn : p.jfn = none) (hjfd : p.jfd = -1)
    (hbody : p.hb.isSome = false → resp.body = [])
    (h : cacheStreamCreate env r o cache ready p resp = (p', ops)) :
    ∃ f', CacheFile.absent.run ops = some f' ∧ StreamFile env r conf p' resp.body f' ∧
      SameMode p p' := by
  unfold cacheStreamCreate at h
  by_cases hdir : (!ready) = true
  · rw [if_pos hdir] at h
    cases h
    exact ⟨.absent, rfl, ⟨hjfn, hjfd⟩, .refl p⟩
  rw [if_neg hdir] at h
  cases ht : o.tempFile with
  | none =>
    rw [ht] at h
    cases h
    exact ⟨.absent, rfl, ⟨hjfn, hjfd⟩, .refl p⟩
  | some t =>
    rw [ht] at h
    simp only at h
    set base := env.pathJoin cache.path r.physicalPath ++
      lit (if p.jb.isSome = true then "dirlist.json" else "dirlist.html") with hbase
    set p1 : HandlerCtx := { p with jfd := t.fd, jfn := some (t.name base) } with hp1
    have hopen : StreamFile env r conf p1 [] (.opened (t.name base) t.fd [] true) :=
      ⟨rfl, rfl, by omega, rfl, rfl, by simp [TempFile.name_take, cacheBase, hcache, hjson, base]⟩
    have hmode : SameMode p p1 := ⟨rfl, rfl, rfl⟩
    by_cases hhb : p.hb.isSome = true
    · rw [if_pos hhb] at h
      rcases hcq : modDirlistingCacheStreamAppendCq o.sendChunked o.headerWriteOk resp.body p1 with
        ⟨p2, ops2⟩
      rw [hcq] at h
      cases h
      obtain ⟨f', hrun, hf', hmode'⟩ := hopen.appendCq hcq
      exact ⟨f', by simpa using hrun, by simpa using hf', hmode.trans hmode'⟩
    · rw [if_neg hhb] at h
      cases h
      rw [hbody (by simpa using hhb)]
      exact ⟨_, rfl, hopen, hmode⟩

theorem StreamFile.cacheStreamInit {o : StepOutcome} {cache : DirlistCache} {p p' : HandlerCtx}
    {resp : Response} {ops : List Op} (hcache : conf.cache = some cache)
    (hjson : p.jb.isSome = conf.json) (hjfn : p.jfn = none) (hjfd : p.jfd = -1)
    (hbody : p.hb.isSome = false → resp.body = [])
    (h : modDirlistingCacheStreamInit env r o cache p resp = (p', ops)) :
    ∃ f', CacheFile.absent.run ops = some f' ∧ StreamFile env r conf p' resp.body f' ∧
      SameMode p p' := by
  rw [modDirlistingCacheStreamInit_eq, Prod.mk.injEq] at h
  obtain ⟨rfl, rfl⟩ := h
  rw [CacheFile.run_cacheDirReady]
  exact StreamFile.create hcache hjson hjfn hjfd hbody rfl

/-- `mod_dirlisting_cache_stream_add_footer` appends the footer to the body and copies it to the
open file. -/
theorem StreamFile.addFooter {o : StepOutcome} {p p' : HandlerCtx} {resp resp' : Response}
    {ops : List Op} {f : CacheFile} (hf : StreamFile env r conf p resp.body f)
    (h : modDirlistingCacheStreamAddFooter env r o p resp = (p', resp', ops)) :
    ∃ f', f.run ops = some f' ∧ StreamFile env r conf p' resp'.body f' ∧ SameMode p p' := by
  unfold modDirlistingCacheStreamAddFooter at h
  dsimp only at h
  rcases hcq : modDirlistingCacheStreamAppendCq o.sendChunked o.footerWriteOk
    (httpListDirectoryFooter env r p.conf o.page.readmeSpill) p with ⟨p2, ops2⟩
  rw [hcq] at h
  cases h
  exact hf.appendCq hcq

/-- `mod_dirlisting_cache_stream` closes the open file and renames it to the cache name, or unlinks
it when the rename fails; the body is left as it is. -/
theorem StreamFile.cacheStream {o : StepOutcome} {cache : DirlistCache} {p p' : HandlerCtx}
    {resp resp' : Response} {ops : List Op} {f : CacheFile} {name : Bytes}
    (hf : StreamFile env r conf p resp.body f) (hjfn : p.jfn = some name)
    (h : modDirlistingCacheStream o cache p resp = (p', resp', ops)) :
    ∃ f', f.run ops = some f' ∧ p' = p.dropCacheFile ∧
      Settled env r conf { resp' with bodyFinished := true } f' := by
  obtain ⟨rfl, hne, hbase⟩ := hf.of_jfn_some hjfn
  unfold modDirlistingCacheStream at h
  cases h
  cases hok : o.renameOk
  · exact ⟨.unlinked, by simp [hjfn, hok], rfl, trivial⟩
  · refine ⟨.renamed (name.take (name.length - 7)) resp.body true, by simp [hjfn, hok],
      rfl, rfl, ?_, rfl, hbase⟩
    split_ifs <;> simp

theorem StreamFile.ctxFree {p : HandlerCtx} {body : Bytes} {f : CacheFile}
    (hs : p.streaming = true) (hf : StreamFile env r conf p body f) :
    ∃ f', f.run (modDirlistingHandlerCtxFree p) = some f' ∧ (f' = .absent ∨ f' = .unlinked) := by
  have hdir : ∀ f : CacheFile, f.run (if p.dp.isSome then [.closedir] else []) = some f := fun f ↦
    f.run_onDirectory (by split_ifs <;> simp [Op.onDirectory])
  simp only [HandlerCtx.streaming] at hs
  simp only [modDirlistingHandlerCtxFree, hs, if_true, CacheFile.run_append, hdir, Option.some_bind]
  cases hjfn : p.jfn with
  | none =>
    obtain ⟨hgone, hjfd⟩ := hf.of_jfn_none hjfn
    exact ⟨f, by simp [hjfd], hgone⟩
  | some name =>
    obtain ⟨rfl, hne, -⟩ := hf.of_jfn_some hjfn
    exact ⟨.unlinked, by simp [hne], .inr rfl⟩

/-- Without a file to give up, `mod_dirlisting_handler_ctx_free` only closes the directory. -/
theorem onDirectory_handlerCtxFree {p : HandlerCtx}
    (h : p.streaming = false ∨ p.jfn = none ∧ p.jfd = -1) :
    ∀ op ∈ modDirlistingHandlerCtxFree p, op.onDirectory := by
  unfold modDirlistingHandlerCtxFree
  rcases h with hs | ⟨hjfn, hjfd⟩
  · simp only [HandlerCtx.streaming] at hs
    simp only [hs, Bool.false_eq_true, if_false, List.append_nil]
    split_ifs <;> simp [Op.onDirectory]
  · simp only [hjfd, hjfn, ne_eq, not_true_eq_false, if_false, Option.map_none', Option.toList_none,
      List.append_nil, ite_self]
    split_ifs <;> simp [Op.onDirectory]

/-- Once the cache directory is there, `mod_dirlisting_cache_add` writes the finished body of a
sorted listing to a new file and renames it to the cache name, or unlinks it when the write or the
rename fails. -/
theorem settled_cacheAddWrite {o : StepOutcome} {cache : DirlistCache} {ready : Bool}
    {resp resp' : Response} {ops : List Op} (hcache : conf.cache = some cache) (hjson : conf.json = false)
    (h : cacheAddWrite env r o cache ready resp = (resp', ops)) :
    ∃ f', CacheFile.absent.run ops = some f' ∧
      Settled env r conf { resp' with bodyFinished := true } f' := by
  unfold cacheAddWrite at h
  dsimp only at h
  by_cases hpath : ((!ready) = true ∨
      4096 ≤ (env.pathJoin cache.path r.physicalPath ++ lit "dirlist.html").length + 7)
  · rw [if_pos hpath] at h
    cases h
    exact ⟨.absent, rfl, trivial⟩
  rw [if_neg hpath] at h
  cases ht : o.tempFile with
  | none =>
    rw [ht] at h
    cases h
    exact ⟨.absent, rfl, trivial⟩
  | some t =>
    rw [ht] at h
    dsimp only at h
    cases hok : o.cacheWriteOk <;> cases hren : o.renameOk <;>
      simp only [hok, hren, if_true, Bool.false_eq_true, if_false] at h <;> cases h
    · exact ⟨.unlinked, by simp, trivial⟩
    · exact ⟨.unlinked, by simp, trivial⟩
    · exact ⟨.unlinked, by simp, trivial⟩
    · refine ⟨.renamed (env.pathJoin cache.path r.physicalPath ++ lit "dirlist.html")
        (modDirlistingCacheEtag resp o.etag).body true, by simp, rfl, by simp, rfl, ?_⟩
      simp [cacheBase, hcache, hjson]

theorem settled_cacheAdd {o : StepOutcome} {cache : DirlistCache} {resp resp' : Response}
    {ops : List Op} (hcache : conf.cache = some cache) (hjson : conf.json = false)
    (h : modDirlistingCacheAdd env r o cache resp = (resp', ops)) :
    ∃ f', CacheFile.absent.run ops = some f' ∧
      Settled env r conf { resp' with bodyFinished := true } f' := by
  rw [modDirlistingCacheAdd_eq, Prod.mk.injEq] at h
  obtain ⟨rfl, rfl⟩ := h
  rw [CacheFile.run_cacheDirReady]
  exact settled_cacheAddWrite hcache hjson rfl

/-- The end of a listing in the streaming modes: the last flush, the footer and the rename leave the
file settled once the handler is freed. -/
theorem StreamFile.finish {o : StepOutcome} {p p' : HandlerCtx} {resp resp' : Response}
    {ops : List Op} {f : CacheFile} (hs : p.streaming = true)
    (hf : StreamFile env r conf p resp.body f)
    (h : finishListing env r o p resp = some (p', resp', ops)) :
    ∃ f', f.run (ops ++ modDirlistingHandlerCtxFree p') = some f' ∧
      Settled env r conf { resp' with bodyFinished := true } f' := by
  unfold finishListing at h
  rw [if_pos (show (p.jb.isSome || p.hb.isSome) = true from hs)] at h
  rcases ha : modDirlistingStreamAppend o.appendWriteOk true p.closeJson resp with ⟨p3, resp3, ops1⟩
  rw [ha] at h
  dsimp only at h
  have hm0 := p.sameMode_closeJson
  obtain ⟨f1, hrun1, hf1, hm1⟩ :=
    (hf.congr (by simp) (by simp)).streamAppend (by rw [hm0.streaming, hs]) ha
  have hfooter : ∃ p4 resp4 ops2 f2,
      (if p3.hb.isSome then modDirlistingCacheStreamAddFooter env r o p3 resp3 else (p3, resp3, [])) =
        (p4, resp4, ops2) ∧ f1.run ops2 = some f2 ∧ StreamFile env r conf p4 resp4.body f2 ∧
        SameMode p3 p4 := by
    split_ifs
    · rcases hb : modDirlistingCacheStreamAddFooter env r o p3 resp3 with ⟨p4, resp4, ops2⟩
      obtain ⟨f2, hrun2, hf2, hm2⟩ := hf1.addFooter hb
      exact ⟨p4, resp4, ops2, f2, rfl, hrun2, hf2, hm2⟩
    · exact ⟨p3, resp3, [], f1, rfl, rfl, hf1, .refl p3⟩
  obtain ⟨p4, resp4, ops2, f2, hb, hrun2, hf2, hm2⟩ := hfooter
  rw [hb] at h
  dsimp only at h
  have hs4 : p4.streaming = true := by rw [hm2.streaming, hm1.streaming, hm0.streaming, hs]
  split at h
  · rename_i name cache hjfn hcache
    rcases hc : modDirlistingCacheStream o cache p4 resp4 with ⟨p5, resp5, ops3⟩
    rw [hc] at h
    cases h
    obtain ⟨f3, hrun3, rfl, hset⟩ := hf2.cacheStream hjfn hc
    refine ⟨f3, ?_, hset⟩
    simp only [List.append_assoc, CacheFile.run_append, hrun1, hrun2, hrun3, Option.some_bind]
    exact f3.run_onDirectory (onDirectory_handlerCtxFree (.inr ⟨rfl, rfl⟩))
  · cases h
    obtain ⟨f3, hrun3, hgone⟩ := hf2.ctxFree hs4
    refine ⟨f3, ?_, by rcases hgone with rfl | rfl <;> trivial⟩
    simp only [List.append_assoc, CacheFile.run_append, hrun1, hrun2, hrun3, Option.some_bind,
      CacheFile.run_nil, List.nil_append]

theorem HandlerFile.stream {p : HandlerCtx} {body : Bytes} {f : CacheFile}
    (hp : HandlerFile env r conf p body f) (hs : p.streaming = true) :
    StreamFile env r conf p body f := by
  simpa [hs] using hp.2.2

theorem HandlerFile.of_stream {p p' : HandlerCtx} {body body' : Bytes} {f f' : CacheFile}
    (hp : HandlerFile env r conf p body f) (hs : p.streaming = true) (hm : SameMode p p')
    (hf : StreamFile env r conf p' body' f') : HandlerFile env r conf p' body' f' :=
  ⟨hm.conf.trans hp.1, hm.jbMode.trans hp.2.1, by rw [if_pos (hm.streaming.trans hs)]; exact hf⟩

/-- A batch of the scan keeps the file of the handler. -/
theorem HandlerFile.frame {p p' : HandlerCtx} {body : Bytes} {f : CacheFile}
    (hsame : SameScan p p') (hp : HandlerFile env r conf p body f) :
    HandlerFile env r conf p' body f := by
  obtain ⟨hconf, hjson, hfile⟩ := hp
  refine ⟨hsame.conf.trans hconf, hsame.jbMode.trans hjson, ?_⟩
  rw [hsame.streaming]
  split_ifs at hfile ⊢
  · exact hfile.congr hsame.jfn hsame.jfd
  · exact hfile

theorem HandlerFile.ctxFree {p : HandlerCtx} {body : Bytes} {f : CacheFile}
    (hp : HandlerFile env r conf p body f) :
    ∃ f', f.run (modDirlistingHandlerCtxFree p) = some f' ∧ (f' = .absent ∨ f' = .unlinked) := by
  by_cases hs : p.streaming = true
  · exact (hp.stream hs).ctxFree hs
  · have hf : f = .absent := by simpa [hs] using hp.2.2
    subst hf
    exact ⟨.absent, CacheFile.run_onDirectory _ (onDirectory_handlerCtxFree (.inl (by simpa using hs))),
      .inl rfl⟩

/-- The end of a listing leaves the file settled once the handler is freed. -/
theorem HandlerFile.finish {o : StepOutcome} {p p' : HandlerCtx} {resp resp' : Response}
    {ops : List Op} {f : CacheFile} (hp : HandlerFile env r conf p resp.body f)
    (h : finishListing env r o p resp = some (p', resp', ops)) :
    ∃ f', f.run (ops ++ modDirlistingHandlerCtxFree p') = some f' ∧
      Settled env r conf { resp' with bodyFinished := true } f' := by
  by_cases hs : p.streaming = true
  · exact (hp.stream hs).finish hs h
  obtain ⟨hconf, hjson, hfile⟩ := hp
  rw [if_neg hs] at hfile
  subst hfile
  have hs' : p.streaming = false := by simpa using hs
  have hjson' : conf.json = false := by
    simp only [HandlerCtx.streaming, Bool.or_eq_false_iff] at hs'
    rw [← hjson, hs'.1]
  have hfree : ∀ f : CacheFile, f.run (modDirlistingHandlerCtxFree p) = some f := fun f ↦
    f.run_onDirectory (onDirectory_handlerCtxFree (.inl hs'))
  unfold finishListing at h
  rw [if_neg (show ¬(p.jb.isSome || p.hb.isSome) = true from hs)] at h
  obtain ⟨page, -, h⟩ := Option.map_eq_some'.mp h
  dsimp only at h
  cases hc : p.conf.cache with
  | none =>
    rw [hc] at h
    cases h
    exact ⟨.absent, hfree _, trivial⟩
  | some cache =>
    rcases hadd : modDirlistingCacheAdd env r o cache
      (modDirlistingContentType (resp.append page) p.conf.encoding) with ⟨resp2, ops2⟩
    rw [hc] at h
    dsimp only at h
    rw [hadd] at h
    cases h
    obtain ⟨f', hrun, hset⟩ := settled_cacheAdd (by rw [← hconf, hc]) hjson' hadd
    exact ⟨f', by rw [CacheFile.run_append, hrun, Option.some_bind, hfree], hset⟩

/-! ### The steps of a request -/

theorem ReqFile.of_hctx_none {q : Req} (hctx : q.hctx = none) : ReqFile env r conf q .absent := by
  rw [ReqFile, hctx]
  trivial

theorem ReqFile.handlerFile {q : Req} {p : HandlerCtx} {f : CacheFile} (hq : ReqFile env r conf q f)
    (hctx : q.hctx = some p) : HandlerFile env r conf p q.resp.body f := by
  rwa [ReqFile, hctx] at hq

/-- `mod_dirlisting_subrequest` keeps the invariant: a batch leaves the file alone, a yield
flushes the stream, and the end settles the file. -/
theorem reqFile_subrequest {o : StepOutcome} {q q' : Req} {n n' : Int} {rc : Handler}
    {ops : List Op} {f : CacheFile} (hq : ReqFile env r conf q f)
    (h : modDirlistingSubrequest env r o q n = some (q', n', rc, ops)) :
    ∃ f', f.run ops = some f' ∧ ReqFile env r conf q' f' := by
  unfold modDirlistingSubrequest at h
  by_cases hbp : o.backpressure = true
  · rw [if_pos hbp] at h
    cases h
    exact ⟨f, rfl, hq⟩
  rw [if_neg hbp] at h
  cases hctx : q.hctx with
  | none =>
    rw [hctx] at h
    cases h
    exact ⟨f, rfl, hq⟩
  | some p =>
    rw [hctx] at h
    obtain ⟨⟨p1, rc1, ops1⟩, hscan, h⟩ := Option.bind_eq_some.mp h
    obtain ⟨hsame, hrc, hdir⟩ := httpReadDirectory_frame hscan
    have hp1 := (hq.handlerFile hctx).frame hsame
    have hrun1 : f.run ops1 = some f := f.run_onDirectory hdir
    rcases hrc with rfl | rfl
    · dsimp only at h
      by_cases hs : p1.streaming = true
      · rw [if_pos (show (p1.jb.isSome || p1.hb.isSome) = true from hs)] at h
        rcases ha : modDirlistingStreamAppend o.appendWriteOk false p1 q.resp with ⟨p2, resp2, ops2⟩
        rw [ha] at h
        cases h
        obtain ⟨f2, hrun2, hf2, hm2⟩ := (hp1.stream hs).streamAppend hs ha
        exact ⟨f2, by rw [CacheFile.run_append, hrun1, Option.some_bind, hrun2],
          hp1.of_stream hs hm2 hf2⟩
      · rw [if_neg (show ¬(p1.jb.isSome || p1.hb.isSome) = true from hs)] at h
        cases h
        exact ⟨f, hrun1, hp1⟩
    · obtain ⟨⟨p2, resp2, ops2⟩, hfin, h⟩ := Option.map_eq_some'.mp h
      cases h
      obtain ⟨f', hrun, hset⟩ := hp1.finish hfin
      exact ⟨f', by rw [List.append_assoc, CacheFile.run_append, hrun1, Option.some_bind]; exact hrun,
        hset⟩

/-- `mod_dirlisting_reset` keeps the invariant: the handler is freed with its file. -/
theorem reqFile_reset {q q' : Req} {n n' : Int} {ops : List Op} {f : CacheFile}
    (hq : ReqFile env r conf q f) (h : modDirlistingReset q n = (q', n', ops)) :
    ∃ f', f.run ops = some f' ∧ ReqFile env r conf q' f' := by
  unfold modDirlistingReset at h
  cases hctx : q.hctx with
  | none =>
    rw [hctx] at h
    cases h
    exact ⟨f, rfl, hq⟩
  | some p =>
    rw [hctx] at h
    cases h
    obtain ⟨f', hrun, hgone⟩ := (hq.handlerFile hctx).ctxFree
    exact ⟨f', hrun, by rcases hgone with rfl | rfl <;> trivial⟩

theorem reqFile_reqStep {e : ReqEvent} {q q' : Req} {n n' : Int} {ops : List Op} {f : CacheFile}
    (hq : ReqFile env r conf q f) (h : reqStep env r e (q, n) = some (q', n', ops)) :
    ∃ f', f.run ops = some f' ∧ ReqFile env r conf q' f' := by
  cases e with
  | subrequest o =>
    obtain ⟨⟨q1, n1, rc, ops1⟩, hsub, h⟩ := Option.map_eq_some'.mp h
    cases h
    exact reqFile_subrequest hq hsub
  | reset => exact reqFile_reset hq (Option.some.inj h)

/-- The mode setup of a new handler: the JSON buffer is set exactly in JSON mode, the cache file is
untouched, and the body is still empty unless the HTML header was appended. -/
theorem startMode_spec {o : StepOutcome} {p p' : HandlerCtx} {resp resp' : Response}
    (hjb : p.jb = none) (hhb : p.hb = none) (hbody : resp.body = [])
    (h : startMode env r o conf p resp = (p', resp')) :
    p'.conf = p.conf ∧ p'.jfn = p.jfn ∧ p'.jb.isSome = conf.json ∧
      (p'.hb.isSome = false → resp'.body = []) := by
  unfold startMode at h
  split_ifs at h with hjson hsort <;> cases h <;> simp_all

/-- The streaming setup of a new handler establishes its file. -/
theorem handlerFile_startStream {o : StepOutcome} {p p' : HandlerCtx} {resp resp' : Response}
    {ops : List Op} (hconf : p.conf = conf) (hjson : p.jb.isSome = conf.json) (hjfn : p.jfn = none)
    (hbody : p.hb.isSome = false → resp.body = [])
    (h : startStream env r o conf p resp = (p', resp', ops)) :
    ∃ f', CacheFile.absent.run ops = some f' ∧ HandlerFile env r conf p' resp'.body f' := by
  unfold startStream at h
  by_cases hs : p.streaming = true
  · rw [if_pos (show (p.jb.isSome || p.hb.isSome) = true from hs)] at h
    dsimp only at h
    have hp : HandlerFile env r conf { p with jfd := -1 } resp.body .absent :=
      ⟨hconf, hjson, by rw [if_pos (show HandlerCtx.streaming { p with jfd := -1 } = true from hs)]; exact ⟨hjfn, rfl⟩⟩
    cases hc : conf.cache with
    | none =>
      rw [hc] at h
      cases h
      exact ⟨.absent, rfl, hp⟩
    | some cache =>
      rcases hi : modDirlistingCacheStreamInit env r o cache { p with jfd := -1 } resp with ⟨p2, ops2⟩
      rw [hc] at h
      dsimp only at h
      rw [hi] at h
      cases h
      obtain ⟨f', hrun, hf', hm⟩ :=
        @StreamFile.cacheStreamInit env r conf o cache { p with jfd := -1 } p2 resp ops2 hc hjson hjfn rfl
          hbody hi
      exact ⟨f', hrun, hp.of_stream hs hm hf'⟩
  · rw [if_neg (show ¬(p.jb.isSome || p.hb.isSome) = true from hs)] at h
    cases h
    exact ⟨.absent, rfl, hconf, hjson, by rw [if_neg hs]⟩

/-- The part of the start after the admission establishes the invariant and keeps it through the
first call of `mod_dirlisting_subrequest` and the `103` response. -/
theorem reqFile_startListing {o : StepOutcome} {p : HandlerCtx} {q q' : Req} {n n' : Int}
    {rc : Handler} {ops : List Op} (hconf : p.conf = conf) (hjb : p.jb = none) (hhb : p.hb = none)
    (hjfn : p.jfn = none) (hbody : q.resp.body = [])
    (h : startListing env r o conf p q n = some (q', n', rc, ops)) :
    ∃ f', CacheFile.absent.run ops = some f' ∧ ReqFile env r conf q' f' := by
  unfold startListing at h
  rcases hm : startMode env r o conf p q.resp with ⟨p1, resp1⟩
  rw [hm] at h
  dsimp only at h
  obtain ⟨hc1, hjfn1, hjson1, hbody1⟩ := startMode_spec hjb hhb hbody hm
  rcases hs : startStream env r o conf p1 resp1 with ⟨p2, resp2, ops2⟩
  rw [hs] at h
  dsimp only at h
  obtain ⟨f2, hrun2, hf2⟩ := handlerFile_startStream (hc1.trans hconf) hjson1 (hjfn1.trans hjfn) hbody1 hs
  obtain ⟨⟨q3, n3, rc3, ops3⟩, hsub, h⟩ := Option.map_eq_some'.mp h
  obtain ⟨f3, hrun3, hq3⟩ := reqFile_subrequest (q := ⟨resp2, some p2, true⟩) hf2 hsub
  have hrun : CacheFile.absent.run (ops2 ++ ops3) = some f3 := by
    rw [CacheFile.run_append, hrun2, Option.some_bind, hrun3]
  dsimp only at h
  split_ifs at h <;> cases h <;> exact ⟨f3, hrun, hq3⟩

/-- The cache check lets a request go on with an empty body when it found one. -/
theorem cacheCheckEnabled_body {o : StepOutcome} {start : StartEnv} {resp resp' : Response}
    (h : cacheCheckEnabled env r o conf start resp = (.goOn, resp')) (hbody : resp.body = []) :
    resp'.body = [] := by
  unfold cacheCheckEnabled at h
  split at h
  · rename_i cache _
    unfold modDirlistingCacheCheck at h
    dsimp only at h
    split at h
    · cases h
      exact hbody
    rename_i mtime content _
    by_cases hstale : mtime + cache.maxAge < start.now
    · rw [if_pos hstale] at h
      cases h
      exact hbody
    rw [if_neg hstale] at h
    by_cases hfile : o.fileRefOk
    · rw [if_neg (by simp [hfile])] at h
      cases h
    · rw [if_pos (by simpa using hfile)] at h
      cases h
      rfl
  · cases h
    exact hbody

/-- `mod_dirlisting_subrequest_start` on a request without a handler and without a body
establishes the invariant. -/
theorem reqFile_subrequestStart {o : StepOutcome} {start : StartEnv} {maxInProgress n n' : Int}
    {q q' : Req} {rc : Handler} {ops : List Op} (hctx : q.hctx = none) (hbody : q.resp.body = [])
    (h : modDirlistingSubrequestStart env r o start maxInProgress q n = some (q', n', rc, ops)) :
    ∃ f, CacheFile.absent.run ops = some f ∧ ReqFile env r (requestConf r start.conf) q' f := by
  unfold modDirlistingSubrequestStart at h
  by_cases hguard : (q.handlerModule || r.uriPath.getLast? != some 47 || !r.getOrHead ||
      !start.conf.dirListing) = true
  · rw [if_pos hguard] at h
    cases h
    exact ⟨.absent, rfl, .of_hctx_none hctx⟩
  rw [if_neg hguard] at h
  dsimp only at h
  rcases hcheck : cacheCheckEnabled env r o (requestConf r start.conf) start q.resp with ⟨rc0, resp0⟩
  rw [hcheck] at h
  dsimp only at h
  by_cases hrc : rc0 ≠ .goOn
  · rw [if_pos hrc] at h
    cases h
    exact ⟨.absent, rfl, .of_hctx_none hctx⟩
  rw [if_neg hrc] at h
  rw [not_not] at hrc
  subst hrc
  by_cases hmax : n = maxInProgress
  · rw [if_pos hmax] at h
    cases h
    exact ⟨.absent, rfl, .of_hctx_none hctx⟩
  rw [if_neg hmax] at h
  cases hopen : httpOpenDirectory r start.dir (modDirlistingHandlerCtxInit (requestConf r start.conf)) with
  | none =>
    rw [hopen] at h
    cases h
    exact ⟨.absent, rfl, .of_hctx_none hctx⟩
  | some p =>
    rw [hopen] at h
    obtain ⟨stream, -, rfl⟩ := Option.map_eq_some'.mp hopen
    exact reqFile_startListing rfl rfl rfl rfl (cacheCheckEnabled_body hcheck hbody) h

/-- Every run of events keeps the invariant. -/
theorem reqFile_reqRun {es : List ReqEvent} {q q' : Req} {n n' : Int} {ops : List Op}
    {f : CacheFile} (hq : ReqFile env r conf q f) (h : reqRun env r es (q, n) = some (q', n', ops)) :
    ∃ f', f.run ops = some f' ∧ ReqFile env r conf q' f' := by
  induction es generalizing q n f ops with
  | nil =>
    cases h
    exact ⟨f, rfl, hq⟩
  | cons e es ih =>
    obtain ⟨⟨q1, n1, ops1⟩, hstep, h⟩ := Option.bind_eq_some.mp h
    obtain ⟨⟨q2, n2, ops2⟩, hrest, h⟩ := Option.map_eq_some'.mp h
    cases h
    obtain ⟨f1, hrun1, hq1⟩ := reqFile_reqStep hq hstep
    obtain ⟨f2, hrun2, hq2⟩ := ih hq1 hrest
    exact ⟨f2, by rw [CacheFile.run_append, hrun1, Option.some_bind, hrun2], hq2⟩

end Invariant

/-! ### Runs of a listing request -/

/-- What a run of a listing request does with its cache file: the file operations follow the life
of one temporary file; in the streaming modes `hctx->jfn` is set exactly when `hctx->jfd` is open;
once the request has no handler the file is no longer open or under its temporary name; and a
renamed file was renamed after `HANDLER_FINISHED`, every write to it successful, holds the body and
has the cache name. -/
def CacheFileLaw (env : PageEnv) (r : Request) (conf : PluginConfig) (q : Req) (ops : List Op) :
    Prop :=
  ∃ f, CacheFile.absent.run ops = some f ∧
    (∀ p, q.hctx = some p → p.streaming = true → (p.jfn.isSome ↔ p.jfd ≠ -1)) ∧
    (q.hctx = none → f.pending = false) ∧
    ∀ name content clean, f = .renamed name content clean →
      q.hctx = none ∧ clean = true ∧ content = q.resp.body ∧ q.resp.bodyFinished = true ∧
        some name = cacheBase env r conf

theorem ReqFile.law {env : PageEnv} {r : Request} {conf : PluginConfig} {q : Req} {ops : List Op}
    {f : CacheFile} (hrun : CacheFile.absent.run ops = some f) (hq : ReqFile env r conf q f) :
    CacheFileLaw env r conf q ops := by
  refine ⟨f, hrun, fun p hctx hs ↦ ((hq.handlerFile hctx).stream hs).jfn_isSome_iff,
    fun hctx ↦ ?_, fun name content clean hf ↦ ?_⟩
  · rw [ReqFile, hctx] at hq
    cases f <;> simp_all [Settled, CacheFile.pending]
  · subst hf
    cases hctx : q.hctx with
    | none =>
      rw [ReqFile, hctx] at hq
      exact ⟨rfl, hq⟩
    | some p =>
      have hp := hq.handlerFile hctx
      by_cases hs : p.streaming = true
      · exact (hp.stream hs).elim
      · have hf := hp.2.2
        rw [if_neg hs] at hf
        cases hf

theorem listingRun_reqFile {env : PageEnv} {r : Request} {o : StepOutcome} {start : StartEnv}
    {maxInProgress processing : Int} {es : List ReqEvent} {q : Req} {n : Int} {ops : List Op}
    (h : listingRun env r o start maxInProgress processing es = some (q, n, ops)) :
    ∃ f, CacheFile.absent.run ops = some f ∧ ReqFile env r (requestConf r start.conf) q f := by
  obtain ⟨⟨q1, n1, rc, ops1⟩, hstart, h⟩ := Option.bind_eq_some.mp h
  obtain ⟨⟨q2, n2, ops2⟩, hrun, h⟩ := Option.map_eq_some'.mp h
  cases h
  obtain ⟨f1, hrun1, hq1⟩ := reqFile_subrequestStart rfl rfl hstart
  obtain ⟨f2, hrun2, hq2⟩ := reqFile_reqRun hq1 hrun
  exact ⟨f2, by rw [CacheFile.run_append, hrun1, Option.some_bind, hrun2], hq2⟩

theorem listingRun_cacheFile {env : PageEnv} {r : Request} {o : StepOutcome} {start : StartEnv}
    {maxInProgress processing : Int} {es : List ReqEvent} {q : Req} {n : Int} {ops : List Op}
    (h : listingRun env r o start maxInProgress processing es = some (q, n, ops)) :
    CacheFileLaw env r (requestConf r start.conf) q ops := by
  obtain ⟨f, hrun, hq⟩ := listingRun_reqFile h
  exact hq.law hrun

/-- A cached JSON listing of an empty directory. -/
def cachedJsonStart : StartEnv where
  conf := { PluginConfig.defaults with
    dirListing := true, json := true, autoLayout := false, cache := some ⟨60, lit "/c"⟩ }
  entry _ := none
  now := 0
  dir := some []

end Dirlisting
