import Dirlisting.Render

/-!
# The batched directory scan of `http_read_directory`

One call of `http_read_directory` reads at most `DIRLIST_BATCH` entries of the directory stream.
The POSIX loop is `while (++count < DIRLIST_BATCH && (dent = readdir (p->dp)) != NULL)`: the
counter is incremented before `readdir` is called, so a call reads 32 entries and returns
`HANDLER_WAIT_FOR_EVENT`, or reads the rest of the stream, sees the `NULL` of its end, closes the
directory and returns `HANDLER_FINISHED`.

Each entry goes through the tests of `httpReadDirectorySkip` (the `continue`s before the
`fstatat`), is stat'ed, and a surviving entry is dispatched by `httpReadDirectoryDispatch`: a JSON
element into `hctx->jb`, an HTML row into `hctx->hb`, or a record appended to `hctx->dirs` or
`hctx->files`. `keptEntry` is the composite of the tests, and `readdirLoop_eq` the spec of the
loop: from count `c` it consumes `min (32 - c) n` entries of a stream of `n`, its dispatches are
those entries filtered by `keptEntry`, in order, its handler is the fold of the dispatch over them,
and it calls `readdir` once more than it consumed when the stream ended first.

The calls the loop makes to its collaborators are recorded as a list of `Op`: `readdir`,
`fstatat`, `closedir`, and a `dispatch` for each entry handed to a renderer or store. The cache
operations of `Dirlisting.Request` use the same type.
-/

set_option autoImplicit false
set_option relaxedAutoImplicit false

namespace Dirlisting

/-! ### Handler context and operations -/

/-- `handler_t`, the values the module returns. -/
inductive Handler
  | goOn
  | finished
  | waitForEvent
  | error
  deriving DecidableEq, Repr

/-- A call the module makes to a collaborator: the directory stream, the file system of the
cache, and the renderers and stores a scanned entry is dispatched to. -/
inductive Op
  | readdir
  | fstatat (name : Name)
  | closedir
  | dispatch (ent : DirlsEntry) (isDir : Bool)
  | mkdir (path : Bytes)
  | mkostemp (path : Bytes) (fd : Int)
  | write (fd : Int) (data : Bytes) (ok : Bool)
  | close (fd : Int)
  | rename (src dst : Bytes) (ok : Bool)
  | unlink (path : Bytes)
  deriving DecidableEq, Repr

/-- The entry of a `dispatch` operation. -/
def Op.dispatched? : Op → Option (DirlsEntry × Bool)
  | .dispatch ent isDir => some (ent, isDir)
  | _ => none

/-- The operations on the directory stream and the dispatches, which leave the cache files
alone. -/
def Op.onDirectory : Op → Bool
  | .readdir | .fstatat _ | .closedir | .dispatch _ _ => true
  | _ => false

/-- The entries dispatched by a list of operations, in order. -/
def dispatches (ops : List Op) : List (DirlsEntry × Bool) := ops.filterMap Op.dispatched?

@[simp] theorem dispatches_nil : dispatches [] = [] := rfl

@[simp] theorem dispatches_append (a b : List Op) :
    dispatches (a ++ b) = dispatches a ++ dispatches b := List.filterMap_append ..

@[simp] theorem dispatches_cons (op : Op) (ops : List Op) :
    dispatches (op :: ops) = (op.dispatched?).toList ++ dispatches ops := by
  cases h : op.dispatched? <;> simp [dispatches, List.filterMap_cons, h]

/-- `handler_ctx`. `dp` is the directory stream: `none` for `NULL`, otherwise the entries
`readdir` has still to return. `jfd` and `jfn` are the cache temporary file of the streaming
modes. -/
structure HandlerCtx where
  dp : Option (List RawEnt)
  dirs : DirlsList
  files : DirlsList
  nameMax : Nat
  hb : Option Bytes
  jb : Option Bytes
  jcomma : Bool
  jfd : Int
  jfn : Option Bytes
  conf : PluginConfig

/-- The streaming modes: a JSON buffer `hctx->jb` or an HTML buffer `hctx->hb`. -/
def HandlerCtx.streaming (p : HandlerCtx) : Bool := p.jb.isSome || p.hb.isSome

/-- Two handler contexts with the same configuration and the same buffers set: the mode of a
listing, which no step after `mod_dirlisting_subrequest_start` changes. -/
structure SameMode (p q : HandlerCtx) : Prop where
  conf : q.conf = p.conf
  jbMode : q.jb.isSome = p.jb.isSome
  hbMode : q.hb.isSome = p.hb.isSome

theorem SameMode.refl (p : HandlerCtx) : SameMode p p := ⟨rfl, rfl, rfl⟩

theorem SameMode.trans {p q s : HandlerCtx} (hpq : SameMode p q) (hqs : SameMode q s) :
    SameMode p s :=
  ⟨hqs.conf.trans hpq.conf, hqs.jbMode.trans hpq.jbMode, hqs.hbMode.trans hpq.hbMode⟩

theorem SameMode.streaming {p q : HandlerCtx} (h : SameMode p q) : q.streaming = p.streaming := by
  simp [HandlerCtx.streaming, h.jbMode, h.hbMode]

/-! ### The loop body -/

/-- The `continue`s of the loop body of `http_read_directory` before the `fstatat`: `.` and `..`,
dot-files when `hide_dot_files` is set, the configured README and HEADER names when hidden, names
an exclude pattern matches (or whose matching fails), and names longer than `name_max`. `true` when
the entry is skipped. -/
def httpReadDirectorySkip (conf : PluginConfig) (nameMax : Nat) (name : Name) : Bool :=
  if name.head? = some 46 && (conf.hideDotFiles || name = [46] || name = [46, 46]) then true
  else if conf.hideReadmeFile && conf.showReadme == some name then true
  else if conf.hideHeaderFile && conf.showHeader == some name then true
  else if conf.excludes.any (modDirlistingExclude · name) then true
  else nameMax < name.length

/-- The record `{ namelen, mtime, size }` built for a stat'ed entry. -/
def mkEntry (name : Name) (st : Stat) : DirlsEntry :=
  { name := name, mtime := st.mtime, size := st.size }

/-- The dispatch at the end of the loop body: a JSON element into `hctx->jb`, an HTML row into
`hctx->hb`, or a record appended to `hctx->dirs` or `hctx->files` by `S_ISDIR`. `none` when the
rendering does not return. -/
def httpReadDirectoryDispatch (env : RenderEnv) (p : HandlerCtx) (ent : DirlsEntry)
    (isDir : Bool) : Option HandlerCtx :=
  match p.jb, p.hb with
  | some jb, _ =>
    some { p with jb := some (jb ++ httpListDirectoryJsonname env ent p.jcomma isDir), jcomma := true }
  | none, some hb =>
    if isDir then some { p with hb := some (hb ++ httpListDirectoryDirname env ent) }
    else (httpListDirectoryFilename env ent).map fun row ↦ { p with hb := some (hb ++ row) }
  | none, none =>
    some (if isDir then { p with dirs := p.dirs.append ent } else { p with files := p.files.append ent })

/-- The loop body of `http_read_directory` on one entry: the tests, the `fstatat` (a failure skips
the entry) and the dispatch, with the operations performed. -/
def httpReadDirectoryEntry (env : RenderEnv) (p : HandlerCtx) (raw : RawEnt) :
    Option (HandlerCtx × List Op) :=
  if httpReadDirectorySkip p.conf p.nameMax raw.name then some (p, [])
  else
    match raw.stat with
    | none => some (p, [.fstatat raw.name])
    | some st =>
      (httpReadDirectoryDispatch env p (mkEntry raw.name st) st.isDir).map fun p ↦
        (p, [.fstatat raw.name, .dispatch (mkEntry raw.name st) st.isDir])

/-- The entry and its type that the loop body dispatches for a raw entry under a configuration,
`none` when the body skips it. -/
def keptEntry (conf : PluginConfig) (nameMax : Nat) (raw : RawEnt) : Option (DirlsEntry × Bool) :=
  if httpReadDirectorySkip conf nameMax raw.name then none
  else raw.stat.map fun st ↦ (mkEntry raw.name st, st.isDir)

/-- The dispatch folded over a list of entries. -/
def dispatchAll (env : RenderEnv) (p : HandlerCtx) : List (DirlsEntry × Bool) → Option HandlerCtx
  | [] => some p
  | (ent, isDir) :: rest => (httpReadDirectoryDispatch env p ent isDir).bind fun p ↦
    dispatchAll env p rest

/-- The operations of the loop body on one raw entry. -/
def entryOps (conf : PluginConfig) (nameMax : Nat) (raw : RawEnt) : List Op :=
  if httpReadDirectorySkip conf nameMax raw.name then []
  else
    match raw.stat with
    | none => [.fstatat raw.name]
    | some st => [.fstatat raw.name, .dispatch (mkEntry raw.name st) st.isDir]

@[simp] theorem dispatchAll_nil (env : RenderEnv) (p : HandlerCtx) : dispatchAll env p [] = some p :=
  rfl

theorem dispatchAll_append (env : RenderEnv) (p : HandlerCtx) (a b : List (DirlsEntry × Bool)) :
    dispatchAll env p (a ++ b) = (dispatchAll env p a).bind fun q ↦ dispatchAll env q b := by
  induction a generalizing p with
  | nil => rfl
  | cons head rest ih =>
    simp only [List.cons_append, dispatchAll]
    cases httpReadDirectoryDispatch env p head.1 head.2 <;> simp [ih]

/-- The loop body is the dispatch of `keptEntry`, with the operations of `entryOps`. -/
theorem httpReadDirectoryEntry_eq (env : RenderEnv) (p : HandlerCtx) (raw : RawEnt) :
    httpReadDirectoryEntry env p raw =
      (dispatchAll env p (keptEntry p.conf p.nameMax raw).toList).map
        fun q ↦ (q, entryOps p.conf p.nameMax raw) := by
  unfold httpReadDirectoryEntry keptEntry entryOps
  split_ifs
  · rfl
  · cases raw.stat with
    | none => rfl
    | some st =>
      simp only [Option.map_some', Option.toList_some, dispatchAll]
      cases httpReadDirectoryDispatch env p (mkEntry raw.name st) st.isDir <;> rfl

@[simp] theorem dispatches_entryOps (conf : PluginConfig) (nameMax : Nat) (raw : RawEnt) :
    dispatches (entryOps conf nameMax raw) = (keptEntry conf nameMax raw).toList := by
  unfold entryOps keptEntry
  split_ifs
  · rfl
  · cases raw.stat <;> simp [dispatches, Op.dispatched?]

@[simp] theorem count_readdir_entryOps (conf : PluginConfig) (nameMax : Nat) (raw : RawEnt) :
    (entryOps conf nameMax raw).count .readdir = 0 := by
  unfold entryOps
  split_ifs
  · rfl
  · cases raw.stat <;> simp

@[simp] theorem count_closedir_entryOps (conf : PluginConfig) (nameMax : Nat) (raw : RawEnt) :
    (entryOps conf nameMax raw).count .closedir = 0 := by
  unfold entryOps
  split_ifs
  · rfl
  · cases raw.stat <;> simp

/-! ### Frame of the dispatch -/

/-- Two handler contexts with the same mode, name bound and cache file: the fields the dispatch
never writes. -/
structure SameScan (p q : HandlerCtx) extends SameMode p q : Prop where
  nameMax : q.nameMax = p.nameMax
  jfd : q.jfd = p.jfd
  jfn : q.jfn = p.jfn

theorem SameScan.refl (p : HandlerCtx) : SameScan p p := ⟨SameMode.refl p, rfl, rfl, rfl⟩

theorem SameScan.trans {p q s : HandlerCtx} (hpq : SameScan p q) (hqs : SameScan q s) :
    SameScan p s :=
  ⟨hpq.toSameMode.trans hqs.toSameMode, hqs.nameMax.trans hpq.nameMax, hqs.jfd.trans hpq.jfd,
    hqs.jfn.trans hpq.jfn⟩

theorem sameScan_dispatch {env : RenderEnv} {p q : HandlerCtx} {ent : DirlsEntry} {isDir : Bool}
    (h : httpReadDirectoryDispatch env p ent isDir = some q) : SameScan p q := by
  obtain ⟨dp, dirs, files, nameMax, hb, jb, jcomma, jfd, jfn, conf⟩ := p
  rcases jb with _ | jb
  · rcases hb with _ | hb
    · cases isDir <;> cases h <;> exact ⟨⟨rfl, rfl, rfl⟩, rfl, rfl, rfl⟩
    · cases isDir
      · obtain ⟨row, -, rfl⟩ := Option.map_eq_some'.mp h
        exact ⟨⟨rfl, rfl, rfl⟩, rfl, rfl, rfl⟩
      · cases h
        exact ⟨⟨rfl, rfl, rfl⟩, rfl, rfl, rfl⟩
  · cases h
    exact ⟨⟨rfl, rfl, rfl⟩, rfl, rfl, rfl⟩

theorem sameScan_dispatchAll {env : RenderEnv} {p q : HandlerCtx} {l : List (DirlsEntry × Bool)}
    (h : dispatchAll env p l = some q) : SameScan p q := by
  induction l generalizing p with
  | nil =>
    cases h
    exact SameScan.refl _
  | cons head rest ih =>
    obtain ⟨r, hr, hrest⟩ := Option.bind_eq_some.mp h
    exact (sameScan_dispatch hr).trans (ih hrest)

/-! ### One call -/

/-- `DIRLIST_BATCH`: the raw entries one call of `http_read_directory` reads at most. -/
def dirlistBatch : Nat := 32

/-- The POSIX loop `while (++count < DIRLIST_BATCH && (dent = readdir (p->dp)) != NULL)` of
`http_read_directory`, at its test with `count` already incremented. It returns the handler, the
entries `readdir` has not returned, the last value of `count` and the operations performed; `none`
when a dispatch does not return. -/
def readdirLoop (env : RenderEnv) (count : Nat) (p : HandlerCtx) :
    List RawEnt → Option (HandlerCtx × List RawEnt × Nat × List Op)
  | [] => if count < dirlistBatch then some (p, [], count, [.readdir]) else some (p, [], count, [])
  | raw :: rest =>
    if count < dirlistBatch then
      (httpReadDirectoryEntry env p raw).bind fun (q, ops) ↦
        (readdirLoop env (count + 1) q rest).map fun (q, rest, count, more) ↦
          (q, rest, count, .readdir :: ops ++ more)
    else some (p, raw :: rest, count, [])

/-- The operations of `readdirLoop`: a `readdir` at each passed test, then the body's. -/
def loopOps (conf : PluginConfig) (nameMax count : Nat) : List RawEnt → List Op
  | [] => if count < dirlistBatch then [.readdir] else []
  | raw :: rest =>
    if count < dirlistBatch then
      .readdir :: entryOps conf nameMax raw ++ loopOps conf nameMax (count + 1) rest
    else []

/-- `List.filterMap` on a cons, with the head's image as a list. -/
theorem filterMap_cons_toList {α β : Type} (f : α → Option β) (a : α) (l : List α) :
    (a :: l).filterMap f = (f a).toList ++ l.filterMap f := by
  cases h : f a <;> simp [List.filterMap_cons, h]

/-- The spec of the loop: it dispatches the kept entries among the next `DIRLIST_BATCH - count`
of the stream, leaves the rest, and counts the entries it read. -/
theorem readdirLoop_eq (env : RenderEnv) (count : Nat) (p : HandlerCtx) (stream : List RawEnt) :
    readdirLoop env count p stream =
      (dispatchAll env p ((stream.take (dirlistBatch - count)).filterMap
          (keptEntry p.conf p.nameMax))).map fun q ↦
        (q, stream.drop (dirlistBatch - count), count + min (dirlistBatch - count) stream.length,
          loopOps p.conf p.nameMax count stream) := by
  induction stream generalizing count p with
  | nil =>
    unfold readdirLoop loopOps
    split_ifs <;> simp
  | cons raw rest ih =>
    unfold readdirLoop loopOps
    by_cases hcount : count < dirlistBatch
    · have hk : dirlistBatch - count = (dirlistBatch - (count + 1)) + 1 := by omega
      simp only [hcount, if_true, httpReadDirectoryEntry_eq, hk, List.take_succ_cons,
        filterMap_cons_toList, List.drop_succ_cons, List.length_cons]
      rw [dispatchAll_append, Option.map_bind, Option.bind_map]
      rcases hq : dispatchAll env p (keptEntry p.conf p.nameMax raw).toList with _ | q
      · rfl
      · have hsame := sameScan_dispatchAll hq
        simp only [Option.some_bind, Function.comp, ih, Option.map_map, hsame.conf,
          hsame.nameMax]
        refine Option.map_congr fun q' _ ↦ ?_
        simp only [Function.comp, List.cons_append, Prod.mk.injEq, true_and, and_true]
        omega
    · have hk : dirlistBatch - count = 0 := by omega
      simp [hcount, hk]

@[simp] theorem dispatches_loopOps (conf : PluginConfig) (nameMax count : Nat)
    (stream : List RawEnt) :
    dispatches (loopOps conf nameMax count stream) =
      (stream.take (dirlistBatch - count)).filterMap (keptEntry conf nameMax) := by
  induction stream generalizing count with
  | nil =>
    unfold loopOps
    split_ifs <;> simp [Op.dispatched?]
  | cons raw rest ih =>
    unfold loopOps
    by_cases hcount : count < dirlistBatch
    · have hk : dirlistBatch - count = (dirlistBatch - (count + 1)) + 1 := by omega
      simp [hcount, hk, ih, filterMap_cons_toList, Op.dispatched?]
    · have hk : dirlistBatch - count = 0 := by omega
      simp [hcount, hk]

/-- The loop calls `readdir` once per entry it consumes, and once more when the stream ends before
the batch does. -/
theorem count_readdir_loopOps (conf : PluginConfig) (nameMax count : Nat)
    (stream : List RawEnt) :
    (loopOps conf nameMax count stream).count .readdir =
      if count + stream.length < dirlistBatch then stream.length + 1 else dirlistBatch - count := by
  induction stream generalizing count with
  | nil =>
    unfold loopOps
    by_cases hcount : count < dirlistBatch <;> simp [hcount]
    omega
  | cons raw rest ih =>
    unfold loopOps
    by_cases hcount : count < dirlistBatch
    · rw [if_pos hcount]
      simp only [List.count_cons, List.count_append, count_readdir_entryOps, ih, beq_self_eq_true,
        if_true, List.length_cons]
      split_ifs <;> omega
    · rw [if_neg hcount, List.count_nil, if_neg (by omega)]
      omega

@[simp] theorem count_closedir_loopOps (conf : PluginConfig) (nameMax count : Nat)
    (stream : List RawEnt) : (loopOps conf nameMax count stream).count .closedir = 0 := by
  induction stream generalizing count with
  | nil =>
    unfold loopOps
    split_ifs <;> rfl
  | cons raw rest ih =>
    unfold loopOps
    split_ifs <;> simp [ih]

/-- `http_read_directory` on POSIX: one batch of the loop; when the loop stopped before
`DIRLIST_BATCH` the stream has ended, the directory is closed and `hctx->dp` cleared. A handler
without a stream has no defined run (`readdir (NULL)`). -/
def httpReadDirectory (env : RenderEnv) (p : HandlerCtx) : Option (HandlerCtx × Handler × List Op) :=
  p.dp.bind fun stream ↦
    (readdirLoop env 0 p stream).map fun (q, rest, count, ops) ↦
      if count = dirlistBatch then ({ q with dp := some rest }, .waitForEvent, ops)
      else ({ q with dp := none }, .finished, ops ++ [.closedir])

/-- The spec of one call: it dispatches the kept entries among the first `DIRLIST_BATCH` of the
stream, and returns `HANDLER_WAIT_FOR_EVENT` with the rest of the stream when the stream holds at
least `DIRLIST_BATCH` entries, `HANDLER_FINISHED` with the directory closed otherwise. -/
theorem httpReadDirectory_eq (env : RenderEnv) {p : HandlerCtx} {stream : List RawEnt}
    (hdp : p.dp = some stream) :
    httpReadDirectory env p =
      (dispatchAll env p ((stream.take dirlistBatch).filterMap (keptEntry p.conf p.nameMax))).map
        fun q ↦
          if dirlistBatch ≤ stream.length then
            ({ q with dp := some (stream.drop dirlistBatch) }, .waitForEvent,
              loopOps p.conf p.nameMax 0 stream)
          else ({ q with dp := none }, .finished, loopOps p.conf p.nameMax 0 stream ++ [.closedir]) := by
  simp only [httpReadDirectory, hdp, Option.some_bind, readdirLoop_eq, Nat.sub_zero, Option.map_map]
  refine Option.map_congr fun q _ ↦ ?_
  by_cases hlen : dirlistBatch ≤ stream.length
  · simp [hlen, Nat.min_eq_left hlen]
  · simp [hlen, Nat.min_eq_right (Nat.le_of_not_le hlen), Nat.ne_of_lt (Nat.lt_of_not_le hlen)]

theorem onDirectory_entryOps (conf : PluginConfig) (nameMax : Nat) (raw : RawEnt) :
    ∀ op ∈ entryOps conf nameMax raw, op.onDirectory := by
  unfold entryOps
  split_ifs
  · simp
  · cases raw.stat <;> simp [Op.onDirectory]

theorem onDirectory_loopOps (conf : PluginConfig) (nameMax count : Nat) (stream : List RawEnt) :
    ∀ op ∈ loopOps conf nameMax count stream, op.onDirectory := by
  induction stream generalizing count with
  | nil =>
    unfold loopOps
    split_ifs <;> simp [Op.onDirectory]
  | cons raw rest ih =>
    unfold loopOps
    split_ifs
    · simp only [List.cons_append, List.mem_cons, List.mem_append]
      rintro op (rfl | hop | hop)
      exacts [rfl, onDirectory_entryOps _ _ _ op hop, ih _ op hop]
    · simp

/-- The frame of one call: it keeps the mode, the name bound and the cache file, returns
`HANDLER_WAIT_FOR_EVENT` or `HANDLER_FINISHED`, and operates on the directory only. -/
theorem httpReadDirectory_frame {env : RenderEnv} {p q : HandlerCtx} {rc : Handler} {ops : List Op}
    (h : httpReadDirectory env p = some (q, rc, ops)) :
    SameScan p q ∧ (rc = .waitForEvent ∨ rc = .finished) ∧ ∀ op ∈ ops, op.onDirectory := by
  obtain ⟨stream, hdp, -⟩ := Option.bind_eq_some.mp h
  rw [httpReadDirectory_eq env hdp] at h
  obtain ⟨q', hq', hres⟩ := Option.map_eq_some'.mp h
  have hsame := sameScan_dispatchAll hq'
  have hframe : ∀ dp, SameScan p { q' with dp := dp } := fun _ ↦
    ⟨⟨hsame.conf, hsame.jbMode, hsame.hbMode⟩, hsame.nameMax, hsame.jfd, hsame.jfn⟩
  split_ifs at hres <;> cases hres
  · exact ⟨hframe _, .inl rfl, onDirectory_loopOps _ _ _ _⟩
  · refine ⟨hframe _, .inr rfl, ?_⟩
    simp only [List.mem_append, List.mem_singleton]
    rintro op (hop | rfl)
    exacts [onDirectory_loopOps _ _ _ _ op hop, rfl]

/-- The handler of a sorted listing after `http_open_directory`, with the default configuration and
`dir-listing.activate` set. -/
def openedCtx (nameMax : Nat) (dp : Option (List RawEnt)) : HandlerCtx where
  dp := dp
  dirs := .empty
  files := .empty
  nameMax := nameMax
  hb := none
  jb := none
  jcomma := false
  jfd := 0
  jfn := none
  conf := { PluginConfig.defaults with dirListing := true }

end Dirlisting
