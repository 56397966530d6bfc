import Dirlisting.Scan

/-!
# The `_WIN32` iteration of `http_read_directory`

On Windows the stream is a find handle: `http_open_directory` calls `FindFirstFileExW`, which
leaves the first entry in `p->ffd`, and `http_read_directory` runs

```
do { ... } while (++count < DIRLIST_BATCH && FindNextFileW (p->hFind, &p->ffd) != 0);
```

The body runs on `p->ffd` before the first test. When a call stops because `count` reached
`DIRLIST_BATCH`, the `&&` skips `FindNextFileW`, so `p->ffd` still holds the entry the call has just
processed, and the next call starts by processing it again. `findLoop` is that loop and
`httpReadDirectoryWin32` the call.

`httpReadDirectoryWin32_redispatch` shows the consequence for every stream of at least
`DIRLIST_BATCH` entries: the entry at position `DIRLIST_BATCH` is dispatched by the first call and
again by the second, while the POSIX loop dispatches every kept entry once
(`httpReadDirectory_eq`). `httpReadDirectoryWin32_thirtyTwoFiles` is the two iterations on a
directory of 32 files.
-/

set_option autoImplicit false
set_option relaxedAutoImplicit false

namespace Dirlisting

/-- The `_WIN32` fields of `handler_ctx`: `hFind`, `none` for `INVALID_HANDLE_VALUE` and otherwise
the entries `FindNextFileW` has still to return, and the entry held in `ffd`. The other fields are
those of `HandlerCtx`, whose `dp` the `_WIN32` build does not have. -/
structure Win32Ctx where
  ctx : HandlerCtx
  hFind : Option (List RawEnt)
  ffd : RawEnt

/-- The find handle of `http_open_directory` on a directory stream: `FindFirstFileExW` puts the
first entry into `ffd`; a stream without entries leaves `INVALID_HANDLE_VALUE`
(`ERROR_FILE_NOT_FOUND`). -/
def findFirstFile (ctx : HandlerCtx) (filler : RawEnt) : List RawEnt → Win32Ctx
  | [] => ⟨ctx, none, filler⟩
  | first :: rest => ⟨ctx, some rest, first⟩

/-- The `_WIN32` loop `do { body } while (++count < DIRLIST_BATCH && FindNextFileW (...))`, from
the body on `ffd` with `count` the value before the `++`. It returns the handler, the entry left in
`ffd`, the entries `FindNextFileW` has still to return, the last value of `count` and the
operations. When no entry is left the loop ends with the same result whether or not the test on
`count` calls `FindNextFileW`. A failed name conversion is a raw entry without metadata, skipped by
the body like a failed `fstatat`. -/
def findLoop (env : RenderEnv) (count : Nat) (p : HandlerCtx) (ffd : RawEnt) :
    List RawEnt → Option (HandlerCtx × RawEnt × List RawEnt × Nat × List Op)
  | [] => (httpReadDirectoryEntry env p ffd).map fun (q, ops) ↦ (q, ffd, [], count + 1, ops)
  | next :: more =>
    (httpReadDirectoryEntry env p ffd).bind fun (q, ops) ↦
      if count + 1 < dirlistBatch then
        (findLoop env (count + 1) q next more).map fun (q, ffd, rest, count, ops') ↦
          (q, ffd, rest, count, ops ++ ops')
      else some (q, ffd, next :: more, count + 1, ops)

/-- `http_read_directory` on `_WIN32`: a batch of `findLoop`, `HANDLER_WAIT_FOR_EVENT` when `count`
reached `DIRLIST_BATCH`, otherwise `FindClose` and `HANDLER_FINISHED`. -/
def httpReadDirectoryWin32 (env : RenderEnv) (w : Win32Ctx) :
    Option (Win32Ctx × Handler × List Op) :=
  match w.hFind with
  | none => some (w, .finished, [])
  | some rest =>
    (findLoop env 0 w.ctx w.ffd rest).map fun (q, ffd, rest, count, ops) ↦
      if count = dirlistBatch then (⟨q, some rest, ffd⟩, .waitForEvent, ops)
      else (⟨q, none, ffd⟩, .finished, ops)

/-- The spec of the `_WIN32` loop: from `count`, it runs the body on the next
`DIRLIST_BATCH - count` entries of `ffd :: rest` and leaves the last of them in `ffd`. -/
theorem findLoop_eq (env : RenderEnv) {count : Nat} (hcount : count < dirlistBatch)
    (p : HandlerCtx) (ffd : RawEnt) (rest : List RawEnt) :
    (findLoop env count p ffd rest).map (fun r ↦ (r.1, r.2.1, r.2.2.1, r.2.2.2.1,
        dispatches r.2.2.2.2)) =
      (dispatchAll env p (((ffd :: rest).take (dirlistBatch - count)).filterMap
          (keptEntry p.conf p.nameMax))).map fun q ↦
        (q, ((ffd :: rest).take (dirlistBatch - count)).getLastD ffd,
          rest.drop (dirlistBatch - count - 1), count + min (dirlistBatch - count) (rest.length + 1),
          ((ffd :: rest).take (dirlistBatch - count)).filterMap (keptEntry p.conf p.nameMax)) := by
  obtain ⟨k, hk⟩ : ∃ k, dirlistBatch - count = k + 1 := ⟨dirlistBatch - count - 1, by omega⟩
  rw [hk]
  induction rest generalizing count p ffd k with
  | nil =>
    rw [findLoop, httpReadDirectoryEntry_eq]
    rcases hq : dispatchAll env p (keptEntry p.conf p.nameMax ffd).toList with _ | q
    · simp [filterMap_cons_toList, hq]
    · simp [filterMap_cons_toList, hq, dispatches_entryOps]
  | cons next more ih =>
    rw [findLoop, httpReadDirectoryEntry_eq, List.take_succ_cons, filterMap_cons_toList,
      dispatchAll_append]
    rcases hq : dispatchAll env p (keptEntry p.conf p.nameMax ffd).toList with _ | q
    · simp [hq]
    · have hsame := sameScan_dispatchAll hq
      by_cases hnext : count + 1 < dirlistBatch
      · obtain ⟨k', hk'⟩ : ∃ k', k = k' + 1 := ⟨k - 1, by omega⟩
        have hrec := ih hnext q next k' (by omega)
        rw [hsame.conf, hsame.nameMax] at hrec
        subst hk'
        have hsplit : ∀ o : Option (HandlerCtx × RawEnt × List RawEnt × Nat × List Op),
            Option.map (fun r ↦ (r.1, r.2.1, r.2.2.1, r.2.2.2.1, dispatches r.2.2.2.2))
              (Option.map (fun x ↦ (x.1, x.2.1, x.2.2.1, x.2.2.2.1,
                entryOps p.conf p.nameMax ffd ++ x.2.2.2.2)) o) =
            Option.map (fun r ↦ (r.1, r.2.1, r.2.2.1, r.2.2.2.1,
                (keptEntry p.conf p.nameMax ffd).toList ++ r.2.2.2.2))
              (Option.map (fun r ↦ (r.1, r.2.1, r.2.2.1, r.2.2.2.1, dispatches r.2.2.2.2)) o) := by
          intro o
          cases o <;> simp
        simp only [Option.map_some', Option.some_bind, if_pos hnext]
        rw [hsplit, hrec, Option.map_map]
        refine Option.map_congr fun q' _ ↦ ?_
        simp only [Function.comp, List.take_succ_cons, List.getLastD_cons, List.drop_succ_cons,
          List.length_cons, Nat.add_sub_cancel, Prod.mk.injEq, true_and, and_true]
        omega
      · have hk0 : k = 0 := by omega
        subst hk0
        simp [hq, hnext, dispatches_entryOps]

/-- The spec of one `_WIN32` call on an open find handle: it dispatches the kept entries among the
first `DIRLIST_BATCH` of `ffd :: rest`, and when there are that many it returns
`HANDLER_WAIT_FOR_EVENT` with the last of them still in `ffd`. -/
theorem httpReadDirectoryWin32_eq (env : RenderEnv) {w : Win32Ctx} {rest : List RawEnt}
    (hfind : w.hFind = some rest) :
    (httpReadDirectoryWin32 env w).map (fun r ↦ (r.1, r.2.1, dispatches r.2.2)) =
      (dispatchAll env w.ctx (((w.ffd :: rest).take dirlistBatch).filterMap
          (keptEntry w.ctx.conf w.ctx.nameMax))).map fun q ↦
        if dirlistBatch ≤ rest.length + 1 then
          (⟨q, some (rest.drop (dirlistBatch - 1)), ((w.ffd :: rest).take dirlistBatch).getLastD w.ffd⟩,
            .waitForEvent,
            ((w.ffd :: rest).take dirlistBatch).filterMap (keptEntry w.ctx.conf w.ctx.nameMax))
        else
          (⟨q, none, ((w.ffd :: rest).take dirlistBatch).getLastD w.ffd⟩, .finished,
            ((w.ffd :: rest).take dirlistBatch).filterMap (keptEntry w.ctx.conf w.ctx.nameMax)) := by
  have hsplit : (httpReadDirectoryWin32 env w).map (fun r ↦ (r.1, r.2.1, dispatches r.2.2)) =
      ((findLoop env 0 w.ctx w.ffd rest).map fun r ↦
          (r.1, r.2.1, r.2.2.1, r.2.2.2.1, dispatches r.2.2.2.2)).map fun r ↦
        if r.2.2.2.1 = dirlistBatch then (⟨r.1, some r.2.2.1, r.2.1⟩, .waitForEvent, r.2.2.2.2)
        else (⟨r.1, none, r.2.1⟩, .finished, r.2.2.2.2) := by
    simp only [httpReadDirectoryWin32, hfind, Option.map_map]
    refine Option.map_congr fun r _ ↦ ?_
    obtain ⟨q, ffd, rest, count, ops⟩ := r
    by_cases hcount : count = dirlistBatch <;> simp [hcount]
  rw [hsplit, findLoop_eq env (by decide), Option.map_map]
  refine Option.map_congr fun q _ ↦ ?_
  by_cases hlen : dirlistBatch ≤ rest.length + 1
  · simp [hlen, Nat.min_eq_left hlen]
  · simp [hlen, Nat.min_eq_right (Nat.le_of_not_le hlen), Nat.ne_of_lt (Nat.lt_of_not_le hlen)]

/-- The entry at position `DIRLIST_BATCH` of a find stream is dispatched twice: a call on at least
`DIRLIST_BATCH` entries returns `HANDLER_WAIT_FOR_EVENT` with its dispatches ending with that entry,
which `ffd` still holds, and every next call starts by dispatching it again. -/
theorem httpReadDirectoryWin32_redispatch (env : RenderEnv) {w w1 : Win32Ctx}
    {rest : List RawEnt} {h1 : Handler} {ops1 : List Op} (hfind : w.hFind = some rest)
    (hlen : dirlistBatch ≤ rest.length + 1) (hcall : httpReadDirectoryWin32 env w = some (w1, h1, ops1)) :
    h1 = .waitForEvent ∧ (w.ffd :: rest)[dirlistBatch - 1]? = some w1.ffd ∧
      dispatches ops1 = ((w.ffd :: rest).take (dirlistBatch - 1)).filterMap
          (keptEntry w.ctx.conf w.ctx.nameMax) ++ (keptEntry w.ctx.conf w.ctx.nameMax w1.ffd).toList ∧
      ∀ w2 h2 ops2, httpReadDirectoryWin32 env w1 = some (w2, h2, ops2) →
        (keptEntry w.ctx.conf w.ctx.nameMax w1.ffd).toList <+: dispatches ops2 := by
  have hfirst := congrArg (Option.map fun r ↦ (r.1, r.2.1, dispatches r.2.2)) hcall
  simp only [httpReadDirectoryWin32_eq env hfind, if_pos hlen, Option.map_some'] at hfirst
  obtain ⟨q, hq, hw1⟩ := Option.map_eq_some'.mp hfirst
  simp only [Prod.mk.injEq] at hw1
  obtain ⟨rfl, rfl, hops1⟩ := hw1
  have hsame := sameScan_dispatchAll hq
  obtain ⟨y, hy⟩ : ∃ y, (w.ffd :: rest)[dirlistBatch - 1]? = some y :=
    ⟨_, List.getElem?_eq_getElem (by simp only [List.length_cons]; omega)⟩
  have htake : (w.ffd :: rest).take dirlistBatch = (w.ffd :: rest).take (dirlistBatch - 1) ++ [y] := by
    rw [show dirlistBatch = dirlistBatch - 1 + 1 from rfl, List.take_succ, hy]
    rfl
  refine ⟨rfl, by simp [htake, hy], by simp [← hops1, htake, List.filterMap_append, filterMap_cons_toList], ?_⟩
  intro w2 h2 ops2 hcall2
  have hsecond := congrArg (Option.map fun r ↦ (r.1, r.2.1, dispatches r.2.2)) hcall2
  rw [httpReadDirectoryWin32_eq env rfl, Option.map_some'] at hsecond
  obtain ⟨q2, -, hw2⟩ := Option.map_eq_some'.mp hsecond
  have hds := congrArg (fun r ↦ r.2.2) hw2
  simp only [apply_ite (fun r : Win32Ctx × Handler × List (DirlsEntry × Bool) ↦ r.2.2), ite_self,
    List.take_cons (show 0 < dirlistBatch by decide), filterMap_cons_toList, hsame.conf,
    hsame.nameMax] at hds
  exact ⟨_, hds⟩

/-- A directory of 32 regular files, `f0` to `fO`. -/
def thirtyTwoFiles : List RawEnt :=
  (List.range 32).map fun i ↦ ⟨[102, (48 + i).toUInt8], some ⟨false, 0, 0⟩⟩

/-- Renderers that copy each byte; the sorted mode does not call them. -/
def plainEnv : RenderEnv where
  relUriPart b := [b]
  minimalXml b := [b]
  bsEscapedJson b := [b]
  mtimeStr _ := []
  contentType _ := none

/-- On 32 files the two `_WIN32` calls dispatch `fO` twice (with the `name_max` of `_WIN32`), while
the two POSIX calls dispatch each file once (with the `name_max` of a physical path `/var/www/`). -/
theorem httpReadDirectoryWin32_thirtyTwoFiles :
    ((httpReadDirectoryWin32 plainEnv (findFirstFile (openedCtx 1040 none) ⟨[], none⟩
        thirtyTwoFiles)).bind fun (w1, h1, ops1) ↦
      (httpReadDirectoryWin32 plainEnv w1).map fun (_, h2, ops2) ↦
        (h1, h2, (dispatches (ops1 ++ ops2)).map (·.1.name))) =
      some (.waitForEvent, .finished, thirtyTwoFiles.map (·.name) ++ [[102, 79]]) ∧
    ((httpReadDirectory plainEnv (openedCtx 4086 (some thirtyTwoFiles))).bind fun (p1, h1, ops1) ↦
      (httpReadDirectory plainEnv p1).map fun (_, h2, ops2) ↦
        (h1, h2, (dispatches (ops1 ++ ops2)).map (·.1.name))) =
      some (.waitForEvent, .finished, thirtyTwoFiles.map (·.name)) := by
  decide

end Dirlisting
