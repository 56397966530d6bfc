import Dirlisting.Basic

/-!
# Creating the cache directories

`mod_dirlisting_cache_add` and `mod_dirlisting_cache_stream_init` build the cache directory of a
request in `r->tmp_buf`, `dir-listing.cache` followed by `r->physical.path`, and when it is missing
call `mkdir_recursive (tb->ptr, buffer_clen (cache->path))`. It writes a NUL over each `/` from the
end of the cache root on, calls `mkdir` on the prefix before it, and writes the `/` back; the callers
then append `dirlist.html` or `dirlist.json` to the same buffer, so the cache file is named after the
directory only if every `/` was put back.

`mkdirRecursive` is the loop on the bytes of the buffer, with `strchr` on them and `mkdir` reporting
as the file system does, call by call; it returns on every path (`mkdirRecursive_isSome`).
`mkdirRecursiveSpec` states what it does in the terms of the
spec: `mkdir` on the prefix before each `/` from the start index on, in increasing order, up to the
first failure other than `EEXIST`, and the path left as it was. `mkdirRecursive_spec` shows that for
every path without an interior NUL and every offset up to its length the loop ends and does exactly
that, on every return path.
-/

set_option autoImplicit false
set_option relaxedAutoImplicit false

namespace Dirlisting

/-! ### The loop -/

/-- What one `mkdir (dir, 0700)` reports: success, or failure with `errno`. -/
inductive MkdirResult
  | ok
  | failed (errno : Nat)
  deriving DecidableEq, Repr

/-- `EEXIST`. -/
def eexist : Nat := 17

/-- `ENOTDIR`. -/
def enotdir : Nat := 20

/-- The `errno` of a failure other than `EEXIST`, on which `mkdir_recursive` returns `-1`. -/
def MkdirResult.fatal : MkdirResult → Option Nat
  | .ok => none
  | .failed errno => if errno = eexist then none else some errno

/-- What `mkdir_recursive` leaves: its return value, the `errno` of a return of `-1`, the bytes of
`dir` with the NUL that ends them, and the paths given to `mkdir`, in order. -/
structure MkdirRun where
  rc : Int
  errno : Option Nat
  dir : Bytes
  calls : List Bytes
  deriving DecidableEq, Repr

/-- `strchr (p, '/')` with `p` at index `i` of the bytes `buf`: the index of the first `/` before
the first NUL. -/
def strchrSlash : Bytes → Nat → Option Nat
  | [], _ => none
  | b :: rest, i => if b = 47 then some i else if b = 0 then none else strchrSlash rest (i + 1)

/-- The loop `do { *p = '\0'; rc = mkdir (dir, 0700); *p = '/'; ... } while ((p = strchr (p+1, '/')))`
at the index `p`, after `k` calls of `mkdir`. `mkdir` reads its path up to the first NUL. `none`
when the fuel runs out. -/
def mkdirLoop (mkdir : Nat → Bytes → MkdirResult) :
    Nat → Nat → Nat → Bytes → List Bytes → Option MkdirRun
  | 0, _, _, _, _ => none
  | fuel + 1, k, p, buf, calls =>
    let path := (buf.set p 0).takeWhile (· ≠ 0)
    let buf := (buf.set p 0).set p 47
    match (mkdir k path).fatal with
    | some errno => some ⟨-1, some errno, buf, calls ++ [path]⟩
    | none =>
      match strchrSlash (buf.drop (p + 1)) (p + 1) with
      | none => some ⟨0, none, buf, calls ++ [path]⟩
      | some p => mkdirLoop mkdir fuel (k + 1) p buf (calls ++ [path])

/-- `mkdir_recursive (dir, off)` on the bytes of `dir` and its NUL: the loop starts at `dir + off`
when it holds `/`, else at the `/` just before it, and otherwise the call fails with `ENOTDIR`. -/
def mkdirRecursive (mkdir : Nat → Bytes → MkdirResult) (dir : Bytes) (off : Nat) : Option MkdirRun :=
  let buf := dir ++ [0]
  if buf.getD off 0 = 47 then mkdirLoop mkdir buf.length 0 off buf []
  else if off ≠ 0 ∧ buf.getD (off - 1) 0 = 47 then mkdirLoop mkdir buf.length 0 (off - 1) buf []
  else some ⟨-1, some enotdir, buf, []⟩

/-! ### The loop always returns -/

theorem strchrSlash_bound : ∀ (buf : Bytes) (i q : Nat), strchrSlash buf i = some q →
    i ≤ q ∧ q < i + buf.length
  | [], _, _, h => by simp [strchrSlash] at h
  | b :: rest, i, q, h => by
    unfold strchrSlash at h
    split_ifs at h
    · cases h
      simp
    · have hrest := strchrSlash_bound rest (i + 1) q h
      simp only [List.length_cons]
      omega

theorem lt_length_of_getD_slash {buf : Bytes} {i : Nat} (h : buf.getD i 0 = 47) : i < buf.length := by
  by_contra hi
  simp [List.getD_eq_getElem?_getD, List.getElem?_eq_none (Nat.not_lt.mp hi)] at h

/-- Each pass moves `p` to a later `/` of the buffer, so fuel for every index from `p` to the end
suffices. -/
theorem mkdirLoop_isSome (mkdir : Nat → Bytes → MkdirResult) :
    ∀ (fuel k p : Nat) (buf : Bytes) (calls : List Bytes), p < buf.length → buf.length - p ≤ fuel →
      (mkdirLoop mkdir fuel k p buf calls).isSome
  | 0, _, _, _, _, hp, hfuel => by omega
  | fuel + 1, k, p, buf, calls, hp, hfuel => by
    simp only [mkdirLoop]
    split
    · rfl
    · split
      · rfl
      · rename_i q hq
        have hq' := strchrSlash_bound _ _ _ hq
        simp only [List.length_drop, List.length_set] at hq'
        exact mkdirLoop_isSome mkdir fuel (k + 1) q _ _ (by simp only [List.length_set]; omega)
          (by simp only [List.length_set]; omega)

/-- `mkdir_recursive` returns on every path and every offset. -/
theorem mkdirRecursive_isSome (mkdir : Nat → Bytes → MkdirResult) (dir : Bytes) (off : Nat) :
    (mkdirRecursive mkdir dir off).isSome := by
  unfold mkdirRecursive
  dsimp only
  split_ifs with h1 h2
  · exact mkdirLoop_isSome mkdir _ 0 off _ [] (lt_length_of_getD_slash h1) (by omega)
  · exact mkdirLoop_isSome mkdir _ 0 (off - 1) _ [] (lt_length_of_getD_slash h2.2) (by omega)
  · rfl

/-! ### The spec -/

/-- The indices of the `/` of `dir` from `i` on. -/
def slashesFrom (dir : Bytes) (i : Nat) : List Nat :=
  (List.range' i (dir.length - i)).filter fun j ↦ dir.getD j 0 = 47

/-- `mkdir` on each path in turn, the `k`-th call first, up to the first failure other than
`EEXIST`: the return value, its `errno`, and the paths given to `mkdir`. -/
def mkdirEach (mkdir : Nat → Bytes → MkdirResult) (k : Nat) : List Bytes → Int × Option Nat × List Bytes
  | [] => (0, none, [])
  | path :: rest =>
    match (mkdir k path).fatal with
    | some errno => (-1, some errno, [path])
    | none =>
      let (rc, errno, calls) := mkdirEach mkdir (k + 1) rest
      (rc, errno, path :: calls)

/-- `mkdir_recursive` as the spec words it. The start index is `off` when `dir[off]` is `/`, else
`off - 1` when `off > 0` and `dir[off - 1]` is `/`; `mkdir` is called on the prefix of `dir` before
each `/` from there on, in order, up to the first failure other than `EEXIST`, and `dir` is left as
it was. Without a start index the call fails with `ENOTDIR` and makes no `mkdir`. -/
def mkdirRecursiveSpec (mkdir : Nat → Bytes → MkdirResult) (dir : Bytes) (off : Nat) : MkdirRun :=
  let start := if dir.getD off 0 = 47 then some off
    else if off ≠ 0 ∧ dir.getD (off - 1) 0 = 47 then some (off - 1) else none
  match start with
  | none => ⟨-1, some enotdir, dir ++ [0], []⟩
  | some s =>
    let (rc, errno, calls) := mkdirEach mkdir 0 ((slashesFrom dir s).map dir.take)
    ⟨rc, errno, dir ++ [0], calls⟩

/-! ### The loop does what the spec says -/

section Refinement

variable {dir : Bytes}

theorem slashesFrom_of_le {i : Nat} (hi : dir.length ≤ i) : slashesFrom dir i = [] := by
  simp [slashesFrom, Nat.sub_eq_zero_of_le hi]

theorem slashesFrom_of_lt {i : Nat} (hi : i < dir.length) :
    slashesFrom dir i = if dir.getD i 0 = 47 then i :: slashesFrom dir (i + 1) else slashesFrom dir (i + 1) := by
  rw [slashesFrom, show dir.length - i = dir.length - (i + 1) + 1 by omega, List.range'_succ,
    List.filter_cons]
  simp only [decide_eq_true_eq]
  rfl

/-- `strchr` from index `i` finds the first `/` of `dir` from `i` on, if any. -/
theorem strchrSlash_drop (hnul : 0 ∉ dir) :
    ∀ n i, dir.length - i = n → i ≤ dir.length →
      (strchrSlash ((dir ++ [0]).drop i) i = none → slashesFrom dir i = []) ∧
      ∀ p, strchrSlash ((dir ++ [0]).drop i) i = some p →
        p < dir.length ∧ dir.getD p 0 = 47 ∧ slashesFrom dir i = p :: slashesFrom dir (p + 1)
  | 0, i, hn, hi => by
    have hlen : i = dir.length := by omega
    subst hlen
    simp [strchrSlash, @slashesFrom_of_le dir dir.length (Nat.le_refl _)]
  | n + 1, i, hn, hi => by
    have hlt : i < dir.length := by omega
    have hdrop : (dir ++ [0]).drop i = dir[i] :: (dir ++ [0]).drop (i + 1) := by
      rw [List.drop_append_of_le_length hi, List.drop_eq_getElem_cons hlt, List.drop_append_of_le_length hlt]
      rfl
    have hne : dir[i] ≠ 0 := fun h ↦ hnul (h ▸ List.getElem_mem hlt)
    have hget : dir.getD i 0 = dir[i] := by simp [List.getD_eq_getElem?_getD, hlt]
    obtain ⟨ihnone, ihsome⟩ := strchrSlash_drop hnul n (i + 1) (by omega) hlt
    rw [hdrop, strchrSlash, slashesFrom_of_lt hlt, hget]
    by_cases hslash : dir[i] = 47
    · simp only [hslash, if_true, Option.some.injEq, reduceCtorEq, false_implies, true_and]
      rintro p rfl
      exact ⟨hlt, hget.trans hslash, rfl⟩
    · simp only [hslash, hne, if_false]
      exact ⟨ihnone, ihsome⟩

theorem takeWhile_set_zero (hnul : 0 ∉ dir) {p : Nat} (hp : p < dir.length) :
    ((dir ++ [0]).set p 0).takeWhile (· ≠ 0) = dir.take p := by
  rw [List.set_append_left _ _ hp, List.set_eq_take_append_cons_drop, if_pos hp, List.append_assoc,
    List.takeWhile_append_of_pos fun a ha ↦ by
      simpa using fun (h : a = 0) ↦ hnul (h ▸ List.mem_of_mem_take ha)]
  simp

theorem set_slash_restore {p : Nat} (hp : p < dir.length) (hslash : dir.getD p 0 = 47) :
    ((dir ++ [0]).set p 0).set p 47 = dir ++ [0] := by
  rw [List.set_set, List.set_append_left _ _ hp, List.set_eq_take_append_cons_drop, if_pos hp]
  have hget : dir[p] = 47 := by simpa [List.getD_eq_getElem?_getD, hp] using hslash
  congr 1
  rw [← hget, ← List.drop_eq_getElem_cons hp, List.take_append_drop]

/-- The loop from a `/` of `dir`: every `/` it visits is written back, and it calls `mkdir` as
`mkdirEach` does on the prefixes before the `/` from `p` on. -/
theorem mkdirLoop_eq (mkdir : Nat → Bytes → MkdirResult) (hnul : 0 ∉ dir) :
    ∀ (fuel k p : Nat) (calls : List Bytes), p < dir.length → dir.getD p 0 = 47 →
      (slashesFrom dir p).length ≤ fuel →
      mkdirLoop mkdir fuel k p (dir ++ [0]) calls =
        some ⟨(mkdirEach mkdir k ((slashesFrom dir p).map dir.take)).1,
          (mkdirEach mkdir k ((slashesFrom dir p).map dir.take)).2.1, dir ++ [0],
          calls ++ (mkdirEach mkdir k ((slashesFrom dir p).map dir.take)).2.2⟩
  | 0, k, p, calls, hp, hslash, hfuel => by
    rw [slashesFrom_of_lt hp, if_pos hslash] at hfuel
    simp at hfuel
  | fuel + 1, k, p, calls, hp, hslash, hfuel => by
    have hslashes := slashesFrom_of_lt hp
    rw [if_pos hslash] at hslashes
    rw [hslashes] at hfuel ⊢
    simp only [mkdirLoop, takeWhile_set_zero hnul hp, set_slash_restore hp hslash, List.map_cons, mkdirEach]
    rcases hfatal : (mkdir k (dir.take p)).fatal with _ | errno
    · obtain ⟨hnone, hsome⟩ := strchrSlash_drop hnul _ (p + 1) rfl hp
      rcases hstr : strchrSlash ((dir ++ [0]).drop (p + 1)) (p + 1) with _ | q
      · simp [hstr, hnone hstr, mkdirEach]
      · obtain ⟨hq, hqslash, hnext⟩ := hsome q hstr
        have hq' : slashesFrom dir q = q :: slashesFrom dir (q + 1) := by
          rw [slashesFrom_of_lt hq, if_pos hqslash]
        simp only [hstr]
        rw [mkdirLoop_eq mkdir hnul fuel (k + 1) q _ hq hqslash (by simp [hnext, hq'] at hfuel ⊢; omega),
          hnext, hq']
        simp
    · simp

/-- `mkdir_recursive` on every path without an interior NUL and every offset up to its length ends,
and does what `mkdirRecursiveSpec` says: the `mkdir` calls, the return value and `errno` of the spec,
and `dir` byte for byte as it was, on every return path. -/
theorem mkdirRecursive_spec (mkdir : Nat → Bytes → MkdirResult) (hnul : 0 ∉ dir) {off : Nat}
    (hoff : off ≤ dir.length) : mkdirRecursive mkdir dir off = some (mkdirRecursiveSpec mkdir dir off) := by
  have hget : ∀ i ≤ dir.length, (dir ++ [0]).getD i 0 = dir.getD i 0 := by
    intro i hi
    rcases Nat.lt_or_ge i dir.length with h | h
    · simp [List.getD_eq_getElem?_getD, List.getElem?_append_left h]
    · rw [show i = dir.length by omega]
      simp [List.getD_eq_getElem?_getD, List.getElem?_eq_none (Nat.le_refl dir.length)]
  have hlen : ∀ p, dir.getD p 0 = 47 → p < dir.length := fun _ ↦ lt_length_of_getD_slash
  have hfuel : ∀ p, (slashesFrom dir p).length ≤ (dir ++ [0]).length := by
    intro p
    have := List.length_filter_le (fun j ↦ decide (dir.getD j 0 = 47)) (List.range' p (dir.length - p))
    simp only [List.length_range'] at this
    simp only [slashesFrom, List.length_append, List.length_singleton]
    omega
  unfold mkdirRecursive mkdirRecursiveSpec
  dsimp only
  rw [hget off hoff, hget (off - 1) (by omega)]
  split_ifs with h1 h2
  · rw [mkdirLoop_eq mkdir hnul _ 0 off [] (hlen _ h1) h1 (hfuel _)]
    rfl
  · rw [mkdirLoop_eq mkdir hnul _ 0 (off - 1) [] (hlen _ h2.2) h2.2 (hfuel _)]
    rfl
  · rfl

theorem mkdirRecursive_spec_cacheDir :
    0 ∉ lit "/c/var/www/d/" ∧ 2 ≤ (lit "/c/var/www/d/").length ∧
      mkdirRecursive (fun _ _ ↦ .failed eexist) (lit "/c/var/www/d/") 2 =
        some (mkdirRecursiveSpec (fun _ _ ↦ .failed eexist) (lit "/c/var/www/d/") 2) :=
  ⟨by decide, by decide, mkdirRecursive_spec _ (by decide) (by decide)⟩

end Refinement

end Dirlisting
