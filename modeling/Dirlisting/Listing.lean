import Dirlisting.Subrequest
import Dirlisting.ScanRun

/-!
# What the dispatch builds in each mode

The dispatch of `http_read_directory` in its three modes, folded over a list of entries: in JSON
mode it appends to `hctx->jb` the elements of `jsonAppend`, which with the opening `[` and the closing
`]` make the array `jsonListing` of the kept entries, whatever the flushes and whatever batch set
`hctx->jcomma` (`jsonAppend_append`); in the unsorted HTML mode it appends the rows `htmlRow`; in
the sorted mode it appends the records to `hctx->dirs` and `hctx->files` by type.
-/

set_option autoImplicit false
set_option relaxedAutoImplicit false

namespace Dirlisting

/-! ### JSON mode -/

/-- The bytes the JSON dispatch appends for a list of entries, from the value of `hctx->jcomma`. -/
def jsonAppend (env : RenderEnv) : Bool → List (DirlsEntry × Bool) → Bytes
  | _, [] => []
  | jcomma, (ent, isDir) :: rest => httpListDirectoryJsonname env ent jcomma isDir ++ jsonAppend env true rest

/-- The JSON body of the spec: `[`, the elements of the entries joined by `,`, and `]`. -/
def jsonListing (env : RenderEnv) (l : List (DirlsEntry × Bool)) : Bytes :=
  lit "[" ++ (lit ",").intercalate (l.map fun e ↦ jsonElement env e.1 e.2) ++ lit "]"

theorem jsonAppend_append (env : RenderEnv) (jcomma : Bool) (l m : List (DirlsEntry × Bool)) :
    jsonAppend env jcomma (l ++ m) = jsonAppend env jcomma l ++ jsonAppend env (jcomma || !l.isEmpty) m := by
  induction l generalizing jcomma with
  | nil => simp [jsonAppend]
  | cons head rest ih => simp [jsonAppend, ih]

theorem jsonAppend_true (env : RenderEnv) (l : List (DirlsEntry × Bool)) :
    jsonAppend env true l = (l.map fun e ↦ lit "," ++ jsonElement env e.1 e.2).flatten := by
  induction l with
  | nil => rfl
  | cons head rest ih => simp [jsonAppend, ih, httpListDirectoryJsonname_true]

private theorem intercalate_cons_eq {α : Type} (sep x : List α) (xs : List (List α)) :
    sep.intercalate (x :: xs) = x ++ (xs.map (sep ++ ·)).flatten := by
  induction xs generalizing x with
  | nil => simp [List.intercalate]
  | cons y ys ih =>
    have h := ih y
    simp only [List.intercalate, List.intersperse_cons₂, List.flatten_cons] at h ⊢
    rw [h]
    simp

/-- The array opened by `[`, filled from a clear `hctx->jcomma` and closed by `]` is `jsonListing`. -/
theorem jsonAppend_false (env : RenderEnv) (l : List (DirlsEntry × Bool)) :
    lit "[" ++ jsonAppend env false l ++ lit "]" = jsonListing env l := by
  cases l with
  | nil => rfl
  | cons head rest =>
    simp [jsonListing, jsonAppend, jsonAppend_true, intercalate_cons_eq, jsonElement, Function.comp_def]

theorem dispatchAll_json (env : RenderEnv) {p : HandlerCtx} {jb : Bytes} (hjb : p.jb = some jb)
    (l : List (DirlsEntry × Bool)) :
    dispatchAll env p l =
      some { p with jb := some (jb ++ jsonAppend env p.jcomma l), jcomma := p.jcomma || !l.isEmpty } := by
  induction l generalizing p jb with
  | nil =>
    simp only [dispatchAll, jsonAppend, List.append_nil, List.isEmpty_nil, Bool.not_true, Bool.or_false]
    rw [← hjb]
  | cons head rest ih =>
    simp only [dispatchAll, httpReadDirectoryDispatch, hjb, Option.some_bind]
    rw [ih rfl]
    simp [jsonAppend]

/-! ### Unsorted HTML mode -/

/-- The HTML row of a dispatched entry: `http_list_directory_dirname` for a directory,
`http_list_directory_filename` otherwise. -/
def htmlRow (env : RenderEnv) (e : DirlsEntry × Bool) : Option Bytes :=
  if e.2 then some (httpListDirectoryDirname env e.1) else httpListDirectoryFilename env e.1

/-- The rows of a list of entries, one after the other; `none` when one does not return. -/
def htmlRows (env : RenderEnv) : List (DirlsEntry × Bool) → Option Bytes
  | [] => some []
  | e :: rest => (htmlRow env e).bind fun row ↦ (htmlRows env rest).map (row ++ ·)

theorem dispatchAll_html (env : RenderEnv) {p : HandlerCtx} {hb : Bytes} (hjb : p.jb = none)
    (hhb : p.hb = some hb) (l : List (DirlsEntry × Bool)) :
    dispatchAll env p l = (htmlRows env l).map fun rows ↦ { p with hb := some (hb ++ rows) } := by
  induction l generalizing p hb with
  | nil =>
    simp only [dispatchAll, htmlRows, Option.map_some', List.append_nil]
    rw [← hhb]
  | cons head rest ih =>
    obtain ⟨ent, isDir⟩ := head
    have hrow : httpReadDirectoryDispatch env p ent isDir =
        (htmlRow env (ent, isDir)).map fun row ↦ { p with hb := some (hb ++ row) } := by
      cases isDir <;> simp [httpReadDirectoryDispatch, htmlRow, hjb, hhb]
    simp only [dispatchAll, htmlRows, hrow]
    cases htmlRow env (ent, isDir) with
    | none => rfl
    | some row =>
      simp only [Option.map_some', Option.some_bind]
      rw [@ih { p with hb := some (hb ++ row) } (hb ++ row) hjb rfl]
      cases htmlRows env rest <;> simp

/-! ### Sorted mode -/

/-- The stores after the records of a list are appended in order. -/
def DirlsList.appendAll (list : DirlsList) (ents : List DirlsEntry) : DirlsList :=
  ents.foldl DirlsList.append list

@[simp] theorem DirlsList.appendAll_ent (list : DirlsList) (ents : List DirlsEntry) :
    (list.appendAll ents).ent.toList = list.ent.toList ++ ents := by
  induction ents generalizing list with
  | nil => simp [DirlsList.appendAll]
  | cons ent rest ih =>
    show ((list.append ent).appendAll rest).ent.toList = _
    simp [ih]

/-- The slot count of a store filled by appends from the empty one: `used` rounded up to a multiple
of `DIRLIST_BLOB_SIZE`. -/
def DirlsList.Capacity (list : DirlsList) : Prop :=
  list.alloc = dirlistBlobSize * ((list.used + dirlistBlobSize - 1) / dirlistBlobSize)

/-- One append: `ck_realloc_u32` runs exactly when `used` is a multiple of 16, after which the
store to `ent[used]` is inside the allocated slots, and the slot count is again `used` rounded
up. -/
theorem DirlsList.Capacity.append {list : DirlsList} (h : list.Capacity) (ent : DirlsEntry) :
    list.used < (list.append ent).alloc ∧ (list.append ent).Capacity := by
  unfold DirlsList.Capacity at *
  simp only [DirlsList.append, DirlsList.used, Array.size_push, dirlistBlobSize] at *
  rw [show (16 - 1 : Nat) = 2 ^ 4 - 1 from rfl, Nat.and_pow_two_sub_one_eq_mod]
  split_ifs <;> omega

theorem DirlsList.Capacity.appendAll {list : DirlsList} (h : list.Capacity) (ents : List DirlsEntry) :
    (list.appendAll ents).Capacity := by
  induction ents generalizing list with
  | nil => exact h
  | cons ent rest ih => exact ih (h.append ent).2

/-- A store of `http_read_directory` after any records appended from `{ ent = NULL, used = 0 }`:
it holds them in order, each with its name and the NUL after it, its slot count is `used` rounded
up to a multiple of 16, and the store of the next record falls inside the allocated slots. -/
theorem DirlsList.appendAll_slots (records : List DirlsEntry) (next : DirlsEntry) :
    (DirlsList.empty.appendAll records).ent.toList = records ∧
      (DirlsList.empty.appendAll records).Capacity ∧
      (DirlsList.empty.appendAll records).used ≤ (DirlsList.empty.appendAll records).alloc ∧
      (DirlsList.empty.appendAll records).used < ((DirlsList.empty.appendAll records).append next).alloc ∧
      ∀ ent ∈ records, ent.nameBlob.length = ent.namelen + 1 ∧ ent.nameBlob.getLast? = some 0 := by
  have hcap := @DirlsList.Capacity.appendAll .empty rfl records
  refine ⟨by simp [DirlsList.empty], hcap, ?_, (hcap.append next).1,
    fun ent _ ↦ by simp [DirlsEntry.nameBlob_eq, DirlsEntry.namelen]⟩
  rw [hcap, dirlistBlobSize]
  omega

theorem dispatchAll_sorted (env : RenderEnv) {p : HandlerCtx} (hjb : p.jb = none) (hhb : p.hb = none)
    (l : List (DirlsEntry × Bool)) :
    dispatchAll env p l = some { p with
      dirs := p.dirs.appendAll ((l.filter (·.2)).map (·.1)),
      files := p.files.appendAll ((l.filter (!·.2)).map (·.1)) } := by
  induction l generalizing p with
  | nil => rfl
  | cons head rest ih =>
    obtain ⟨ent, isDir⟩ := head
    cases isDir <;>
      simp [dispatchAll, httpReadDirectoryDispatch, hjb, hhb, ih, DirlsList.appendAll]

end Dirlisting
