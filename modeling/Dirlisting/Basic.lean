import Mathlib.Order.Basic

/-!
# Names, entries and the per-request configuration of mod_dirlisting

The data model of `mod_dirlisting.c`. A directory stream is the finite list of `RawEnt` that
`readdir` returns, each with the outcome of its `fstatat`; a scanned entry is a `DirlsEntry`
(`dirls_entry_t` with its name blob), and the two stores of the sorted mode are `DirlsList`s.
`PluginConfig` is `plugin_config`, the resolved per-request configuration that
`mod_dirlisting_patch_config` writes to `p->conf` and `mod_dirlisting_handler_ctx_init` copies.

Names and response bytes are lists of bytes. `strcmp` is the C library comparison on two names
without interior NUL: the first differing byte decides, compared as `unsigned char`, and a proper
prefix sorts first. `strcmp_swap`, `strcmp_eq_iff` and `strcmp_lt_trans` make it a linear order,
which is all the comb sort of `Dirlisting.Sort` uses.

External collaborators that decide a branch of the module (the exclude matcher of `keyvalue.c`)
enter as fields holding functions, so that every statement holds for every behaviour of them.
-/

set_option autoImplicit false
set_option relaxedAutoImplicit false

namespace Dirlisting

/-! ### Bytes and names -/

/-- A byte string: the contents of a `buffer`, or bytes of the response body. -/
abbrev Bytes := List UInt8

/-- The bytes of an ASCII string literal of the source. -/
def lit (text : String) : Bytes :=
  text.toList.map fun c ↦ c.toNat.toUInt8

/-- A name as `readdir` returns it in `d_name`, without the terminating NUL. -/
abbrev Name := List UInt8

/-- `strcmp` on two names: the first differing byte decides, compared as `unsigned char`, and the
end of a name (its NUL) sorts before every byte. -/
def strcmp : Name → Name → Ordering
  | [], [] => .eq
  | [], _ :: _ => .lt
  | _ :: _, [] => .gt
  | x :: xs, y :: ys =>
    if x.toNat < y.toNat then .lt else if y.toNat < x.toNat then .gt else strcmp xs ys

theorem strcmp_swap (a b : Name) : strcmp b a = (strcmp a b).swap := by
  induction a generalizing b with
  | nil => cases b <;> rfl
  | cons x xs ih =>
    cases b with
    | nil => rfl
    | cons y ys =>
      simp only [strcmp]
      by_cases hxy : x.toNat < y.toNat
      · simp [hxy, Nat.lt_asymm hxy, Ordering.swap]
      · by_cases hyx : y.toNat < x.toNat
        · simp [hxy, hyx, Ordering.swap]
        · simp [hxy, hyx, ih]

theorem strcmp_eq_iff {a b : Name} : strcmp a b = .eq ↔ a = b := by
  induction a generalizing b with
  | nil => cases b <;> simp [strcmp]
  | cons x xs ih =>
    cases b with
    | nil => simp [strcmp]
    | cons y ys =>
      simp only [strcmp, List.cons.injEq]
      by_cases hxy : x.toNat < y.toNat
      · have hne : x ≠ y := fun h ↦ Nat.ne_of_lt hxy (congrArg UInt8.toNat h)
        simp [hxy, hne]
      · by_cases hyx : y.toNat < x.toNat
        · have hne : x ≠ y := fun h ↦ Nat.ne_of_gt hyx (congrArg UInt8.toNat h)
          simp [hxy, hyx, hne]
        · have hsame : x = y := UInt8.toNat.inj (by omega)
          simp [hxy, hyx, hsame, ih]

@[simp] theorem strcmp_self (a : Name) : strcmp a a = .eq := strcmp_eq_iff.mpr rfl

theorem strcmp_lt_trans {a b c : Name} (hab : strcmp a b = .lt) (hbc : strcmp b c = .lt) :
    strcmp a c = .lt := by
  induction a generalizing b c with
  | nil => cases b <;> cases c <;> simp_all [strcmp]
  | cons x xs ih =>
    cases b with
    | nil => simp [strcmp] at hab
    | cons y ys =>
      cases c with
      | nil => simp [strcmp] at hbc
      | cons z zs =>
        simp only [strcmp] at hab hbc ⊢
        split_ifs at hab hbc ⊢ <;> first | rfl | omega | exact ih hab hbc

/-- `strcmp (a, b) > 0`, the test on which `http_dirls_sort` exchanges two entries. -/
theorem strcmp_eq_gt_iff {a b : Name} : strcmp a b = .gt ↔ strcmp b a = .lt := by
  rw [strcmp_swap a b]
  cases strcmp a b <;> simp [Ordering.swap]

/-! ### Entries -/

/-- The fields of `struct stat` that the scan reads: `S_ISDIR(st.st_mode)`, `st.st_size` and
`st.st_mtime`. -/
structure Stat where
  isDir : Bool
  size : Int
  mtime : Int
  deriving DecidableEq, Repr

/-- One entry of a directory stream: the name `readdir` returns and the outcome of `fstatat` on it,
`none` when the entry vanished in between or cannot be stat'ed. -/
structure RawEnt where
  name : Name
  stat : Option Stat
  deriving DecidableEq, Repr

/-- `dirls_entry_t` together with the name bytes stored after it (`DIRLIST_ENT_NAME`). -/
structure DirlsEntry where
  name : Name
  mtime : Int
  size : Int
  deriving DecidableEq, Repr, Inhabited

/-- `ent->namelen`, the length of the stored name. -/
def DirlsEntry.namelen (ent : DirlsEntry) : Nat := ent.name.length

/-- The name bytes of a record, `DIRLIST_ENT_NAME (ent)`, as
`memcpy (DIRLIST_ENT_NAME (tmp), d_name, ent.namelen + 1)` fills them from `d_name`, whose name is
ended by a NUL. -/
def DirlsEntry.nameBlob (ent : DirlsEntry) : Bytes := (ent.name ++ [0]).take (ent.namelen + 1)

theorem DirlsEntry.nameBlob_eq (ent : DirlsEntry) : ent.nameBlob = ent.name ++ [0] := by
  rw [DirlsEntry.nameBlob, DirlsEntry.namelen, ← List.length_concat, List.concat_eq_append, List.take_length]

/-- `DIRLIST_BLOB_SIZE`: the number of slots by which a `dirls_list_t` grows. -/
def dirlistBlobSize : Nat := 16

/-- `dirls_list_t`: the records `ent[0, used)`, and the number of slots that `ck_realloc_u32` has
allocated for them. -/
structure DirlsList where
  ent : Array DirlsEntry
  alloc : Nat
  deriving Repr

/-- The empty store `{ ent = NULL, used = 0 }` of `http_open_directory`. -/
def DirlsList.empty : DirlsList := ⟨#[], 0⟩

/-- `list->used`. -/
def DirlsList.used (list : DirlsList) : Nat := list.ent.size

/-- The append of `http_read_directory`: `ck_realloc_u32` adds `DIRLIST_BLOB_SIZE` slots when
`used & (DIRLIST_BLOB_SIZE-1)` is zero, then the record is stored at `ent[used++]`. -/
def DirlsList.append (list : DirlsList) (ent : DirlsEntry) : DirlsList where
  ent := list.ent.push ent
  alloc := if list.used &&& (dirlistBlobSize - 1) = 0 then list.used + dirlistBlobSize
    else list.alloc

@[simp] theorem DirlsList.append_ent (list : DirlsList) (ent : DirlsEntry) :
    (list.append ent).ent = list.ent.push ent := rfl

/-! ### Configuration -/

/-- A compiled `dir-listing.exclude` list (`pcre_keyvalue_buffer`), reduced to what
`pcre_keyvalue_buffer_process` reports on one name: `none` for `HANDLER_ERROR`, otherwise the
index `ctx.m` of the matching pattern, `-1` when no pattern matches. -/
structure PcreKeyvalueBuffer where
  process : Name → Option Int

/-- `mod_dirlisting_exclude`: a name is excluded when a pattern matches it, and also when the
matcher fails (fail closed). -/
def modDirlistingExclude (kvb : PcreKeyvalueBuffer) (name : Name) : Bool :=
  match kvb.process name with
  | none => true
  | some m => m != -1

/-- `struct dirlist_cache`: `dir-listing.cache` after `mod_dirlisting_parse_cache`. -/
structure DirlistCache where
  maxAge : Int
  path : Bytes
  deriving DecidableEq, Repr

/-- `plugin_config`, with the `char` flags as booleans and `NULL` buffers as `none`. -/
structure PluginConfig where
  dirListing : Bool
  json : Bool
  sort : Bool
  hideDotFiles : Bool
  hideReadmeFile : Bool
  encodeReadme : Bool
  hideHeaderFile : Bool
  encodeHeader : Bool
  autoLayout : Bool
  excludes : Option PcreKeyvalueBuffer
  showReadme : Option Bytes
  showHeader : Option Bytes
  externalCss : Option Bytes
  externalJs : Option Bytes
  encoding : Option Bytes
  setFooter : Option Bytes
  cache : Option DirlistCache

/-- The normalisation of `dir-listing.show-readme` and `dir-listing.show-header` in
`mod_dirlisting_set_defaults`, with `name` the file that `"enable"` stands for (`README.txt`,
`HEADER.txt`): a blank value becomes `NULL`, `"enable"` that file, `"disable"` an empty buffer
(`buffer_clear`), and any other value stays as it is. -/
def setDefaultsShowFile (name value : Bytes) : Option Bytes :=
  if value = [] then none
  else if value = lit "enable" then some name
  else if value = lit "disable" then some []
  else some value

/-- `p->defaults` as `mod_dirlisting_set_defaults` leaves it before the global context is merged:
listing off, HTML, sorted, dot-files hidden, README and HEADER encoded, automatic layout, and no
buffer set. -/
def PluginConfig.defaults : PluginConfig where
  dirListing := false
  json := false
  sort := true
  hideDotFiles := true
  hideReadmeFile := false
  encodeReadme := true
  hideHeaderFile := false
  encodeHeader := true
  autoLayout := true
  excludes := none
  showReadme := none
  showHeader := none
  externalCss := none
  externalJs := none
  encoding := none
  setFooter := none
  cache := none

end Dirlisting
