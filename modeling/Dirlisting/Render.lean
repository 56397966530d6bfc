import Dirlisting.Basic
import Mathlib.Data.Int.Bitwise

/-!
# Rendering one entry

The renderers of `mod_dirlisting.c` that turn one scanned entry into response bytes:
`httpListDirectoryDirname` and `httpListDirectoryFilename` are the HTML rows of
`http_list_directory_dirname` and `http_list_directory_filename`, and
`httpListDirectoryJsonname` the JSON element of `http_list_directory_jsonname`, which starts with a
comma exactly when `hctx->jcomma` is set.

The encoders of `buffer.c` (`buffer_append_string_encoded` with `ENCODING_REL_URI_PART` and
`ENCODING_MINIMAL_XML`, and `buffer_append_bs_escaped_json`) translate byte by byte through a
table; `RenderEnv` holds the three tables, so `encode` is a homomorphism of concatenation by
construction. The local time formatting of `http_list_directory_mtime` and the mimetype lookup of
`stat_cache` are also fields of `RenderEnv`: every statement about rendering holds for every
behaviour of them.

`httpListDirectorySizefmt` is `http_list_directory_sizefmt` with the 7-byte buffer of
`http_list_directory_filename`. Its `do ... while (size & ~1023)` loop shifts an `off_t`
arithmetically, which never reaches a value below 1024 from a negative size, so the loop runs
forever there; `sizefmtShift` gives `none` when its fuel, one more than the size, runs out, and
this happens exactly on the sizes where the C loop does not end. A file row is therefore an
`Option`, `none` for a rendering that does not return.
-/

set_option autoImplicit false
set_option relaxedAutoImplicit false

namespace Dirlisting

/-! ### Collaborators -/

/-- The collaborators the entry renderers call: the byte tables of `ENCODING_REL_URI_PART`,
`ENCODING_MINIMAL_XML` and `buffer_append_bs_escaped_json`, the `strftime` of
`localtime64_r (&ent->mtime)`, and the mimetype lookup by extended attribute or by extension
(`none` for `NULL`). -/
structure RenderEnv where
  relUriPart : UInt8 → Bytes
  minimalXml : UInt8 → Bytes
  bsEscapedJson : UInt8 → Bytes
  mtimeStr : Int → Bytes
  contentType : Name → Option Bytes

/-- `buffer_append_string_encoded` (and `buffer_append_bs_escaped_json`) with a per-byte table. -/
def encode (table : UInt8 → Bytes) (text : Bytes) : Bytes := text.flatMap table

@[simp] theorem encode_append (table : UInt8 → Bytes) (a b : Bytes) :
    encode table (a ++ b) = encode table a ++ encode table b := by
  simp [encode]

/-- Modelled from the spec: `li_itostrn` of `buffer.c`, not part of this repository, writes the
decimal form of an integer. -/
def liItostrn (n : Int) : Bytes := lit (toString n)

/-! ### Size formatting -/

/-- The loop `do { remain = size & 1023; size >>= 10; ++u; } while (size & ~1023)` of
`http_list_directory_sizefmt`, entered with `u` the value after its first increment. It returns
`remain`, `size` and `u` at the exit, or `none` when the fuel runs out. -/
def sizefmtShift : Nat → Int → Nat → Option (Int × Int × Nat)
  | 0, _, _ => none
  | fuel + 1, size, u =>
    let remain := Int.land size 1023
    let size := Int.shiftRight size 10
    if Int.land size (Int.not 1023) ≠ 0 then sizefmtShift fuel size (u + 1)
    else some (remain, size, u)

/-- `http_list_directory_sizefmt (sizebuf, sizeof("999.9K"), size)`: the size in units of 1024
with one decimal, the unit letter taken from `"KMGTPE"`. `none` when the shift loop does not end,
which is the case of a negative size. -/
def httpListDirectorySizefmt (size : Int) : Option Bytes :=
  let size := if 0 < size ∧ size < 100 then size + 99 else size
  (sizefmtShift (size.toNat + 1) size 0).map fun (remain, size, u) ↦
    let remain := remain / 100
    let remain := if remain > 9 then 9 else remain
    let (size, remain, u) := if size > 999 then ((0 : Int), (9 : Int), u + 1) else (size, remain, u)
    let digits := liItostrn size
    if digits.length + 3 ≥ 7 then digits
    else digits ++ [46, (remain + 48).toNat.toUInt8, (lit "KMGTPE").getD u 0]

/-- The shift loop never ends from a negative size: the arithmetic shift keeps the sign, and a
negative value always has bits above those of 1023. -/
theorem sizefmtShift_of_neg (fuel : Nat) : ∀ (size : Int) (u : Nat), size < 0 →
    sizefmtShift fuel size u = none := by
  induction fuel with
  | zero => intro size u _; rfl
  | succ fuel ih =>
    intro size u hsize
    obtain ⟨m, rfl⟩ := Int.eq_negSucc_of_lt_zero hsize
    have hshift : Int.shiftRight (Int.negSucc m) 10 = Int.negSucc (m >>> 10) := rfl
    have hmask : Int.land (Int.negSucc (m >>> 10)) (Int.not 1023) = Int.negSucc (m >>> 10 ||| 1023) :=
      rfl
    simp only [sizefmtShift, hshift, hmask, ne_eq, Int.negSucc_ne_zero, not_false_eq_true, if_true]
    exact ih _ _ (Int.negSucc_lt_zero _)

/-- `http_list_directory_sizefmt` does not return on a negative size. -/
theorem httpListDirectorySizefmt_of_neg {size : Int} (hsize : size < 0) :
    httpListDirectorySizefmt size = none := by
  simp only [httpListDirectorySizefmt, show ¬(0 < size ∧ size < 100) from fun h ↦ by omega, if_false,
    sizefmtShift_of_neg _ _ _ hsize, Option.map_none']

/-- A size of `-1`, as `fstatat` on a FUSE or corrupted file system can report it: the shift loop
gives no result with any fuel and from any unit index, so `http_list_directory_sizefmt` never
returns. -/
theorem httpListDirectorySizefmt_negativeSize :
    (∀ fuel u, sizefmtShift fuel (-1) u = none) ∧ httpListDirectorySizefmt (-1) = none :=
  ⟨fun fuel u ↦ sizefmtShift_of_neg fuel (-1) u (by decide), httpListDirectorySizefmt_of_neg (by decide)⟩

/-- The shift loop ends from a size in `[0, fuel)`: each round divides by 1024, and a zero size has
no bits above those of 1023. -/
theorem sizefmtShift_isSome (fuel : Nat) : ∀ (n u : Nat), n < fuel →
    (sizefmtShift fuel (n : Int) u).isSome := by
  induction fuel with
  | zero => intro n u h; omega
  | succ fuel ih =>
    intro n u hn
    have hshift : Int.shiftRight (n : Int) 10 = ((n >>> 10 : Nat) : Int) := rfl
    simp only [sizefmtShift, hshift]
    split_ifs with hmore
    · apply ih
      have hpos : n >>> 10 ≠ 0 := by
        rintro hzero
        apply hmore
        rw [hzero]
        show Int.ofNat (Nat.ldiff 0 1023) = 0
        simp [Nat.ldiff, Nat.bitwise_zero_left]
      rw [Nat.shiftRight_eq_div_pow] at hpos ⊢
      omega
    · rfl

/-- `http_list_directory_sizefmt` returns on every size that is not negative. -/
theorem httpListDirectorySizefmt_isSome {size : Int} (hsize : 0 ≤ size) :
    (httpListDirectorySizefmt size).isSome := by
  simp only [httpListDirectorySizefmt, Option.isSome_map']
  split_ifs with hsmall
  · obtain ⟨n, hn⟩ := Int.eq_ofNat_of_zero_le (show 0 ≤ size + 99 by omega)
    rw [hn]
    exact sizefmtShift_isSome _ _ _ (by omega)
  · obtain ⟨n, hn⟩ := Int.eq_ofNat_of_zero_le hsize
    rw [hn]
    exact sizefmtShift_isSome _ _ _ (by omega)

/-! ### Rows and elements -/

section Rows

variable (env : RenderEnv)

/-- `http_list_directory_ent`: the link and the modification time of a directory row. -/
def httpListDirectoryEnt (ent : DirlsEntry) : Bytes :=
  encode env.relUriPart ent.name ++ lit "/\">" ++ encode env.minimalXml ent.name ++
    lit "</a>/</td><td class=\"m\">" ++ env.mtimeStr ent.mtime

/-- `http_list_directory_dirname`: the HTML row of a directory. -/
def httpListDirectoryDirname (ent : DirlsEntry) : Bytes :=
  lit "<tr class=\"d\"><td class=\"n\"><a href=\"" ++ httpListDirectoryEnt env ent ++
    lit "</td><td class=\"s\" data-value=\"-1\">- &nbsp;</td><td class=\"t\">Directory</td></tr>\n"

/-- `http_list_file_ent`: the link and the modification time of a file row. -/
def httpListFileEnt (ent : DirlsEntry) : Bytes :=
  encode env.relUriPart ent.name ++ lit "\">" ++ encode env.minimalXml ent.name ++
    lit "</a></td><td class=\"m\">" ++ env.mtimeStr ent.mtime

/-- `http_list_directory_filename`: the HTML row of a non-directory, with the exact size as
`data-value`, the formatted size and the content type (`application/octet-stream` when the lookup
finds none). `none` when the size formatting does not return. -/
def httpListDirectoryFilename (ent : DirlsEntry) : Option Bytes :=
  (httpListDirectorySizefmt ent.size).map fun sizebuf ↦
    lit "<tr><td class=\"n\"><a href=\"" ++ httpListFileEnt env ent ++
      lit "</td><td class=\"s\" data-value=\"" ++ liItostrn ent.size ++ lit "\">" ++ sizebuf ++
      lit "</td><td class=\"t\">" ++
      (env.contentType ent.name).getD (lit "application/octet-stream") ++ lit "</td></tr>\n"

theorem httpListDirectoryFilename_of_neg {ent : DirlsEntry} (hsize : ent.size < 0) :
    httpListDirectoryFilename env ent = none := by
  simp [httpListDirectoryFilename, httpListDirectorySizefmt_of_neg hsize]

theorem httpListDirectoryFilename_isSome {ent : DirlsEntry} (hsize : 0 ≤ ent.size) :
    (httpListDirectoryFilename env ent).isSome := by
  simpa [httpListDirectoryFilename] using httpListDirectorySizefmt_isSome hsize

/-- `http_list_directory_jsonname`: the JSON element of an entry, with a leading comma when
`jcomma` is set (the function then sets `hctx->jcomma`). -/
def httpListDirectoryJsonname (ent : DirlsEntry) (jcomma isDir : Bool) : Bytes :=
  (if jcomma then lit ",\x7b\"name\":\"" else lit "\x7b\"name\":\"") ++
    encode env.bsEscapedJson ent.name ++
    (if isDir then lit "\",\"type\":\"dir\",\"size\":" else lit "\",\"type\":\"file\",\"size\":") ++
    liItostrn ent.size ++ lit ",\"mtime\":" ++ liItostrn ent.mtime ++ lit "\x7d"

/-- The JSON element without its separator: what follows the leading comma, if any. -/
def jsonElement (ent : DirlsEntry) (isDir : Bool) : Bytes :=
  httpListDirectoryJsonname env ent false isDir

theorem httpListDirectoryJsonname_true (ent : DirlsEntry) (isDir : Bool) :
    httpListDirectoryJsonname env ent true isDir = lit "," ++ jsonElement env ent isDir := by
  simp [httpListDirectoryJsonname, jsonElement, lit]

end Rows

end Dirlisting
