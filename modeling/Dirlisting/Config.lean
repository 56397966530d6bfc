import Dirlisting.MkdirRecursive
import Dirlisting.Subrequest

/-!
# The configuration of mod_dirlisting

`mod_dirlisting_set_defaults` runs once at startup over `p->cvlist`, the directives of this module
in the global context and in each conditional context of the configuration. It parses
`dir-listing.exclude` (`mod_dirlisting_parse_excludes`) and `dir-listing.cache`
(`mod_dirlisting_parse_cache`) into objects of type `T_CONFIG_LOCAL`, drops a cache whose `max-age`
is 0, turns blank strings to `NULL` and `"enable"` / `"disable"` of `dir-listing.show-readme` and
`dir-listing.show-header` into a file name or an empty buffer, and merges the global context into
`p->defaults`. For each request `mod_dirlisting_patch_config` then copies `p->defaults` and merges
the directives of every conditional context whose condition holds (`mod_dirlisting_merge_config`,
one `mod_dirlisting_merge_config_cpv` per directive).

A directive is a `Cpv` indexed by the types of what it holds, so that the directives
`config_plugin_values_init` stores (`RawCpv`) and those the merge reads (`ConfCpv`) are two
instances of one switch. The collaborators (`config_plugin_value_to_int32`,
`stat_cache_path_isdir`, the PCRE compiler) are the fields of a `ConfigEnv`.

Each setting of `plugin_config` is read through `ConfField.get`, and one merge writes one setting
(`ConfField.get_mergeConfigCpv`). From that:

* the configuration of a request is, setting by setting, the value that the last directive of the
  global context and of the matching conditional contexts gives it, in configuration order, or the
  built-in default (`modDirlistingPatchConfig_lastDirective`);
* the configuration of every request is normal: no blank URL, encoding or footer, no `"enable"` or
  `"disable"` left as a file name, and no cache with `max-age` 0
  (`modDirlistingPatchConfig_normal`), since every directive that `set_defaults` accepts is applied
  by the merge with a normal value, the `T_CONFIG_LOCAL` guards of `dir-listing.exclude` and
  `dir-listing.cache` included (`modDirlistingSetDefaults_processed`);
* the cache of a request is the one the last `dir-listing.cache` directive that applies describes,
  disabled by `max-age` 0 (`modDirlistingPatchConfig_cache`);
* `set_defaults` fails exactly when a pattern does not compile or a cache array is rejected
  (`modDirlistingSetDefaults_isSome_iff`);
* no directive sets `json`: a request is listed as JSON exactly when its query has 4 bytes and
  `memcmp` finds the first 3 equal to `jso`, so `?jsox` is listed as JSON too (`requestConf_json`).

Not modelled: the matcher that `pcre_keyvalue_buffer_process` runs, and `mod_dirlisting_free`,
which releases the objects `set_defaults` allocated.
-/

set_option autoImplicit false
set_option relaxedAutoImplicit false

namespace Dirlisting

/-! ### Directives -/

/-- A value of the configuration (`data_unset`) as the parse of `dir-listing.cache` tells them
apart: a string, an integer, or any other type. -/
inductive DataUnset
  | string (value : Bytes)
  | integer (value : Int)
  | other
  deriving DecidableEq, Repr

/-- The array of `dir-listing.cache`, by what `array_get_element_klen` finds under its two keys. -/
structure CacheArray where
  maxAge : Option DataUnset
  path : Option DataUnset
  deriving DecidableEq, Repr

/-- The array of `dir-listing.exclude` (`T_CONFIG_ARRAY_VLIST`): the key and the pattern of each
element. -/
abbrev ExcludeArray := List (Bytes × Bytes)

/-- The value of `dir-listing.exclude` or `dir-listing.cache` in a directive: the array that
`config_plugin_values_init` stored, or the object `mod_dirlisting_set_defaults` parsed from it, with
`vtype` set to `T_CONFIG_LOCAL`. -/
inductive CpvValue (α β : Type)
  | array (a : α)
  | configLocal (v : β)

/-- One directive (`config_plugin_value_t`), one constructor per key in the order of `cpk[]`, so
that the constructor is `k_id`: a flag (`v.u`), a string of type `B`, or the value of
`dir-listing.exclude` (type `E`) and `dir-listing.cache` (type `C`). -/
inductive Cpv (E C B : Type)
  | activate (u : Bool)
  | serverDirListing (u : Bool)
  | exclude (v : E)
  | hideDotfiles (u : Bool)
  | externalCss (b : B)
  | externalJs (b : B)
  | encoding (b : B)
  | showReadme (b : B)
  | hideReadmeFile (u : Bool)
  | showHeader (b : B)
  | hideHeaderFile (u : Bool)
  | setFooter (b : B)
  | encodeReadme (u : Bool)
  | encodeHeader (u : Bool)
  | autoLayout (u : Bool)
  | cache (v : C)
  | sort (u : Bool)

/-- A directive as `config_plugin_values_init` stores it: the arrays of `dir-listing.exclude` and
`dir-listing.cache`, and every string a buffer. -/
abbrev RawCpv := Cpv ExcludeArray CacheArray Bytes

/-- A directive as `mod_dirlisting_merge_config_cpv` reads it: a string may be `NULL`, and the
exclude list and the cache may or may not be `T_CONFIG_LOCAL` (a `NULL` cache disables caching). -/
abbrev ConfCpv :=
  Cpv (CpvValue ExcludeArray PcreKeyvalueBuffer) (CpvValue CacheArray (Option DirlistCache))
    (Option Bytes)

/-- The array of a `dir-listing.cache` directive. -/
def Cpv.cacheValue {E C B : Type} : Cpv E C B → Option C
  | .cache v => some v
  | _ => none

/-- `p->cvlist`: the directives of the global context (`cvlist[0]`), and for each conditional
context holding a directive of this module, in configuration order, its condition (`k_id`, which
`config_check_cond` tests) and its directives. -/
structure ConfigValues (α : Type) where
  global : List α
  conds : List (Nat × List α)

/-- The directives of the conditional contexts whose condition holds, in order. -/
def ConfigValues.matching {α : Type} (checkCond : Nat → Bool) (cvlist : ConfigValues α) : List α :=
  (cvlist.conds.filter fun c ↦ checkCond c.1).flatMap Prod.snd

/-- The part of `plugin_data` that the configuration functions write. -/
structure PluginData where
  defaults : PluginConfig
  cvlist : ConfigValues ConfCpv

/-! ### Merging -/

/-- `mod_dirlisting_merge_config_cpv`: a directive sets its field of `plugin_config`;
`dir-listing.exclude` and `dir-listing.cache` only when `T_CONFIG_LOCAL`. -/
def modDirlistingMergeConfigCpv (pconf : PluginConfig) : ConfCpv → PluginConfig
  | .activate u | .serverDirListing u => { pconf with dirListing := u }
  | .exclude (.configLocal kvb) => { pconf with excludes := some kvb }
  | .exclude (.array _) => pconf
  | .hideDotfiles u => { pconf with hideDotFiles := u }
  | .externalCss b => { pconf with externalCss := b }
  | .externalJs b => { pconf with externalJs := b }
  | .encoding b => { pconf with encoding := b }
  | .showReadme b => { pconf with showReadme := b }
  | .hideReadmeFile u => { pconf with hideReadmeFile := u }
  | .showHeader b => { pconf with showHeader := b }
  | .hideHeaderFile u => { pconf with hideHeaderFile := u }
  | .setFooter b => { pconf with setFooter := b }
  | .encodeReadme u => { pconf with encodeReadme := u }
  | .encodeHeader u => { pconf with encodeHeader := u }
  | .autoLayout u => { pconf with autoLayout := u }
  | .cache (.configLocal c) => { pconf with cache := c }
  | .cache (.array _) => pconf
  | .sort u => { pconf with sort := u }

/-- `mod_dirlisting_merge_config`: the directives of one context merged in order. -/
def modDirlistingMergeConfig (pconf : PluginConfig) (cpvs : List ConfCpv) : PluginConfig :=
  cpvs.foldl modDirlistingMergeConfigCpv pconf

/-- `mod_dirlisting_patch_config`: `p->defaults`, with the directives of every conditional context
whose condition holds for the request merged over it in order. -/
def modDirlistingPatchConfig (checkCond : Nat → Bool) (p : PluginData) : PluginConfig :=
  p.cvlist.conds.foldl
    (fun conf c ↦ if checkCond c.1 then modDirlistingMergeConfig conf c.2 else conf) p.defaults

/-! ### Parsing at startup -/

/-- What the configuration functions call: `config_plugin_value_to_int32` (an element, `none` when
absent, and the default), `stat_cache_path_isdir` (`none` for a directory, otherwise `errno`),
whether `pcre_keyvalue_buffer_append` compiles a pattern, and the exclude matcher built from the
compiled patterns. -/
structure ConfigEnv where
  valueToInt32 : Option DataUnset → Int → Int
  pathIsdir : Bytes → Option Nat
  pcreCompile : Bytes → Bool
  pcreBuffer : List Bytes → PcreKeyvalueBuffer

/-- `ENOENT`. -/
def enoent : Nat := 2

/-- `struct dirlist_cache` as `mod_dirlisting_parse_cache` allocates it: `path` is `NULL` only
when the array has no `"path"`, which is accepted only with `max-age` 0. -/
structure ParsedCache where
  maxAge : Int
  path : Option Bytes
  path_isSome : maxAge ≠ 0 → path.isSome

/-- `mod_dirlisting_parse_cache`, with the lines it logs; `none` for `NULL`. `max-age` defaults to
15; a missing `"path"` is an error unless `max-age` is 0, a `"path"` that is not a string or not a
directory (`ENOTDIR`) is an error, and a missing directory (`ENOENT`) only a warning. -/
def modDirlistingParseCache (env : ConfigEnv) (a : CacheArray) : List Bytes × Option ParsedCache :=
  let maxAge := env.valueToInt32 a.maxAge 15
  match a.path with
  | none =>
    if h : maxAge = 0 then ([], some ⟨maxAge, none, fun h' ↦ absurd h h'⟩)
    else ([lit "dir-listing.cache must include \"path\""], none)
  | some (.string path) =>
    match env.pathIsdir path with
    | some errno =>
      if errno = enotdir then
        ([lit "dir-listing.cache \"path\" => \"" ++ path ++ lit "\" is not a dir"], none)
      else
        (if errno = enoent then
          [lit "dir-listing.cache \"path\" => \"" ++ path ++ lit "\" does not exist"] else [],
         some ⟨maxAge, some path, fun _ ↦ rfl⟩)
    | none => ([], some ⟨maxAge, some path, fun _ ↦ rfl⟩)
  | some _ => ([lit "dir-listing.cache \"path\" must have string value"], none)

/-- Every line `parse_cache` logs names `dir-listing.cache`. -/
theorem modDirlistingParseCache_log (env : ConfigEnv) (a : CacheArray) :
    ∀ line ∈ (modDirlistingParseCache env a).1, lit "dir-listing.cache" <+: line := by
  have hpath : ∀ rest : Bytes,
      lit "dir-listing.cache" <+: lit "dir-listing.cache \"path\" => \"" ++ rest :=
    fun _ ↦ List.IsPrefix.trans (by decide) (List.prefix_append _ _)
  have hstring : lit "dir-listing.cache" <+: lit "dir-listing.cache \"path\" must have string value" := by
    decide
  unfold modDirlistingParseCache
  rcases a.path with _ | (path | i | _) <;> dsimp only
  · split_ifs <;> simp [show lit "dir-listing.cache" <+: lit "dir-listing.cache must include \"path\""
      by decide]
  · split
    · split_ifs <;> simp [hpath]
    · simp
  · simp [hstring]
  · simp [hstring]

/-- `mod_dirlisting_parse_excludes`: the patterns compiled in order; the first that fails is
logged with its key and gives `NULL`. -/
def modDirlistingParseExcludes (env : ConfigEnv) (a : ExcludeArray) :
    List Bytes × Option PcreKeyvalueBuffer :=
  match a.find? fun ds ↦ !env.pcreCompile ds.2 with
  | some ds => ([lit "pcre_compile failed for " ++ ds.1], none)
  | none => ([], some (env.pcreBuffer (a.map Prod.snd)))

/-- The cache a `dir-listing.cache` directive leaves after `mod_dirlisting_set_defaults`: freed
and `NULL` when `max_age` is 0 (to disable caching after having been enabled), otherwise the
parsed cache, whose path is then set. -/
def ParsedCache.toCache (c : ParsedCache) : Option DirlistCache :=
  if h : c.maxAge = 0 then none else some ⟨c.maxAge, c.path.get (c.path_isSome h)⟩

/-- The normalisation of `dir-listing.external-css`, `dir-listing.external-js`,
`dir-listing.encoding` and `dir-listing.set-footer` in `mod_dirlisting_set_defaults`: a blank
value (`buffer_is_blank`) becomes `NULL`. -/
def setDefaultsString (b : Bytes) : Option Bytes :=
  if b = [] then none else some b

/-- One directive as the loop of `mod_dirlisting_set_defaults` processes it, with the lines it
logs; `none` for `HANDLER_ERROR`. -/
def modDirlistingSetDefaultsCpv (env : ConfigEnv) : RawCpv → List Bytes × Option ConfCpv
  | .activate u => ([], some (.activate u))
  | .serverDirListing u => ([], some (.serverDirListing u))
  | .exclude a =>
    let r := modDirlistingParseExcludes env a
    (r.1, r.2.map fun kvb ↦ .exclude (.configLocal kvb))
  | .hideDotfiles u => ([], some (.hideDotfiles u))
  | .externalCss b => ([], some (.externalCss (setDefaultsString b)))
  | .externalJs b => ([], some (.externalJs (setDefaultsString b)))
  | .encoding b => ([], some (.encoding (setDefaultsString b)))
  | .showReadme b => ([], some (.showReadme (setDefaultsShowFile (lit "README.txt") b)))
  | .hideReadmeFile u => ([], some (.hideReadmeFile u))
  | .showHeader b => ([], some (.showHeader (setDefaultsShowFile (lit "HEADER.txt") b)))
  | .hideHeaderFile u => ([], some (.hideHeaderFile u))
  | .setFooter b => ([], some (.setFooter (setDefaultsString b)))
  | .encodeReadme u => ([], some (.encodeReadme u))
  | .encodeHeader u => ([], some (.encodeHeader u))
  | .autoLayout u => ([], some (.autoLayout u))
  | .cache a =>
    let r := modDirlistingParseCache env a
    (r.1, r.2.map fun c ↦ .cache (.configLocal c.toCache))
  | .sort u => ([], some (.sort u))

/-- A loop of `mod_dirlisting_set_defaults`: each element processed in order, the lines logged so
far kept, and the first `HANDLER_ERROR` ending it. -/
def setDefaultsLoop {α β : Type} (f : α → List Bytes × Option β) : List α → List Bytes × Option (List β)
  | [] => ([], some [])
  | x :: xs =>
    match f x with
    | (log, none) => (log, none)
    | (log, some y) =>
      let rest := setDefaultsLoop f xs
      (log ++ rest.1, rest.2.map (y :: ·))

/-- `mod_dirlisting_set_defaults` after `config_plugin_values_init`: the directives of every context
processed, the global context first; then the built-in defaults, the global context merged over
them, and `dirlist_max_in_progress`. `none` for `HANDLER_ERROR`. -/
def modDirlistingSetDefaults (env : ConfigEnv) (maxConns : Nat) (cvlist : ConfigValues RawCpv) :
    List Bytes × Option (PluginData × Int) :=
  let global := setDefaultsLoop (modDirlistingSetDefaultsCpv env) cvlist.global
  match global.2 with
  | none => (global.1, none)
  | some g =>
    let conds := setDefaultsLoop (fun c ↦
      let r := setDefaultsLoop (modDirlistingSetDefaultsCpv env) c.2
      (r.1, r.2.map fun cpvs ↦ (c.1, cpvs))) cvlist.conds
    (global.1 ++ conds.1, conds.2.map fun cs ↦
      (⟨modDirlistingMergeConfig PluginConfig.defaults g, ⟨g, cs⟩⟩, dirlistMaxInProgress maxConns))

/-! ### Settings -/

/-- The settings of `plugin_config`, one per field. -/
inductive ConfField
  | dirListing | json | sort | hideDotFiles | hideReadmeFile | encodeReadme | hideHeaderFile
  | encodeHeader | autoLayout | excludes | showReadme | showHeader | externalCss | externalJs
  | encoding | setFooter | cache
  deriving DecidableEq, Repr

/-- The value of one setting. -/
inductive FieldVal
  | flag (u : Bool)
  | excludes (kvb : Option PcreKeyvalueBuffer)
  | buffer (b : Option Bytes)
  | cache (c : Option DirlistCache)

/-- The value of a setting in a configuration. -/
def ConfField.get : ConfField → PluginConfig → FieldVal
  | .dirListing, c => .flag c.dirListing
  | .json, c => .flag c.json
  | .sort, c => .flag c.sort
  | .hideDotFiles, c => .flag c.hideDotFiles
  | .hideReadmeFile, c => .flag c.hideReadmeFile
  | .encodeReadme, c => .flag c.encodeReadme
  | .hideHeaderFile, c => .flag c.hideHeaderFile
  | .encodeHeader, c => .flag c.encodeHeader
  | .autoLayout, c => .flag c.autoLayout
  | .excludes, c => .excludes c.excludes
  | .showReadme, c => .buffer c.showReadme
  | .showHeader, c => .buffer c.showHeader
  | .externalCss, c => .buffer c.externalCss
  | .externalJs, c => .buffer c.externalJs
  | .encoding, c => .buffer c.encoding
  | .setFooter, c => .buffer c.setFooter
  | .cache, c => .cache c.cache

/-- The setting a directive writes when merged and the value it writes; `none` for an exclude list
or a cache that is not `T_CONFIG_LOCAL`, which the merge skips. -/
def Cpv.assigns : ConfCpv → Option (ConfField × FieldVal)
  | .activate u | .serverDirListing u => some (.dirListing, .flag u)
  | .exclude (.configLocal kvb) => some (.excludes, .excludes (some kvb))
  | .exclude (.array _) => none
  | .hideDotfiles u => some (.hideDotFiles, .flag u)
  | .externalCss b => some (.externalCss, .buffer b)
  | .externalJs b => some (.externalJs, .buffer b)
  | .encoding b => some (.encoding, .buffer b)
  | .showReadme b => some (.showReadme, .buffer b)
  | .hideReadmeFile u => some (.hideReadmeFile, .flag u)
  | .showHeader b => some (.showHeader, .buffer b)
  | .hideHeaderFile u => some (.hideHeaderFile, .flag u)
  | .setFooter b => some (.setFooter, .buffer b)
  | .encodeReadme u => some (.encodeReadme, .flag u)
  | .encodeHeader u => some (.encodeHeader, .flag u)
  | .autoLayout u => some (.autoLayout, .flag u)
  | .cache (.configLocal c) => some (.cache, .cache c)
  | .cache (.array _) => none
  | .sort u => some (.sort, .flag u)

/-- The value a directive gives the setting `k`, when it writes `k`. -/
def Cpv.valueFor (k : ConfField) (cpv : ConfCpv) : Option FieldVal :=
  cpv.assigns.bind fun a ↦ if a.1 = k then some a.2 else none

/-- One merge writes one setting: after `merge_config_cpv`, the setting `k` holds the value the
directive gives it, if any, and is otherwise unchanged. -/
@[simp] theorem ConfField.get_mergeConfigCpv (k : ConfField) (pconf : PluginConfig) (cpv : ConfCpv) :
    k.get (modDirlistingMergeConfigCpv pconf cpv) = (cpv.valueFor k).getD (k.get pconf) := by
  cases cpv with
  | exclude v => cases v <;> cases k <;> rfl
  | cache v => cases v <;> cases k <;> rfl
  | _ => cases k <;> rfl

/-- The last value that a list of directives gives the setting `k`. -/
def ConfField.lastValue (k : ConfField) (cpvs : List ConfCpv) : Option FieldVal :=
  (cpvs.filterMap (Cpv.valueFor k)).getLast?

theorem ConfField.lastValue_cons (k : ConfField) (cpv : ConfCpv) (cpvs : List ConfCpv)
    (d : FieldVal) :
    (k.lastValue (cpv :: cpvs)).getD d = (k.lastValue cpvs).getD ((cpv.valueFor k).getD d) := by
  unfold lastValue
  cases h : cpv.valueFor k with
  | none => simp only [List.filterMap_cons, h, Option.getD_none]
  | some v => simp only [List.filterMap_cons, h, List.getLast?_cons, Option.getD_some]

theorem ConfField.lastValue_mem {k : ConfField} {cpvs : List ConfCpv} {v : FieldVal}
    (h : k.lastValue cpvs = some v) : ∃ cpv ∈ cpvs, cpv.valueFor k = some v :=
  List.mem_filterMap.mp (List.mem_of_getLast?_eq_some h)

/-- A run of merges: after `merge_config`, the setting `k` holds the last value its directives
give it, and is otherwise unchanged. -/
theorem ConfField.get_mergeConfig (k : ConfField) (pconf : PluginConfig) (cpvs : List ConfCpv) :
    k.get (modDirlistingMergeConfig pconf cpvs) = (k.lastValue cpvs).getD (k.get pconf) := by
  induction cpvs generalizing pconf with
  | nil => rfl
  | cons cpv cpvs ih =>
    rw [lastValue_cons, ← get_mergeConfigCpv]
    exact ih _

theorem modDirlistingMergeConfig_append (pconf : PluginConfig) (cpvs cpvs' : List ConfCpv) :
    modDirlistingMergeConfig pconf (cpvs ++ cpvs') =
      modDirlistingMergeConfig (modDirlistingMergeConfig pconf cpvs) cpvs' :=
  List.foldl_append _ _ _ _

/-- `patch_config` merges the directives of the matching contexts over `p->defaults`. -/
theorem modDirlistingPatchConfig_eq (checkCond : Nat → Bool) (p : PluginData) :
    modDirlistingPatchConfig checkCond p =
      modDirlistingMergeConfig p.defaults (p.cvlist.matching checkCond) := by
  obtain ⟨defaults, global, conds⟩ := p
  unfold modDirlistingPatchConfig ConfigValues.matching
  dsimp only
  induction conds generalizing defaults with
  | nil => rfl
  | cons c conds ih =>
    rw [List.foldl_cons, ih, List.filter_cons]
    by_cases hc : checkCond c.1
    · simp only [hc, if_true, List.flatMap_cons, modDirlistingMergeConfig_append]
    · simp only [hc, Bool.false_eq_true, if_false]

/-! ### The loops of `set_defaults` -/

section Loop

variable {α β : Type} (f : α → List Bytes × Option β)

/-- A loop succeeds exactly when each of its steps does. -/
theorem setDefaultsLoop_isSome (xs : List α) :
    (setDefaultsLoop f xs).2.isSome ↔ ∀ x ∈ xs, (f x).2.isSome := by
  induction xs with
  | nil => simp [setDefaultsLoop]
  | cons x xs ih => rcases hx : f x with ⟨log, _ | y⟩ <;> simp [setDefaultsLoop, hx, ih]

/-- A loop that succeeds returns, element by element, what each step returned. -/
theorem setDefaultsLoop_forall₂ {xs : List α} {ys : List β} (h : (setDefaultsLoop f xs).2 = some ys) :
    List.Forall₂ (fun x y ↦ (f x).2 = some y) xs ys := by
  induction xs generalizing ys with
  | nil => cases h; exact .nil
  | cons x xs ih =>
    rcases hx : f x with ⟨log, _ | y⟩ <;>
      simp only [setDefaultsLoop, hx, Option.map_eq_some', reduceCtorEq] at h
    obtain ⟨ys', hys', rfl⟩ := h
    exact .cons (by rw [hx]) (ih hys')

end Loop

theorem forall₂_exists_left_of_mem {α β : Type} {R : α → β → Prop} {xs : List α}
    {ys : List β} (h : List.Forall₂ R xs ys) {y : β} (hy : y ∈ ys) : ∃ x ∈ xs, R x y := by
  induction h with
  | nil => cases hy
  | cons hxy _ ih =>
    rcases List.mem_cons.mp hy with rfl | hy
    · exact ⟨_, List.mem_cons_self _ _, hxy⟩
    · obtain ⟨x, hx, hr⟩ := ih hy
      exact ⟨x, List.mem_cons_of_mem _ hx, hr⟩

/-- `set_defaults` made the directive `cpv` from the configured `raw`. -/
def SetDefaultsCpv (env : ConfigEnv) (raw : RawCpv) (cpv : ConfCpv) : Prop :=
  (modDirlistingSetDefaultsCpv env raw).2 = some cpv

/-- What a successful `mod_dirlisting_set_defaults` leaves in `p`: every context with its
condition, each directive processed from the configured one, and `p->defaults` the built-in
defaults with the global context merged over them. -/
structure SetDefaultsResult (env : ConfigEnv) (cvlist : ConfigValues RawCpv) (p : PluginData) :
    Prop where
  global : List.Forall₂ (SetDefaultsCpv env) cvlist.global p.cvlist.global
  conds : List.Forall₂ (fun c c' ↦ c'.1 = c.1 ∧ List.Forall₂ (SetDefaultsCpv env) c.2 c'.2)
    cvlist.conds p.cvlist.conds
  defaults : p.defaults = modDirlistingMergeConfig PluginConfig.defaults p.cvlist.global

theorem modDirlistingSetDefaults_result {env : ConfigEnv} {maxConns : Nat}
    {cvlist : ConfigValues RawCpv} {p : PluginData} {n : Int}
    (h : (modDirlistingSetDefaults env maxConns cvlist).2 = some (p, n)) :
    SetDefaultsResult env cvlist p ∧ n = dirlistMaxInProgress maxConns := by
  unfold modDirlistingSetDefaults at h
  rcases hg : (setDefaultsLoop (modDirlistingSetDefaultsCpv env) cvlist.global).2 with _ | g <;>
    simp only [hg, Option.map_eq_some', reduceCtorEq] at h
  obtain ⟨cs, hcs, heq⟩ := h
  cases heq
  refine ⟨⟨setDefaultsLoop_forall₂ _ hg, (setDefaultsLoop_forall₂ _ hcs).imp ?_, rfl⟩, rfl⟩
  intro c c' hc
  simp only [Option.map_eq_some'] at hc
  obtain ⟨cpvs, hcpvs, rfl⟩ := hc
  exact ⟨rfl, setDefaultsLoop_forall₂ _ hcpvs⟩

theorem forall₂_filter_flatMap {α β : Type} {R : α → β → Prop} {cs : List (Nat × List α)}
    {cs' : List (Nat × List β)}
    (h : List.Forall₂ (fun c c' ↦ c'.1 = c.1 ∧ List.Forall₂ R c.2 c'.2) cs cs')
    (checkCond : Nat → Bool) :
    List.Forall₂ R ((cs.filter fun c ↦ checkCond c.1).flatMap Prod.snd)
      ((cs'.filter fun c ↦ checkCond c.1).flatMap Prod.snd) := by
  induction h with
  | nil => exact .nil
  | @cons c c' cs cs' hc _ ih =>
    rw [List.filter_cons, List.filter_cons, hc.1]
    split
    · exact List.rel_append hc.2 ih
    · exact ih

/-- The directives that apply to a request correspond, one to one, to the configured ones. -/
theorem SetDefaultsResult.matching {env : ConfigEnv} {cvlist : ConfigValues RawCpv}
    {p : PluginData} (hr : SetDefaultsResult env cvlist p) (checkCond : Nat → Bool) :
    List.Forall₂ (SetDefaultsCpv env) (cvlist.global ++ cvlist.matching checkCond)
      (p.cvlist.global ++ p.cvlist.matching checkCond) :=
  List.rel_append hr.global (forall₂_filter_flatMap hr.conds checkCond)

/-! ### What `set_defaults` guarantees -/

/-- What `mod_dirlisting_set_defaults` guarantees of the value of a setting: no blank URL,
encoding or footer, no `"enable"` or `"disable"` left as a README or HEADER name, and no cache
with `max_age` 0. -/
def ConfField.Normal : ConfField → FieldVal → Prop
  | .externalCss, .buffer b | .externalJs, .buffer b | .encoding, .buffer b
  | .setFooter, .buffer b => b ≠ some []
  | .showReadme, .buffer b | .showHeader, .buffer b =>
    b ≠ some (lit "enable") ∧ b ≠ some (lit "disable")
  | .cache, .cache c => ∀ x ∈ c, x.maxAge ≠ 0
  | _, _ => True

/-- A configuration whose every setting is normal. -/
def PluginConfig.Normal (conf : PluginConfig) : Prop :=
  ∀ k : ConfField, k.Normal (k.get conf)

/-- A directive that the merge applies: it writes a setting, with a normal value. -/
def Cpv.Processed (cpv : ConfCpv) : Prop :=
  ∃ k v, cpv.assigns = some (k, v) ∧ k.Normal v

theorem PluginConfig.defaults_normal : PluginConfig.defaults.Normal := by
  intro k
  cases k <;> simp [ConfField.Normal, ConfField.get, PluginConfig.defaults]

/-- Merging applied directives keeps a configuration normal. -/
theorem PluginConfig.Normal.mergeConfig {pconf : PluginConfig} (h : pconf.Normal)
    {cpvs : List ConfCpv} (hcpvs : ∀ cpv ∈ cpvs, cpv.Processed) :
    (modDirlistingMergeConfig pconf cpvs).Normal := by
  intro k
  rw [ConfField.get_mergeConfig]
  cases hv : k.lastValue cpvs with
  | none => exact h k
  | some v =>
    obtain ⟨cpv, hmem, hcv⟩ := ConfField.lastValue_mem hv
    obtain ⟨k', v', ha, hn⟩ := hcpvs cpv hmem
    simp only [Cpv.valueFor, ha, Option.some_bind, Option.ite_none_right_eq_some,
      Option.some.injEq] at hcv
    obtain ⟨rfl, rfl⟩ := hcv
    exact hn

theorem setDefaultsString_ne_nil (b : Bytes) : setDefaultsString b ≠ some [] := by
  unfold setDefaultsString
  split_ifs with h <;> simp [h]

theorem setDefaultsShowFile_normal {name : Bytes}
    (hname : name ≠ lit "enable" ∧ name ≠ lit "disable") (b : Bytes) :
    setDefaultsShowFile name b ≠ some (lit "enable") ∧
      setDefaultsShowFile name b ≠ some (lit "disable") := by
  unfold setDefaultsShowFile
  split_ifs with h1 h2 h3
  · simp
  · simpa using hname
  · decide
  · simp [h2, h3]

theorem ParsedCache.toCache_maxAge (c : ParsedCache) : ∀ x ∈ c.toCache, x.maxAge ≠ 0 := by
  intro x hx
  unfold toCache at hx
  split_ifs at hx with h
  · cases hx
  · cases hx
    exact h

/-- Each directive `set_defaults` processes is one the merge applies. -/
theorem SetDefaultsCpv.processed {env : ConfigEnv} {raw : RawCpv} {cpv : ConfCpv}
    (h : SetDefaultsCpv env raw cpv) : cpv.Processed := by
  cases raw with
  | exclude a =>
    obtain ⟨kvb, -, rfl⟩ := Option.map_eq_some'.mp h
    exact ⟨_, _, rfl, trivial⟩
  | cache a =>
    obtain ⟨c, -, rfl⟩ := Option.map_eq_some'.mp h
    exact ⟨_, _, rfl, c.toCache_maxAge⟩
  | externalCss b | externalJs b | encoding b | setFooter b =>
    cases h
    exact ⟨_, _, rfl, setDefaultsString_ne_nil b⟩
  | showReadme b | showHeader b =>
    cases h
    exact ⟨_, _, rfl, setDefaultsShowFile_normal (by decide) b⟩
  | _ =>
    cases h
    exact ⟨_, _, rfl, trivial⟩

/-! ### The cache of a request -/

/-- The cache that a `dir-listing.cache` array describes: none when its `max-age` (15 when absent)
is 0, otherwise that `max-age` and the string under `"path"`. -/
def cacheDescriptor (env : ConfigEnv) (a : CacheArray) : Option DirlistCache :=
  let maxAge := env.valueToInt32 a.maxAge 15
  if maxAge = 0 then none
  else match a.path with
    | some (.string path) => some ⟨maxAge, path⟩
    | _ => none

/-- A cache that `parse_cache` accepts leaves `set_defaults` as the cache its array describes. -/
theorem modDirlistingParseCache_toCache {env : ConfigEnv} {a : CacheArray} {c : ParsedCache}
    (h : (modDirlistingParseCache env a).2 = some c) : c.toCache = cacheDescriptor env a := by
  unfold modDirlistingParseCache at h
  unfold cacheDescriptor
  rcases hp : a.path with _ | (path | i | _) <;> simp only [hp, reduceCtorEq] at h ⊢
  · split_ifs at h with h0
    cases h
    simp [ParsedCache.toCache, h0]
  · have hc : c = ⟨env.valueToInt32 a.maxAge 15, some path, fun _ ↦ rfl⟩ := by
      split at h
      · split_ifs at h <;> cases h <;> rfl
      · cases h
        rfl
    subst hc
    simp only [ParsedCache.toCache]
    split_ifs <;> rfl

theorem SetDefaultsCpv.valueFor_cache {env : ConfigEnv} {raw : RawCpv} {cpv : ConfCpv}
    (h : SetDefaultsCpv env raw cpv) :
    cpv.valueFor .cache = raw.cacheValue.map fun a ↦ .cache (cacheDescriptor env a) := by
  cases raw with
  | exclude a =>
    obtain ⟨kvb, -, rfl⟩ := Option.map_eq_some'.mp h
    rfl
  | cache a =>
    obtain ⟨c, hc, rfl⟩ := Option.map_eq_some'.mp h
    simp [Cpv.valueFor, Cpv.assigns, Cpv.cacheValue, modDirlistingParseCache_toCache hc]
  | _ =>
    cases h
    rfl

theorem filterMap_valueFor_cache {env : ConfigEnv} {raws : List RawCpv} {cpvs : List ConfCpv}
    (h : List.Forall₂ (SetDefaultsCpv env) raws cpvs) :
    cpvs.filterMap (Cpv.valueFor .cache) =
      (raws.filterMap Cpv.cacheValue).map fun a ↦ .cache (cacheDescriptor env a) := by
  induction h with
  | nil => rfl
  | @cons raw cpv raws cpvs hxy _ ih =>
    rw [List.filterMap_cons, List.filterMap_cons, hxy.valueFor_cache, ih]
    cases raw.cacheValue <;> rfl

/-- The cache of a request, from the configured directives. -/
theorem SetDefaultsResult.patchConfig_cache {env : ConfigEnv} {cvlist : ConfigValues RawCpv}
    {p : PluginData} (hr : SetDefaultsResult env cvlist p) (checkCond : Nat → Bool) :
    (modDirlistingPatchConfig checkCond p).cache =
      ((cvlist.global ++ cvlist.matching checkCond).filterMap Cpv.cacheValue).getLast?.bind
        (cacheDescriptor env) := by
  have hget := ConfField.get_mergeConfig .cache PluginConfig.defaults
    (p.cvlist.global ++ p.cvlist.matching checkCond)
  rw [modDirlistingMergeConfig_append, ← hr.defaults, ← modDirlistingPatchConfig_eq,
    ConfField.lastValue, filterMap_valueFor_cache (hr.matching checkCond), List.getLast?_map] at hget
  rcases hl : (List.filterMap Cpv.cacheValue (cvlist.global ++ cvlist.matching checkCond)).getLast?
    with _ | a <;> rw [hl] at hget <;> exact FieldVal.cache.inj hget

/-! ### Acceptance -/

/-- A configured directive that `set_defaults` accepts: every pattern of `dir-listing.exclude`
compiles, and a `dir-listing.cache` array has a `"path"` unless its `max-age` is 0, which is a
string that `stat` does not report as `ENOTDIR`. -/
def Cpv.Accepted (env : ConfigEnv) : RawCpv → Prop
  | .exclude a => ∀ ds ∈ a, env.pcreCompile ds.2 = true
  | .cache a => (a.path = none → env.valueToInt32 a.maxAge 15 = 0) ∧
      ∀ du, a.path = some du → ∃ path, du = .string path ∧ env.pathIsdir path ≠ some enotdir
  | _ => True

theorem modDirlistingParseExcludes_isSome (env : ConfigEnv) (a : ExcludeArray) :
    (modDirlistingParseExcludes env a).2.isSome ↔ ∀ ds ∈ a, env.pcreCompile ds.2 = true := by
  unfold modDirlistingParseExcludes
  cases hf : a.find? (fun ds ↦ !env.pcreCompile ds.2) with
  | none => simpa using List.find?_eq_none.mp hf
  | some ds =>
    have hds := List.find?_some hf
    simp only [Bool.not_eq_true', Bool.not_eq_eq_eq_not, Bool.not_true] at hds
    simp only [Option.isSome_none, Bool.false_eq_true, false_iff, not_forall]
    exact ⟨ds, List.mem_of_find?_eq_some hf, by simp [hds]⟩

theorem modDirlistingParseCache_isSome (env : ConfigEnv) (a : CacheArray) :
    (modDirlistingParseCache env a).2.isSome ↔ (a.path = none → env.valueToInt32 a.maxAge 15 = 0) ∧
      ∀ du, a.path = some du → ∃ path, du = .string path ∧ env.pathIsdir path ≠ some enotdir := by
  unfold modDirlistingParseCache
  rcases hp : a.path with _ | (path | i | _) <;> simp only [hp]
  · split_ifs with h0 <;> simp [h0]
  · split
    · split_ifs <;> simp_all
    · simp_all
  · simp
  · simp

theorem modDirlistingSetDefaultsCpv_isSome (env : ConfigEnv) (raw : RawCpv) :
    (modDirlistingSetDefaultsCpv env raw).2.isSome ↔ raw.Accepted env := by
  cases raw with
  | exclude a =>
    simpa only [modDirlistingSetDefaultsCpv, Option.isSome_map'] using
      modDirlistingParseExcludes_isSome env a
  | cache a =>
    simpa only [modDirlistingSetDefaultsCpv, Option.isSome_map'] using
      modDirlistingParseCache_isSome env a
  | _ => simp [modDirlistingSetDefaultsCpv, Cpv.Accepted]

/-- `set_defaults` fails exactly when a directive of some context is rejected: an exclude pattern
that does not compile, or a cache array without a usable `"path"`. -/
theorem modDirlistingSetDefaults_isSome_iff (env : ConfigEnv) (maxConns : Nat)
    (cvlist : ConfigValues RawCpv) :
    (modDirlistingSetDefaults env maxConns cvlist).2.isSome ↔
      ∀ raw ∈ cvlist.global ++ cvlist.conds.flatMap Prod.snd, raw.Accepted env := by
  have hloop (xs : List RawCpv) : (setDefaultsLoop (modDirlistingSetDefaultsCpv env) xs).2.isSome ↔
      ∀ raw ∈ xs, raw.Accepted env := by
    simp only [setDefaultsLoop_isSome, modDirlistingSetDefaultsCpv_isSome]
  unfold modDirlistingSetDefaults
  rw [List.forall_mem_append, List.forall_mem_flatMap, ← hloop]
  rcases hg : (setDefaultsLoop (modDirlistingSetDefaultsCpv env) cvlist.global).2 with _ | g
  · simp [hg]
  · simp only [hg, Option.isSome_map', setDefaultsLoop_isSome, hloop, Option.isSome_some, true_and]

/-! ### The configuration of a request -/

/-- An environment in which `max-age` is read from integers, every path is a directory and every
pattern compiles. -/
def directoryEnv : ConfigEnv where
  valueToInt32 du d := match du with
    | some (.integer i) => i
    | _ => d
  pathIsdir _ := none
  pcreCompile _ := true
  pcreBuffer _ := ⟨fun _ ↦ some (-1)⟩

/-- The listing and a cache enabled in the global context; in the conditional context `1`, the
cache disabled again by `max-age` 0 and the README shown. -/
def cacheOffConfig : ConfigValues RawCpv where
  global := [.activate true,
    .cache ⟨some (.integer 600), some (.string (lit "/var/cache/dirlist"))⟩]
  conds := [(1, [.cache ⟨some (.integer 0), none⟩, .showReadme (lit "enable")])]

section Request

variable {env : ConfigEnv} {maxConns : Nat} {cvlist : ConfigValues RawCpv} {p : PluginData}
  {n : Int}

/-- The configuration of a request, setting by setting: the last value that the directives of the
global context and of the matching conditional contexts give it, in configuration order, or the
built-in default. -/
theorem modDirlistingPatchConfig_lastDirective
    (h : (modDirlistingSetDefaults env maxConns cvlist).2 = some (p, n)) (checkCond : Nat → Bool)
    (k : ConfField) :
    k.get (modDirlistingPatchConfig checkCond p) =
      (k.lastValue (p.cvlist.global ++ p.cvlist.matching checkCond)).getD
        (k.get PluginConfig.defaults) := by
  obtain ⟨hr, -⟩ := modDirlistingSetDefaults_result h
  rw [modDirlistingPatchConfig_eq, hr.defaults, ← modDirlistingMergeConfig_append,
    ConfField.get_mergeConfig]

theorem modDirlistingPatchConfig_lastDirective_cacheOff :
    ∃ p n, (modDirlistingSetDefaults directoryEnv 1024 cacheOffConfig).2 = some (p, n) ∧
      ConfField.showReadme.get (modDirlistingPatchConfig (· == 1) p) =
        .buffer (some (lit "README.txt")) :=
  ⟨_, _, rfl, (@modDirlistingPatchConfig_lastDirective directoryEnv 1024 cacheOffConfig _ _ rfl _ _).trans rfl⟩

/-- Every directive that `set_defaults` leaves in `p->cvlist` is applied by the merge, with a
normal value: the `T_CONFIG_LOCAL` guards of `merge_config_cpv` never skip one. -/
theorem modDirlistingSetDefaults_processed
    (h : (modDirlistingSetDefaults env maxConns cvlist).2 = some (p, n)) :
    ∀ cpv ∈ p.cvlist.global ++ p.cvlist.conds.flatMap Prod.snd, cpv.Processed := by
  obtain ⟨hr, -⟩ := modDirlistingSetDefaults_result h
  intro cpv hcpv
  have hall := hr.matching fun _ ↦ true
  simp only [ConfigValues.matching, List.filter_true] at hall
  obtain ⟨raw, -, hraw⟩ := forall₂_exists_left_of_mem hall hcpv
  exact hraw.processed

/-- The configuration of every request is normal. -/
theorem modDirlistingPatchConfig_normal
    (h : (modDirlistingSetDefaults env maxConns cvlist).2 = some (p, n)) (checkCond : Nat → Bool) :
    (modDirlistingPatchConfig checkCond p).Normal := by
  obtain ⟨hr, -⟩ := modDirlistingSetDefaults_result h
  rw [modDirlistingPatchConfig_eq, hr.defaults, ← modDirlistingMergeConfig_append]
  refine PluginConfig.defaults_normal.mergeConfig fun cpv hcpv ↦
    modDirlistingSetDefaults_processed h cpv ?_
  simp only [List.mem_append, ConfigValues.matching, List.mem_flatMap, List.mem_filter] at hcpv ⊢
  rcases hcpv with hg | ⟨c, ⟨hc, -⟩, hm⟩
  exacts [.inl hg, .inr ⟨c, hc, hm⟩]

theorem modDirlistingPatchConfig_normal_cacheOff :
    ∃ p n, (modDirlistingSetDefaults directoryEnv 1024 cacheOffConfig).2 = some (p, n) ∧
      (modDirlistingPatchConfig (· == 1) p).Normal :=
  ⟨_, _, rfl, @modDirlistingPatchConfig_normal directoryEnv 1024 cacheOffConfig _ _ rfl _⟩

/-- The cache of a request is the one that the last `dir-listing.cache` directive of the global
context and of the matching conditional contexts describes: none without such a directive or when
its `max-age` is 0, even if an earlier one enabled caching. -/
theorem modDirlistingPatchConfig_cache
    (h : (modDirlistingSetDefaults env maxConns cvlist).2 = some (p, n)) (checkCond : Nat → Bool) :
    (modDirlistingPatchConfig checkCond p).cache =
      ((cvlist.global ++ cvlist.matching checkCond).filterMap Cpv.cacheValue).getLast?.bind
        (cacheDescriptor env) :=
  (modDirlistingSetDefaults_result h).1.patchConfig_cache checkCond

theorem modDirlistingPatchConfig_cache_cacheOff :
    ∃ p n, (modDirlistingSetDefaults directoryEnv 1024 cacheOffConfig).2 = some (p, n) ∧
      (modDirlistingPatchConfig (· == 1) p).cache = none ∧
      (modDirlistingPatchConfig (· == 2) p).cache = some ⟨600, lit "/var/cache/dirlist"⟩ :=
  ⟨_, _, rfl, (@modDirlistingPatchConfig_cache directoryEnv 1024 cacheOffConfig _ _ rfl _).trans rfl,
    (@modDirlistingPatchConfig_cache directoryEnv 1024 cacheOffConfig _ _ rfl _).trans rfl⟩

theorem ConfField.lastValue_json (cpvs : List ConfCpv) : ConfField.json.lastValue cpvs = none := by
  have hnil : cpvs.filterMap (Cpv.valueFor .json) = [] := by
    refine List.filterMap_eq_nil_iff.mpr fun cpv _ ↦ ?_
    cases cpv with
    | exclude v => cases v <;> rfl
    | cache v => cases v <;> rfl
    | _ => rfl
  rw [lastValue, hnil, List.getLast?_nil]

/-- No directive sets `json`: a request is listed as JSON exactly when its query has the 4 bytes
of `json` and begins with `jso`, as `json` and `jsox` do. -/
theorem requestConf_json
    (h : (modDirlistingSetDefaults env maxConns cvlist).2 = some (p, n)) (checkCond : Nat → Bool)
    (r : Request) :
    (requestConf r (modDirlistingPatchConfig checkCond p)).json =
      decide (r.uriQuery.length = 4 ∧ r.uriQuery.take 3 = lit "jso") := by
  obtain ⟨hr, -⟩ := modDirlistingSetDefaults_result h
  have hget := ConfField.get_mergeConfig .json PluginConfig.defaults
    (p.cvlist.global ++ p.cvlist.matching checkCond)
  rw [modDirlistingMergeConfig_append, ← hr.defaults, ← modDirlistingPatchConfig_eq,
    ConfField.lastValue_json] at hget
  unfold requestConf
  split_ifs with hq
  · simp [hq]
  · simpa [hq] using FieldVal.flag.inj hget

theorem requestConf_json_jsox :
    ∃ p n, (modDirlistingSetDefaults directoryEnv 1024 cacheOffConfig).2 = some (p, n) ∧
      (requestConf ⟨lit "/d/", lit "jsox", lit "/var/www/d/", none, true, false⟩
        (modDirlistingPatchConfig (· == 1) p)).json = true :=
  ⟨_, _, rfl, (@requestConf_json directoryEnv 1024 cacheOffConfig _ _ rfl _ _).trans rfl⟩

end Request

end Dirlisting
