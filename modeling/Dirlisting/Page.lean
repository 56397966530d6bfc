import Dirlisting.Sort
import Dirlisting.Scan

/-!
# The HTML page

The parts of the HTML response around the rows: `httpListDirectoryHeader` and
`httpListDirectoryFooter` (with `httpListDirectoryIncludeFile` for the HEADER and README files),
and `httpListDirectory`, the rows of the sorted mode. `modDirlistingResponse` puts them together.

Large outputs go through `r->tmp_buf` and `chunkqueue_append_mem_to_tempfile` of `chunk.c`, which is
not part of this repository: its outcome on each call is a `SpillOutcome`, given by the caller as a
function of the number of the call. A failed spill ends the loop of `http_list_directory` that made
it (`break`), and a failed last spill is ignored. Whether `buffer_string_space (out) < 256` after a
row depends on how `buffer.c` grows `tb`; it is the function `spillDue` of the number of rows.

`dir-listing.show-readme = "disable"` leaves an empty file name rather than none, which the
footer resolves to the directory itself: it gets a README block all the same
(`httpListDirectoryFooter_disabledReadme`).
-/

set_option autoImplicit false
set_option relaxedAutoImplicit false

namespace Dirlisting

/-! ### Request and collaborators -/

/-- The fields of `request_st` that the module reads: `r->uri.path`, `r->uri.query`,
`r->physical.path`, the `server.tag` of `r->conf`, whether `r->http_method` is GET or HEAD, and
whether `r->http_version` is at least HTTP/2. -/
structure Request where
  uriPath : Bytes
  uriQuery : Bytes
  physicalPath : Bytes
  serverTag : Option Bytes
  getOrHead : Bool
  http2 : Bool
  deriving DecidableEq, Repr

/-- The collaborators of the page beyond those of the rows: `buffer_append_path_len` of `buffer.c`
(also behind `buffer_copy_path_len2`), and `stat_cache_get_entry_open` with the reads of its
descriptor, giving `st_size` and the bytes `chunk_file_pread` returns (`none` when the entry or the
descriptor is missing). -/
structure PageEnv extends RenderEnv where
  pathJoin : Bytes → Bytes → Bytes
  openFile : Bytes → Option (Int × Bytes)

/-- The outcome of one `chunkqueue_append_mem_to_tempfile`: success, or failure after a prefix of
the given length has reached the queue. -/
inductive SpillOutcome
  | ok
  | fail (written : Nat)
  deriving DecidableEq, Repr

/-- The bytes a spill of `data` leaves in the queue. -/
def SpillOutcome.queued : SpillOutcome → Bytes → Bytes
  | .ok, data => data
  | .fail written, data => data.take written

/-! ### Included files -/

/-- The reads `chunk_file_pread (fd, buf, sizeof (buf), off)` of 8192 bytes, with one read per unit
of fuel. -/
def preadChunks : Nat → Bytes → List Bytes
  | 0, _ => []
  | fuel + 1, content => if content = [] then [] else content.take 8192 :: preadChunks fuel (content.drop 8192)

/-- The read loop of `http_list_directory_include_file` with `out == tb`: each read is encoded and
spilled, and a failed spill ends the loop. -/
def includeSpillLoop (env : RenderEnv) (spill : Nat → SpillOutcome) (k : Nat) : List Bytes → Bytes
  | [] => []
  | chunk :: rest =>
    match spill k with
    | .ok => encode env.minimalXml chunk ++ includeSpillLoop env spill (k + 1) rest
    | .fail written => (encode env.minimalXml chunk).take written

/-- `http_list_directory_include_file`: the HEADER (`isHeader`) or README file, encoded inside a
`<pre>` element or appended as it is. A relative name is taken in `r->physical.path`; a missing or
empty file appends nothing. Encoded files over 32768 bytes go through `tb` and spills. -/
def httpListDirectoryIncludeFile (env : PageEnv) (r : Request) (conf : PluginConfig) (isHeader : Bool)
    (spill : Nat → SpillOutcome) : Bytes :=
  let path := if isHeader then conf.showHeader else conf.showReadme
  let encodeFile := if isHeader then conf.encodeHeader else conf.encodeReadme
  match path with
  | none => []
  | some path =>
    let path := if path.head? = some 47 then path else env.pathJoin r.physicalPath path
    match env.openFile path with
    | none => []
    | some (size, content) =>
      if size = 0 then []
      else if encodeFile then
        lit (if isHeader then "<pre class=\"header\">" else "<pre class=\"readme\">") ++
          (if size ≤ 32768 then encode env.minimalXml content
          else includeSpillLoop env.toRenderEnv spill 0 (preadChunks content.length content)) ++
          lit "</pre>"
      else content

/-! ### Header and footer -/

/-- The style sheet of the header when no `dir-listing.external-css` is set. -/
def inlineStyle : String :=
  "<style type=\"text/css\">\n" ++
    "a, a:active \x7btext-decoration: none; color: blue;\x7d\n" ++
    "a:visited \x7bcolor: #48468F;\x7d\n" ++
    "a:hover, a:focus \x7btext-decoration: underline; color: red;\x7d\n" ++
    "body \x7bbackground-color: #F5F5F5;\x7d\n" ++
    "h2 \x7bmargin-bottom: 12px;\x7d\n" ++
    "table \x7bmargin-left: 12px;\x7d\n" ++
    "th, td \x7b font: 90% monospace; text-align: left;\x7d\n" ++
    "th \x7b font-weight: bold; padding-right: 14px; padding-bottom: 3px;\x7d\n" ++
    "td \x7bpadding-right: 14px;\x7d\n" ++
    "td.s, th.s \x7btext-align: right;\x7d\n" ++
    "div.list \x7b background-color: white; border-top: 1px solid #646464; border-bottom: 1px solid #646464; padding-top: 10px; padding-bottom: 14px;\x7d\n" ++
    "div.foot \x7b font: 90% monospace; color: #787878; padding-top: 4px;\x7d\n" ++
    "@media (prefers-color-scheme: dark) \x7b\n" ++
    " a, a:active \x7bcolor: #9E9EFF;\x7d\n" ++
    " a:visited \x7bcolor: #D0ADF0;\x7d\n" ++
    " body, div.list \x7bbackground-color: transparent;\x7d\n" ++
    " div.foot \x7bcolor: #878787;\x7d\n" ++
    "\x7d\n" ++
    "</style>\n" ++
    "<meta name=\"color-scheme\" content=\"light dark\">\n"

/-- `js_simple_table_resort`. -/
def jsSimpleTableResort : String :=
  "var click_column;\n" ++
    "var name_column = 0;\n" ++
    "var date_column = 1;\n" ++
    "var size_column = 2;\n" ++
    "var type_column = 3;\n" ++
    "var prev_span = null;\n" ++
    "\n" ++
    "if (typeof(String.prototype.localeCompare) === \x27undefined\x27) \x7b\n" ++
    " String.prototype.localeCompare = function(str, locale, options) \x7b\n" ++
    "   return ((this == str) ? 0 : ((this > str) ? 1 : -1));\n" ++
    " \x7d;\n" ++
    "\x7d\n" ++
    "\n" ++
    "if (typeof(String.prototype.toLocaleUpperCase) === \x27undefined\x27) \x7b\n" ++
    " String.prototype.toLocaleUpperCase = function() \x7b\n" ++
    "  return this.toUpperCase();\n" ++
    " \x7d;\n" ++
    "\x7d\n" ++
    "\n" ++
    "function get_inner_text(el) \x7b\n" ++
    " if((typeof el == \x27string\x27)||(typeof el == \x27undefined\x27))\n" ++
    "  return el;\n" ++
    " if(el.dataset\n" ++
    "    && (typeof el.dataset.value === \x27string\x27\n" ++
    "        || typeof el.dataset.value === \x27number\x27))\n" ++
    "  return el.dataset.value;\n" ++
    " if(el.innerText)\n" ++
    "  return el.innerText;\n" ++
    " else \x7b\n" ++
    "  var str = \"\";\n" ++
    "  var cs = el.childNodes;\n" ++
    "  var l = cs.length;\n" ++
    "  for (var i=0;i<l;i++) \x7b\n" ++
    "   if (cs[i].nodeType==1) str += get_inner_text(cs[i]);\n" ++
    "   else if (cs[i].nodeType==3) str += cs[i].nodeValue;\n" ++
    "  \x7d\n" ++
    " \x7d\n" ++
    " return str;\n" ++
    "\x7d\n" ++
    "\n" ++
    "var li_date_regex=/(\\d\x7b4\x7d)-(\\w\x7b3\x7d)-(\\d\x7b2\x7d) (\\d\x7b2\x7d):(\\d\x7b2\x7d):(\\d\x7b2\x7d)/;\n" ++
    "\n" ++
    "var li_mon = [\x27Jan\x27,\x27Feb\x27,\x27Mar\x27,\x27Apr\x27,\x27May\x27,\x27Jun\x27,\n" ++
    "              \x27Jul\x27,\x27Aug\x27,\x27Sep\x27,\x27Oct\x27,\x27Nov\x27,\x27Dec\x27];\n" ++
    "\n" ++
    "function li_mon_num(mon) \x7b\n" ++
    " var i; for (i = 0; i < 12 && mon != li_mon[i]; ++i); return i;\n" ++
    "\x7d\n" ++
    "\n" ++
    "function li_dates_to_dv(table) \x7b\n" ++
    " for (var j=1;j<table.rows.length;j++) \x7b\n" ++
    "  var el = table.rows[j].cells[date_column];\n" ++
    "  if(el.dataset && typeof el.dataset.value != \x27undefined\x27) \x7b\n" ++
    "   if (typeof el.dataset.value == \x27number\x27)\n" ++
    "    break;\n" ++
    "   if (el.dataset.value === \"-1\")\n" ++
    "    el.dataset.value = -1;\n" ++
    "  \x7d else \x7b\n" ++
    "   var d = li_date_regex.exec(get_inner_text(el));\n" ++
    "   el.dataset.value = (parseInt(d[1])*(1<<26))\n" ++
    "     + ( (li_mon_num(d[2])<<22)\n" ++
    "        |(parseInt(d[3])  <<17)\n" ++
    "        |(parseInt(d[4])  <<12)\n" ++
    "        |(parseInt(d[5])  << 6)\n" ++
    "        |(parseInt(d[6])) );\n" ++
    "  \x7d\n" ++
    " \x7d\n" ++
    "\x7d\n" ++
    "\n" ++
    "function sortfn_then_by_name(a,b,sort_column) \x7b\n" ++
    " if (sort_column == name_column || sort_column == type_column) \x7b\n" ++
    "  var ad = (a.cells[type_column].innerHTML === \x27Directory\x27);\n" ++
    "  var bd = (b.cells[type_column].innerHTML === \x27Directory\x27);\n" ++
    "  if (ad != bd) return (ad ? -1 : 1);\n" ++
    " \x7d\n" ++
    " var at = get_inner_text(a.cells[sort_column]);\n" ++
    " var bt = get_inner_text(b.cells[sort_column]);\n" ++
    " var cmp;\n" ++
    " if (sort_column == size_column) \x7b\n" ++
    "  cmp = parseInt(at)-parseInt(bt);\n" ++
    " \x7d else if (sort_column == date_column) \x7b\n" ++
    "  cmp = at-bt;\n" ++
    " \x7d else \x7b\n" ++
    "  if (sort_column == name_column) \x7b\n" ++
    "   if (at == \x27../\x27) return -1;\n" ++
    "   if (bt == \x27../\x27) return  1;\n" ++
    "  \x7d\n" ++
    "  cmp = at.toLocaleUpperCase().localeCompare(bt.toLocaleUpperCase());\n" ++
    "  if (0 != cmp) return cmp;\n" ++
    "  cmp = at.localeCompare(bt);\n" ++
    " \x7d\n" ++
    " if (0 != cmp || sort_column == name_column) return cmp;\n" ++
    " return sortfn_then_by_name(a,b,name_column);\n" ++
    "\x7d\n" ++
    "\n" ++
    "function sortfn(a,b) \x7b\n" ++
    " return sortfn_then_by_name(a,b,click_column);\n" ++
    "\x7d\n" ++
    "\n" ++
    "function resort(lnk) \x7b\n" ++
    " var span = lnk.childNodes[1];\n" ++
    " var table = lnk.parentNode.parentNode.parentNode.parentNode;\n" ++
    " click_column = lnk.parentNode.cellIndex;\n" ++
    " if (click_column == date_column) li_dates_to_dv(table);\n" ++
    " var rows = new Array();\n" ++
    " for (var j=1;j<table.rows.length;j++)\n" ++
    "  rows[j-1] = table.rows[j];\n" ++
    " rows.sort(sortfn);\n" ++
    "\n" ++
    " if (prev_span != null) prev_span.innerHTML = \x27\x27;\n" ++
    " if (span.getAttribute(\x27sortdir\x27)==\x27down\x27) \x7b\n" ++
    "  span.innerHTML = \x27&uarr;\x27;\n" ++
    "  span.setAttribute(\x27sortdir\x27,\x27up\x27);\n" ++
    "  rows.reverse();\n" ++
    " \x7d else \x7b\n" ++
    "  span.innerHTML = \x27&darr;\x27;\n" ++
    "  span.setAttribute(\x27sortdir\x27,\x27down\x27);\n" ++
    " \x7d\n" ++
    " for (var i=0;i<rows.length;i++)\n" ++
    "  table.tBodies[0].appendChild(rows[i]);\n" ++
    " prev_span = span;\n" ++
    "\x7d\n"

/-- `js_simple_table_init_sort`. -/
def jsSimpleTableInitSort : String :=
  "\n" ++
    "function init_sort(init_sort_column, descending) \x7b\n" ++
    " var tables = document.getElementsByTagName(\"table\");\n" ++
    " for (var i = 0; i < tables.length; i++) \x7b\n" ++
    "  var table = tables[i];\n" ++
    "  //var c = table.getAttribute(\"class\")\n" ++
    "  //if (-1 != c.split(\" \").indexOf(\"sort\")) \x7b\n" ++
    "   var row = table.rows[0].cells;\n" ++
    "   for (var j = 0; j < row.length; j++) \x7b\n" ++
    "    var n = row[j];\n" ++
    "    if (n.childNodes.length == 1 && n.childNodes[0].nodeType == 3) \x7b\n" ++
    "     var link = document.createElement(\"a\");\n" ++
    "     var title = n.childNodes[0].nodeValue.replace(/:$/, \"\");\n" ++
    "     link.appendChild(document.createTextNode(title));\n" ++
    "     link.setAttribute(\"href\", \"#\");\n" ++
    "     link.setAttribute(\"class\", \"sortheader\");\n" ++
    "     link.setAttribute(\"onclick\", \"resort(this);return false;\");\n" ++
    "     var arrow = document.createElement(\"span\");\n" ++
    "     arrow.setAttribute(\"class\", \"sortarrow\");\n" ++
    "     arrow.appendChild(document.createTextNode(\":\"));\n" ++
    "     link.appendChild(arrow)\n" ++
    "     n.replaceChild(link, n.firstChild);\n" ++
    "    \x7d\n" ++
    "   \x7d\n" ++
    "   var lnk = row[init_sort_column].firstChild;\n" ++
    "   if (descending) \x7b\n" ++
    "    var span = lnk.childNodes[1];\n" ++
    "    span.setAttribute(\x27sortdir\x27,\x27down\x27);\n" ++
    "   \x7d\n" ++
    "   resort(lnk);\n" ++
    "  //\x7d\n" ++
    " \x7d\n" ++
    "\x7d\n" ++
    "\n" ++
    "function init_sort_from_query() \x7b\n" ++
    "  var urlParams = new URLSearchParams(location.search);\n" ++
    "  var c = 0;\n" ++
    "  var o = 0;\n" ++
    "  switch (urlParams.get(\x27C\x27)) \x7b\n" ++
    "    case \"N\": c=0; break;\n" ++
    "    case \"M\": c=1; break;\n" ++
    "    case \"S\": c=2; break;\n" ++
    "    case \"T\":\n" ++
    "    case \"D\": c=3; break;\n" ++
    "  \x7d\n" ++
    "  switch (urlParams.get(\x27O\x27)) \x7b\n" ++
    "    case \"A\": o=0; break;\n" ++
    "    case \"D\": o=1; break;\n" ++
    "  \x7d\n" ++
    "  init_sort(c,o);\n" ++
    "\x7d\n" ++
    "init_sort_from_query();\n"

/-- `http_dirlist_append_js_table_resort`. -/
def httpDirlistAppendJsTableResort : Bytes :=
  lit "\n<script type=\"text/javascript\">\n// <!--\n\n" ++ lit jsSimpleTableResort ++
    lit jsSimpleTableInitSort ++ lit "\n// -->\n</script>\n\n"

/-- `http_list_directory_header`: the document head when `auto_layout` is set, the HEADER file,
and the start of the table with a `..` row unless `r->uri.path` is `/`. -/
def httpListDirectoryHeader (env : PageEnv) (r : Request) (conf : PluginConfig)
    (spill : Nat → SpillOutcome) : Bytes :=
  (if conf.autoLayout then
    lit "<!DOCTYPE html>\n<html>\n<head>\n" ++
      (match conf.encoding with
        | some enc => lit "<meta charset=\"" ++ enc ++ lit "\">\n"
        | none => []) ++
      lit "<title>Index of " ++ encode env.minimalXml r.uriPath ++ lit "</title>\n" ++
      (match conf.externalCss with
        | some css =>
          lit "<meta name=\"viewport\" content=\"initial-scale=1\"><link rel=\"stylesheet\" type=\"text/css\" href=\"" ++
            css ++ lit "\">\n"
        | none => lit inlineStyle) ++
      lit "</head>\n<body>\n"
  else []) ++
  (if conf.showHeader.isSome then httpListDirectoryIncludeFile env r conf true spill else []) ++
  lit "<h2>Index of " ++ encode env.minimalXml r.uriPath ++
  lit ("</h2>\n<div class=\"list\">\n" ++
    "<table summary=\"Directory Listing\" cellpadding=\"0\" cellspacing=\"0\">\n" ++
    "<thead><tr><th class=\"n\">Name</th><th class=\"m\">Last Modified</th>" ++
    "<th class=\"s\">Size</th><th class=\"t\">Type</th></tr></thead>\n<tbody>\n") ++
  (if r.uriPath = lit "/" then []
  else lit ("<tr class=\"d\"><td class=\"n\"><a href=\"../\">..</a>/</td>" ++
    "<td class=\"m\" data-value=\"-1\">&nbsp;</td><td class=\"s\" data-value=\"-1\">- &nbsp;</td>" ++
    "<td class=\"t\">Directory</td></tr>\n"))

/-- `http_list_directory_footer`: the end of the table, the README file, and when `auto_layout` is
set the footer line (`dir-listing.set-footer`, else `server.tag`), the script and the end of the
document. -/
def httpListDirectoryFooter (env : PageEnv) (r : Request) (conf : PluginConfig)
    (spill : Nat → SpillOutcome) : Bytes :=
  lit "</tbody>\n</table>\n</div>\n" ++
  (if conf.showReadme.isSome then httpListDirectoryIncludeFile env r conf false spill else []) ++
  (if conf.autoLayout then
    (match conf.setFooter <|> r.serverTag with
      | some footer => lit "<div class=\"foot\">" ++ footer ++ lit "</div>\n"
      | none => []) ++
      (match conf.externalJs with
        | some js => lit "<script type=\"text/javascript\" src=\"" ++ js ++ lit "\"></script>\n"
        | none => httpDirlistAppendJsTableResort) ++
      lit "</body>\n</html>\n"
  else [])

/-- A GET request for the directory `/d/` under the document root `/var/www/`. -/
def dirRequest : Request := ⟨lit "/d/", [], lit "/var/www/d/", none, true, false⟩

/-- Renderers and a file system that copy bytes through. -/
def plainPageEnv : PageEnv where
  relUriPart b := [b]
  minimalXml b := [b]
  bsEscapedJson b := [b]
  mtimeStr _ := []
  contentType _ := none
  pathJoin a b := a ++ b
  openFile _ := none

/-- The file system of `dirRequest` as the stat cache sees it: `/var/www/d/` opens, as a directory
does, with the `st_size` of a directory block and no bytes to read. -/
def dirStatEnv : PageEnv :=
  { plainPageEnv with openFile := fun path ↦ if path = lit "/var/www/d/" then some (4096, []) else none }

/-- `dir-listing.show-readme = "disable"` leaves an empty name, which is not `NULL`:
`http_list_directory_include_file` resolves it to `r->physical.path`, the directory itself, which
opens, and the footer gets an empty README block. -/
theorem httpListDirectoryFooter_disabledReadme :
    setDefaultsShowFile (lit "README.txt") (lit "disable") = some [] ∧
      lit "</tbody>\n</table>\n</div>\n<pre class=\"readme\"></pre>" <+:
        httpListDirectoryFooter dirStatEnv dirRequest
          { PluginConfig.defaults with
            dirListing := true
            showReadme := setDefaultsShowFile (lit "README.txt") (lit "disable") } (fun _ ↦ .ok) := by
  decide

/-! ### The sorted listing -/

/-- The state of a loop of `http_list_directory`: the bytes in `out`, those committed to
`r->write_queue`, and the numbers of rows appended and of spills made. -/
structure SpillState where
  out : Bytes
  queued : Bytes
  rows : Nat
  spills : Nat

/-- A loop of `http_list_directory` over its records: each row is appended to `out`, which is
spilled when `spillDue` holds after the row; a failed spill ends the loop (`break`). `none` when a
row does not return. -/
def spillRows (spillDue : Nat → Bool) (spill : Nat → SpillOutcome) (row : DirlsEntry → Option Bytes) :
    SpillState → List DirlsEntry → Option SpillState
  | s, [] => some s
  | s, ent :: rest => (row ent).bind fun text ↦
    let s := { s with out := s.out ++ text, rows := s.rows + 1 }
    if spillDue s.rows then
      match spill s.spills with
      | .ok =>
        spillRows spillDue spill row { s with out := [], queued := s.queued ++ s.out, spills := s.spills + 1 } rest
      | .fail written => some { s with queued := s.queued ++ s.out.take written, spills := s.spills + 1 }
    else spillRows spillDue spill row s rest

/-- The outcomes `http_list_directory` depends on: whether the room left in `tb` is below 256 after
each row, and the outcome of each spill. -/
structure ListOutcome where
  spillDue : Nat → Bool
  spill : Nat → SpillOutcome

/-- `http_list_directory`: sort both stores, then render the directories and the files. At most 256
records are rendered into one buffer of `r->write_queue`; more go through `tb`, which is spilled as
`spillDue` says, and once more at the end when it is not empty. -/
def httpListDirectory (env : RenderEnv) (o : ListOutcome) (dirs files : Array DirlsEntry) : Option Bytes :=
  let dirs := (if dirs.size ≠ 0 then httpDirlsSort dirs else dirs).toList
  let files := (if files.size ≠ 0 then httpDirlsSort files else files).toList
  let inMemory := dirs.length + files.length ≤ 256
  let spillDue := fun rows ↦ !inMemory && o.spillDue rows
  (spillRows spillDue o.spill (fun ent ↦ some (httpListDirectoryDirname env ent)) ⟨[], [], 0, 0⟩ dirs).bind
    fun s ↦ (spillRows spillDue o.spill (httpListDirectoryFilename env) s files).map fun s ↦
      if inMemory then s.queued ++ s.out
      else s.queued ++ if s.out = [] then [] else (o.spill s.spills).queued s.out

/-- When every spill succeeds, a loop of `http_list_directory` queues the concatenation of its rows,
wherever the spills fall. -/
theorem spillRows_allOk (spillDue : Nat → Bool) (row : DirlsEntry → Option Bytes) (s : SpillState)
    (ents : List DirlsEntry) :
    (spillRows spillDue (fun _ ↦ .ok) row s ents).map (fun s ↦ s.queued ++ s.out) =
      (ents.mapM row).map fun rows ↦ s.queued ++ s.out ++ rows.flatten := by
  induction ents generalizing s with
  | nil => simp only [spillRows, List.mapM_nil]; simp [pure]
  | cons ent rest ih =>
    rcases hrow : row ent with _ | text
    · simp only [spillRows, hrow, List.mapM_cons]; rfl
    · simp only [spillRows, hrow, Option.some_bind, List.mapM_cons]
      split_ifs
      · rw [ih]
        cases rest.mapM row <;> simp [pure]
      · rw [ih]
        cases rest.mapM row <;> simp [pure]

private theorem mapM_some_eq {α β : Type} (f : α → β) (l : List α) :
    l.mapM (fun a ↦ some (f a)) = some (l.map f) := by
  induction l with
  | nil => rfl
  | cons a l ih => simp only [List.mapM_cons, ih]; rfl

/-- When every spill succeeds, `http_list_directory` queues the rows of the sorted directories and
then those of the sorted files, on either path. -/
theorem httpListDirectory_allOk (env : RenderEnv) (spillDue : Nat → Bool) (dirs files : Array DirlsEntry) :
    httpListDirectory env ⟨spillDue, fun _ ↦ .ok⟩ dirs files =
      ((if files.size ≠ 0 then httpDirlsSort files else files).toList.mapM
          (httpListDirectoryFilename env)).map fun rows ↦
        ((if dirs.size ≠ 0 then httpDirlsSort dirs else dirs).toList.map
          (httpListDirectoryDirname env)).flatten ++ rows.flatten := by
  simp only [httpListDirectory]
  generalize (if dirs.size ≠ 0 then httpDirlsSort dirs else dirs).toList = D
  generalize (if files.size ≠ 0 then httpDirlsSort files else files).toList = F
  generalize hdue : (fun rows ↦ !decide (D.length + F.length ≤ 256) && spillDue rows) = due
  have hdirs := spillRows_allOk due (fun ent ↦ some (httpListDirectoryDirname env ent)) ⟨[], [], 0, 0⟩ D
  rw [mapM_some_eq, Option.map_some'] at hdirs
  obtain ⟨s, hs, hsq⟩ := Option.map_eq_some'.mp hdirs
  have hfinal : ∀ s' : SpillState, (if D.length + F.length ≤ 256 then s'.queued ++ s'.out
      else s'.queued ++ if s'.out = [] then [] else SpillOutcome.ok.queued s'.out) = s'.queued ++ s'.out := by
    intro s'
    split_ifs <;> simp_all [SpillOutcome.queued]
  simp only [hs, Option.some_bind, hfinal]
  rw [spillRows_allOk, hsq]
  simp

/-- When every spill succeeds, the read loop of an included file queues the encoding of the
concatenated reads, wherever the reads are cut. -/
theorem includeSpillLoop_allOk (env : RenderEnv) (k : Nat) (chunks : List Bytes) :
    includeSpillLoop env (fun _ ↦ .ok) k chunks = encode env.minimalXml chunks.flatten := by
  induction chunks generalizing k with
  | nil => rfl
  | cons chunk rest ih => simp [includeSpillLoop, ih]

/-- With a read per byte of fuel, the reads of 8192 bytes cover the whole content. -/
theorem preadChunks_flatten {fuel : Nat} {content : Bytes} (hfuel : content.length ≤ fuel) :
    (preadChunks fuel content).flatten = content := by
  induction fuel generalizing content with
  | zero => simpa [preadChunks] using hfuel
  | succ fuel ih =>
    unfold preadChunks
    split_ifs with hempty
    · exact hempty.symm
    · have hlen : 0 < content.length := List.length_pos.mpr hempty
      rw [List.flatten_cons, ih (by simp; omega), List.take_append_drop]

/-- The included file as the spec words it: the whole file, encoded inside a `<pre>` element when
encoding is on, with no reference to where it is buffered. -/
def includeFileSpec (env : PageEnv) (r : Request) (conf : PluginConfig) (isHeader : Bool) : Bytes :=
  match if isHeader then conf.showHeader else conf.showReadme with
  | none => []
  | some path =>
    match env.openFile (if path.head? = some 47 then path else env.pathJoin r.physicalPath path) with
    | none => []
    | some (size, content) =>
      if size = 0 then []
      else if if isHeader then conf.encodeHeader else conf.encodeReadme then
        lit (if isHeader then "<pre class=\"header\">" else "<pre class=\"readme\">") ++
          encode env.minimalXml content ++ lit "</pre>"
      else content

/-- When every spill succeeds, the two paths of `http_list_directory` and of
`http_list_directory_include_file` queue the same bytes: the rows of the sorted directories then
those of the sorted files, whatever `spillDue` says and on either side of 256 records; and the
whole included file, encoded once, on either side of 32768 bytes. -/
theorem spillPaths_agree (env : PageEnv) (r : Request) (conf : PluginConfig) (isHeader : Bool)
    (spillDue : Nat → Bool) (dirs files : Array DirlsEntry) :
    httpListDirectory env.toRenderEnv ⟨spillDue, fun _ ↦ .ok⟩ dirs files =
        ((if files.size ≠ 0 then httpDirlsSort files else files).toList.mapM
            (httpListDirectoryFilename env.toRenderEnv)).map (fun rows ↦
          ((if dirs.size ≠ 0 then httpDirlsSort dirs else dirs).toList.map
            (httpListDirectoryDirname env.toRenderEnv)).flatten ++ rows.flatten) ∧
      httpListDirectoryIncludeFile env r conf isHeader (fun _ ↦ .ok) = includeFileSpec env r conf isHeader := by
  refine ⟨httpListDirectory_allOk _ _ _ _, ?_⟩
  unfold httpListDirectoryIncludeFile includeFileSpec
  dsimp only
  rcases if isHeader then conf.showHeader else conf.showReadme with _ | path
  · rfl
  dsimp only
  rcases env.openFile (if path.head? = some 47 then path else env.pathJoin r.physicalPath path) with
    _ | ⟨size, content⟩
  · rfl
  dsimp only
  split_ifs <;> simp [includeSpillLoop_allOk, preadChunks_flatten]

/-- The outcomes of one `mod_dirlisting_response`: the spills of the HEADER file, of the listing and
of the README file. -/
structure PageOutcome where
  headerSpill : Nat → SpillOutcome
  list : ListOutcome
  readmeSpill : Nat → SpillOutcome

/-- The body `mod_dirlisting_response` appends: header, listing and footer. -/
def modDirlistingResponse (env : PageEnv) (r : Request) (p : HandlerCtx) (o : PageOutcome) :
    Option Bytes :=
  (httpListDirectory env.toRenderEnv o.list p.dirs.ent p.files.ent).map fun rows ↦
    httpListDirectoryHeader env r p.conf o.headerSpill ++ rows ++
      httpListDirectoryFooter env r p.conf o.readmeSpill

end Dirlisting
