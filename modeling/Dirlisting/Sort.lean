import Dirlisting.Basic
import Mathlib.Algebra.Order.BigOperators.Group.Finset
import Mathlib.Data.List.Sort
import Mathlib.Tactic.Linarith

/-!
# The comb sort of `http_dirls_sort`

`http_dirls_sort` sorts the records of a `dirls_list_t` by name with a comb sort: each pass
compares every entry with the one `gap` places after it and exchanges them when `strcmp` of the
names is positive; the gap shrinks by `10/13` per pass (`combGap`, with 9 and 10 replaced by 11
and a floor of 1), and the `do ... while (gap > 1 || swapped)` loop ends after a pass at gap 1
that exchanged nothing.

`combPassFrom` is the inner `for` loop and `combLoopTrace` the outer loop, defined by well-founded
recursion on the pair of the gap and the distance of the `potential` from its bound; it returns the
array (`combLoop`) and the passes it made (`combPasses`), so that the gap schedule
(`gapSchedule_combPasses`) is a fact of the run that sorts. The
potential weights each position by the rank of the name it holds; `potential_lt_swap` shows that
every exchange raises it, so that a pass at gap 1 that exchanged something raises it strictly,
while a pass at a larger gap lowers the gap (`combGap_lt`). This is the termination argument.

`httpDirlsSort_perm` and `httpDirlsSort_sorted` are the correctness of the sort: the result is a
permutation of the input, ordered by `NameLe`. With pairwise distinct names the result is the
unique strictly increasing arrangement (`httpDirlsSort_eq_of_perm`), which the sorted listing of
`Dirlisting.SortedListing` relies on.
-/

set_option autoImplicit false
set_option relaxedAutoImplicit false

namespace Dirlisting

open Finset

/-! ### The gap sequence -/

/-- The gap update at the head of each pass of `http_dirls_sort`: `gap * 10 / 13`, then 9 and 10
replaced by 11, then a floor of 1. -/
def combGap (gap : Nat) : Nat :=
  let gap := gap * 10 / 13
  let gap := if gap = 9 ∨ gap = 10 then 11 else gap
  if gap < 1 then 1 else gap

theorem one_le_combGap (gap : Nat) : 1 ≤ combGap gap := by
  simp only [combGap]
  split_ifs <;> omega

/-- Assumes: a gap above 1. The next gap is strictly smaller. -/
theorem combGap_lt {gap : Nat} (hgap : 1 < gap) : combGap gap < gap := by
  simp only [combGap]
  split_ifs <;> omega

/-- Assumes: a gap of at most 1. The next gap is 1. -/
theorem combGap_of_le_one {gap : Nat} (hgap : gap ≤ 1) : combGap gap = 1 := by
  simp only [combGap]
  split_ifs <;> omega

/-! ### One pass -/

/-- The inner loop `for (i = ...; i < num - gap; i++)` of `http_dirls_sort`, entered at index `i`
with `rest` iterations to go: the entry at `i` is exchanged with the one at `i + gap` when its name
sorts after that one, and the flag records that a swap happened. -/
def combPassFrom (gap : Nat) : Nat → Nat → Array DirlsEntry → Bool → Array DirlsEntry × Bool
  | 0, _, ent, swapped => (ent, swapped)
  | rest + 1, i, ent, swapped =>
    if h : i + gap < ent.size then
      if strcmp ent[i].name ent[i + gap].name = .gt then
        combPassFrom gap rest (i + 1) (ent.swap ⟨i, by omega⟩ ⟨i + gap, h⟩) true
      else combPassFrom gap rest (i + 1) ent swapped
    else (ent, swapped)

/-- One pass at gap `gap`: `i` runs from `0` while `i < num - gap`, with `swapped = 0`. -/
def combPass (gap : Nat) (ent : Array DirlsEntry) : Array DirlsEntry × Bool :=
  combPassFrom gap (ent.size - gap) 0 ent false

theorem toList_swap_perm (ent : Array DirlsEntry) (i j : Fin ent.size) :
    (ent.swap i j).toList.Perm ent.toList := by
  rw [Array.toList_swap, List.perm_iff_count]
  intro x
  have hi : i.val < ent.toList.length := by simp
  have hj : j.val < ent.toList.length := by simp
  have hmem : ent.toList[i.val] ∈ ent.toList := List.getElem_mem hi
  have hcount : (if ent.toList[i.val] == x then 1 else 0) ≤ ent.toList.count x := by
    split_ifs with hx
    · exact List.count_pos_iff.mpr (beq_iff_eq.mp hx ▸ hmem)
    · exact Nat.zero_le _
  have hj' : j.val < (ent.toList.set i (ent.get j)).length := by simp
  have hset : (ent.toList.set i (ent.get j))[j.val] = ent.get j := by
    rw [List.getElem_set]
    split_ifs with hij
    · rfl
    · simp
  rw [List.count_set _ _ _ _ (by simp), hset, List.count_set _ _ _ _ hi]
  simp only [Array.get_eq_getElem, Array.getElem_eq_getElem_toList] at hcount ⊢
  omega

theorem combPassFrom_size (gap rest i : Nat) (ent : Array DirlsEntry) (swapped : Bool) :
    (combPassFrom gap rest i ent swapped).1.size = ent.size := by
  induction rest generalizing i ent swapped with
  | zero => rfl
  | succ rest ih =>
    simp only [combPassFrom]
    split_ifs <;> simp [ih]

theorem combPassFrom_perm (gap rest i : Nat) (ent : Array DirlsEntry) (swapped : Bool) :
    (combPassFrom gap rest i ent swapped).1.toList.Perm ent.toList := by
  induction rest generalizing i ent swapped with
  | zero => exact List.Perm.refl _
  | succ rest ih =>
    simp only [combPassFrom]
    split_ifs
    · exact (ih _ _ _).trans (toList_swap_perm _ _ _)
    · exact ih _ _ _
    · exact List.Perm.refl _

/-- Once a swap is recorded the flag stays set. -/
theorem combPassFrom_flag_true (gap rest i : Nat) (ent : Array DirlsEntry) :
    (combPassFrom gap rest i ent true).2 = true := by
  induction rest generalizing i ent with
  | zero => rfl
  | succ rest ih =>
    simp only [combPassFrom]
    split_ifs <;> simp [ih]

/-- Assumes: a pass that reports no swap. It left the entries as they were, and every pair it
compared was in order. -/
theorem combPassFrom_of_not_swapped {gap rest i : Nat} {ent : Array DirlsEntry} {swapped : Bool}
    (hflag : (combPassFrom gap rest i ent swapped).2 = false) :
    (combPassFrom gap rest i ent swapped).1 = ent ∧
      ∀ k, i ≤ k → k < i + rest → ∀ hk : k + gap < ent.size,
        strcmp ent[k].name ent[k + gap].name ≠ .gt := by
  induction rest generalizing i ent swapped with
  | zero => exact ⟨rfl, fun k hik hk ↦ by omega⟩
  | succ rest ih =>
    simp only [combPassFrom] at hflag ⊢
    split_ifs at hflag ⊢ with hbound hgt
    · exact absurd hflag (by simp [combPassFrom_flag_true])
    · obtain ⟨heq, hord⟩ := ih hflag
      refine ⟨heq, fun k hik hk hkb ↦ ?_⟩
      rcases Nat.eq_or_lt_of_le hik with rfl | hlt
      · exact hgt
      · exact hord k hlt (by omega) hkb
    · exact ⟨rfl, fun k hik _ hkb ↦ by omega⟩

/-! ### The potential -/

/-- The rank of a name among the entries: how many of them hold a name that sorts strictly before
it. It depends only on the entries, not on their arrangement. -/
def nameRank (ent : Array DirlsEntry) (name : Name) : Nat :=
  ent.toList.countP fun other ↦ strcmp other.name name = .lt

/-- The potential of an arrangement: the sum over positions of the position times the rank of the
name held there. -/
def potential (ent : Array DirlsEntry) : Nat :=
  ∑ p ∈ range ent.size, p * nameRank ent (ent[p]?.getD default).name

theorem nameRank_swap (ent : Array DirlsEntry) (i j : Fin ent.size) :
    nameRank (ent.swap i j) = nameRank ent :=
  funext fun _ ↦ (toList_swap_perm ent i j).countP_eq _

private theorem countP_lt_countP {α : Type} {p q : α → Bool} {l : List α}
    (himp : ∀ x ∈ l, p x → q x) {y : α} (hy : y ∈ l) (hqy : q y) (hpy : ¬p y) :
    l.countP p < l.countP q := by
  induction l with
  | nil => simp at hy
  | cons x xs ih =>
    have himp' : ∀ z ∈ xs, p z → q z := fun z hz ↦ himp z (List.mem_cons_of_mem x hz)
    have hle := List.countP_mono_left himp'
    simp only [List.countP_cons]
    rcases List.mem_cons.1 hy with rfl | hy
    · simp [hqy, hpy]
      omega
    · have hlt := ih himp' hy
      by_cases hpx : p x
      · simp [hpx, himp x (List.mem_cons_self x xs) hpx]
        omega
      · by_cases hqx : q x <;> simp [hpx, hqx] <;> omega

/-- Assumes: the name at `j` sorts before the one at `i`. It has a strictly smaller rank. -/
theorem nameRank_lt {ent : Array DirlsEntry} {i j : Nat} (hi : i < ent.size) (hj : j < ent.size)
    (hlt : strcmp ent[j].name ent[i].name = .lt) :
    nameRank ent ent[j].name < nameRank ent ent[i].name := by
  refine countP_lt_countP (fun x _ hx ↦ ?_) (ent.getElem_mem_toList hj) (by simpa using hlt)
    (by simp)
  simp only [decide_eq_true_eq] at hx ⊢
  exact strcmp_lt_trans hx hlt

private theorem sum_split_two {f : Nat → Nat} {s : Finset Nat} {i j : Nat} (hi : i ∈ s)
    (hj : j ∈ s) (hij : i ≠ j) :
    ∑ p ∈ s, f p = f i + f j + ∑ p ∈ (s.erase i).erase j, f p := by
  rw [← add_sum_erase s f hi, ← add_sum_erase (s.erase i) f (mem_erase.mpr ⟨hij.symm, hj⟩),
    add_assoc]

/-- Moving the larger of two ranks to the larger of two positions raises their weighted sum. -/
private theorem swap_gain {i j a b : Nat} (hij : i < j) (hab : b < a) : i * a + j * b < i * b + j * a := by
  nlinarith

/-- Assumes: `i < j` and the name at `i` sorts after the one at `j`. Exchanging them raises the
potential: the larger rank moves to the larger position. -/
theorem potential_lt_swap (ent : Array DirlsEntry) {i j : Nat} (hij : i < j) (hj : j < ent.size)
    (hgt : strcmp ent[i].name ent[j].name = .gt) :
    potential ent < potential (ent.swap ⟨i, by omega⟩ ⟨j, hj⟩) := by
  have hi : i < ent.size := by omega
  let name : Nat → Name := fun p ↦ (ent[p]?.getD default).name
  let rank := nameRank ent
  have hname {p : Nat} (hp : p < ent.size) : name p = ent[p].name := by
    simp [name, Array.getElem?_eq_getElem hp]
  have hat (p : Nat) : ((ent.swap ⟨i, hi⟩ ⟨j, hj⟩)[p]?.getD default).name =
      name (Equiv.swap i j p) := by
    rw [Array.getElem?_swap]
    rcases eq_or_ne p i with rfl | hpi
    · simp [hij.ne', Equiv.swap_apply_left, hname hj]
    rcases eq_or_ne p j with rfl | hpj
    · simp [Equiv.swap_apply_right, hname hi]
    simp [name, hpi, hpj, Ne.symm hpi, Ne.symm hpj, Equiv.swap_apply_of_ne_of_ne hpi hpj]
  have hrelabel : ∑ p ∈ range ent.size, p * rank (name (Equiv.swap i j p)) =
      ∑ p ∈ range ent.size, Equiv.swap i j p * rank (name p) := by
    have hsupp : {a | Equiv.swap i j a ≠ a} ⊆ ↑(range ent.size) := by
      intro a ha
      have : a = i ∨ a = j := by
        by_contra hne
        push_neg at hne
        exact ha (Equiv.swap_apply_of_ne_of_ne hne.1 hne.2)
      simp only [coe_range, Set.mem_Iio]
      omega
    simpa using (Equiv.swap i j).sum_comp (range ent.size)
      (fun q ↦ Equiv.swap i j q * rank (name q)) hsupp
  have hrank : rank (name j) < rank (name i) := by
    simpa only [hname hi, hname hj] using nameRank_lt hi hj (strcmp_eq_gt_iff.mp hgt)
  have hirange : i ∈ range ent.size := mem_range.mpr hi
  have hjrange : j ∈ range ent.size := mem_range.mpr hj
  unfold potential
  rw [Array.size_swap, nameRank_swap]
  simp only [hat]
  rw [hrelabel, sum_split_two hirange hjrange hij.ne, sum_split_two hirange hjrange hij.ne,
    Equiv.swap_apply_left, Equiv.swap_apply_right]
  have hrest : ∑ p ∈ ((range ent.size).erase i).erase j, Equiv.swap i j p * rank (name p) =
      ∑ p ∈ ((range ent.size).erase i).erase j, p * rank (name p) := by
    refine sum_congr rfl fun p hp ↦ ?_
    obtain ⟨hpj, hp⟩ := mem_erase.mp hp
    rw [Equiv.swap_apply_of_ne_of_ne (mem_erase.mp hp).1 hpj]
  rw [hrest]
  have := swap_gain hij hrank
  change i * rank (name i) + j * rank (name j) +
    ∑ p ∈ ((range ent.size).erase i).erase j, p * rank (name p) < _
  omega

/-- The potential is at most the cube of the number of entries. -/
theorem potential_le (ent : Array DirlsEntry) : potential ent ≤ ent.size ^ 3 := by
  have hbound : ∀ p ∈ range ent.size,
      p * nameRank ent (ent[p]?.getD default).name ≤ ent.size * ent.size := by
    intro p hp
    have hrank : nameRank ent (ent[p]?.getD default).name ≤ ent.size :=
      (List.countP_le_length _).trans (by simp)
    exact Nat.mul_le_mul (mem_range.mp hp).le hrank
  calc potential ent ≤ (range ent.size).card • (ent.size * ent.size) :=
        sum_le_card_nsmul _ _ _ hbound
    _ = ent.size ^ 3 := by simp [pow_succ, mul_assoc]

/-- A pass never lowers the potential, and raises it strictly when it exchanged something. -/
theorem potential_combPassFrom (gap rest i : Nat) (ent : Array DirlsEntry) (swapped : Bool) :
    potential ent ≤ potential (combPassFrom gap rest i ent swapped).1 ∧
      ((combPassFrom gap rest i ent swapped).2 = true →
        swapped = true ∨ potential ent < potential (combPassFrom gap rest i ent swapped).1) := by
  induction rest generalizing i ent swapped with
  | zero => exact ⟨le_rfl, Or.inl⟩
  | succ rest ih =>
    simp only [combPassFrom]
    split_ifs with hbound hgt
    · have hgap : 0 < gap := by
        rcases Nat.eq_zero_or_pos gap with rfl | hgap
        · simp at hgt
        · exact hgap
      have hlt := potential_lt_swap ent (Nat.lt_add_of_pos_right hgap) hbound hgt
      have hle := (ih (i + 1) (ent.swap ⟨i, by omega⟩ ⟨i + gap, hbound⟩) true).1
      exact ⟨(hlt.trans_le hle).le, fun _ ↦ Or.inr (hlt.trans_le hle)⟩
    · exact ih (i + 1) ent swapped
    · exact ⟨le_rfl, Or.inl⟩

/-! ### The outer loop -/

theorem combPass_size (gap : Nat) (ent : Array DirlsEntry) :
    (combPass gap ent).1.size = ent.size :=
  combPassFrom_size ..

/-- A pass at gap `gap` that reports a swap raised the potential strictly. -/
theorem potential_lt_combPass {gap : Nat} {ent : Array DirlsEntry}
    (hswap : (combPass gap ent).2 = true) : potential ent < potential (combPass gap ent).1 := by
  rcases (potential_combPassFrom gap _ 0 ent false).2 hswap with h | h
  · exact absurd h Bool.false_ne_true
  · exact h

/-- The termination measure of the outer loop: a pass after which the loop goes on lowers the gap,
or leaves it at 1 and raises the potential. -/
theorem combLoop_decreasing {gap : Nat} {ent : Array DirlsEntry}
    (hcontinue : 1 < combGap gap ∨ (combPass (combGap gap) ent).2 = true) :
    Prod.Lex (· < ·) (· < ·)
      (max (combGap gap) 1, (combPass (combGap gap) ent).1.size ^ 3 - potential (combPass (combGap gap) ent).1)
      (max gap 1, ent.size ^ 3 - potential ent) := by
  rcases Nat.lt_or_ge 1 gap with hgap | hgap
  · apply Prod.Lex.left
    have := combGap_lt hgap
    have := one_le_combGap gap
    omega
  · have hnext := combGap_of_le_one hgap
    have hmax : max (combGap gap) 1 = max gap 1 := by omega
    rw [hmax]
    apply Prod.Lex.right
    have hswap : (combPass (combGap gap) ent).2 = true := hcontinue.resolve_left (by omega)
    have hlt := potential_lt_combPass hswap
    have hle := potential_le (combPass (combGap gap) ent).1
    rw [combPass_size] at hle ⊢
    omega

/-- The `do { ... } while (gap > 1 || swapped)` loop of `http_dirls_sort`, entered with the gap of
the previous pass (`num` before the first one): the array it leaves, and the passes it makes in
order, each with its gap and whether it exchanged something. -/
def combLoopTrace (gap : Nat) (ent : Array DirlsEntry) : Array DirlsEntry × List (Nat × Bool) :=
  let next := combGap gap
  let pass := combPass next ent
  if 1 < next ∨ pass.2 = true then
    let rest := combLoopTrace next pass.1
    (rest.1, (next, pass.2) :: rest.2)
  else (pass.1, [(next, pass.2)])
termination_by (max gap 1, ent.size ^ 3 - potential ent)
decreasing_by exact combLoop_decreasing ‹_›

/-- The array the loop leaves. -/
def combLoop (gap : Nat) (ent : Array DirlsEntry) : Array DirlsEntry := (combLoopTrace gap ent).1

/-- The passes of the loop. -/
def combPasses (gap : Nat) (ent : Array DirlsEntry) : List (Nat × Bool) := (combLoopTrace gap ent).2

theorem combLoop_eq (gap : Nat) (ent : Array DirlsEntry) :
    combLoop gap ent = if 1 < combGap gap ∨ (combPass (combGap gap) ent).2 = true then
      combLoop (combGap gap) (combPass (combGap gap) ent).1 else (combPass (combGap gap) ent).1 := by
  rw [combLoop, combLoopTrace]
  split_ifs <;> rfl

theorem combPasses_eq (gap : Nat) (ent : Array DirlsEntry) :
    combPasses gap ent = if 1 < combGap gap ∨ (combPass (combGap gap) ent).2 = true then
      (combGap gap, (combPass (combGap gap) ent).2) :: combPasses (combGap gap) (combPass (combGap gap) ent).1
      else [(combGap gap, (combPass (combGap gap) ent).2)] := by
  rw [combPasses, combLoopTrace]
  split_ifs <;> rfl

/-- `http_dirls_sort (ent, num)` with `num` the number of entries. -/
def httpDirlsSort (ent : Array DirlsEntry) : Array DirlsEntry :=
  combLoop ent.size ent

/-! ### Correctness -/

/-- The order `http_dirls_sort` establishes: `strcmp` of the two names is not positive. -/
def NameLe (a b : DirlsEntry) : Prop := strcmp a.name b.name ≠ .gt

/-- Strictly increasing names. -/
def NameLt (a b : DirlsEntry) : Prop := strcmp a.name b.name = .lt

instance : IsTrans DirlsEntry NameLe where
  trans a b c hab hbc := by
    unfold NameLe at *
    cases hab' : strcmp a.name b.name
    · cases hbc' : strcmp b.name c.name
      · simp [strcmp_lt_trans hab' hbc']
      · rwa [strcmp_eq_iff.mp hbc'] at hab
      · exact absurd hbc' hbc
    · rwa [strcmp_eq_iff.mp hab']
    · exact absurd hab' hab

instance : IsAntisymm DirlsEntry NameLt where
  antisymm a b hab hba := by
    unfold NameLt at *
    rw [strcmp_swap] at hba
    simp [hab, Ordering.swap] at hba

theorem combLoop_perm (gap : Nat) (ent : Array DirlsEntry) :
    (combLoop gap ent).toList.Perm ent.toList := by
  induction gap, ent using combLoopTrace.induct with
  | case1 gap ent next pass hcontinue ih =>
    rw [combLoop_eq, if_pos hcontinue]
    exact ih.trans (combPassFrom_perm ..)
  | case2 gap ent next pass hstop =>
    rw [combLoop_eq, if_neg hstop]
    exact combPassFrom_perm ..

theorem sorted_of_adjacent {ent : Array DirlsEntry}
    (hadj : ∀ k (hk : k + 1 < ent.size), NameLe ent[k] ent[k + 1]) :
    ent.toList.Sorted NameLe := by
  refine List.chain'_iff_pairwise.mp (List.chain'_iff_get.mpr fun k hk ↦ ?_)
  simpa using hadj k (by simp at hk; omega)

theorem combLoop_sorted (gap : Nat) (ent : Array DirlsEntry) :
    (combLoop gap ent).toList.Sorted NameLe := by
  induction gap, ent using combLoopTrace.induct with
  | case1 gap ent next pass hcontinue ih =>
    rw [combLoop_eq, if_pos hcontinue]
    exact ih
  | case2 gap ent next pass hstop =>
    rw [combLoop_eq, if_neg hstop]
    have hgap : combGap gap = 1 := by
      have := one_le_combGap gap
      omega
    have hflag : (combPass (combGap gap) ent).2 = false := by simpa using (not_or.mp hstop).2
    obtain ⟨hsame, hord⟩ := combPassFrom_of_not_swapped hflag
    rw [combPass, hsame]
    refine sorted_of_adjacent fun k hk ↦ ?_
    have := hord k (Nat.zero_le k) (by omega) (by omega)
    simpa [NameLe, hgap] using this

/-- `http_dirls_sort` leaves a permutation of its input. -/
theorem httpDirlsSort_perm (ent : Array DirlsEntry) :
    (httpDirlsSort ent).toList.Perm ent.toList :=
  combLoop_perm ..

/-- `http_dirls_sort` leaves the names in non-decreasing `strcmp` order. -/
theorem httpDirlsSort_sorted (ent : Array DirlsEntry) :
    (httpDirlsSort ent).toList.Sorted NameLe :=
  combLoop_sorted ..

/-- Assumes: pairwise distinct names. The sort leaves them strictly increasing. -/
theorem httpDirlsSort_strictly_sorted {ent : Array DirlsEntry}
    (hdistinct : (ent.toList.map DirlsEntry.name).Nodup) :
    (httpDirlsSort ent).toList.Sorted NameLt := by
  have hnodup : ((httpDirlsSort ent).toList.map DirlsEntry.name).Nodup :=
    ((httpDirlsSort_perm ent).map _).nodup_iff.mpr hdistinct
  rw [List.Nodup, List.pairwise_map] at hnodup
  refine (httpDirlsSort_sorted ent).imp₂ (fun a b hle hne ↦ ?_) hnodup
  unfold NameLe at hle
  unfold NameLt
  cases hcmp : strcmp a.name b.name
  · rfl
  · exact absurd (strcmp_eq_iff.mp hcmp) hne
  · exact absurd hcmp hle

/-- Assumes: two arrays that are permutations of one another, with pairwise distinct names. The
sort gives the same arrangement of both. -/
theorem httpDirlsSort_eq_of_perm {ent other : Array DirlsEntry} (hperm : ent.toList.Perm other.toList)
    (hdistinct : (ent.toList.map DirlsEntry.name).Nodup) :
    (httpDirlsSort ent).toList = (httpDirlsSort other).toList := by
  have hdistinct' : (other.toList.map DirlsEntry.name).Nodup := (hperm.map _).nodup_iff.mp hdistinct
  exact List.eq_of_perm_of_sorted
    ((httpDirlsSort_perm ent).trans (hperm.trans (httpDirlsSort_perm other).symm))
    (httpDirlsSort_strictly_sorted hdistinct) (httpDirlsSort_strictly_sorted hdistinct')

/-! ### The passes -/

/-- The passes of a comb sort from the gap `gap`: each gap is `combGap` of the one before, so the
gaps shrink strictly until they reach 1 and then stay there; every pass but the last is followed by
another because its gap is above 1 or it exchanged something, and the last is at gap 1 and exchanged
nothing. -/
structure GapSchedule (gap : Nat) (passes : List (Nat × Bool)) : Prop where
  first : passes.head?.map (·.1) = some (combGap gap)
  next : (passes.map (·.1)).Chain' fun a b ↦ b = combGap a
  shrink : (passes.map (·.1)).Chain' fun a b ↦ b < a ∨ a = 1 ∧ b = 1
  continued : ∀ p ∈ passes.dropLast, 1 < p.1 ∨ p.2 = true
  last : passes.getLast? = some (1, false)

theorem combGap_shrink (gap : Nat) :
    combGap gap < gap ∨ gap = 1 ∧ combGap gap = 1 ∨ gap = 0 ∧ combGap gap = 1 := by
  rcases Nat.lt_or_ge 1 gap with hgap | hgap
  · exact .inl (combGap_lt hgap)
  · rcases Nat.eq_zero_or_pos gap with rfl | hpos
    · exact .inr (.inr ⟨rfl, rfl⟩)
    · exact .inr (.inl ⟨by omega, combGap_of_le_one hgap⟩)

theorem gapSchedule_combPasses (gap : Nat) (ent : Array DirlsEntry) :
    GapSchedule gap (combPasses gap ent) := by
  induction gap, ent using combLoopTrace.induct with
  | case1 gap ent next pass hcontinue ih =>
    rw [combPasses_eq, if_pos hcontinue]
    obtain ⟨hfirst, hnext, hshrink, hcont, hlast⟩ := ih
    obtain ⟨q, rest, hpasses⟩ : ∃ q rest, combPasses (combGap gap) (combPass (combGap gap) ent).1 = q :: rest := by
      cases h : combPasses (combGap gap) (combPass (combGap gap) ent).1 with
      | nil => simp [h] at hlast
      | cons q rest => exact ⟨q, rest, rfl⟩
    rw [hpasses] at hfirst hnext hshrink hcont hlast ⊢
    have hq : q.1 = combGap (combGap gap) := by simpa using hfirst
    have hpos := one_le_combGap gap
    refine ⟨rfl, ?_, ?_, ?_, by simpa using hlast⟩
    · simp only [List.map_cons, List.chain'_cons] at hnext ⊢
      exact ⟨hq, hnext⟩
    · simp only [List.map_cons, List.chain'_cons] at hshrink ⊢
      refine ⟨?_, hshrink⟩
      rw [hq]
      rcases combGap_shrink (combGap gap) with h | h | h
      · exact .inl h
      · exact .inr h
      · omega
    · intro p hp
      rw [List.dropLast_cons₂] at hp
      rcases List.mem_cons.mp hp with rfl | hp
      · exact hcontinue
      · exact hcont p hp
  | case2 gap ent next pass hstop =>
    rw [combPasses_eq, if_neg hstop]
    have hpos := one_le_combGap gap
    obtain ⟨hgap, hflag⟩ := not_or.mp hstop
    refine ⟨rfl, List.chain'_singleton _, List.chain'_singleton _, by simp, ?_⟩
    simp only [List.getLast?_singleton, Option.some.injEq, Prod.mk.injEq]
    exact ⟨by omega, by simpa using hflag⟩

/-- Every gap of the loop is at most the larger of `num` and 1. -/
theorem combPasses_le (gap : Nat) (ent : Array DirlsEntry) : ∀ p ∈ combPasses gap ent, p.1 ≤ max gap 1 := by
  induction gap, ent using combLoopTrace.induct with
  | case1 gap ent next pass hcontinue ih =>
    rw [combPasses_eq, if_pos hcontinue]
    have hle : combGap gap ≤ max gap 1 := by rcases combGap_shrink gap with h | h | h <;> omega
    intro p hp
    rcases List.mem_cons.mp hp with rfl | hp
    · exact hle
    · exact (ih p hp).trans (by omega)
  | case2 gap ent next pass hstop =>
    rw [combPasses_eq, if_neg hstop]
    intro p hp
    rw [List.mem_singleton.mp hp]
    have := (not_or.mp hstop).1
    omega

/-! ### The `int` arithmetic -/

/-- `INT_MAX` of the `int` that `http_dirls_sort` computes in. -/
def intMax : Int := 2 ^ 31 - 1

/-- The `int num` that `http_list_directory` passes for `dirs->used`, a `uint32_t`: the conversion
keeps the low 32 bits and reads them as a signed value. -/
def httpDirlsSortNum (used : Nat) : Int :=
  let low : Int := (used % 2 ^ 32 : Nat)
  if low ≤ intMax then low else low - 2 ^ 32

/-- The gap update `gap = (gap * 10) / 13` of `http_dirls_sort` in `int`, then 9 and 10 replaced by
11 and a floor of 1; `none` when `gap * 10` overflows, which is undefined. -/
def combGapInt (gap : Int) : Option Int :=
  if gap * 10 < -intMax - 1 ∨ intMax < gap * 10 then none
  else
    let gap := (gap * 10).tdiv 13
    let gap := if gap = 9 ∨ gap = 10 then 11 else gap
    some (if gap < 1 then 1 else gap)

/-- Assumes: `gap * 10` fits in an `int`. The `int` update is `combGap`. -/
theorem combGapInt_eq {gap : Nat} (hgap : 10 * (gap : Int) ≤ intMax) :
    combGapInt gap = some ((combGap gap : Nat) : Int) := by
  have htdiv : ((gap : Int) * 10).tdiv 13 = ((gap * 10 / 13 : Nat) : Int) := by
    rw [Int.tdiv_eq_ediv (by omega) (by omega)]
    omega
  simp only [combGapInt, intMax] at hgap ⊢
  rw [if_neg (by omega), htdiv, combGap, Option.some.injEq]
  generalize gap * 10 / 13 = next
  by_cases h : next = 9 ∨ next = 10
  · have h' : (next : Int) = 9 ∨ (next : Int) = 10 := by omega
    simp only [h, h', if_true]
    rfl
  · have h' : ¬((next : Int) = 9 ∨ (next : Int) = 10) := by omega
    simp only [h, h', if_false]
    split_ifs <;> omega

/-- `http_dirls_sort` on `num` records with `10 * num ≤ INT_MAX`: the loop ends, leaving a
permutation of the records in non-decreasing `strcmp` order of names; its passes follow
`GapSchedule`, and the `int` computation of each gap, from `num` on, is `combGap`. -/
theorem httpDirlsSort_combSort (ent : Array DirlsEntry) (hnum : 10 * (ent.size : Int) ≤ intMax) :
    (httpDirlsSort ent).toList.Perm ent.toList ∧ (httpDirlsSort ent).toList.Sorted NameLe ∧
      GapSchedule ent.size (combPasses ent.size ent) ∧
      ∀ gap ∈ ent.size :: (combPasses ent.size ent).map (·.1), combGapInt gap = some ((combGap gap : Nat) : Int) := by
  refine ⟨httpDirlsSort_perm ent, httpDirlsSort_sorted ent, gapSchedule_combPasses _ _, ?_⟩
  intro gap hgap
  have hle : gap ≤ max ent.size 1 := by
    rcases List.mem_cons.mp hgap with rfl | hgap
    · omega
    · obtain ⟨p, hp, rfl⟩ := List.mem_map.mp hgap
      exact combPasses_le _ _ p hp
  exact combGapInt_eq (by simp only [intMax] at hnum ⊢; omega)

/-- Four records in reverse order of names. -/
def reversedEntries : Array DirlsEntry :=
  #[⟨lit "d", 0, 0⟩, ⟨lit "c", 0, 0⟩, ⟨lit "b", 0, 0⟩, ⟨lit "a", 0, 0⟩]

/-- On `reversedEntries` the first gap is 3 and the pass at it exchanges `d` and `a`. -/
theorem httpDirlsSort_combSort_reversed :
    combGap reversedEntries.size = 3 ∧ (combPass 3 reversedEntries).2 = true ∧
      10 * (reversedEntries.size : Int) ≤ intMax ∧
      ((httpDirlsSort reversedEntries).toList.Perm reversedEntries.toList ∧
        (httpDirlsSort reversedEntries).toList.Sorted NameLe ∧
        GapSchedule reversedEntries.size (combPasses reversedEntries.size reversedEntries) ∧
        ∀ gap ∈ reversedEntries.size :: (combPasses reversedEntries.size reversedEntries).map (·.1),
          combGapInt gap = some ((combGap gap : Nat) : Int)) :=
  ⟨by decide, by decide, by decide, httpDirlsSort_combSort reversedEntries (by decide)⟩

/-- A store of 214748365 records, which a `uint32_t` holds, is passed as a non-negative `num`, but
its first gap update computes `num * 10 = 2147483650`, above `INT_MAX`; and from `2^31` records on,
`num` itself is negative. -/
theorem httpDirlsSort_intOverflow :
    httpDirlsSortNum 214748365 = 214748365 ∧ combGapInt (httpDirlsSortNum 214748365) = none ∧
      httpDirlsSortNum (2 ^ 31) < 0 := by
  decide

end Dirlisting
