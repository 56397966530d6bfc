import Dirlisting.Render
import Mathlib.Data.Nat.Digits

/-!
# The accuracy of the size column

`http_list_directory_sizefmt` shows a file size in the 7-byte buffer of
`http_list_directory_filename` as `N.DX`: at most three digits, one tenth and a unit letter of
`"KMGTPE"`. Its own comment calls the conversion simple but not perfect; this module says how far
from perfect. For every size in `[0, 2^63 - 1]` the shift loop ends, the unit `k` is the least with
`s < 1000 * 1024 ^ k`, and the value shown is within one shown tenth of the size:
`|(N + D / 10) * 1024 ^ k - s| < 1024 ^ k / 10`, written over the integers as
`|(10 * N + D) * 1024 ^ k - 10 * s| < 1024 ^ k`.

Three things make this less than plain rounding down. Sizes under 100 bytes are raised by 99
before the loop, so that they show as `0.1K`; the tenth is `remain / 100`, a hundredth of the
remainder in units of `1024 ^ (k - 1)`, capped at 9; and a quotient of 1000 to 1023 units is
shown as `0.9` of the next unit. `SizeDisplay` states the bound, and `SizeDisplay.small`,
`SizeDisplay.ofUnit` and `SizeDisplay.ofCarry` prove it for each of the three shapes of output.
-/

set_option autoImplicit false
set_option relaxedAutoImplicit false

namespace Dirlisting

/-! ### The shift loop on a size that is not negative -/

/-- `size & 1023` on a size that is not negative is its remainder modulo 1024. -/
theorem land_natCast_1023 (n : Nat) : Int.land (n : Int) 1023 = ((n % 1024 : Nat) : Int) := by
  show ((n &&& (2 ^ 10 - 1) : Nat) : Int) = _
  rw [Nat.and_pow_two_sub_one_eq_mod]

/-- `size >> 10` on a size that is not negative is its quotient by 1024. -/
theorem shiftRight_natCast_10 (n : Nat) :
    Int.shiftRight (n : Int) 10 = ((n / 1024 : Nat) : Int) := by
  show ((n >>> 10 : Nat) : Int) = _
  rw [Nat.shiftRight_eq_div_pow]

/-- Clearing the low ten bits of `n` is shifting them out and back in. -/
theorem ldiff_1023 (n : Nat) : Nat.ldiff n 1023 = n >>> 10 <<< 10 := by
  apply Nat.eq_of_testBit_eq
  intro i
  rw [Nat.testBit_ldiff, show (1023 : Nat) = 2 ^ 10 - 1 from rfl, Nat.testBit_two_pow_sub_one,
    Nat.testBit_shiftLeft, Nat.testBit_shiftRight]
  by_cases hi : i < 10
  · simp [hi]
  · simp [hi, show 10 + (i - 10) = i by omega, Nat.le_of_not_lt hi]

/-- The loop condition `size & ~1023` holds exactly on the sizes of 1024 and more. -/
theorem land_not_natCast_1023 (n : Nat) : Int.land (n : Int) (Int.not 1023) ≠ 0 ↔ 1024 ≤ n := by
  show ((Nat.ldiff n 1023 : Nat) : Int) ≠ 0 ↔ _
  rw [ldiff_1023, Nat.shiftLeft_eq, Nat.shiftRight_eq_div_pow]
  omega

/-- The shift loop from a size `n` that is not negative stops after `j + 1` rounds with `remain` the
digit `j` of `n` in base 1024 and `size` the quotient by `1024 ^ (j + 1)`, below 1024; `j` is the
first round after which the quotient is below 1024. -/
theorem sizefmtShift_natCast (fuel : Nat) : ∀ (n u : Nat), n < fuel → ∃ j,
    sizefmtShift fuel n u =
        some (((n / 1024 ^ j % 1024 : Nat) : Int), ((n / 1024 ^ (j + 1) : Nat) : Int), u + j) ∧
      n / 1024 ^ (j + 1) < 1024 ∧ (j = 0 ∨ 1024 ^ (j + 1) ≤ n) := by
  induction fuel with
  | zero => intro n u h; omega
  | succ fuel ih =>
    intro n u hn
    simp only [sizefmtShift, land_natCast_1023, shiftRight_natCast_10]
    by_cases hmore : 1024 ≤ n / 1024
    · rw [if_pos ((land_not_natCast_1023 _).mpr hmore)]
      obtain ⟨j, hrun, hlt, hmin⟩ := ih (n / 1024) (u + 1) (by omega)
      have hdiv : ∀ i, n / 1024 ^ (i + 1) = n / 1024 / 1024 ^ i := fun i ↦ by
        rw [Nat.div_div_eq_div_mul, pow_succ']
      refine ⟨j + 1, ?_, by rwa [hdiv], Or.inr ?_⟩
      · rw [hrun, hdiv, hdiv, Nat.add_assoc, Nat.add_comm 1 j]
      · rw [pow_succ, ← Nat.le_div_iff_mul_le (by norm_num)]
        rcases hmin with rfl | hmin
        · simpa using hmore
        · exact hmin
    · rw [if_neg (mt (land_not_natCast_1023 _).mp hmore)]
      exact ⟨0, by simp, by simpa using hmore, Or.inl rfl⟩

/-! ### The digits after the loop -/

/-- A number below 1000 has at most three decimal digits, so `N.DX` and its NUL fit the buffer of
`sizeof("999.9K")`. -/
theorem liItostrn_length_le {N : Nat} (hN : N ≤ 999) : (liItostrn N).length ≤ 3 := by
  rw [liItostrn, lit, List.length_map]
  exact Nat.repr_length N 3 (by norm_num) (by norm_num; omega)

/-- What `http_list_directory_sizefmt` writes once the loop has left `remain`, `size` and `u`: the
quotient with the tenth `min 9 (remain / 100)` in unit `u`, or `0.9` of the next unit when the
quotient is 1000 or more. -/
theorem httpListDirectorySizefmt_of_shift {size : Int} {r N j : Nat}
    (hrun : sizefmtShift ((if 0 < size ∧ size < 100 then size + 99 else size).toNat + 1)
      (if 0 < size ∧ size < 100 then size + 99 else size) 0 = some ((r : Int), (N : Int), j))
    (hN : N < 1024) :
    httpListDirectorySizefmt size = some (if N ≤ 999
      then liItostrn N ++ [46, (min 9 (r / 100) + 48).toUInt8, (lit "KMGTPE").getD j 0]
      else liItostrn 0 ++ [46, 57, (lit "KMGTPE").getD (j + 1) 0]) := by
  simp only [httpListDirectorySizefmt, hrun, Option.map_some']
  by_cases hsmall : N ≤ 999
  · have hD : (if (r : Int) / 100 > 9 then 9 else (r : Int) / 100) + 48 =
        ((min 9 (r / 100) + 48 : Nat) : Int) := by
      split_ifs <;> omega
    have hlen := liItostrn_length_le hsmall
    simp only [if_neg (show ¬(N : Int) > 999 by omega), if_pos hsmall, hD, Int.toNat_ofNat,
      if_neg (show ¬(liItostrn N).length + 3 ≥ 7 by omega)]
  · simp only [if_pos (show (N : Int) > 999 by omega), if_neg hsmall]
    rfl

/-! ### The error of the display -/

/-- The display `N.DX` of the size `s`: `N` has at most three digits, `D` is one digit, `X` is
letter `k - 1` of `"KMGTPE"` with `k` the least unit in which `s` is below 1000, and `N.D` units of
`1024 ^ k` are within a tenth of a unit of `s`. -/
structure SizeDisplay (s : Int) (N D k : Nat) : Prop where
  digits : N ≤ 999
  tenth : D ≤ 9
  unit_pos : 1 ≤ k
  unit_le : k ≤ 6
  fits : s < 1000 * 1024 ^ k
  least : ∀ k', 1 ≤ k' → s < 1000 * 1024 ^ k' → k ≤ k'
  error : |(10 * N + D : Int) * 1024 ^ k - 10 * s| < 1024 ^ k

/-- `k` is the least unit in which `n` is below 1000 once `n` reaches 1000 units of `k - 1`. -/
theorem unit_least_of_bound {n k : Nat} (hlow : k = 1 ∨ 1000 * 1024 ^ (k - 1) ≤ n) :
    ∀ k', 1 ≤ k' → (n : Int) < 1000 * 1024 ^ k' → k ≤ k' := by
  intro k' hk' hlt
  have hlt : n < 1000 * 1024 ^ k' := by exact_mod_cast hlt
  by_contra hle
  rcases hlow with rfl | hlow
  · omega
  · have := Nat.pow_le_pow_right (show 0 < 1024 by norm_num) (show k' ≤ k - 1 by omega)
    omega

/-- The error bound shared by the two shapes: an offset of `e` tenths of a unit, with `e` between
`-1014` and `216`, less a remainder below one unit of the loop's last round. -/
theorem tenths_error_lt (e P t : Int) (he : -1014 ≤ e) (he' : e ≤ 216) (ht : 0 ≤ t) (htP : t < P) :
    |e * P - 10 * t| < 1024 * P := by
  have hP : 0 ≤ P := by omega
  have hlo := mul_le_mul_of_nonneg_right he hP
  have hhi := mul_le_mul_of_nonneg_right he' hP
  rw [abs_lt]
  constructor <;> omega

/-- Sizes from 1 to 99 are raised to 100 to 198 and shown as `0.1K`, within a tenth of a
kilobyte. -/
theorem SizeDisplay.small {n : Nat} (h0 : 0 < n) (h100 : n < 100) : SizeDisplay n 0 1 1 where
  digits := by norm_num
  tenth := by norm_num
  unit_pos := le_rfl
  unit_le := by norm_num
  fits := by omega
  least := unit_least_of_bound (Or.inl rfl)
  error := by rw [abs_lt]; constructor <;> push_cast <;> omega

/-- A quotient below 1000 is shown as it is, in unit `j + 1`, with the tenth `min 9 (remain / 100)`:
`remain / 100` undershoots the true tenth by at most 24 hundredths of a unit, and the cap at 9
keeps a remainder of 1000 to 1023 under a tenth too. -/
theorem SizeDisplay.ofUnit {n j : Nat} (hmin : j = 0 ∨ 1024 ^ (j + 1) ≤ n) (hmax : n < 2 ^ 63)
    (hN : n / 1024 ^ (j + 1) ≤ 999) :
    SizeDisplay n (n / 1024 ^ (j + 1)) (min 9 (n / 1024 ^ j % 1024 / 100)) (j + 1) where
  digits := hN
  tenth := min_le_left _ _
  unit_pos := Nat.le_add_left _ _
  unit_le := by
    rcases hmin with rfl | hmin
    · norm_num
    · by_contra h
      have := Nat.pow_le_pow_right (show 0 < 1024 by norm_num) (show 7 ≤ j + 1 by omega)
      omega
  fits := by
    have := (Nat.div_lt_iff_lt_mul (Nat.pos_pow_of_pos (j + 1) (by norm_num))).mp
      (show n / 1024 ^ (j + 1) < 1000 by omega)
    exact_mod_cast this
  least := unit_least_of_bound (by
    rcases hmin with rfl | hmin
    · exact Or.inl rfl
    · rw [pow_succ] at hmin
      exact Or.inr (by simp only [Nat.add_sub_cancel]; omega))
  error := by
    have hP : 0 < 1024 ^ j := Nat.pos_pow_of_pos j (by norm_num)
    set N := n / 1024 ^ (j + 1)
    set r := n / 1024 ^ j % 1024
    set D := min 9 (r / 100) with hD
    set t := n % 1024 ^ j
    have hn : (n : Int) = 1024 ^ j * (1024 * N + r) + t := by
      have h1 := Nat.div_add_mod n (1024 ^ j)
      have h2 := Nat.div_add_mod (n / 1024 ^ j) 1024
      rw [Nat.div_div_eq_div_mul, ← pow_succ] at h2
      rw [← h2] at h1
      exact_mod_cast h1.symm
    have hrange : r < 1024 := Nat.mod_lt _ (by norm_num)
    have htP : t < 1024 ^ j := Nat.mod_lt n hP
    rw [show (10 * N + D : Int) * 1024 ^ (j + 1) - 10 * n =
        (1024 * D - 10 * r) * 1024 ^ j - 10 * t by rw [hn, pow_succ']; ring,
      pow_succ' (1024 : Int) j]
    exact tenths_error_lt (1024 * D - 10 * r) (1024 ^ j) t (by omega) (by omega) (by positivity)
      (by exact_mod_cast htP)

/-- A quotient of 1000 to 1023 is shown as `0.9` of the next unit, between 0.0784 and 0.1 of that
unit below the size. -/
theorem SizeDisplay.ofCarry {n j : Nat} (hmax : n < 2 ^ 63) (hN : 999 < n / 1024 ^ (j + 1))
    (hlt : n / 1024 ^ (j + 1) < 1024) : SizeDisplay n 0 9 (j + 2) where
  digits := by norm_num
  tenth := by norm_num
  unit_pos := by omega
  unit_le := by
    by_contra h
    have hQ := Nat.pow_le_pow_right (show 0 < 1024 by norm_num) (show 6 ≤ j + 1 by omega)
    have := Nat.div_mul_le_self n (1024 ^ (j + 1))
    have := Nat.mul_le_mul (show 1000 ≤ n / 1024 ^ (j + 1) by omega) hQ
    omega
  fits := by
    have := (Nat.div_lt_iff_lt_mul (Nat.pos_pow_of_pos (j + 1) (by norm_num))).mp hlt
    have hpow : 1024 ^ (j + 2) = 1024 ^ (j + 1) * 1024 := pow_succ _ _
    exact_mod_cast (show n < 1000 * 1024 ^ (j + 2) by omega)
  least := unit_least_of_bound (Or.inr (by
    have := Nat.div_mul_le_self n (1024 ^ (j + 1))
    have := Nat.mul_le_mul_right (1024 ^ (j + 1)) (show 1000 ≤ n / 1024 ^ (j + 1) by omega)
    simp only [show j + 2 - 1 = j + 1 by omega]
    omega))
  error := by
    have hQ : 0 < 1024 ^ (j + 1) := Nat.pos_pow_of_pos (j + 1) (by norm_num)
    set N := n / 1024 ^ (j + 1)
    set t := n % 1024 ^ (j + 1)
    have hn : (n : Int) = 1024 ^ (j + 1) * N + t := by exact_mod_cast (Nat.div_add_mod n _).symm
    have htQ : t < 1024 ^ (j + 1) := Nat.mod_lt n hQ
    rw [show (10 * (0 : Nat) + (9 : Nat) : Int) * 1024 ^ (j + 2) - 10 * n =
        (9216 - 10 * N) * 1024 ^ (j + 1) - 10 * t by rw [hn, pow_succ _ (j + 1)]; push_cast; ring,
      pow_succ' _ (j + 1)]
    exact tenths_error_lt (9216 - 10 * N) (1024 ^ (j + 1)) t (by omega) (by omega) (by positivity)
      (by exact_mod_cast htQ)

/-- For every size from 0 to `2^63 - 1`, `http_list_directory_sizefmt` returns, and what it writes
before its NUL is `N.DX` for a display `SizeDisplay s N D k`. -/
theorem httpListDirectorySizefmt_accuracy {s : Int} (h0 : 0 ≤ s) (hmax : s ≤ 2 ^ 63 - 1) :
    ∃ N D k : Nat, SizeDisplay s N D k ∧ (liItostrn N).length ≤ 3 ∧
      httpListDirectorySizefmt s =
        some (liItostrn N ++ [46, (D + 48).toUInt8, (lit "KMGTPE").getD (k - 1) 0]) := by
  obtain ⟨n, rfl⟩ := Int.eq_ofNat_of_zero_le h0
  have hmax : n < 2 ^ 63 := by omega
  by_cases hsmall : 0 < n ∧ n < 100
  · obtain ⟨j, hrun, hlt, hmin⟩ := sizefmtShift_natCast (n + 99 + 1) (n + 99) 0 (Nat.lt_succ_self _)
    have hj : j = 0 := by
      refine hmin.resolve_right fun hmin ↦ ?_
      have := Nat.pow_le_pow_right (show 0 < 1024 by norm_num) (show 1 ≤ j + 1 by omega)
      omega
    subst hj
    have hout := @httpListDirectorySizefmt_of_shift n _ _ _ (by
      rw [if_pos (by omega), show (n : Int) + 99 = ((n + 99 : Nat) : Int) by push_cast; rfl,
        Int.toNat_ofNat]
      exact hrun) hlt
    rw [show (n + 99) / 1024 ^ (0 + 1) = 0 by omega,
      show min 9 ((n + 99) / 1024 ^ 0 % 1024 / 100) = 1 by simp only [pow_zero, Nat.div_one]; omega,
      if_pos (by norm_num)] at hout
    exact ⟨0, 1, 1, SizeDisplay.small hsmall.1 hsmall.2, liItostrn_length_le (by norm_num), hout⟩
  · obtain ⟨j, hrun, hlt, hmin⟩ := sizefmtShift_natCast (n + 1) n 0 (Nat.lt_succ_self n)
    have hout := @httpListDirectorySizefmt_of_shift n _ _ _ (by
      rw [if_neg (by omega), Int.toNat_ofNat]
      exact hrun) hlt
    by_cases hN : n / 1024 ^ (j + 1) ≤ 999
    · rw [if_pos hN, Nat.zero_add] at hout
      exact ⟨_, _, j + 1, SizeDisplay.ofUnit hmin hmax hN, liItostrn_length_le hN, hout⟩
    · rw [if_neg hN, Nat.zero_add] at hout
      exact ⟨0, 9, j + 2, SizeDisplay.ofCarry hmax (by omega) hlt,
        liItostrn_length_le (by norm_num), hout⟩

theorem httpListDirectorySizefmt_accuracy_mebi :
    (0 : Int) ≤ 1048575 ∧ (1048575 : Int) ≤ 2 ^ 63 - 1 ∧
      ∃ N D k : Nat, SizeDisplay 1048575 N D k ∧ (liItostrn N).length ≤ 3 ∧
        httpListDirectorySizefmt 1048575 =
          some (liItostrn N ++ [46, (D + 48).toUInt8, (lit "KMGTPE").getD (k - 1) 0]) :=
  ⟨by decide, by decide, httpListDirectorySizefmt_accuracy (by decide) (by decide)⟩

end Dirlisting
