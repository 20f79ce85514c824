import OneseismicApi.Vds.Horizon

/-! # `fetch_horizon`'s depth loop in binary64

`fetch_horizon` walks the vertical window of a cell with
`for (double cur_depth = top; cur_depth <= bottom; cur_depth++)`, from
`top = k[2] - vertical.nsamples_above()` to
`bottom = k[2] + vertical.nsamples_below()`, all three doubles. `depthLoop` runs
it in exact arithmetic, where it writes `vertical.size()` voxels. In binary64
the two sums and every `cur_depth++` round to nearest, ties to even. An
increment rounds only where it leaves the grid of its binade, by at most half a
unit of the coarser grid, so the errors never add up to a unit in the last
place: on a window that passes the vertical check the loop writes
`vertical.size()` voxels or one fewer. One fewer happens, and the running index
`i` then falls one voxel behind the blocks of `vertical.size()` voxels per cell
that the comment before the loop promises and `write_fillvalue` assumes.

A double is modelled by its value in `ℚ`. Overflow, infinities and NaN are
left out: the vertical check keeps every value of the loop below `2^32`.
-/

namespace OneseismicApi.Vds

open Go Core

/-- The exponent of the unit in the last place of the binary64 numbers near
    `x ≥ 0`: `e - 52` in the binade `[2^e, 2^(e+1))` of the normal numbers, and
    `-1074` below them. -/
def ulpExp (x : ℚ) : ℤ := if 0 < x then max (Int.log 2 x) (-1022) - 52 else -1074

/-- The integer nearest `x`, ties to the even one. -/
def roundEven (x : ℚ) : ℤ :=
  if x - ⌊x⌋ < 1 / 2 then ⌊x⌋
  else if 1 / 2 < x - ⌊x⌋ then ⌊x⌋ + 1
  else if ⌊x⌋ % 2 = 0 then ⌊x⌋ else ⌊x⌋ + 1

/-- A magnitude `x ≥ 0` rounded to binary64, to nearest, ties to even: the
    nearest multiple of its unit in the last place. -/
def roundMag (x : ℚ) : ℚ := roundEven (x / 2 ^ ulpExp x) * 2 ^ ulpExp x

/-- The double that a sum or difference of doubles with exact value `x` gives. -/
def roundDouble (x : ℚ) : ℚ := if x < 0 then -roundMag (-x) else roundMag x

/-- `for (double cur_depth = top; cur_depth <= bottom; cur_depth++)` as `vds.cpp`
    runs it, over the running index `i` and the samples: `cur_depth++` rounds.
    `none` when it has not ended after `fuel` passes. -/
def depthLoopDouble (cube : HorizonCube) (ij : ℚ × ℚ) (bottom : ℚ) :
    Nat → ℚ → Nat → List Voxel → Option (Except CppFailure (Nat × List Voxel))
  | 0, _, _, _ => none
  | fuel + 1, cur, i, samples =>
    if cur ≤ bottom then
      match writeSample cube samples i ij cur with
      | .ok samples => depthLoopDouble cube ij bottom fuel (roundDouble (cur + 1)) (i + 1) samples
      | .error e => some (.error e)
    else some (.ok (i, samples))

/-- The value of `cur_depth` after `n` passes from `top`. -/
def depthAfter (top : ℚ) (n : Nat) : ℚ := (fun cur => roundDouble (cur + 1))^[n] top

/-! ## Rounding -/

theorem roundEven_cases (x : ℚ) :
    roundEven x = ⌊x⌋ ∧ x - ⌊x⌋ ≤ 1 / 2 ∨ roundEven x = ⌊x⌋ + 1 ∧ 1 / 2 ≤ x - ⌊x⌋ := by
  unfold roundEven
  split_ifs with h₁ h₂
  · exact .inl ⟨rfl, h₁.le⟩
  · exact .inr ⟨rfl, h₂.le⟩
  · exact .inl ⟨rfl, not_lt.1 h₂⟩
  · exact .inr ⟨rfl, not_lt.1 h₁⟩

theorem roundEven_sub_le (x : ℚ) : |(roundEven x : ℚ) - x| ≤ 1 / 2 := by
  have h₁ := Int.floor_le x
  have h₂ := Int.lt_floor_add_one x
  rw [abs_le]
  rcases roundEven_cases x with ⟨h, hf⟩ | ⟨h, hf⟩ <;> rw [h] <;> push_cast <;>
    exact ⟨by linarith only [h₁, h₂, hf], by linarith only [h₁, h₂, hf]⟩

@[simp] theorem roundEven_intCast (m : ℤ) : roundEven m = m := by
  simp [roundEven]

theorem floor_le_roundEven (x : ℚ) : ⌊x⌋ ≤ roundEven x := by
  rcases roundEven_cases x with ⟨h, -⟩ | ⟨h, -⟩ <;> omega

theorem roundEven_eq {x : ℚ} {m : ℤ} (h₁ : (m : ℚ) - 1 / 2 < x) (h₂ : x < m + 1 / 2) :
    roundEven x = m := by
  have h := abs_le.1 (roundEven_sub_le x)
  have hlo : ((m : ℤ) : ℚ) < roundEven x + 1 := by linarith only [h.1, h₁]
  have hhi : ((roundEven x : ℤ) : ℚ) < m + 1 := by linarith only [h.2, h₂]
  have : m < roundEven x + 1 := by exact_mod_cast hlo
  have : roundEven x < m + 1 := by exact_mod_cast hhi
  omega

theorem roundEven_half (m : ℤ) : roundEven (m + 1 / 2) = if m % 2 = 0 then m else m + 1 := by
  unfold roundEven
  rw [(Int.floor_eq_iff (z := m)).2 ⟨by linarith, by linarith⟩, if_neg (by norm_num),
    if_neg (by norm_num)]

theorem ulpExp_ge (x : ℚ) : -1074 ≤ ulpExp x := by
  unfold ulpExp
  split <;> omega

theorem ulpExp_mono {x y : ℚ} (hx : 0 ≤ x) (hxy : x ≤ y) : ulpExp x ≤ ulpExp y := by
  rcases hx.lt_or_eq with hx | rfl
  · have := Int.log_mono_right (b := 2) hx hxy
    rw [ulpExp, ulpExp, if_pos hx, if_pos (hx.trans_le hxy)]
    omega
  · exact (if_neg (lt_irrefl 0)).trans_le (ulpExp_ge y)

theorem ulpExp_of_binade {x : ℚ} {e : ℤ} (h₁ : (2 : ℚ) ^ e ≤ x) (h₂ : x < 2 ^ (e + 1))
    (he : -1022 ≤ e) : ulpExp x = e - 52 := by
  have hx : 0 < x := (zpow_pos (by norm_num) e).trans_le h₁
  have hlo := (Int.zpow_le_iff_le_log (b := 2) (by norm_num) hx).1 (by simpa using h₁)
  have hhi := (Int.lt_zpow_iff_log_lt (b := 2) (by norm_num) hx).1 (by simpa using h₂)
  rw [ulpExp, if_pos hx]
  omega

theorem ulpExp_le {x : ℚ} {e : ℤ} (h : x < 2 ^ (e + 1)) (he : -1022 ≤ e) : ulpExp x ≤ e - 52 := by
  unfold ulpExp
  split
  · have := (Int.lt_zpow_iff_log_lt (b := 2) (by norm_num) ‹0 < x›).1 (by simpa using h)
    omega
  · omega

theorem roundMag_sub_le (x : ℚ) : |roundMag x - x| ≤ 2 ^ ulpExp x / 2 := by
  have hu : (0 : ℚ) < 2 ^ ulpExp x := zpow_pos (by norm_num) _
  have h : roundMag x - x =
      ((roundEven (x / 2 ^ ulpExp x) : ℚ) - x / 2 ^ ulpExp x) * 2 ^ ulpExp x := by
    rw [roundMag, sub_mul, div_mul_cancel₀ _ hu.ne']
  rw [h, abs_mul, abs_of_pos hu]
  calc _ ≤ 1 / 2 * 2 ^ ulpExp x := mul_le_mul_of_nonneg_right (roundEven_sub_le _) hu.le
    _ = 2 ^ ulpExp x / 2 := by ring

theorem roundMag_nonneg {x : ℚ} (h : 0 ≤ x) : 0 ≤ roundMag x := by
  have hu : (0 : ℚ) < 2 ^ ulpExp x := zpow_pos (by norm_num) _
  have := (Int.floor_nonneg.2 (div_nonneg h hu.le)).trans (floor_le_roundEven _)
  exact mul_nonneg (by exact_mod_cast this) hu.le

theorem roundMag_of_mul {x : ℚ} {m : ℤ} (h : x = m * 2 ^ ulpExp x) : roundMag x = x := by
  have hdiv : x / 2 ^ ulpExp x = m := by
    rw [div_eq_iff (zpow_ne_zero _ two_ne_zero)]
    exact h
  rw [roundMag, hdiv, roundEven_intCast, ← h]

theorem roundMag_of_binade {x : ℚ} {e m : ℤ} (h₁ : (2 : ℚ) ^ e ≤ x) (h₂ : x < 2 ^ (e + 1))
    (he : -1022 ≤ e) (hm : roundEven (x / 2 ^ (e - 52)) = m) : roundMag x = m * 2 ^ (e - 52) := by
  rw [roundMag, ulpExp_of_binade h₁ h₂ he, hm]

/-- Rounding never leaves the binade of a normal number downwards, so the unit
    in the last place of the result is at least that of `x`. -/
theorem ulpExp_le_roundMag {x : ℚ} (hx : 0 ≤ x) : ulpExp x ≤ ulpExp (roundMag x) := by
  rcases hx.lt_or_eq with hx | rfl
  swap
  · exact (if_neg (lt_irrefl 0)).trans_le (ulpExp_ge _)
  by_cases hB : Int.log 2 x < -1022
  · rw [ulpExp, if_pos hx]
    have := ulpExp_ge (roundMag x)
    omega
  have he : ulpExp x = Int.log 2 x - 52 := by
    rw [ulpExp, if_pos hx]
    omega
  have hu : (0 : ℚ) < 2 ^ ulpExp x := zpow_pos (by norm_num) _
  have hpow : (2 : ℚ) ^ Int.log 2 x = ((2 ^ 52 : ℤ) : ℚ) * 2 ^ ulpExp x := by
    rw [he, Int.cast_pow, Int.cast_ofNat, ← zpow_natCast, ← zpow_add₀ two_ne_zero]
    congr 1
    omega
  have h2B : (2 : ℚ) ^ Int.log 2 x ≤ x := by
    simpa using Int.zpow_log_le_self (b := 2) (by norm_num) hx
  have hq : ((2 ^ 52 : ℤ) : ℚ) ≤ x / 2 ^ ulpExp x := by
    rw [le_div_iff₀ hu, ← hpow]
    exact h2B
  have hr : (2 : ℤ) ^ 52 ≤ roundEven (x / 2 ^ ulpExp x) :=
    (Int.le_floor.2 hq).trans (floor_le_roundEven _)
  have hge : (2 : ℚ) ^ Int.log 2 x ≤ roundMag x := by
    rw [hpow, roundMag]
    exact mul_le_mul_of_nonneg_right (by exact_mod_cast hr) hu.le
  have hpos : 0 < roundMag x := (zpow_pos (by norm_num) _).trans_le hge
  have := (Int.zpow_le_iff_le_log (b := 2) (by norm_num) hpos).1 (by simpa using hge)
  rw [he, ulpExp, if_pos hpos]
  omega

/-- A rounded value that is not negative lies on a grid `2^e` no finer than
    its own unit in the last place, within half a step of the exact value. -/
theorem roundDouble_grid {x : ℚ} (h : 0 ≤ roundDouble x) :
    ∃ e, e ≤ ulpExp (roundDouble x) ∧ (∃ m : ℤ, roundDouble x = m * 2 ^ e) ∧
      |roundDouble x - x| ≤ 2 ^ e / 2 := by
  by_cases hx : x < 0
  · have hz : roundMag (-x) = 0 := by
      rw [roundDouble, if_pos hx] at h
      exact le_antisymm (by linarith) (roundMag_nonneg (by linarith))
    have hd : roundDouble x = 0 := by rw [roundDouble, if_pos hx, hz, neg_zero]
    have he := ulpExp_le_roundMag (x := -x) (by linarith)
    have herr := roundMag_sub_le (-x)
    rw [hz] at he herr
    rw [hd]
    exact ⟨ulpExp (-x), he, ⟨0, by simp⟩, by simpa using herr⟩
  · have hd : roundDouble x = roundMag x := if_neg hx
    rw [hd]
    exact ⟨ulpExp x, ulpExp_le_roundMag (not_lt.1 hx), ⟨_, rfl⟩, roundMag_sub_le x⟩

/-! ## The loop -/

/-- After `n` passes from the exact start `t`, `cur` lies on the grid of
    `2^e`, which is fine enough for `cur + 1`, and within `2^e` of `t + n`. -/
structure OnGrid (t : ℚ) (n : Nat) (cur : ℚ) (e : ℤ) : Prop where
  nonneg : 0 ≤ cur
  fine : e ≤ -21
  le_ulp : e ≤ ulpExp (cur + 1)
  grid : ∃ m : ℤ, cur = m * 2 ^ e
  err : |cur - (t + n)| ≤ 2 ^ e

theorem onGrid_step {t cur : ℚ} {n : Nat} {e : ℤ} (h : OnGrid t n cur e) (hlt : cur < 2 ^ 31) :
    ∃ e', OnGrid t (n + 1) (roundDouble (cur + 1)) e' := by
  have hy : 0 ≤ cur + 1 := add_nonneg h.nonneg zero_le_one
  have hfine : ulpExp (cur + 1) ≤ -21 := ulpExp_le (e := 31) (by norm_num; linarith only [hlt]) (by norm_num)
  have hpast : cur + 1 - (t + ↑(n + 1)) = cur - (t + n) := by
    push_cast
    ring
  rw [roundDouble, if_neg (not_lt.2 hy)]
  rcases h.le_ulp.lt_or_eq with hlt' | heq
  · -- `cur + 1` leaves the grid of `2^e`: it rounds, by at most half the new unit
    have hu : (2 : ℚ) ^ ulpExp (cur + 1) ≤ 1 := zpow_le_one_of_nonpos₀ (by norm_num) (by omega)
    have hhalf : (2 : ℚ) ^ e ≤ 2 ^ ulpExp (cur + 1) / 2 :=
      calc (2 : ℚ) ^ e ≤ 2 ^ (ulpExp (cur + 1) - 1) := zpow_le_zpow_right₀ (by norm_num) (by omega)
        _ = 2 ^ ulpExp (cur + 1) / 2 := by rw [zpow_sub_one₀ two_ne_zero, div_eq_mul_inv]
    have hr := roundMag_sub_le (cur + 1)
    have hge : cur + 1 ≤ roundMag (cur + 1) + 1 := by
      linarith only [(abs_le.1 hr).1, hu]
    refine ⟨ulpExp (cur + 1), roundMag_nonneg hy, hfine, ulpExp_mono hy hge, ⟨_, rfl⟩, ?_⟩
    calc |roundMag (cur + 1) - (t + ↑(n + 1))|
        = |(roundMag (cur + 1) - (cur + 1)) + (cur - (t + n))| := by rw [← hpast, sub_add_sub_cancel]
      _ ≤ |roundMag (cur + 1) - (cur + 1)| + |cur - (t + n)| := abs_add _ _
      _ ≤ 2 ^ ulpExp (cur + 1) / 2 + 2 ^ ulpExp (cur + 1) / 2 := add_le_add hr (h.err.trans hhalf)
      _ = 2 ^ ulpExp (cur + 1) := by ring
  · -- `cur + 1` stays on the grid of `2^e`: the increment is exact
    obtain ⟨m, hm⟩ := h.grid
    have hone : ((2 ^ (-e).toNat : ℤ) : ℚ) * 2 ^ e = 1 := by
      rw [Int.cast_pow, Int.cast_ofNat, ← zpow_natCast, Int.toNat_of_nonneg (by have := h.fine; omega),
        ← zpow_add₀ two_ne_zero, neg_add_cancel, zpow_zero]
    have hgrid : cur + 1 = ((m + 2 ^ (-e).toNat : ℤ) : ℚ) * 2 ^ e := by
      rw [Int.cast_add, add_mul, hone, ← hm]
    rw [roundMag_of_mul (heq ▸ hgrid)]
    exact ⟨e, hy, h.fine, heq.le.trans (ulpExp_mono hy (by linarith)), ⟨_, hgrid⟩,
      by rw [hpast]; exact h.err⟩

theorem onGrid_after {t top B : ℚ} {e₀ : ℤ} (hstart : OnGrid t 0 top e₀) (hB : B < 2 ^ 31) :
    ∀ n, (∀ j < n, depthAfter top j ≤ B) → ∃ e, OnGrid t n (depthAfter top n) e := by
  intro n
  induction n with
  | zero => exact fun _ => ⟨e₀, hstart⟩
  | succ n ih =>
    intro hle
    obtain ⟨e, he⟩ := ih fun j hj => hle j (by omega)
    have : depthAfter top (n + 1) = roundDouble (depthAfter top n + 1) :=
      Function.iterate_succ_apply' _ _ _
    rw [this]
    exact onGrid_step he ((hle n (by omega)).trans_lt hB)

theorem writeSample_of_lt (cube : HorizonCube) {samples : List Voxel} {i : Nat}
    (h : i < samples.length) (ij : ℚ × ℚ) (d : ℚ) :
    ∃ v, writeSample cube samples i ij d = .ok (samples.set i v) := by
  rw [writeSample, List.getElem?_eq_getElem h]
  exact ⟨_, rfl⟩

theorem depthLoopDouble_run (cube : HorizonCube) (ij : ℚ × ℚ) (bottom : ℚ) (N : Nat) :
    ∀ (top : ℚ) (i : Nat) (samples : List Voxel) (fuel : Nat), N < fuel →
      (∀ j < N, depthAfter top j ≤ bottom) → ¬depthAfter top N ≤ bottom →
      i + N ≤ samples.length →
      ∃ samples', depthLoopDouble cube ij bottom fuel top i samples = some (.ok (i + N, samples')) := by
  induction N with
  | zero =>
    intro top i samples fuel hfuel _ hstop _
    obtain ⟨fuel, rfl⟩ : ∃ f, fuel = f + 1 := ⟨fuel - 1, by omega⟩
    exact ⟨samples, by rw [depthLoopDouble, if_neg (show ¬top ≤ bottom from hstop)]; rfl⟩
  | succ N ih =>
    intro top i samples fuel hfuel hrun hstop hroom
    obtain ⟨fuel, rfl⟩ : ∃ f, fuel = f + 1 := ⟨fuel - 1, by omega⟩
    obtain ⟨v, hv⟩ := writeSample_of_lt cube (show i < samples.length by omega) ij top
    obtain ⟨samples', h⟩ := ih (roundDouble (top + 1)) (i + 1) (samples.set i v) fuel (by omega)
      (fun j hj => hrun (j + 1) (by omega)) hstop (by simp; omega)
    refine ⟨samples', ?_⟩
    rw [depthLoopDouble, if_pos (show top ≤ bottom from hrun 0 (by omega)), hv]
    simpa only [Nat.add_right_comm, Nat.add_assoc] using h

/-- In binary64, on every window that passes `fetch_horizon`'s vertical check,
    the depth loop ends within `vertical.size() + 1` passes, having written
    `vertical.size()` voxels or one fewer. -/
theorem depthLoop_binary64 (cube : HorizonCube) (ij : ℚ × ℚ) (k : ℚ) (w : VerticalWindow) (i : Nat)
    (samples : List Voxel) (hn : cube.sample.nsamples < 2 ^ 31)
    (htop : inrange cube.sample (roundDouble (k - w.nsamplesAbove)))
    (hbot : inrange cube.sample (roundDouble (k + w.nsamplesBelow)))
    (hroom : i + w.size ≤ samples.length) :
    ∃ n samples', depthLoopDouble cube ij (roundDouble (k + w.nsamplesBelow)) (w.size + 1)
        (roundDouble (k - w.nsamplesAbove)) i samples = some (.ok (i + n, samples')) ∧
      (n = w.size ∨ n + 1 = w.size) := by
  set a := w.nsamplesAbove
  set b := w.nsamplesBelow
  set top := roundDouble (k - a)
  set B := roundDouble (k + b)
  have hsize : w.size = a + b + 1 := rfl
  have hn' : (cube.sample.nsamples : ℚ) < 2 ^ 31 := by exact_mod_cast hn
  have htop' : top < 2 ^ 31 := htop.2.trans hn'
  have hB : B < 2 ^ 31 := hbot.2.trans hn'
  have h21 : (2 : ℚ) ^ (-21 : ℤ) = 1 / 2097152 := by norm_num
  -- the rounding of `bottom`
  have hBerr : |B - (k + b)| ≤ 1 / 8388608 := by
    obtain ⟨e, he, -, herr⟩ := roundDouble_grid hbot.1
    have : (2 : ℚ) ^ e ≤ 2 ^ (-22 : ℤ) :=
      zpow_le_zpow_right₀ (by norm_num) (he.trans (ulpExp_le (e := 30) (by norm_num; exact hB) (by norm_num)))
    norm_num at this
    linarith only [this, herr]
  -- the start, and every later value of `cur_depth`
  have hstart : ∃ e, OnGrid (k - a) 0 top e := by
    obtain ⟨e, he, hm, herr⟩ := roundDouble_grid htop.1
    have hfine : ulpExp top ≤ -22 := ulpExp_le (e := 30) (by norm_num; exact htop') (by norm_num)
    have hpos : (0 : ℚ) < 2 ^ e := zpow_pos (by norm_num) _
    exact ⟨e, htop.1, (he.trans hfine).trans (by norm_num), he.trans (ulpExp_mono htop.1 (le_add_of_nonneg_right zero_le_one)), hm,
      by simpa using herr.trans (half_le_self hpos.le)⟩
  obtain ⟨e₀, hstart⟩ := hstart
  have hnear : ∀ n, (∀ j < n, depthAfter top j ≤ B) → |depthAfter top n - (k - a + n)| ≤ 1 / 2097152 := by
    intro n hle
    obtain ⟨e, he⟩ := onGrid_after hstart hB n hle
    have : (2 : ℚ) ^ e ≤ 2 ^ (-21 : ℤ) := zpow_le_zpow_right₀ (by norm_num) he.fine
    exact he.err.trans (h21 ▸ this)
  -- every pass before the last of the window writes
  have hbelow : ∀ n < a + b, depthAfter top n ≤ B := by
    intro n
    induction n using Nat.strong_induction_on with
    | _ n ih =>
      intro hn
      have := (abs_le.1 (hnear n fun j hj => ih j hj (by omega))).2
      have hcast : (n : ℚ) + 1 ≤ a + b := by exact_mod_cast hn
      linarith only [this, hcast, (abs_le.1 hBerr).1]
  by_cases hS : depthAfter top (a + b) ≤ B
  · -- the last pass of the window writes, and the loop stops after it
    have hrun : ∀ j < a + b + 1, depthAfter top j ≤ B := fun j hj =>
      (Nat.lt_succ_iff_lt_or_eq.1 hj).elim (hbelow j) (· ▸ hS)
    have hstop : ¬depthAfter top (a + b + 1) ≤ B := by
      have := (abs_le.1 (hnear _ hrun)).1
      push_cast at this
      intro hle
      linarith only [this, hle, (abs_le.1 hBerr).2]
    obtain ⟨samples', h⟩ := depthLoopDouble_run cube ij B (a + b + 1) top i samples (w.size + 1)
      (by omega) hrun hstop (by omega)
    exact ⟨_, samples', h, .inl hsize.symm⟩
  · -- the rounding errors lose the last voxel of the window
    obtain ⟨samples', h⟩ := depthLoopDouble_run cube ij B (a + b) top i samples (w.size + 1)
      (by omega) hbelow hS (by omega)
    exact ⟨_, samples', h, .inr hsize.symm⟩

/-! ## A window that loses a voxel -/

/-- The double `0x1.fffffffffffeap-4`, just below `1/8`. -/
def shortHeight : ℚ := 9007199254740970 / 2 ^ 56

/-- A cube of three samples on each axis. -/
def threeSampleCube : HorizonCube where
  iline := ⟨3, 0, by decide⟩
  xline := ⟨3, 1, by decide⟩
  sample := ⟨3, 2, by decide⟩
  dims_ne := by decide
  worldToIJ := id
  depthToK := id
  verticalWindow := fun _ _ => ⟨0, 2⟩
  sampleMin := 0
  sampleMax := 2

theorem shortHeight_trace :
    roundDouble (shortHeight - ((0 : Nat) : ℚ)) = shortHeight ∧
      roundDouble (shortHeight + ((2 : Nat) : ℚ)) = 4785074604081151 / 2 ^ 51 ∧
      depthAfter shortHeight 1 = 5066549580791807 / 2 ^ 52 ∧
      depthAfter shortHeight 2 = 4785074604081152 / 2 ^ 51 := by
  have h₁ : depthAfter shortHeight 1 = 5066549580791807 / 2 ^ 52 := by
    show roundDouble (shortHeight + 1) = _
    rw [roundDouble, if_neg (by norm_num [shortHeight]),
      roundMag_of_binade (e := 0) (by norm_num [shortHeight]) (by norm_num [shortHeight]) (by norm_num)
        (roundEven_eq (m := 5066549580791807) (by norm_num [shortHeight]) (by norm_num [shortHeight]))]
    norm_num
  refine ⟨?_, ?_, h₁, ?_⟩
  · rw [Nat.cast_zero, sub_zero, roundDouble, if_neg (by norm_num [shortHeight])]
    exact roundMag_of_mul (m := 9007199254740970)
      (by rw [ulpExp_of_binade (e := -4) (by norm_num [shortHeight]) (by norm_num [shortHeight])
        (by norm_num)]; norm_num [shortHeight])
  · rw [roundDouble, if_neg (by norm_num [shortHeight]),
      roundMag_of_binade (e := 1) (by norm_num [shortHeight]) (by norm_num [shortHeight]) (by norm_num)
        (roundEven_eq (m := 4785074604081151) (by norm_num [shortHeight]) (by norm_num [shortHeight]))]
    norm_num
  · show roundDouble (depthAfter shortHeight 1 + 1) = _
    have hhalf : (5066549580791807 / 2 ^ 52 + 1 : ℚ) / 2 ^ ((1 : ℤ) - 52) =
        ((4785074604081151 : ℤ) : ℚ) + 1 / 2 := by norm_num
    rw [h₁, roundDouble, if_neg (by norm_num),
      roundMag_of_binade (e := 1) (by norm_num) (by norm_num) (by norm_num)
        (m := 4785074604081152) (by rw [hhalf, roundEven_half]; norm_num)]
    norm_num

/-- No sample above the height and two below. -/
def shortWindow : VerticalWindow := ⟨0, 2⟩

theorem short_window_passes :
    threeSampleCube.sample.nsamples < 2 ^ 31 ∧
      inrange threeSampleCube.sample (roundDouble (shortHeight - shortWindow.nsamplesAbove)) ∧
      inrange threeSampleCube.sample (roundDouble (shortHeight + shortWindow.nsamplesBelow)) ∧
      0 + shortWindow.size ≤ (List.replicate 3 zeroVoxel).length ∧
      ∃ n samples', depthLoopDouble threeSampleCube (0, 0)
          (roundDouble (shortHeight + shortWindow.nsamplesBelow)) (shortWindow.size + 1)
          (roundDouble (shortHeight - shortWindow.nsamplesAbove)) 0 (List.replicate 3 zeroVoxel) =
          some (.ok (0 + n, samples')) ∧
        (n = shortWindow.size ∨ n + 1 = shortWindow.size) := by
  obtain ⟨htop, hbot, -, -⟩ := shortHeight_trace
  have h₁ : inrange threeSampleCube.sample (roundDouble (shortHeight - shortWindow.nsamplesAbove)) := by
    show 0 ≤ _ ∧ _ < _
    rw [show shortWindow.nsamplesAbove = 0 from rfl, htop]
    norm_num [shortHeight, threeSampleCube]
  have h₂ : inrange threeSampleCube.sample (roundDouble (shortHeight + shortWindow.nsamplesBelow)) := by
    show 0 ≤ _ ∧ _ < _
    rw [show shortWindow.nsamplesBelow = 2 from rfl, hbot]
    norm_num [threeSampleCube]
  exact ⟨by decide, h₁, h₂, le_refl _,
    depthLoop_binary64 threeSampleCube (0, 0) shortHeight shortWindow 0 _ (by decide) h₁ h₂ (le_refl _)⟩

end OneseismicApi.Vds
