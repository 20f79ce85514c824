import OneseismicApi.Vds.Fence

/-! # Horizons of the `vds` package

`getHorizon` copies the height map row by row into a flat buffer, as
`toCdata` does without a shift, and calls `horizon` of `vds.cpp`, which builds
a `RegularSurface` over it and runs `fetch_horizon`. That function walks the
cells in row-major order with a running index `i` into an array of `nsamples`
voxels: a cell whose height is the fill value, or whose IJ position lies
outside the inline or crossline axis, is recorded in `noval_indicies` and
skips `vertical.size()` voxels; every other cell gets one voxel per sample of
its vertical window, after a check that the window lies inside the sample axis.
One `read_samples` call fills the buffer, and `write_fillvalue` overwrites the
blocks of the recorded cells with the fill value.

Coordinates and heights are exact rationals. `RegularSurface`, `VerticalWindow`
and the OpenVDS transformers are not in the sources: the surface is modelled
from the spec, the window by its two sample counts, the transformers as
functions of the cube.
-/

namespace OneseismicApi.Vds

open Go Core

/-- An axis of the cube: its number of samples, at least one, and the
    dimension of the voxel it is stored in. -/
structure Axis where
  nsamples : Nat
  dimension : Fin 6
  nsamples_pos : 0 < nsamples

/-- A window of `nsamplesAbove` samples above and `nsamplesBelow` below a
    height, and the height's own sample. Modelled from the spec: the
    `VerticalWindow` class is not in the sources. -/
structure VerticalWindow where
  nsamplesAbove : Nat
  nsamplesBelow : Nat

/-- `vertical.size()`. -/
def VerticalWindow.size (w : VerticalWindow) : Nat := w.nsamplesAbove + w.nsamplesBelow + 1

/-- What `fetch_horizon` reads of a cube. -/
structure HorizonCube where
  iline : Axis
  xline : Axis
  sample : Axis
  /-- The three axes are stored in different dimensions of a voxel. -/
  dims_ne : iline.dimension ≠ xline.dimension ∧ iline.dimension ≠ sample.dimension ∧
    xline.dimension ≠ sample.dimension
  /-- `WorldToIJKPosition({x, y, 0})`, its first two coordinates. -/
  worldToIJ : ℚ × ℚ → ℚ × ℚ
  /-- `AnnotationToIJKPosition({0, 0, depth})[2]`. -/
  depthToK : ℚ → ℚ
  /-- `VerticalWindow(above, below, sample.stride())` after `squeeze()`. -/
  verticalWindow : ℚ → ℚ → VerticalWindow
  /-- `sample.min()` and `sample.max()`, for the error message. -/
  sampleMin : ℚ
  sampleMax : ℚ

/-- A `RegularSurface` over a flat height map. Modelled from the spec: the
    class is not in the sources; `value(row, col)` is the height at
    `row * ncols + col`, and `coordinate(row, col)` the plane's `(x, y)` of a
    cell. -/
structure Surface where
  nrows : Nat
  ncols : Nat
  data : List ℚ
  coordinate : Nat → Nat → ℚ × ℚ

/-- `surface.value(row, col)`. -/
def Surface.value (surface : Surface) (row col : Nat) : ℚ :=
  surface.data.getD (row * surface.ncols + col) 0

/-- The voxel of the zero array `new voxel[nsamples]{{0}}`. -/
def zeroVoxel : Voxel := fun _ => 0

/-- `samples[i][iline.dimension()] = ij[0]`, and likewise for the crossline
    and the depth, on the voxel `v`. -/
def setSample (cube : HorizonCube) (v : Voxel) (ij : ℚ × ℚ) (depth : ℚ) : Voxel :=
  Function.update (Function.update (Function.update v cube.iline.dimension ij.1)
    cube.xline.dimension ij.2) cube.sample.dimension depth

/-- The three writes to `samples[i]`; an index past the array is a write
    outside it. -/
def writeSample (cube : HorizonCube) (samples : List Voxel) (i : Nat) (ij : ℚ × ℚ) (depth : ℚ) :
    Except CppFailure (List Voxel) :=
  match samples[i]? with
  | some v => .ok (samples.set i (setSample cube v ij depth))
  | none => .error .fault

/-- `inrange(axis, voxel)`. -/
def inrange (axis : Axis) (v : ℚ) : Prop := 0 ≤ v ∧ v < axis.nsamples

instance (axis : Axis) (v : ℚ) : Decidable (inrange axis v) :=
  inferInstanceAs (Decidable (_ ∧ _))

/-- `for (double cur_depth = top; cur_depth <= bottom; cur_depth++)`, over the
    running index `i` and the samples. -/
def depthLoop (cube : HorizonCube) (ij : ℚ × ℚ) (bottom cur : ℚ) (i : Nat)
    (samples : List Voxel) : Except CppFailure (Nat × List Voxel) :=
  if h : cur ≤ bottom then do
    let samples ← writeSample cube samples i ij cur
    depthLoop cube ij bottom (cur + 1) (i + 1) samples
  else .ok (i, samples)
termination_by (⌊bottom - cur⌋ + 1).toNat
decreasing_by
  have h₀ : 0 ≤ ⌊bottom - cur⌋ := Int.floor_nonneg.2 (by linarith)
  have h₁ : ⌊bottom - (cur + 1)⌋ = ⌊bottom - cur⌋ - 1 := by
    rw [← Int.floor_sub_one]; ring_nf
  omega

/-- The state of `fetch_horizon`'s loop over the cells. -/
structure HorizonLoop where
  i : Nat
  samples : List Voxel
  novals : List Nat

/-- The message of `fetch_horizon`'s vertical check; `toString` prints a
    `double` as `std::to_string` does. -/
def verticalMsg (toString : ℚ → String) (row col : Nat) (bottom top lo hi : ℚ) : String :=
  s!"Vertical window is out of vertical bounds at row: {row} col:{col}. Request: [" ++
    toString bottom ++ ", " ++ toString top ++ "]. Seismic bounds: [" ++ toString lo ++ ", " ++
    toString hi ++ "]"

/-- A cell recorded in `noval_indicies`, which skips `vertical.size()` voxels. -/
def HorizonLoop.skip (st : HorizonLoop) (w : VerticalWindow) : HorizonLoop :=
  { st with novals := st.novals ++ [st.i], i := st.i + w.size }

/-- One pass of `fetch_horizon`'s loop, for the cell at `row`, `col`. -/
def cellStep (cube : HorizonCube) (surface : Surface) (toString : ℚ → String) (fillvalue : ℚ)
    (w : VerticalWindow) (st : HorizonLoop) (row col : Nat) : Except CppFailure HorizonLoop :=
  let depth := surface.value row col
  if depth = fillvalue then .ok (st.skip w)
  else
    let ij := cube.worldToIJ (surface.coordinate row col)
    let ij : ℚ × ℚ := (ij.1 + 1/2, ij.2 + 1/2)
    let k := cube.depthToK depth + 1/2
    if ¬(inrange cube.iline ij.1 ∧ inrange cube.xline ij.2) then .ok (st.skip w)
    else
      let top := k - w.nsamplesAbove
      let bottom := k + w.nsamplesBelow
      if ¬(inrange cube.sample top ∧ inrange cube.sample bottom) then
        .error (.throw (verticalMsg toString row col bottom top cube.sampleMin cube.sampleMax))
      else do
        let (i, samples) ← depthLoop cube ij bottom top st.i st.samples
        pure { st with i, samples }

/-- The two loops of `fetch_horizon` over the rows and the columns. -/
def horizonLoop (cube : HorizonCube) (surface : Surface) (toString : ℚ → String)
    (fillvalue : ℚ) (w : VerticalWindow) : Except CppFailure HorizonLoop :=
  (List.range surface.nrows).foldlM (fun st row =>
    (List.range surface.ncols).foldlM (fun st col => cellStep cube surface toString fillvalue w st row col) st)
    ⟨0, List.replicate (surface.nrows * surface.ncols * w.size) zeroVoxel, []⟩

/-- `write_fillvalue`: `vertical_size` floats of `fillvalue` from each index of
    `novals` on; a block past the buffer is a write outside it. -/
def writeFillvalue (dst : List ℚ) (novals : List Nat) (verticalSize : Nat) (fillvalue : ℚ) :
    Except CppFailure (List ℚ) :=
  novals.foldlM (fun dst i =>
    if i + verticalSize ≤ dst.length then
      .ok (dst.take i ++ List.replicate verticalSize fillvalue ++ dst.drop (i + verticalSize))
    else .error .fault) dst

/-- `fetch_horizon`: `openCube` is the cube as `DataHandle` opens it, or the
    exception it throws, and `readSamples` the floats `read_samples` reads for
    the voxels. -/
def fetchHorizon (openCube : Except String HorizonCube)
    (readSamples : List Voxel → Nat → Except String (List ℚ)) (toString : ℚ → String)
    (surface : Surface) (fillvalue above below : ℚ) (interpolation : Nat) :
    Except CppFailure (List ℚ) := do
  let cube ← openCube.mapError .throw
  let vertical := cube.verticalWindow above below
  let st ← horizonLoop cube surface toString fillvalue vertical
  let buffer ← (readSamples st.samples interpolation).mapError .throw
  writeFillvalue buffer st.novals vertical.size fillvalue

/-- `horizon`'s `catch`, which turns an exception into `result.err`, and
    `getHorizon`'s `errors.New(err)`. -/
def horizonResponse : Except CppFailure (List ℚ) → Outcome (List ℚ)
  | .ok buffer => .ok buffer
  | .error (.throw what) => .error (.error (.plain what))
  | .error .fault => .error .fault

/-- `getHorizon` of the `vds` package, and `horizon` of `vds.cpp`, which
    builds the surface over the copied heights and catches the exceptions of
    `fetch_horizon`; `plane` is the surface's map from a cell to its `(x, y)`
    for the origin, increments and rotation. -/
def getHorizon (openCube : Except String HorizonCube)
    (readSamples : List Voxel → Nat → Except String (List ℚ)) (toString : ℚ → String)
    (plane : ℚ → ℚ → ℚ → ℚ → ℚ → Nat → Nat → ℚ × ℚ) (data : List (List ℚ))
    (originX originY increaseX increaseY rotation fillValue above below : ℚ)
    (interpolation : Int) : Outcome (List ℚ) := do
  let nrows := data.length
  let ncols := (← index data 0).length
  let cdata ← data.enum.foldlM
    (copyRow ncols id fun i row => .invalidArgument (rowLengthMsg ncols i row.length))
    (List.replicate (nrows * ncols) 0)
  let first ← addr cdata 0
  let surface : Surface :=
    ⟨nrows, ncols, first, plane originX originY increaseX increaseY rotation⟩
  horizonResponse (fetchHorizon openCube readSamples toString surface fillValue above below
    (cEnum interpolation))

/-! ## The loop over one window -/

/-- The voxel the loop writes over a zero voxel for IJ position `ij` and depth
    `d`. -/
def sampleVoxel (cube : HorizonCube) (ij : ℚ × ℚ) (d : ℚ) : Voxel := setSample cube zeroVoxel ij d

theorem writeSample_zero (cube : HorizonCube) (pre rest : List Voxel) (ij : ℚ × ℚ) (d : ℚ) :
    writeSample cube (pre ++ zeroVoxel :: rest) pre.length ij d =
      .ok (pre ++ sampleVoxel cube ij d :: rest) := by
  have h : (pre ++ zeroVoxel :: rest)[pre.length]? = some zeroVoxel := by
    simp [List.getElem?_append_right, List.getElem_append_right]
  simp only [writeSample, h, sampleVoxel, List.set_append_right _ _ (le_refl _), Nat.sub_self,
    List.set_cons_zero]

theorem depthLoop_stop {cube : HorizonCube} {ij : ℚ × ℚ} {bottom cur : ℚ} (h : ¬cur ≤ bottom)
    (i : Nat) (samples : List Voxel) : depthLoop cube ij bottom cur i samples = .ok (i, samples) := by
  rw [depthLoop, dif_neg h]

theorem depthLoop_write {cube : HorizonCube} {ij : ℚ × ℚ} {bottom cur : ℚ} (h : cur ≤ bottom)
    (pre rest : List Voxel) :
    depthLoop cube ij bottom cur pre.length (pre ++ zeroVoxel :: rest) =
      depthLoop cube ij bottom (cur + 1) (pre.length + 1) (pre ++ sampleVoxel cube ij cur :: rest) := by
  rw [depthLoop, dif_pos h, writeSample_zero]
  rfl

theorem depthLoop_window (cube : HorizonCube) (ij : ℚ × ℚ) (n : Nat) :
    ∀ (top : ℚ) (pre : List Voxel) (r : Nat),
      depthLoop cube ij (top + n) top pre.length (pre ++ List.replicate (n + 1 + r) zeroVoxel) =
        .ok (pre.length + (n + 1),
          pre ++ (List.range (n + 1)).map (fun t : Nat => sampleVoxel cube ij (top + t)) ++
            List.replicate r zeroVoxel) := by
  induction n with
  | zero =>
    intro top pre r
    rw [Nat.zero_add, Nat.add_comm, List.replicate_succ, depthLoop_write (by simp),
      depthLoop_stop (by simp)]
    simp [List.range_succ]
  | succ n ih =>
    intro top pre r
    have hb : top + ((n + 1 : Nat) : ℚ) = top + 1 + n := by push_cast; ring
    rw [show n + 1 + 1 + r = n + 1 + r + 1 by omega, List.replicate_succ,
      depthLoop_write (by rw [hb]; linarith [(Nat.cast_nonneg n : (0 : ℚ) ≤ n)]), hb]
    have := ih (top + 1) (pre ++ [sampleVoxel cube ij top]) r
    simp only [List.length_append, List.length_singleton, List.append_assoc,
      List.singleton_append] at this
    rw [this, List.range_succ_eq_map (n + 1)]
    simp only [List.map_cons, List.map_map, Nat.cast_zero, add_zero, List.cons_append,
      Function.comp_def, Nat.cast_succ, add_assoc, add_comm (1 : ℚ), List.append_assoc]
    rw [show 1 + (n + 1) = n + (1 + 1) by omega]

@[simp] theorem setSample_iline (cube : HorizonCube) (v : Voxel) (ij : ℚ × ℚ) (d : ℚ) :
    setSample cube v ij d cube.iline.dimension = ij.1 := by
  simp [setSample, Function.update_noteq cube.dims_ne.1, Function.update_noteq cube.dims_ne.2.1]

@[simp] theorem setSample_xline (cube : HorizonCube) (v : Voxel) (ij : ℚ × ℚ) (d : ℚ) :
    setSample cube v ij d cube.xline.dimension = ij.2 := by
  simp [setSample, Function.update_noteq cube.dims_ne.2.2]

@[simp] theorem setSample_sample (cube : HorizonCube) (v : Voxel) (ij : ℚ × ℚ) (d : ℚ) :
    setSample cube v ij d cube.sample.dimension = d := by
  simp [setSample]

/-! ## Blocks of a flat array -/

theorem flatten_block {α : Type} (n : Nat) :
    ∀ (L : List (List α)), (∀ l ∈ L, l.length = n) → ∀ k (hk : k < L.length),
      (L.flatten.drop (k * n)).take n = L[k]
  | [], _, _, hk => absurd hk (Nat.not_lt_zero _)
  | l :: _, hL, 0, _ => by
    rw [Nat.zero_mul, List.drop_zero, List.flatten_cons, List.take_left' (hL l (.head _))]
    rfl
  | l :: L, hL, k + 1, hk => by
    rw [show (k + 1) * n = l.length + k * n by rw [hL l (.head _), Nat.succ_mul, Nat.add_comm],
      List.flatten_cons, List.drop_append]
    exact flatten_block n L (fun l hl => hL l (.tail _ hl)) k (Nat.lt_of_succ_lt_succ hk)

/-- The surface `horizon` builds over a row-major copy of `rows`. -/
def Surface.ofRows (rows : List (List ℚ)) (ncols : Nat) (coordinate : Nat → Nat → ℚ × ℚ) : Surface :=
  ⟨rows.length, ncols, rows.flatten, coordinate⟩

theorem ofRows_value (rows : List (List ℚ)) (ncols : Nat) (coordinate : Nat → Nat → ℚ × ℚ)
    (hrect : ∀ row ∈ rows, row.length = ncols) (i : Nat) (row : List ℚ) (hrow : rows[i]? = some row)
    (j : Nat) (hj : j < ncols) : row[j]? = some ((Surface.ofRows rows ncols coordinate).value i j) := by
  obtain ⟨hi, rfl⟩ := List.getElem?_eq_some_iff.1 hrow
  have hflat : rows.flatten[i * ncols + j]? = rows[i][j]? := by
    rw [← flatten_block ncols rows hrect i hi, List.getElem?_take_of_lt hj, List.getElem?_drop]
  simp [Surface.value, Surface.ofRows, hflat, hrect _ (List.getElem_mem hi), hj]

/-! ## `write_fillvalue` -/

theorem fillBlock_getElem? (dst : List ℚ) {i n : Nat} (fill : ℚ) (h : i + n ≤ dst.length) (k : Nat) :
    (dst.take i ++ List.replicate n fill ++ dst.drop (i + n))[k]? =
      if i ≤ k ∧ k < i + n then some fill else dst[k]? := by
  have htake : (dst.take i).length = i := by simp; omega
  rcases Nat.lt_or_ge k i with hk | hk
  · rw [List.getElem?_append_left (by simp; omega), List.getElem?_append_left (by omega),
      List.getElem?_take_of_lt hk, if_neg (by omega)]
  rcases Nat.lt_or_ge k (i + n) with hk' | hk'
  · rw [List.getElem?_append_left (by simp; omega), List.getElem?_append_right (by omega), htake,
      List.getElem?_replicate_of_lt (by omega), if_pos ⟨hk, hk'⟩]
  · rw [List.getElem?_append_right (by simp; omega), List.getElem?_drop, if_neg (by omega)]
    congr 1
    simp; omega

theorem writeFillvalue_ok (n : Nat) (fill : ℚ) :
    ∀ (novals : List Nat) (dst out : List ℚ), writeFillvalue dst novals n fill = .ok out →
      out.length = dst.length ∧
        ∀ k, out[k]? = if ∃ i ∈ novals, i ≤ k ∧ k < i + n then some fill else dst[k]?
  | [], dst, out, h => by
    cases h
    simp
  | i :: novals, dst, out, h => by
    simp only [writeFillvalue, List.foldlM_cons] at h
    split at h
    · rename_i hfit
      obtain ⟨hlen, hk⟩ := writeFillvalue_ok n fill novals _ out h
      refine ⟨by simp [hlen]; omega, fun k => ?_⟩
      rw [hk, fillBlock_getElem? dst fill hfit]
      by_cases h₁ : ∃ j ∈ novals, j ≤ k ∧ k < j + n <;> by_cases h₂ : i ≤ k ∧ k < i + n <;>
        simp [h₁, h₂]
    · cases h

theorem mem_block_iff {n c t j : Nat} (ht : t < n) :
    (j * n ≤ c * n + t ∧ c * n + t < j * n + n) ↔ j = c := by
  constructor
  · rintro ⟨h₁, h₂⟩
    have hj : (c * n + t) / n = j := Nat.div_eq_of_lt_le h₁ (by rw [Nat.succ_mul]; exact h₂)
    have hc : (c * n + t) / n = c :=
      Nat.div_eq_of_lt_le (Nat.le_add_right _ _) (by rw [Nat.succ_mul]; omega)
    rw [← hj, hc]
  · rintro rfl
    omega

/-! ## One cell

The cells are numbered in row-major order: cell `c` is at row `c / ncols` and
column `c % ncols`. -/

section Cell

variable (cube : HorizonCube) (surface : Surface) (fillvalue : ℚ) (w : VerticalWindow)

/-- The IJ position of cell `c`, moved to the centre of its voxel. -/
def cellIJ (c : Nat) : ℚ × ℚ :=
  let ij := cube.worldToIJ (surface.coordinate (c / surface.ncols) (c % surface.ncols))
  (ij.1 + 1/2, ij.2 + 1/2)

/-- The sample position of cell `c`'s height, moved to the centre of its voxel. -/
def cellK (c : Nat) : ℚ :=
  cube.depthToK (surface.value (c / surface.ncols) (c % surface.ncols)) + 1/2

/-- Cell `c` is recorded in `noval_indicies`: its height is the fill value, or
    its IJ position lies outside the inline or the crossline axis. -/
def NoValue (c : Nat) : Prop :=
  surface.value (c / surface.ncols) (c % surface.ncols) = fillvalue ∨
    ¬(inrange cube.iline (cellIJ cube surface c).1 ∧ inrange cube.xline (cellIJ cube surface c).2)

instance (c : Nat) : Decidable (NoValue cube surface fillvalue c) :=
  inferInstanceAs (Decidable (_ ∨ _))

/-- Cell `c` passes the vertical check: it has no value, or the top and the
    bottom of its window lie on the sample axis. -/
def WindowInside (c : Nat) : Prop :=
  NoValue cube surface fillvalue c ∨
    inrange cube.sample (cellK cube surface c - w.nsamplesAbove) ∧
      inrange cube.sample (cellK cube surface c + w.nsamplesBelow)

instance (c : Nat) : Decidable (WindowInside cube surface fillvalue w c) :=
  inferInstanceAs (Decidable (_ ∨ _))

/-- The voxels of cell `c`: the zero voxels it skips if it has no value, else
    one voxel per sample of its window, from the top down. -/
def cellVoxels (c : Nat) : List Voxel :=
  if NoValue cube surface fillvalue c then List.replicate w.size zeroVoxel
  else (List.range w.size).map fun t : Nat =>
    sampleVoxel cube (cellIJ cube surface c) (cellK cube surface c - w.nsamplesAbove + t)

@[simp] theorem cellVoxels_length (c : Nat) : (cellVoxels cube surface fillvalue w c).length = w.size := by
  unfold cellVoxels; split <;> simp only [List.length_replicate, List.length_map, List.length_range]

/-- `fetch_horizon`'s loop body at cell `c`. -/
def stepCell (toString : ℚ → String) (st : HorizonLoop) (c : Nat) : Except CppFailure HorizonLoop :=
  cellStep cube surface toString fillvalue w st (c / surface.ncols) (c % surface.ncols)

theorem stepCell_ok (toString : ℚ → String) {c : Nat} (h : WindowInside cube surface fillvalue w c)
    (pre : List Voxel) (r : Nat) (novals : List Nat) :
    stepCell cube surface fillvalue w toString
        ⟨pre.length, pre ++ List.replicate (w.size + r) zeroVoxel, novals⟩ c =
      .ok ⟨pre.length + w.size, pre ++ cellVoxels cube surface fillvalue w c ++ List.replicate r zeroVoxel,
        novals ++ if NoValue cube surface fillvalue c then [pre.length] else []⟩ := by
  by_cases hn : NoValue cube surface fillvalue c
  · have hskip : stepCell cube surface fillvalue w toString
        ⟨pre.length, pre ++ List.replicate (w.size + r) zeroVoxel, novals⟩ c =
          .ok (HorizonLoop.skip ⟨pre.length, pre ++ List.replicate (w.size + r) zeroVoxel, novals⟩ w) := by
      simp only [stepCell, cellStep]
      by_cases hfill : surface.value (c / surface.ncols) (c % surface.ncols) = fillvalue
      · rw [if_pos hfill]
      · have hij := hn.resolve_left hfill
        simp only [cellIJ] at hij
        rw [if_neg hfill, if_pos hij]
    rw [hskip, cellVoxels, if_pos hn, if_pos hn, List.replicate_add, List.append_assoc]
    rfl
  · obtain ⟨hfill, hij⟩ := not_or.1 hn
    have hw := h.resolve_left hn
    have hwin := depthLoop_window cube (cellIJ cube surface c) (w.nsamplesAbove + w.nsamplesBelow)
      (cellK cube surface c - w.nsamplesAbove) pre r
    rw [show cellK cube surface c - w.nsamplesAbove + ((w.nsamplesAbove + w.nsamplesBelow : Nat) : ℚ) =
      cellK cube surface c + w.nsamplesBelow by push_cast; ring] at hwin
    simp only [stepCell, cellStep, if_neg hfill]
    simp only [cellIJ, cellK] at hij hw hwin
    rw [if_neg hij, if_neg (not_not.2 hw), VerticalWindow.size, hwin]
    simp [cellVoxels, hn, cellIJ, cellK, VerticalWindow.size]

theorem stepCell_throw (toString : ℚ → String) {c : Nat}
    (h : ¬WindowInside cube surface fillvalue w c) (st : HorizonLoop) :
    stepCell cube surface fillvalue w toString st c =
      .error (.throw (verticalMsg toString (c / surface.ncols) (c % surface.ncols)
        (cellK cube surface c + w.nsamplesBelow) (cellK cube surface c - w.nsamplesAbove)
        cube.sampleMin cube.sampleMax)) := by
  obtain ⟨hn, hw⟩ := not_or.1 h
  obtain ⟨hfill, hij⟩ := not_or.1 hn
  simp only [cellIJ, cellK] at hij hw ⊢
  simp only [stepCell, cellStep, if_neg hfill]
  rw [if_neg hij, if_pos hw]

theorem inrange_zero (axis : Axis) : inrange axis 0 := ⟨le_refl 0, Nat.cast_pos.2 axis.nsamples_pos⟩

theorem cellVoxels_inside {c : Nat} (h : WindowInside cube surface fillvalue w c) {v : Voxel}
    (hv : v ∈ cellVoxels cube surface fillvalue w c) :
    inrange cube.iline (v cube.iline.dimension) ∧ inrange cube.xline (v cube.xline.dimension) ∧
      inrange cube.sample (v cube.sample.dimension) := by
  unfold cellVoxels at hv
  split at hv
  · rw [List.eq_of_mem_replicate hv]
    exact ⟨inrange_zero _, inrange_zero _, inrange_zero _⟩
  · rename_i hn
    have hij := not_not.1 (not_or.1 hn).2
    have hw := h.resolve_left hn
    obtain ⟨t, ht, rfl⟩ := List.mem_map.1 hv
    have ht : (t : ℚ) ≤ w.nsamplesAbove + w.nsamplesBelow := by
      have := List.mem_range.1 ht
      exact_mod_cast (by simp only [VerticalWindow.size] at this; omega : t ≤ w.nsamplesAbove + w.nsamplesBelow)
    simp only [sampleVoxel, setSample_iline, setSample_xline, setSample_sample]
    exact ⟨hij.1, hij.2, by linarith [hw.1.1, (Nat.cast_nonneg t : (0 : ℚ) ≤ t)], by linarith [hw.2.2]⟩

end Cell

/-! ## The loop over the cells -/

theorem foldlM_congr_mem {m : Type → Type} [Monad m] {α β : Type} {f g : α → β → m α} :
    ∀ {l : List β} (a : α), (∀ b ∈ l, ∀ a, f a b = g a b) → l.foldlM f a = l.foldlM g a
  | [], _, _ => rfl
  | b :: l, a, h => by
    simp only [List.foldlM_cons, h b (.head _)]
    exact congrArg _ (funext fun a => foldlM_congr_mem a fun b hb => h b (.tail _ hb))

section Loop

variable (cube : HorizonCube) (surface : Surface) (fillvalue : ℚ) (w : VerticalWindow)
  (toString : ℚ → String)

theorem foldlM_rows (m : Nat) (st : HorizonLoop) :
    (List.range m).foldlM (fun st row => (List.range surface.ncols).foldlM
        (fun st col => cellStep cube surface toString fillvalue w st row col) st) st =
      (List.range (m * surface.ncols)).foldlM (stepCell cube surface fillvalue w toString) st := by
  induction m with
  | zero => rw [Nat.zero_mul]; rfl
  | succ m ih =>
    rw [List.range_succ, List.foldlM_append, ih, Nat.succ_mul, List.range_add, List.foldlM_append]
    refine congrArg _ (funext fun st => ?_)
    simp only [List.foldlM_map, List.foldlM_cons, List.foldlM_nil, bind_pure]
    refine foldlM_congr_mem st fun col hcol st => ?_
    have hcol : col < surface.ncols := List.mem_range.1 hcol
    have hdiv : (m * surface.ncols + col) / surface.ncols = m :=
      Nat.div_eq_of_lt_le (Nat.le_add_right _ _) (by rw [Nat.succ_mul]; omega)
    have hmod : (m * surface.ncols + col) % surface.ncols = col := by
      rw [Nat.mul_comm, Nat.mul_add_mod, Nat.mod_eq_of_lt hcol]
    rw [stepCell, hdiv, hmod]

theorem horizonLoop_eq :
    horizonLoop cube surface toString fillvalue w =
      (List.range (surface.nrows * surface.ncols)).foldlM (stepCell cube surface fillvalue w toString)
        ⟨0, List.replicate (surface.nrows * surface.ncols * w.size) zeroVoxel, []⟩ :=
  foldlM_rows cube surface fillvalue w toString _ _

theorem cellsLoop_ok (n : Nat) :
    ∀ (s : Nat) (pre : List Voxel) (r : Nat) (novals : List Nat), pre.length = s * w.size →
      (∀ c ∈ List.range' s n, WindowInside cube surface fillvalue w c) →
      (List.range' s n).foldlM (stepCell cube surface fillvalue w toString)
          ⟨pre.length, pre ++ List.replicate (n * w.size + r) zeroVoxel, novals⟩ =
        .ok ⟨pre.length + n * w.size,
          pre ++ (List.range' s n).flatMap (cellVoxels cube surface fillvalue w) ++
            List.replicate r zeroVoxel,
          novals ++ ((List.range' s n).filter (NoValue cube surface fillvalue ·)).map (· * w.size)⟩ := by
  induction n with
  | zero => intros; simp; rfl
  | succ n ih =>
    intro s pre r novals hpre hall
    rw [List.range'_succ, List.forall_mem_cons] at hall
    rw [List.range'_succ, List.foldlM_cons, show (n + 1) * w.size + r = w.size + (n * w.size + r) by
      rw [Nat.succ_mul]; omega, stepCell_ok cube surface fillvalue w toString hall.1, ok_bind]
    have := ih (s + 1) (pre ++ cellVoxels cube surface fillvalue w s) r
      (novals ++ if NoValue cube surface fillvalue s then [pre.length] else [])
      (by simp [hpre, Nat.succ_mul]) hall.2
    rw [List.length_append, cellVoxels_length] at this
    rw [this]
    by_cases hs : NoValue cube surface fillvalue s <;>
      simp [hs, hpre, List.filter_cons, Nat.succ_mul, Nat.add_assoc] <;> omega

theorem cellsLoop_throw (n : Nat) {c₀ : Nat} (hc₀ : ¬WindowInside cube surface fillvalue w c₀) :
    ∀ (s : Nat) (pre : List Voxel) (r : Nat) (novals : List Nat), pre.length = s * w.size →
      c₀ ∈ List.range' s n → (∀ c ∈ List.range' s n, c < c₀ → WindowInside cube surface fillvalue w c) →
      (List.range' s n).foldlM (stepCell cube surface fillvalue w toString)
          ⟨pre.length, pre ++ List.replicate (n * w.size + r) zeroVoxel, novals⟩ =
        .error (.throw (verticalMsg toString (c₀ / surface.ncols) (c₀ % surface.ncols)
          (cellK cube surface c₀ + w.nsamplesBelow) (cellK cube surface c₀ - w.nsamplesAbove)
          cube.sampleMin cube.sampleMax)) := by
  induction n with
  | zero => intro s pre r novals _ hmem; simp at hmem
  | succ n ih =>
    intro s pre r novals hpre hmem hbefore
    rw [List.range'_succ] at hmem hbefore ⊢
    rw [List.foldlM_cons]
    rcases Nat.lt_or_ge s c₀ with hs | hs
    · rw [show (n + 1) * w.size + r = w.size + (n * w.size + r) by rw [Nat.succ_mul]; omega,
        stepCell_ok cube surface fillvalue w toString (hbefore s (.head _) hs), ok_bind]
      have := ih (s + 1) (pre ++ cellVoxels cube surface fillvalue w s) r
        (novals ++ if NoValue cube surface fillvalue s then [pre.length] else []) (by simp [hpre, Nat.succ_mul]) (by simp at hmem ⊢; omega)
        (fun c hc => hbefore c (.tail _ hc))
      rwa [List.length_append, cellVoxels_length] at this
    · have : s = c₀ := by simp at hmem; omega
      subst this
      rw [stepCell_throw cube surface fillvalue w toString hc₀, error_bind]

/-- The number of cells of the surface. -/
abbrev Surface.size (surface : Surface) : Nat := surface.nrows * surface.ncols

/-- What `fetch_horizon`'s loop leaves when every cell passes the check: the
    running index at `nsamples`, the blocks of all cells in row-major order, and
    the block index of every cell with no value. -/
def cellsResult : HorizonLoop :=
  ⟨surface.size * w.size, (List.range surface.size).flatMap (cellVoxels cube surface fillvalue w),
    ((List.range surface.size).filter (NoValue cube surface fillvalue ·)).map (· * w.size)⟩

theorem horizonLoop_of_inside (h : ∀ c < surface.size, WindowInside cube surface fillvalue w c) :
    horizonLoop cube surface toString fillvalue w = .ok (cellsResult cube surface fillvalue w) := by
  have := cellsLoop_ok cube surface fillvalue w toString surface.size 0 [] 0 [] (Nat.zero_mul _).symm
    (fun c hc => h c (by simpa using hc))
  simpa [horizonLoop_eq, List.range_eq_range', cellsResult] using this

theorem horizonLoop_of_outside {c₀ : Nat} (hc₀ : c₀ < surface.size)
    (hout : ¬WindowInside cube surface fillvalue w c₀)
    (hbefore : ∀ c < c₀, WindowInside cube surface fillvalue w c) :
    horizonLoop cube surface toString fillvalue w =
      .error (.throw (verticalMsg toString (c₀ / surface.ncols) (c₀ % surface.ncols)
        (cellK cube surface c₀ + w.nsamplesBelow) (cellK cube surface c₀ - w.nsamplesAbove)
        cube.sampleMin cube.sampleMax)) := by
  have := cellsLoop_throw cube surface fillvalue w toString surface.size hout 0 [] 0 [] (Nat.zero_mul _).symm
    (by simpa using hc₀) (fun c _ hc => hbefore c hc)
  simpa [horizonLoop_eq, List.range_eq_range'] using this

theorem horizonLoop_eq_ok {st : HorizonLoop} (h : horizonLoop cube surface toString fillvalue w = .ok st) :
    (∀ c < surface.size, WindowInside cube surface fillvalue w c) ∧
      st = cellsResult cube surface fillvalue w := by
  have hall : ∀ c < surface.size, WindowInside cube surface fillvalue w c := by
    by_contra hbad
    push_neg at hbad
    have hfirst := Nat.find_spec hbad
    rw [horizonLoop_of_outside cube surface fillvalue w toString hfirst.1 hfirst.2
      fun c hc => not_not.1 fun hc' => Nat.find_min hbad hc ⟨hc.trans hfirst.1, hc'⟩] at h
    cases h
  rw [horizonLoop_of_inside cube surface fillvalue w toString hall] at h
  exact ⟨hall, (Except.ok.inj h).symm⟩

/-- The final state of `fetch_horizon`'s loop when every window lies inside
    the cube: the array is filled block by block, one block per cell. -/
structure CellBlocks (st : HorizonLoop) : Prop where
  /-- The running index ends at `nsamples`. -/
  index : st.i = surface.size * w.size
  /-- No voxel is written past the array of `nsamples` voxels. -/
  length : st.samples.length = surface.size * w.size
  /-- Cell `c` owns the entries `[c * vsize, (c + 1) * vsize)`. -/
  blocks : ∀ c < surface.size,
    (st.samples.drop (c * w.size)).take w.size = cellVoxels cube surface fillvalue w c
  /-- Every voxel passed to `read_samples` lies inside the cube. -/
  inside : ∀ v ∈ st.samples, inrange cube.iline (v cube.iline.dimension) ∧
    inrange cube.xline (v cube.xline.dimension) ∧ inrange cube.sample (v cube.sample.dimension)
  /-- `noval_indicies` is the block index of every cell with no value, in order. -/
  novals : st.novals =
    ((List.range surface.size).filter (NoValue cube surface fillvalue ·)).map (· * w.size)

theorem cellsResult_blocks (h : ∀ c < surface.size, WindowInside cube surface fillvalue w c) :
    CellBlocks cube surface fillvalue w (cellsResult cube surface fillvalue w) where
  index := rfl
  length := by simp [cellsResult, List.flatMap_def, Function.comp_def]
  blocks c hc := by
    have := flatten_block w.size ((List.range surface.size).map (cellVoxels cube surface fillvalue w))
      (by simp) c (by simpa using hc)
    simpa [cellsResult, List.flatMap_def] using this
  inside v hv := by
    obtain ⟨c, hc, hv⟩ := List.mem_flatMap.1 hv
    exact cellVoxels_inside cube surface fillvalue w (h c (List.mem_range.1 hc)) hv
  novals := rfl

/-- The response `write_fillvalue` makes of the buffer `read_samples` filled:
    the blocks of the cells with no value hold the fill value, every other
    float is kept. -/
structure FilledBlocks (buffer out : List ℚ) : Prop where
  length : out.length = buffer.length
  /-- Every float of a cell with no value is the fill value; the floats of
      every other cell are those `read_samples` wrote. -/
  blocks : ∀ c < surface.size, ∀ t < w.size, out[c * w.size + t]? =
    if NoValue cube surface fillvalue c then some fillvalue else buffer[c * w.size + t]?
  /-- The floats past the blocks are kept. -/
  rest : ∀ k, surface.size * w.size ≤ k → out[k]? = buffer[k]?

theorem writeFillvalue_blocks {buffer out : List ℚ}
    (h : writeFillvalue buffer (cellsResult cube surface fillvalue w).novals w.size fillvalue = .ok out) :
    FilledBlocks cube surface fillvalue w buffer out := by
  obtain ⟨hlen, hk⟩ := writeFillvalue_ok w.size fillvalue _ buffer out h
  refine ⟨hlen, fun c hc t ht => ?_, fun k hk' => ?_⟩
  · rw [hk]
    congr 1
    simp only [cellsResult, List.mem_map, List.mem_filter, List.mem_range, decide_eq_true_eq]
    refine propext ⟨?_, fun hn => ⟨c * w.size, ⟨c, ⟨hc, hn⟩, rfl⟩, (mem_block_iff ht).2 rfl⟩⟩
    rintro ⟨_, ⟨j, ⟨-, hj⟩, rfl⟩, hb⟩
    rwa [← (mem_block_iff ht).1 hb]
  · rw [hk, if_neg]
    simp only [cellsResult, List.mem_map, List.mem_filter, List.mem_range]
    rintro ⟨_, ⟨j, ⟨hj, -⟩, rfl⟩, -, hb⟩
    have : (j + 1) * w.size ≤ surface.size * w.size := Nat.mul_le_mul_right _ hj
    rw [Nat.succ_mul] at this
    omega

end Loop

/-! ## `fetch_horizon` and `getHorizon` -/

section Fetch

variable (openCube : Except String HorizonCube)
  (readSamples : List Voxel → Nat → Except String (List ℚ)) (toString : ℚ → String)

@[simp] theorem horizonResponse_eq_ok {r : Except CppFailure (List ℚ)} {out : List ℚ} :
    horizonResponse r = .ok out ↔ r = .ok out := by
  rcases r with (_ | _) | _ <;> simp [horizonResponse]

theorem fetchHorizon_eq_ok {surface : Surface} {fillvalue above below : ℚ} {interpolation : Nat}
    {out : List ℚ}
    (h : fetchHorizon openCube readSamples toString surface fillvalue above below interpolation = .ok out) :
    ∃ cube st buffer, openCube = .ok cube ∧
      horizonLoop cube surface toString fillvalue (cube.verticalWindow above below) = .ok st ∧
      readSamples st.samples interpolation = .ok buffer ∧
      writeFillvalue buffer st.novals (cube.verticalWindow above below).size fillvalue = .ok out := by
  simp only [fetchHorizon, bind_eq_ok, mapError_eq_ok] at h
  obtain ⟨cube, hcube, st, hst, buffer, hbuffer, hout⟩ := h
  exact ⟨cube, st, buffer, hcube, hst, hbuffer, hout⟩

theorem getHorizon_of_rows (plane : ℚ → ℚ → ℚ → ℚ → ℚ → Nat → Nat → ℚ × ℚ) {data : List (List ℚ)}
    {ncols : Nat} (hne : data ≠ []) (hcols : 0 < ncols) (hrect : ∀ row ∈ data, row.length = ncols)
    (originX originY increaseX increaseY rotation fillValue above below : ℚ) (interpolation : Int) :
    getHorizon openCube readSamples toString plane data originX originY increaseX increaseY rotation
        fillValue above below interpolation =
      horizonResponse (fetchHorizon openCube readSamples toString
        (Surface.ofRows data ncols (plane originX originY increaseX increaseY rotation)) fillValue
        above below (cEnum interpolation)) := by
  obtain ⟨row0, rows, rfl⟩ := List.exists_cons_of_ne_nil hne
  have h0 : row0.length = ncols := hrect row0 (.head _)
  have hcopy := copyRows_of_width ncols id
    (fun i row => .invalidArgument (rowLengthMsg ncols i row.length)) (row0 :: rows) hrect 0
  have hflat : 0 < (row0 :: rows).flatten.length := by simp [h0, hcols]
  rw [getHorizon, index, dif_pos (List.length_pos.2 hne)]
  simp only [List.getElem_cons_zero, ok_bind, h0]
  rw [hcopy]
  simp only [List.map_id, ok_bind, addr_of_lt hflat, List.drop_zero]
  rfl

/-- `getHorizon` that returns has run `fetch_horizon` on the row-major copy of
    the height map, with the loop over the cells leaving `CellBlocks` and
    `write_fillvalue` leaving `FilledBlocks`. -/
theorem horizon_blocks_of_ok (plane : ℚ → ℚ → ℚ → ℚ → ℚ → Nat → Nat → ℚ × ℚ)
    {data : List (List ℚ)} {ncols : Nat} (hne : data ≠ []) (hcols : 0 < ncols)
    (hrect : ∀ row ∈ data, row.length = ncols)
    (originX originY increaseX increaseY rotation fillValue above below : ℚ) (interpolation : Int)
    {out : List ℚ}
    (hout : getHorizon openCube readSamples toString plane data originX originY increaseX increaseY
      rotation fillValue above below interpolation = .ok out) :
    let surface := Surface.ofRows data ncols (plane originX originY increaseX increaseY rotation)
    (∀ i row, data[i]? = some row → ∀ j < ncols, row[j]? = some (surface.value i j)) ∧
      ∃ cube st buffer, openCube = .ok cube ∧
        horizonLoop cube surface toString fillValue (cube.verticalWindow above below) = .ok st ∧
        CellBlocks cube surface fillValue (cube.verticalWindow above below) st ∧
        readSamples st.samples (cEnum interpolation) = .ok buffer ∧
        FilledBlocks cube surface fillValue (cube.verticalWindow above below) buffer out := by
  intro surface
  rw [getHorizon_of_rows openCube readSamples toString plane hne hcols hrect, horizonResponse_eq_ok] at hout
  obtain ⟨cube, st, buffer, hcube, hst, hbuffer, hfill⟩ := fetchHorizon_eq_ok openCube readSamples toString hout
  obtain ⟨hall, rfl⟩ := horizonLoop_eq_ok cube surface fillValue _ toString hst
  exact ⟨ofRows_value data ncols _ hrect, cube, _, buffer, hcube, hst,
    cellsResult_blocks cube surface fillValue _ hall, hbuffer,
    writeFillvalue_blocks cube surface fillValue _ hfill⟩

/-- `getHorizon` on a cube that opens fails at the first cell, in row-major
    order, whose window leaves the sample axis: with a plain error that names
    the cell's row and column and its window. -/
theorem horizon_first_window_outside (plane : ℚ → ℚ → ℚ → ℚ → ℚ → Nat → Nat → ℚ × ℚ)
    {data : List (List ℚ)} {ncols : Nat} (hne : data ≠ []) (hcols : 0 < ncols)
    (hrect : ∀ row ∈ data, row.length = ncols)
    (originX originY increaseX increaseY rotation fillValue above below : ℚ) (interpolation : Int)
    (cube : HorizonCube) {c₀ : Nat} (hc₀ : c₀ < data.length * ncols)
    (hout : ¬WindowInside cube (Surface.ofRows data ncols (plane originX originY increaseX increaseY rotation))
      fillValue (cube.verticalWindow above below) c₀)
    (hbefore : ∀ c < c₀, WindowInside cube
      (Surface.ofRows data ncols (plane originX originY increaseX increaseY rotation)) fillValue
      (cube.verticalWindow above below) c) :
    getHorizon (.ok cube) readSamples toString plane data originX originY increaseX increaseY
        rotation fillValue above below interpolation =
      .error (.error (.plain (verticalMsg toString (c₀ / ncols) (c₀ % ncols)
        (cellK cube (Surface.ofRows data ncols (plane originX originY increaseX increaseY rotation)) c₀ +
          (cube.verticalWindow above below).nsamplesBelow)
        (cellK cube (Surface.ofRows data ncols (plane originX originY increaseX increaseY rotation)) c₀ -
          (cube.verticalWindow above below).nsamplesAbove)
        cube.sampleMin cube.sampleMax))) := by
  rw [getHorizon_of_rows _ readSamples toString plane hne hcols hrect, fetchHorizon]
  simp only [Except.mapError, ok_bind]
  rw [horizonLoop_of_outside cube _ fillValue _ toString hc₀ hout hbefore]
  rfl

end Fetch

/-- A cube of two samples on each axis, whose transformers are the identity,
    with a window of one sample. -/
def twoSampleCube : HorizonCube where
  iline := ⟨2, 0, by decide⟩
  xline := ⟨2, 1, by decide⟩
  sample := ⟨2, 2, by decide⟩
  dims_ne := by decide
  worldToIJ := id
  depthToK := id
  verticalWindow := fun _ _ => ⟨0, 0⟩
  sampleMin := 0
  sampleMax := 1

/-- `read_samples` that reads the depth coordinate of every voxel. -/
def depthSamples (voxels : List Voxel) (_ : Nat) : Except String (List ℚ) :=
  .ok (voxels.map fun v => v 2)

theorem horizon_of_one_row :
    getHorizon (.ok twoSampleCube) depthSamples toString (fun _ _ _ _ _ _ _ => (0, 0)) [[0, 7]]
        0 0 1 1 0 7 0 0 0 = .ok [1/2, 7] ∧
      let surface := Surface.ofRows [[0, 7]] 2 (fun _ _ => (0, 0))
      (∀ i row, [[(0 : ℚ), 7]][i]? = some row → ∀ j < 2, row[j]? = some (surface.value i j)) ∧
        ∃ cube st buffer, (.ok twoSampleCube : Except String HorizonCube) = .ok cube ∧
          horizonLoop cube surface toString 7 (cube.verticalWindow 0 0) = .ok st ∧
          CellBlocks cube surface 7 (cube.verticalWindow 0 0) st ∧
          depthSamples st.samples (cEnum 0) = .ok buffer ∧
          FilledBlocks cube surface 7 (cube.verticalWindow 0 0) buffer [1/2, 7] := by
  have hout : getHorizon (.ok twoSampleCube) depthSamples toString (fun _ _ _ _ _ _ _ => (0, 0))
      [[0, 7]] 0 0 1 1 0 7 0 0 0 = .ok [1/2, 7] := by
    rw [getHorizon_of_rows _ _ _ _ (by simp) (by decide : 0 < 2)
      (by decide : ∀ row ∈ [[(0 : ℚ), 7]], row.length = 2), horizonResponse_eq_ok]
    have hinside : ∀ c < (Surface.ofRows [[(0 : ℚ), 7]] 2 fun _ _ => (0, 0)).size,
        WindowInside twoSampleCube (Surface.ofRows [[(0 : ℚ), 7]] 2 fun _ _ => (0, 0)) 7
          (twoSampleCube.verticalWindow 0 0) c := by
      intro c hc
      simp only [Surface.size, Surface.ofRows, List.length_singleton, Nat.one_mul] at hc
      interval_cases c
      · right
        norm_num [cellK, Surface.value, Surface.ofRows, inrange, twoSampleCube]
      · exact .inl (.inl rfl)
    rw [fetchHorizon]
    simp only [Except.mapError, ok_bind]
    rw [horizonLoop_of_inside _ _ _ _ _ hinside]
    have hrange : List.range 2 = [0, 1] := rfl
    have hrange₁ : List.range 1 = [0] := rfl
    norm_num [depthSamples, cellsResult, cellVoxels, NoValue, cellIJ, cellK, Surface.value,
      Surface.ofRows, Surface.size, hrange, hrange₁, inrange, twoSampleCube, writeFillvalue, sampleVoxel,
      setSample, VerticalWindow.size, zeroVoxel, List.filter]
  exact ⟨hout, horizon_blocks_of_ok (.ok twoSampleCube) depthSamples toString
    (fun _ _ _ _ _ _ _ => (0, 0)) (by simp) (by decide : 0 < 2)
    (by decide : ∀ row ∈ [[(0 : ℚ), 7]], row.length = 2) 0 0 1 1 0 7 0 0 0 hout⟩

theorem horizon_window_below_cube :
    0 < 1 * 1 ∧
      ¬WindowInside twoSampleCube (Surface.ofRows [[5]] 1 fun _ _ => (0, 0)) 7
        (twoSampleCube.verticalWindow 0 0) 0 ∧
      getHorizon (.ok twoSampleCube) depthSamples toString (fun _ _ _ _ _ _ _ => (0, 0)) [[5]]
          0 0 1 1 0 7 0 0 0 =
        .error (.error (.plain (verticalMsg toString 0 0 (11/2) (11/2) 0 1))) := by
  have hout : ¬WindowInside twoSampleCube (Surface.ofRows [[5]] 1 fun _ _ => (0, 0)) 7
      (twoSampleCube.verticalWindow 0 0) 0 := by
    norm_num [WindowInside, NoValue, cellK, cellIJ, Surface.value, Surface.ofRows, inrange, twoSampleCube]
  refine ⟨by decide, hout, ?_⟩
  have := horizon_first_window_outside depthSamples toString (fun _ _ _ _ _ _ _ => (0, 0))
    (by simp) (by decide : 0 < 1) (by decide : ∀ row ∈ [[(5 : ℚ)]], row.length = 1) 0 0 1 1 0 7 0 0 0
    twoSampleCube (by decide : 0 < 1 * 1) hout (fun c hc => absurd hc (Nat.not_lt_zero c))
  rw [this]
  norm_num [cellK, Surface.value, Surface.ofRows, twoSampleCube]

end OneseismicApi.Vds
