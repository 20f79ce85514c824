import OneseismicApi.Go

/-! # Height maps and their C buffers

`RegularSurface` is the height map of an attribute request. `toCdata` copies it
row by row into one flat buffer of `C.float`, checking that every row has the
length of row 0 and moving every height that is not the fill value by a shift;
`toCRegularSurface` passes that buffer to `regular_surface_new`.

Heights are kept abstract: any type with the addition, negation, zero and `==`
the Go code applies to `float32`.
-/

namespace OneseismicApi.Core

open Go

/-- `RegularSurface` of `core.go`: the height map and its plane. -/
structure RegularSurface (α : Type) where
  values : List (List α)
  rotation : α
  xori : α
  yori : α
  xinc : α
  yinc : α
  /-- Any height equal to `fillValue` is ignored. -/
  fillValue : α
  deriving Repr

/-- The arguments of `regular_surface_new`: the buffer from `&cdata[0]` on, the
    shape, the plane and the fill value. -/
structure CRegularSurface (α : Type) where
  data : List α
  nrows : Nat
  ncols : Nat
  xori : α
  yori : α
  xinc : α
  yinc : α
  rotation : α
  fillvalue : α

section Rows

/-! ## Row-major copies

`toCdata` and `GetFence` copy a `[][]float32` into one flat C buffer the same
way: each row must have `width` elements, else the copy stops with an error
for that row, and element `j` of row `i` goes to `buf[i*width+j]`. -/

variable {α : Type} (width : Nat) (f : α → α) (lengthError : Nat → List α → GoError)

/-- `buf[i*width+j] = f(value)` for the value at column `j` of row `i`. -/
def writeCell (i : Nat) (buf : List α) (cell : Nat × α) : Outcome (List α) :=
  assign buf (i * width + cell.1) (f cell.2)

/-- One pass of the loop over the rows: the length check, then the inner loop
    over the row's values. -/
def copyRow (buf : List α) (row : Nat × List α) : Outcome (List α) :=
  if row.2.length ≠ width then .error (.error (lengthError row.1 row.2))
  else row.2.enum.foldlM (writeCell width f row.1) buf

theorem foldlM_writeCell (i : Nat) (row : List α) :
    ∀ (j : Nat) (pre rest : List α), pre.length = i * width + j → row.length ≤ rest.length →
      (row.enumFrom j).foldlM (writeCell width f i) (pre ++ rest) =
        .ok (pre ++ row.map f ++ rest.drop row.length) := by
  induction row with
  | nil => intros; simp; rfl
  | cons v row ih =>
    intro j pre rest hpre hlen
    obtain ⟨r, rest, rfl⟩ : ∃ r rest', rest = r :: rest' :=
      List.exists_cons_of_length_pos (by simp at hlen; omega)
    have hcell : writeCell width f i (pre ++ r :: rest) (j, v) = .ok ((pre ++ [f v]) ++ rest) := by
      rw [writeCell, ← hpre, assign_append]; simp
    simp only [List.enumFrom_cons, List.foldlM_cons, hcell, ok_bind]
    rw [ih (j + 1) _ _ (by simp; omega) (by simp at hlen; omega)]
    simp

theorem copyRow_of_length (i : Nat) (row pre rest : List α) (hrow : row.length = width)
    (hpre : pre.length = i * width) (hlen : width ≤ rest.length) :
    copyRow width f lengthError (pre ++ rest) (i, row) = .ok ((pre ++ row.map f) ++ rest.drop width) := by
  rw [copyRow, if_neg (by simp [hrow]), List.enum, foldlM_writeCell width f i row 0 _ _
    (by simp [hpre]) (by omega), hrow]

theorem foldlM_copyRow (rows : List (List α)) (hrows : ∀ row ∈ rows, row.length = width) :
    ∀ (i : Nat) (pre rest : List α), pre.length = i * width → rows.length * width ≤ rest.length →
      (rows.enumFrom i).foldlM (copyRow width f lengthError) (pre ++ rest) =
        .ok (pre ++ rows.flatten.map f ++ rest.drop (rows.length * width)) := by
  induction rows with
  | nil => intros; simp; rfl
  | cons row rows ih =>
    intro i pre rest hpre hlen
    have hrow : row.length = width := hrows row (.head _)
    simp only [List.length_cons, Nat.succ_mul] at hlen
    simp only [List.enumFrom_cons, List.foldlM_cons,
      copyRow_of_length width f lengthError i row pre rest hrow hpre (by omega), ok_bind]
    rw [ih (fun r hr => hrows r (.tail _ hr)) (i + 1) _ _ (by simp [hpre, hrow, Nat.succ_mul])
      (by simp; omega)]
    simp [List.drop_drop, Nat.succ_mul, Nat.add_comm width]

theorem foldlM_copyRow_error (good : List (List α)) (bad : List α) (more : List (List α))
    (hgood : ∀ row ∈ good, row.length = width) (hbad : bad.length ≠ width) :
    ∀ (i : Nat) (pre rest : List α), pre.length = i * width → good.length * width ≤ rest.length →
      ((good ++ bad :: more).enumFrom i).foldlM (copyRow width f lengthError) (pre ++ rest) =
        .error (.error (lengthError (i + good.length) bad)) := by
  induction good with
  | nil => intros; simp [List.foldlM_cons, copyRow, hbad]
  | cons row good ih =>
    intro i pre rest hpre hlen
    have hrow : row.length = width := hgood row (.head _)
    simp only [List.length_cons, Nat.succ_mul] at hlen
    simp only [List.cons_append, List.enumFrom_cons, List.foldlM_cons,
      copyRow_of_length width f lengthError i row pre rest hrow hpre (by omega), ok_bind]
    rw [ih (fun r hr => hgood r (.tail _ hr)) (i + 1) _ _ (by simp [hpre, hrow, Nat.succ_mul])
      (by simp; omega)]
    simp [Nat.add_assoc, Nat.add_comm 1]

theorem copyRows_of_width (rows : List (List α)) (hrows : ∀ row ∈ rows, row.length = width)
    (z : α) :
    rows.enum.foldlM (copyRow width f lengthError) (List.replicate (rows.length * width) z) =
      .ok (rows.flatten.map f) := by
  simpa using foldlM_copyRow width f lengthError rows hrows 0 [] _ (Nat.zero_mul _).symm
    (List.length_replicate _ z).ge

theorem copyRows_error (good : List (List α)) (bad : List α) (more : List (List α))
    (hgood : ∀ row ∈ good, row.length = width) (hbad : bad.length ≠ width) (z : α) :
    (good ++ bad :: more).enum.foldlM (copyRow width f lengthError)
        (List.replicate ((good ++ bad :: more).length * width) z) =
      .error (.error (lengthError good.length bad)) := by
  simpa using foldlM_copyRow_error width f lengthError good bad more hgood hbad 0 []
    (List.replicate ((good ++ bad :: more).length * width) z) (Nat.zero_mul _).symm
    (by simp [Nat.add_mul])

end Rows

section Cdata

variable {α : Type} [Add α] [BEq α]

/-- The height `toCdata` stores for `value`: a fill value is kept as it is,
    every other height is moved by `shift`. -/
def shiftHeight (fill shift value : α) : α := if value == fill then value else value + shift

/-- The message of `toCdata`'s row length check. -/
def rowLengthMsg (ncols i len : Nat) : String :=
  s!"Surface rows are not of the same length. Row 0 has {ncols} elements. Row {i} has {len} elements"

/-- `RegularSurface.toCdata`. -/
def RegularSurface.toCdata [Zero α] (surface : RegularSurface α) (shift : α) : Outcome (List α) := do
  let nrows := surface.values.length
  let ncols := (← index surface.values 0).length
  surface.values.enum.foldlM
    (copyRow ncols (shiftHeight surface.fillValue shift)
      fun i row => .invalidArgument (rowLengthMsg ncols i row.length))
    (List.replicate (nrows * ncols) 0)

/-- Every row has the length of row 0: what `toCdata`'s check accepts. -/
def RegularSurface.Rectangular (surface : RegularSurface α) : Prop :=
  ∀ row ∈ surface.values, row.length = (surface.values.headD []).length

instance (surface : RegularSurface α) : Decidable surface.Rectangular :=
  List.decidableBAll (fun row : List α => row.length = (surface.values.headD []).length) surface.values

theorem toCdata_of_rectangular [Zero α] (surface : RegularSurface α) (hne : surface.values ≠ [])
    (hrect : surface.Rectangular) (shift : α) :
    surface.toCdata shift = .ok (surface.values.flatten.map (shiftHeight surface.fillValue shift)) := by
  obtain ⟨row0, rows, hv⟩ := List.exists_cons_of_ne_nil hne
  have hrows : ∀ row ∈ surface.values, row.length = row0.length := by
    simpa [RegularSurface.Rectangular, hv] using hrect
  simpa [RegularSurface.toCdata, index, hv] using
    copyRows_of_width _ _ _ surface.values hrows 0

/-- The three buffers `GetAttributes` builds from one surface,
    `toCdata(0)`, `toCdata(-above)` and `toCdata(below)`: a cell that holds the
    fill value keeps it in all three, and every other cell of height `v` holds
    `v + 0`, `v - above` and `v + below`. -/
theorem surface_buffers_cells [Zero α] [Neg α] (surface : RegularSurface α) (above below : α)
    (hne : surface.values ≠ []) (hrect : surface.Rectangular) :
    ∃ primary top bottom : List α,
      surface.toCdata 0 = .ok primary ∧ surface.toCdata (-above) = .ok top ∧
      surface.toCdata below = .ok bottom ∧
      primary.length = surface.values.flatten.length ∧ top.length = surface.values.flatten.length ∧
      bottom.length = surface.values.flatten.length ∧
      ∀ (k : Nat) (v : α), surface.values.flatten[k]? = some v →
        ((v == surface.fillValue) = true →
          primary[k]? = some v ∧ top[k]? = some v ∧ bottom[k]? = some v) ∧
        ((v == surface.fillValue) = false →
          primary[k]? = some (v + 0) ∧ top[k]? = some (v + -above) ∧ bottom[k]? = some (v + below)) := by
  refine ⟨_, _, _, toCdata_of_rectangular surface hne hrect 0,
    toCdata_of_rectangular surface hne hrect (-above), toCdata_of_rectangular surface hne hrect below,
    List.length_map _ _, List.length_map _ _, List.length_map _ _, fun k v hk => ?_⟩
  simp only [List.getElem?_map, hk, Option.map_some', shiftHeight]
  constructor <;> intro hv <;> simp [hv]

end Cdata

/-- A one-cell surface is rectangular, and its top buffer for `above = 8` has
    one cell. -/
theorem surface_buffers_of_one_cell :
    ([[8]] : List (List ℚ)) ≠ [] ∧ (⟨[[8]], 0, 0, 0, 1, 1, 0⟩ : RegularSurface ℚ).Rectangular ∧
      ∃ top : List ℚ, (⟨[[8]], 0, 0, 0, 1, 1, 0⟩ : RegularSurface ℚ).toCdata (-8) = .ok top ∧
        top.length = 1 :=
  let ⟨_, top, _, _, htop, _, _, hlen, _, _⟩ :=
    surface_buffers_cells (⟨[[8]], 0, 0, 0, 1, 1, 0⟩ : RegularSurface ℚ) 8 0 (by decide) (by decide)
  ⟨by decide, by decide, top, htop, hlen⟩

/-- The heights of a surface on which a height `above` over the fill value is
    shifted onto it: `toCdata(-above)` makes the cell a fill cell of the top
    buffer, while it is not one of the primary buffer. -/
theorem top_cell_becomes_fill :
    ∃ (surface : RegularSurface ℚ) (above below : ℚ) (primary top : List ℚ),
      0 ≤ above ∧ 0 ≤ below ∧ surface.values ≠ [] ∧ surface.Rectangular ∧
      surface.toCdata 0 = .ok primary ∧ surface.toCdata (-above) = .ok top ∧
      primary[0]? ≠ some surface.fillValue ∧ top[0]? = some surface.fillValue :=
  ⟨⟨[[8]], 0, 0, 0, 1, 1, 0⟩, 8, 0, [8], [0], by decide, by decide, by decide, by decide,
    by rw [toCdata_of_rectangular _ (by decide) (by decide)]; simp [shiftHeight],
    by rw [toCdata_of_rectangular _ (by decide) (by decide)]; simp [shiftHeight], by decide, rfl⟩

/-- `RegularSurface.toCRegularSurface`: `regularSurfaceNew` answers the call of
    `C.regular_surface_new` with a status and the message left in its context. -/
def RegularSurface.toCRegularSurface {α : Type} (surface : RegularSurface α)
    (regularSurfaceNew : CRegularSurface α → Int × String) (cdata : List α) :
    Outcome (CRegularSurface α) := do
  let nrows := surface.values.length
  let ncols := (← index surface.values 0).length
  let data ← addr cdata 0
  let cSurface : CRegularSurface α := ⟨data, nrows, ncols, surface.xori, surface.yori,
    surface.xinc, surface.yinc, surface.rotation, surface.fillValue⟩
  orFail (regularSurfaceNew cSurface).1 (regularSurfaceNew cSurface).2
  pure cSurface

theorem toCRegularSurface_nil {α : Type} (surface : RegularSurface α)
    (regularSurfaceNew : CRegularSurface α → Int × String) (hne : surface.values ≠ []) :
    surface.toCRegularSurface regularSurfaceNew [] = .error (.panic (.indexOutOfRange 0 0)) := by
  obtain ⟨row0, rows, hv⟩ := List.exists_cons_of_ne_nil hne
  simp [RegularSurface.toCRegularSurface, index, hv]

theorem toCRegularSurface_ok {α : Type} (surface : RegularSurface α)
    {regularSurfaceNew : CRegularSurface α → Int × String} {cdata : List α}
    (hne : surface.values ≠ []) (hdata : cdata ≠ [])
    (hok : ∀ s, (regularSurfaceNew s).1 = STATUS_OK) :
    ∃ cs, surface.toCRegularSurface regularSurfaceNew cdata = .ok cs := by
  obtain ⟨row0, rows, hv⟩ := List.exists_cons_of_ne_nil hne
  simp [RegularSurface.toCRegularSurface, index, hv, addr_of_lt (List.length_pos.2 hdata), hok]

end OneseismicApi.Core
