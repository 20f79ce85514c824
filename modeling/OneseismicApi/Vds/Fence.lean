import OneseismicApi.Core.Handle

/-! # Fences of the `vds` package

The `vds` package's `GetFence` copies the fence's `[x y]` pairs into a flat
`C.float` buffer, as `VDSHandle.GetFence` does, and calls `fence` of `vds.cpp`.
`fetch_fence` transforms each point to IJK with the transformer of the chosen
coordinate system, checks it against the inline and crossline axes, shifts it
by half a voxel, and requests one trace per point; `fence` turns an exception
into an error message that `GetFence` returns as a Go error.

Coordinates are exact rationals: the transformers' `double` arithmetic and the
store into a `voxel` are not modelled.
-/

namespace OneseismicApi.Vds

open Go Core

/-- `enum coordinate_system` of `ctypes.h`. -/
def INDEX : Nat := 0
def ANNOTATION : Nat := 1
def CDP : Nat := 2

/-- What `fetch_fence` reads of a cube: the inline and crossline axes (sample
    count and dimension) and the two transformers to IJK positions. -/
structure FenceCube where
  inlineSamples : Nat
  crosslineSamples : Nat
  /-- `inline_axis.dimension()` -/
  inlineDim : Fin 6
  /-- `crossline_axis.dimension()` -/
  crosslineDim : Fin 6
  /-- Inline and crossline are different dimensions of the cube. -/
  dims_ne : inlineDim ≠ crosslineDim
  /-- `AnnotationToIJKPosition` -/
  annotationToIJK : ℚ × ℚ → ℚ × ℚ × ℚ
  /-- `WorldToIJKPosition` -/
  worldToIJK : ℚ × ℚ → ℚ × ℚ × ℚ

/-- `voxel`: one coordinate per dimension of OpenVDS. -/
abbrev Voxel := Fin 6 → ℚ

/-- How `fetch_fence` can end other than with a response: an exception, or a
    read outside the coordinates buffer. -/
inductive CppFailure where
  | throw (what : String)
  | fault
  deriving DecidableEq, Repr

/-- `*(coordinates++)`: the float at position `k` of the buffer. -/
def readFloat (coordinates : List ℚ) (k : Nat) : Except CppFailure ℚ :=
  match coordinates[k]? with
  | some v => .ok v
  | none => .error .fault

/-- `transform_coordinate`. -/
def transformCoordinate (cube : FenceCube) (coordinateSystem : Nat) (p : ℚ × ℚ) :
    Except CppFailure (ℚ × ℚ × ℚ) :=
  if coordinateSystem = INDEX then .ok (p.1, p.2, 0)
  else if coordinateSystem = ANNOTATION then .ok (cube.annotationToIJK p)
  else if coordinateSystem = CDP then .ok (cube.worldToIJK p)
  else .error (.throw "Unhandled coordinate system")

/-- The message of `validate_boundary`. -/
def boundaryMsg (x y : String) (voxel : Nat) : String :=
  s!"Coordinate ({x},{y}) is out of boundaries in dimension {voxel}."

/-- `coordinate[voxel]` for the two dimensions `validate_boundary` checks. -/
def horizontal (coordinate : ℚ × ℚ × ℚ) (voxel : Nat) : ℚ :=
  if voxel = 0 then coordinate.1 else coordinate.2.1

/-- A position lies inside an axis of `nsamples` samples, voxel centres at the
    integers: `[-0.5, nsamples - 0.5)`. -/
def InAxis (c : ℚ) (nsamples : Nat) : Prop := -1/2 ≤ c ∧ c < nsamples - 1/2

instance (c : ℚ) (nsamples : Nat) : Decidable (InAxis c nsamples) :=
  inferInstanceAs (Decidable (_ ∧ _))

/-- `validate_boundary(voxel, axis)`; `toString` prints a `float` as
    `std::to_string` does. -/
def validateBoundary (toString : ℚ → String) (p : ℚ × ℚ) (coordinate : ℚ × ℚ × ℚ) (voxel : Nat)
    (nsamples : Nat) : Except CppFailure Unit :=
  if InAxis (horizontal coordinate voxel) nsamples then .ok ()
  else .error (.throw (boundaryMsg (toString p.1) (toString p.2) voxel))

/-- The voxel `fetch_fence` requests for a checked IJK position: half a voxel
    further on the inline and crossline dimensions, `0` elsewhere. -/
def traceVoxel (cube : FenceCube) (coordinate : ℚ × ℚ × ℚ) : Voxel :=
  Function.update (Function.update (fun _ => 0) cube.inlineDim (coordinate.1 + 1/2))
    cube.crosslineDim (coordinate.2.1 + 1/2)

/-- A pass of `fetch_fence`'s loop after it reads the point: the transform,
    the checks against the inline and the crossline axis, and the voxel. -/
def checkPoint (cube : FenceCube) (coordinateSystem : Nat) (toString : ℚ → String)
    (p : ℚ × ℚ) : Except CppFailure Voxel := do
  let coordinate ← transformCoordinate cube coordinateSystem p
  validateBoundary toString p coordinate 0 cube.inlineSamples
  validateBoundary toString p coordinate 1 cube.crosslineSamples
  pure (traceVoxel cube coordinate)

/-- One pass of `fetch_fence`'s loop, for point `i`. -/
def fencePoint (cube : FenceCube) (coordinateSystem : Nat) (toString : ℚ → String)
    (coordinates : List ℚ) (coords : List Voxel) (i : Nat) : Except CppFailure (List Voxel) := do
  let x ← readFloat coordinates (2 * i)
  let y ← readFloat coordinates (2 * i + 1)
  let voxel ← checkPoint cube coordinateSystem toString (x, y)
  pure (coords.set i voxel)

/-- `fetch_fence`: `openCube` is the cube as `DataHandle` opens it, or the
    exception it throws, and `readTraces` the data of `read_traces` for the
    requested voxels. -/
def fetchFence (openCube : Except String FenceCube)
    (readTraces : List Voxel → Nat → Except String (List UInt8)) (toString : ℚ → String)
    (coordinateSystem : Nat) (coordinates : List ℚ) (npoints interpolation : Nat) :
    Except CppFailure (List UInt8) := do
  let cube ← openCube.mapError .throw
  let coords ← (List.range npoints).foldlM (fencePoint cube coordinateSystem toString coordinates)
    (List.replicate npoints fun _ => 0)
  (readTraces coords interpolation).mapError .throw

/-- `fence`'s `catch`, which turns an exception into `result.err`, and
    `GetFence`'s handling of the response: `errors.New(err)`, or
    `C.GoBytes(result.data, C.int(result.size))`. -/
def fenceResponse : Except CppFailure (List UInt8) → Outcome (List UInt8)
  | .ok data => goBytes data (cInt data.length)
  | .error (.throw what) => .error (.error (.plain what))
  | .error .fault => .error .fault

/-- `GetFence` of the `vds` package: the copy of `VDSHandle.GetFence`, then
    `fence`. -/
def getFence (openCube : Except String FenceCube)
    (readTraces : List Voxel → Nat → Except String (List UInt8)) (fmt : Fmt ℚ)
    (coordinateSystem : Int) (coordinates : List (List ℚ)) (interpolation : Int) :
    Outcome (List UInt8) := do
  let ccoordinates ← coordinates.enum.foldlM
    (copyRow coordinateLen id
      fun i coordinate => .invalidArgument (coordinateMsg (fmt.floats coordinate) i))
    (List.replicate (coordinates.length * coordinateLen) 0)
  let first ← addr ccoordinates 0
  fenceResponse (fetchFence openCube readTraces fmt.float (cEnum coordinateSystem) first
    coordinates.length (cEnum interpolation))

/-- Both horizontal coordinates of an IJK position lie inside their axes. -/
def FenceCube.InRange (cube : FenceCube) (c : ℚ × ℚ × ℚ) : Prop :=
  InAxis c.1 cube.inlineSamples ∧ InAxis c.2.1 cube.crosslineSamples

section Spec

variable {cube : FenceCube} {coordinateSystem : Nat} {toString : ℚ → String}

theorem checkPoint_of_inRange {p : ℚ × ℚ} {c : ℚ × ℚ × ℚ}
    (hT : transformCoordinate cube coordinateSystem p = .ok c) (h : cube.InRange c) :
    checkPoint cube coordinateSystem toString p = .ok (traceVoxel cube c) := by
  simp [checkPoint, hT, validateBoundary, horizontal, h.1, h.2]

theorem checkPoint_of_not_inRange {p : ℚ × ℚ} {c : ℚ × ℚ × ℚ}
    (hT : transformCoordinate cube coordinateSystem p = .ok c) (h : ¬cube.InRange c) :
    checkPoint cube coordinateSystem toString p =
      .error (.throw (boundaryMsg (toString p.1) (toString p.2)
        (if InAxis c.1 cube.inlineSamples then 1 else 0))) := by
  unfold FenceCube.InRange at h
  by_cases h₀ : InAxis c.1 cube.inlineSamples
  · have h₁ : ¬InAxis c.2.1 cube.crosslineSamples := fun h₁ => h ⟨h₀, h₁⟩
    simp [checkPoint, hT, validateBoundary, horizontal, h₀, h₁]
  · simp [checkPoint, hT, validateBoundary, horizontal, h₀]

theorem flat_pairs_getElem? (pairs : List (ℚ × ℚ)) :
    ∀ i (hi : i < pairs.length),
      ((pairs.map fun q => [q.1, q.2]).flatten)[2 * i]? = some pairs[i].1 ∧
        ((pairs.map fun q => [q.1, q.2]).flatten)[2 * i + 1]? = some pairs[i].2 := by
  induction pairs with
  | nil => intro i hi; simp at hi
  | cons q pairs ih =>
    intro i hi
    cases i with
    | zero => simp
    | succ i =>
      have := ih i (by simpa using hi)
      simpa [Nat.mul_succ, List.getElem?_cons_succ] using this

theorem foldlM_fencePoint (pairs : List (ℚ × ℚ)) (z : Voxel) :
    ∀ n ≤ pairs.length,
      (List.range n).foldlM (fencePoint cube coordinateSystem toString
          (pairs.map fun q => [q.1, q.2]).flatten) (List.replicate pairs.length z) =
        ((pairs.take n).mapM (checkPoint cube coordinateSystem toString)).map
          (· ++ List.replicate (pairs.length - n) z) := by
  intro n
  induction n with
  | zero => intro; simp; rfl
  | succ n ih =>
    intro hn
    obtain ⟨hx, hy⟩ := flat_pairs_getElem? pairs n (by omega)
    rw [List.range_succ, List.foldlM_append, ih (by omega), List.take_succ,
      List.getElem?_eq_getElem (by omega), Option.toList_some, List.mapM_append]
    cases hvs : (pairs.take n).mapM (checkPoint cube coordinateSystem toString) with
    | error e => rfl
    | ok vs =>
      have hlen : vs.length = n := by
        rw [mapM_ok_length _ _ _ hvs]; simp; omega
      simp only [Except.map, ok_bind, List.foldlM_cons, List.foldlM_nil, fencePoint, readFloat,
        hx, hy, List.mapM_cons, List.mapM_nil]
      cases hp : checkPoint cube coordinateSystem toString pairs[n] with
      | error e => rfl
      | ok v =>
        show Except.ok _ = Except.ok _
        congr 1
        have hk : pairs.length - n = pairs.length - (n + 1) + 1 := by omega
        rw [List.set_append_right _ _ (by omega), hlen, Nat.sub_self, hk, List.replicate_succ,
          List.set_cons_zero]
        simp

theorem fetchFence_pairs (readTraces : List Voxel → Nat → Except String (List UInt8))
    (pairs : List (ℚ × ℚ)) (interpolation : Nat) :
    fetchFence (.ok cube) readTraces toString coordinateSystem
        (pairs.map fun q => [q.1, q.2]).flatten pairs.length interpolation =
      pairs.mapM (checkPoint cube coordinateSystem toString) >>= fun coords =>
        (readTraces coords interpolation).mapError .throw := by
  have hloop := @foldlM_fencePoint cube coordinateSystem toString pairs (fun _ => 0)
    pairs.length le_rfl
  rw [List.take_length, Nat.sub_self, List.replicate_zero] at hloop
  simp only [fetchFence, Except.mapError, ok_bind, hloop]
  cases pairs.mapM (checkPoint cube coordinateSystem toString) <;> simp [Except.map]

theorem traceVoxel_inside {c : ℚ × ℚ × ℚ} (h : cube.InRange c) :
    0 ≤ traceVoxel cube c cube.inlineDim ∧ traceVoxel cube c cube.inlineDim < cube.inlineSamples ∧
      0 ≤ traceVoxel cube c cube.crosslineDim ∧
        traceVoxel cube c cube.crosslineDim < cube.crosslineSamples := by
  obtain ⟨⟨h₁, h₂⟩, h₃, h₄⟩ := h
  simp only [traceVoxel, Function.update_same, Function.update_noteq cube.dims_ne]
  refine ⟨by linarith, by linarith, by linarith, by linarith⟩

end Spec

section GetFence

variable {readTraces : List Voxel → Nat → Except String (List UInt8)} {fmt : Fmt ℚ}
  {coordinateSystem interpolation : Int}

theorem getFence_pairs (cube : FenceCube) (pairs : List (ℚ × ℚ)) (hne : pairs ≠ []) :
    getFence (.ok cube) readTraces fmt coordinateSystem (pairs.map fun q => [q.1, q.2])
        interpolation =
      fenceResponse (pairs.mapM (checkPoint cube (cEnum coordinateSystem) fmt.float) >>=
        fun coords => (readTraces coords (cEnum interpolation)).mapError .throw) := by
  have hcopy := copyRows_of_width coordinateLen id
    (fun i coordinate => .invalidArgument (coordinateMsg (fmt.floats coordinate) i))
    (pairs.map fun q => [q.1, q.2])
    (fun row hrow => by obtain ⟨q, -, rfl⟩ := List.mem_map.1 hrow; rfl) 0
  have hflat : 0 < ((pairs.map fun q => [q.1, q.2]).flatten).length := by
    obtain ⟨q, qs, rfl⟩ := List.exists_cons_of_ne_nil hne
    simp
  rw [getFence, hcopy]
  simp only [List.map_id, ok_bind, addr_of_lt hflat, List.drop_zero, List.length_map]
  rw [fetchFence_pairs]

/-- `GetFence` of the `vds` package on no points panics at `&ccoordinates[0]`
    before `fetch_fence` is reached. -/
theorem fence_of_no_points_panics (openCube : Except String FenceCube) :
    getFence openCube readTraces fmt coordinateSystem [] interpolation =
      .error (.panic (.indexOutOfRange 0 0)) := rfl

/-- `GetFence` of the `vds` package, for a coordinate system whose transform
    `T` applies to every point: it rejects the first entry that is not an
    `[x y]` pair; otherwise it fails with the message of the first point
    outside the inline or crossline axis, naming dimension 0 when the inline
    coordinate is out and 1 otherwise; and otherwise, for a non-empty list, it
    reads one trace per point in input order, at `T(p)` shifted by half a
    voxel on the inline and crossline dimensions, inside `[0, n)` on both. -/
theorem fence_points_in_order (cube : FenceCube) (T : ℚ × ℚ → ℚ × ℚ × ℚ)
    (hT : ∀ p, transformCoordinate cube (cEnum coordinateSystem) p = .ok (T p)) :
    (∀ good bad more, (∀ p ∈ good, p.length = 2) → bad.length ≠ 2 →
      getFence (.ok cube) readTraces fmt coordinateSystem (good ++ bad :: more) interpolation =
        .error (.error (.invalidArgument (coordinateMsg (fmt.floats bad) good.length)))) ∧
    (∀ good p more, (∀ q ∈ good, cube.InRange (T q)) → ¬cube.InRange (T p) →
      getFence (.ok cube) readTraces fmt coordinateSystem
          ((good ++ p :: more).map fun q => [q.1, q.2]) interpolation =
        .error (.error (.plain (boundaryMsg (fmt.float p.1) (fmt.float p.2)
          (if InAxis (T p).1 cube.inlineSamples then 1 else 0))))) ∧
    (∀ pairs, pairs ≠ [] → (∀ q ∈ pairs, cube.InRange (T q)) →
      getFence (.ok cube) readTraces fmt coordinateSystem (pairs.map fun q => [q.1, q.2])
          interpolation =
        fenceResponse ((readTraces (pairs.map fun q => traceVoxel cube (T q))
          (cEnum interpolation)).mapError .throw) ∧
      ∀ q ∈ pairs, 0 ≤ traceVoxel cube (T q) cube.inlineDim ∧
        traceVoxel cube (T q) cube.inlineDim < cube.inlineSamples ∧
        0 ≤ traceVoxel cube (T q) cube.crosslineDim ∧
        traceVoxel cube (T q) cube.crosslineDim < cube.crosslineSamples) := by
  refine ⟨fun good bad more hgood hbad => ?_, fun good p more hgood hp => ?_,
    fun pairs hne hin => ⟨?_, fun q hq => traceVoxel_inside (hin q hq)⟩⟩
  · simp only [getFence, copyRows_error coordinateLen id _ good bad more hgood hbad, error_bind]
  · rw [getFence_pairs cube _ (by simp), mapM_append_error more (checkPoint_of_not_inRange (hT p) hp)
      fun q hq => ⟨_, checkPoint_of_inRange (hT q) (hgood q hq)⟩]
    rfl
  · rw [getFence_pairs cube _ hne, mapM_eq_ok fun q hq => checkPoint_of_inRange (hT q) (hin q hq)]
    rfl

end GetFence

/-- A cube of four inlines on dimension 2 and four crosslines on dimension 1,
    whose annotation and world coordinates are its indices. -/
def fourByFourCube : FenceCube where
  inlineSamples := 4
  crosslineSamples := 4
  inlineDim := 2
  crosslineDim := 1
  dims_ne := by decide
  annotationToIJK p := (p.1, p.2, 0)
  worldToIJK p := (p.1, p.2, 0)

/-- A fence whose second point is past the last crossline fails on
    dimension 1. -/
theorem fence_second_point_outside :
    getFence (.ok fourByFourCube) (fun _ _ => .ok []) ⟨fun _ => "", fun _ => ""⟩ 0
        [[1, 1], [1, 9]] 0 =
      .error (.error (.plain (boundaryMsg "" "" 1))) := by
  have h := (@fence_points_in_order (fun _ _ => .ok []) ⟨fun _ => "", fun _ => ""⟩ 0 0
    fourByFourCube (fun p => (p.1, p.2, 0)) fun _ => rfl).2.1 [(1, 1)] (1, 9) []
    (by norm_num [FenceCube.InRange, InAxis, fourByFourCube])
    (by norm_num [FenceCube.InRange, InAxis, fourByFourCube])
  norm_num [InAxis, fourByFourCube] at h
  exact h

end OneseismicApi.Vds
