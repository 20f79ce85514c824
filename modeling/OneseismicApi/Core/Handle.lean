import OneseismicApi.Core.Surface

/-! # Requests of a `VDSHandle`

Every request method of `VDSHandle` converts its Go arguments to C, calls one
function of `capi.h`, turns the status code into an error with `toError`, and
copies the `struct response` the C side filled into Go with
`C.GoBytes(result.data, C.int(result.size))`.

The C side is a parameter of the model, `CApi`: each of its functions answers
a call with the status code, the message left in the context, and the bytes of
the response (`result.size` is their number).
-/

namespace OneseismicApi.Core

open Go

/-- The functions of `capi.h` that `VDSHandle` calls, as seen from Go. -/
structure CApi (α : Type) where
  metadata : Int × String × List UInt8
  /-- `slice(ctx, handle, lineno, direction, &result)` -/
  slice : Int → Nat → Int × String × List UInt8
  /-- `slice_metadata(ctx, handle, lineno, direction, &result)` -/
  sliceMetadata : Int → Nat → Int × String × List UInt8
  /-- `fence(ctx, handle, coordinate_system, coordinates, npoints, interpolation,
      fillvalue, &result)`: the coordinates from `&ccoordinates[0]` on. -/
  fence : Nat → List α → Nat → Nat → Option α → Int × String × List UInt8
  /-- `fence_metadata(ctx, handle, npoints, &result)` -/
  fenceMetadata : Nat → Int × String × List UInt8
  /-- `attribute_metadata(ctx, handle, nrows, ncols, &result)` -/
  attributeMetadata : Nat → Nat → Int × String × List UInt8
  /-- `regular_surface_new(ctx, data, nrows, ncols, xori, yori, xinc, yinc, rot,
      fillvalue, &surface)` -/
  regularSurfaceNew : CRegularSurface α → Int × String
  /-- `horizon_buffer_offsets(ctx, handle, primary, top, bottom, &dataOffset[0],
      size)`: the status, the message, and the offsets it writes. -/
  horizonBufferOffsets : CRegularSurface α → CRegularSurface α → CRegularSurface α → Nat →
    Int × String × (Nat → UInt64)

/-- How the error messages print `float32` values. -/
structure Fmt (α : Type) where
  /-- `%v` of a `[]float32` -/
  floats : List α → String
  /-- `%f` of a `float32` -/
  float : α → String

/-- The end every request shares:
    `if err := v.Error(cerr); err != nil { return nil, err }` and
    `C.GoBytes(unsafe.Pointer(result.data), C.int(result.size))`. -/
def respond (answer : Int × String × List UInt8) : Outcome (List UInt8) := do
  orFail answer.1 answer.2.1
  goBytes answer.2.2 (cInt answer.2.2.length)

theorem respond_ok (msg : String) (data : List UInt8) :
    (data.length % 2 ^ 32 < 2 ^ 31 →
      respond (STATUS_OK, msg, data) = .ok (data.take (data.length % 2 ^ 32))) ∧
    (2 ^ 31 ≤ data.length % 2 ^ 32 → respond (STATUS_OK, msg, data) = .error (.panic .gobytesLength)) :=
  goBytes_cInt_length data

section Requests

variable {α : Type} (c : CApi α)

/-- `VDSHandle.GetMetadata`. -/
def getMetadata : Outcome (List UInt8) := respond c.metadata

/-- `VDSHandle.GetSlice`: `lineno` reaches C as `C.int(lineno)`. -/
def getSlice (lineno direction : Int) : Outcome (List UInt8) :=
  respond (c.slice (cInt lineno) (cEnum direction))

/-- `VDSHandle.GetSliceMetadata`. -/
def getSliceMetadata (lineno direction : Int) : Outcome (List UInt8) :=
  respond (c.sliceMetadata (cInt lineno) (cEnum direction))

/-- `VDSHandle.GetFenceMetadata`. -/
def getFenceMetadata (coordinates : List (List α)) : Outcome (List UInt8) :=
  respond (c.fenceMetadata coordinates.length)

/-- `VDSHandle.GetAttributeMetadata`: `len(data[0])` is read first. -/
def getAttributeMetadata (data : List (List α)) : Outcome (List UInt8) := do
  let row0 ← index data 0
  respond (c.attributeMetadata data.length row0.length)

/-- `coordinate_len := 2`. -/
def coordinateLen : Nat := 2

/-- The message of `GetFence`'s check of one coordinate. -/
def coordinateMsg (coordinate : String) (i : Nat) : String :=
  s!"invalid coordinate {coordinate} at position {i}, expected [x y] pair"

/-- `VDSHandle.GetFence`. -/
def getFence [Zero α] (fmt : Fmt α) (coordinateSystem : Int) (coordinates : List (List α))
    (interpolation : Int) (fillValue : Option α) : Outcome (List UInt8) := do
  let ccoordinates ← coordinates.enum.foldlM
    (copyRow coordinateLen id
      fun i coordinate => .invalidArgument (coordinateMsg (fmt.floats coordinate) i))
    (List.replicate (coordinates.length * coordinateLen) 0)
  let first ← addr ccoordinates 0
  respond (c.fence (cEnum coordinateSystem) first coordinates.length (cEnum interpolation)
    fillValue)

theorem getSlice_add_two_pow (lineno direction : Int) :
    getSlice c (lineno + 2 ^ 32) direction = getSlice c lineno direction := by
  rw [getSlice, getSlice, cInt_add_two_pow]

/-- The C side of an index axis of `nsamples` samples that validates exactly
    the C `int` it receives. -/
def ValidatesIndexAxis (direction : Int) (nsamples : Nat) : Prop :=
  ∀ l : Int, (c.slice l (cEnum direction)).1 = STATUS_OK ↔ 0 ≤ l ∧ l < nsamples

/-- Even when the C side validates exactly, `GetSlice` answers the line
    `lineno + 2^32`, which is not a line of the axis, with the data of line
    `lineno`. -/
theorem getSlice_wrapped_lineno (direction : Int) (nsamples : Nat)
    (hvalid : ValidatesIndexAxis c direction nsamples) (hn : nsamples ≤ 2 ^ 31)
    (hsize : ∀ l, (c.slice l (cEnum direction)).2.2.length < 2 ^ 31)
    (lineno : Int) (h₀ : 0 ≤ lineno) (h₁ : lineno < nsamples) :
    (nsamples : Int) ≤ lineno + 2 ^ 32 ∧
      getSlice c (lineno + 2 ^ 32) direction = .ok (c.slice lineno (cEnum direction)).2.2 := by
  refine ⟨by omega, ?_⟩
  rw [getSlice_add_two_pow, getSlice, cInt_of_lt (by omega) (by omega)]
  have hok := (hvalid lineno).2 ⟨h₀, h₁⟩
  have hlen := hsize lineno
  generalize c.slice lineno (cEnum direction) = answer at hok hlen ⊢
  obtain ⟨status, msg, data⟩ := answer
  subst hok
  simp [respond, goBytes_cInt_of_lt hlen]

end Requests

/-- A C side with one index axis of four lines, each a slice of 4 bytes, and
    traces of one sample. -/
def oneAxisCApi : CApi ℚ where
  metadata := (STATUS_OK, "", [])
  slice l _ := if 0 ≤ l ∧ l < 4 then (STATUS_OK, "", [0, 0, 0, 0])
    else (STATUS_BAD_REQUEST, "Invalid lineno", [])
  sliceMetadata _ _ := (STATUS_OK, "", [])
  fence _ _ npoints _ _ := (STATUS_OK, "", List.replicate (npoints * 4) 0)
  fenceMetadata _ := (STATUS_OK, "", [])
  attributeMetadata _ _ := (STATUS_OK, "", [])
  regularSurfaceNew _ := (STATUS_OK, "")
  horizonBufferOffsets _ _ _ _ := (STATUS_OK, "", fun _ => 0)

/-- Line `3 + 2^32` of a four-line axis gets the data of line 3. -/
theorem getSlice_wrapped_three :
    (4 : Int) ≤ 3 + 2 ^ 32 ∧ getSlice oneAxisCApi (3 + 2 ^ 32) 0 = .ok [0, 0, 0, 0] :=
  getSlice_wrapped_lineno oneAxisCApi 0 4
    (fun l => by dsimp only [oneAxisCApi]; split <;> simp_all [STATUS_OK, STATUS_BAD_REQUEST])
    (by decide) (fun l => by dsimp only [oneAxisCApi]; split <;> decide) 3 (by decide) (by decide)

section Requests

variable {α : Type} (c : CApi α)

/-- Every fence request on a C side that keeps OpenVDS' buffer-size contract
    (`npoints * nsamples * 4` bytes) returns `size % 2^32` of those bytes when
    they read as a non-negative C `int`, and panics otherwise: the whole
    response only below `2^31` bytes. -/
theorem getFence_length [Zero α] (fmt : Fmt α) (coordinateSystem interpolation : Int)
    (coordinates : List (List α)) (fillValue : Option α) (nsamples : Nat)
    (hpairs : ∀ p ∈ coordinates, p.length = 2) (hne : coordinates ≠ [])
    (hfence : ∀ cc, (c.fence (cEnum coordinateSystem) cc coordinates.length (cEnum interpolation)
        fillValue).1 = STATUS_OK ∧
      (c.fence (cEnum coordinateSystem) cc coordinates.length (cEnum interpolation)
        fillValue).2.2.length = coordinates.length * nsamples * 4) :
    ((coordinates.length * nsamples * 4) % 2 ^ 32 < 2 ^ 31 →
      ∃ bytes, getFence c fmt coordinateSystem coordinates interpolation fillValue = .ok bytes ∧
        bytes.length = (coordinates.length * nsamples * 4) % 2 ^ 32) ∧
    (2 ^ 31 ≤ (coordinates.length * nsamples * 4) % 2 ^ 32 →
      getFence c fmt coordinateSystem coordinates interpolation fillValue =
        .error (.panic .gobytesLength)) := by
  have hcopy := copyRows_of_width coordinateLen id
    (fun i coordinate => .invalidArgument (coordinateMsg (fmt.floats coordinate) i)) coordinates
    hpairs 0
  have hflat : 0 < coordinates.flatten.length := by
    obtain ⟨p, ps, rfl⟩ := List.exists_cons_of_ne_nil hne
    rw [List.flatten_cons, List.length_append, hpairs p (.head _)]
    omega
  obtain ⟨hok, hlen⟩ := hfence (coordinates.flatten.drop 0)
  simp only [getFence, hcopy, List.map_id, ok_bind, addr_of_lt hflat]
  generalize c.fence _ _ _ _ _ = answer at hok hlen ⊢
  obtain ⟨status, msg, data⟩ := answer
  subst hok
  obtain ⟨hsmall, hlarge⟩ := respond_ok msg data
  rw [hlen] at hsmall hlarge
  exact ⟨fun h => ⟨_, hsmall h, by simp [hlen]; omega⟩, hlarge⟩

end Requests

/-- A fence of one point on traces of one sample is 4 bytes. -/
theorem getFence_one_point :
    ∃ bytes, getFence oneAxisCApi ⟨fun _ => "", fun _ => ""⟩ 0 [[0, 0]] 0 none = .ok bytes ∧
      bytes.length = 4 :=
  (getFence_length oneAxisCApi ⟨fun _ => "", fun _ => ""⟩ 0 0 [[0, 0]] none 1 (by decide)
    (by decide) fun _ => ⟨rfl, rfl⟩).1 (by decide)

section Requests

variable {α : Type} (c : CApi α)

theorem getFence_nil [Zero α] (fmt : Fmt α) (coordinateSystem interpolation : Int)
    (fillValue : Option α) :
    getFence c fmt coordinateSystem [] interpolation fillValue =
      .error (.panic (.indexOutOfRange 0 0)) := rfl

end Requests

end OneseismicApi.Core
