import OneseismicApi.Go

/-! # Request options

`GetAxis`, `GetCoordinateSystem`, `GetInterpolationMethod` and
`GetAttributeType` of `core.go` each map the names of one option to its C enum
with a `switch`, and return an `InvalidArgument` listing the valid names for
any other string. They differ in the key the `switch` compares (the name as
given, or `strings.ToLower` of it), in their cases, and in their message; the
message always quotes the name as given.
-/

namespace OneseismicApi.Core

open Go

/-- A `switch` over the names of an option: the value of the first case equal
    to `key`, or the `default` error. -/
def selectOption {β : Type} (table : List (String × β)) (default : GoError) (key : String) :
    Except GoError β :=
  match table.lookup key with
  | some v => .ok v
  | none => .error default

/-- The message of an option's error. -/
def optionMsg (what name options : String) : String :=
  s!"{what} \x27{name}\x27, valid options are: {options}"

/-- `enum axis_name` of `ctypes.h`. -/
inductive AxisName where
  | i | j | k | inline | crossline | depth | time | sample
  deriving DecidableEq, Repr

/-- `GetAxis`: the `switch` compares `direction` as given. -/
def getAxis (direction : String) : Except GoError AxisName :=
  selectOption [("i", .i), ("j", .j), ("k", .k), ("inline", .inline), ("crossline", .crossline),
      ("depth", .depth), ("time", .time), ("sample", .sample)]
    (.invalidArgument (optionMsg "invalid direction" direction
      "i, j, k, inline, crossline or depth/time/sample"))
    direction

/-- `enum coordinate_system` of `ctypes.h`. -/
inductive CoordinateSystem where
  | index | annotation | cdp
  deriving DecidableEq, Repr

open CoordinateSystem in
/-- `GetCoordinateSystem`: the `switch` compares `strings.ToLower(coordinateSystem)`. -/
def getCoordinateSystem (coordinateSystem : String) : Except GoError CoordinateSystem :=
  selectOption [("ij", .index), ("ilxl", annotation), ("cdp", .cdp)]
    (.invalidArgument (optionMsg "coordinate system not recognized:" coordinateSystem
      "ij, ilxl, cdp"))
    (toLower coordinateSystem)

/-- `enum interpolation_method` of `ctypes.h`. -/
inductive InterpolationMethod where
  | nearest | linear | cubic | angular | triangular
  deriving DecidableEq, Repr

/-- `GetInterpolationMethod`: the empty name falls through to `nearest`. -/
def getInterpolationMethod (interpolation : String) : Except GoError InterpolationMethod :=
  selectOption [("", .nearest), ("nearest", .nearest), ("linear", .linear), ("cubic", .cubic),
      ("angular", .angular), ("triangular", .triangular)]
    (.invalidArgument (optionMsg "invalid interpolation method" interpolation
      "nearest, linear, cubic, angular or triangular"))
    (toLower interpolation)

end OneseismicApi.Core
