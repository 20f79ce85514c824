import OneseismicApi.Go

/-! # Exceptions at the C API boundary

Every function `capi.cpp` exports runs its work in a `try` block: it checks its
pointer arguments in order, throwing `detail::nullptr_error` with a message
naming the first null one, and then calls into `cppapi`. `catch (...)` hands
whatever was thrown to `handle_exception`, which leaves the exception's
message in the context and returns the status code of the exception's kind.
`toError` on the Go side turns the status and the context's message back into
an error: a `detail::bad_request` becomes an `InvalidArgument`, a null pointer
or any other exception an `InternalError`, each with the message thrown.

What `cppapi` computes is not in the sources: the work of each function is a
parameter, either the value it writes to `out` or the exception it throws. The
Go side always passes a context made by `context_new`, so `handle_exception`
always has a context to write to.
-/

namespace OneseismicApi.Core

open Go

/-- The exceptions of the C++ side, by the `catch` clause of `handle_exception`
    that takes them. -/
inductive CppException where
  /-- `detail::nullptr_error` -/
  | nullptrError (msg : String)
  /-- `detail::bad_request` -/
  | badRequest (msg : String)
  /-- any other `std::exception` -/
  | runtimeError (msg : String)
  deriving DecidableEq, Repr

/-- `e.what()`. -/
def CppException.what : CppException → String
  | .nullptrError msg | .badRequest msg | .runtimeError msg => msg

/-- `handle_exception(ctx, eptr)` for a thrown exception: the status it
    returns, and the message it leaves in `ctx->errmsg`. -/
def handleException : CppException → Int × String
  | .nullptrError msg => (STATUS_NULLPTR_ERROR, msg)
  | .badRequest msg => (STATUS_BAD_REQUEST, msg)
  | .runtimeError msg => (STATUS_RUNTIME_ERROR, msg)

/-- `if (not p) throw detail::nullptr_error(msg);` for each pointer argument in
    turn; `true` stands for a pointer that is set. -/
def checkPointers : List (Bool × String) → Except CppException Unit
  | [] => .ok ()
  | (set, msg) :: rest => if set then checkPointers rest else .error (.nullptrError msg)

/-- The `try` block of an exported function: the pointer checks, then the work. -/
def entryPoint {α : Type} (checks : List (Bool × String)) (work : Except CppException α) :
    Except CppException α := do
  checkPointers checks
  work

/-- What the caller of an exported function sees: the status, the message in
    the context (`ctx` before the call), and what was written to `out`. -/
def entryReturn {α : Type} (ctx : String) : Except CppException α → Int × String × Option α
  | .ok a => (STATUS_OK, ctx, some a)
  | .error e => ((handleException e).1, (handleException e).2, none)

/-- The error `toError(status, ctx)` makes of what an exported function returns. -/
def entryError {α : Type} (ctx : String) (r : Except CppException α) : Option GoError :=
  toError (entryReturn ctx r).1 (entryReturn ctx r).2.1

/-- The check at the top of `attribute`. -/
def attributeRangeError (lo hi : Nat) : Option String :=
  if lo ≥ hi then some "No data to iterate over" else none

/-! ## The exported functions

`Capi.slice` is `slice` of `capi.h`, and so on.
-/

namespace Capi

variable {α : Type}

/-- `datahandle_new`: `make_datahandle(url, credentials)` is the work. -/
def datahandleNew (out : Bool) (work : Except CppException α) : Except CppException α :=
  entryPoint [(out, "Invalid out pointer")] work

/-- `regular_surface_new`: `new RegularSurface(..)` is the work. -/
def regularSurfaceNew (out : Bool) (work : Except CppException α) : Except CppException α :=
  entryPoint [(out, "Invalid out pointer")] work

/-- `slice`: `Direction(ax)`, the copy of the bounds and `cppapi::slice` are the work. -/
def slice (out handle : Bool) (work : Except CppException α) : Except CppException α :=
  entryPoint [(out, "Invalid out pointer"), (handle, "Invalid handle")] work

/-- `slice_metadata`. -/
def sliceMetadata (out handle : Bool) (work : Except CppException α) : Except CppException α :=
  entryPoint [(out, "Invalid out pointer"), (handle, "Invalid handle")] work

/-- `fence`. -/
def fence (out handle : Bool) (work : Except CppException α) : Except CppException α :=
  entryPoint [(out, "Invalid out pointer"), (handle, "Invalid handle")] work

/-- `fence_metadata`. -/
def fenceMetadata (out handle : Bool) (work : Except CppException α) : Except CppException α :=
  entryPoint [(out, "Invalid out pointer"), (handle, "Invalid handle")] work

/-- `metadata`. -/
def metadata (out handle : Bool) (work : Except CppException α) : Except CppException α :=
  entryPoint [(out, "Invalid out pointer"), (handle, "Invalid handle")] work

/-- `attribute_metadata`. -/
def attributeMetadata (out handle : Bool) (work : Except CppException α) : Except CppException α :=
  entryPoint [(out, "Invalid out pointer"), (handle, "Invalid handle")] work

/-- `horizon_buffer_offsets`. -/
def horizonBufferOffsets (out handle reference top bottom : Bool) (work : Except CppException α) :
    Except CppException α :=
  entryPoint [(out, "Invalid out pointer"), (handle, "Invalid handle"),
    (reference, "Invalid reference surface"), (top, "Invalid top surface"),
    (bottom, "Invalid bottom surface")] work

/-- `horizon`. -/
def horizon (out handle reference top bottom bufferOffsets : Bool) (work : Except CppException α) :
    Except CppException α :=
  entryPoint [(out, "Invalid out pointer"), (handle, "Invalid handle"),
    (reference, "Invalid reference surface"), (top, "Invalid top surface"),
    (bottom, "Invalid bottom surface"), (bufferOffsets, "Invalid data offset buffer")] work

/-- `attribute` (a keyword in Lean): after its pointer checks it throws a
    `std::runtime_error` on an empty range `[from, to)`, before any work. -/
def attr (out handle reference top bottom data dataOffsets : Bool) (lo hi : Nat)
    (work : Except CppException α) : Except CppException α :=
  entryPoint [(out, "Invalid out pointer"), (handle, "Invalid handle"),
      (reference, "Invalid reference surface"), (top, "Invalid top surface"),
      (bottom, "Invalid bottom surface"), (data, "Invalid data"),
      (dataOffsets, "Invalid data offset buffer")] do
    if let some msg := attributeRangeError lo hi then throw (.runtimeError msg)
    work

/-- `align_surfaces`: the work decides whether the primary surface is on top,
    and `*primary_is_top` gets `1` or `0`. -/
def alignSurfaces (primary secondary aligned primaryIsTop : Bool) (work : Except CppException Bool) :
    Except CppException Int :=
  entryPoint [(primary, "Invalid primary surface"), (secondary, "Invalid secondary surface"),
      (aligned, "Invalid aligned surface"), (primaryIsTop, "Invalid primary is top pointer")] do
    let b ← work
    pure (if b then 1 else 0)

end Capi

/-! ## From an exception to a Go error -/

/-- The Go error each kind of exception ends as, with the exception's message. -/
def CppException.toGoError : CppException → GoError
  | .nullptrError msg => .internalError msg
  | .badRequest msg => .invalidArgument msg
  | .runtimeError msg => .internalError msg

theorem checkPointers_ok_iff (checks : List (Bool × String)) :
    checkPointers checks = .ok () ↔ ∀ c ∈ checks, c.1 = true := by
  induction checks with
  | nil => simp [checkPointers]
  | cons c rest ih =>
    obtain ⟨set, msg⟩ := c
    cases set <;> simp [checkPointers, ih]

theorem entryPoint_of_set {α : Type} {checks : List (Bool × String)} (hset : ∀ c ∈ checks, c.1 = true)
    (work : Except CppException α) : entryPoint checks work = work := by
  rw [entryPoint, (checkPointers_ok_iff checks).2 hset]
  rfl

theorem Capi.attr_eq {α : Type} (lo hi : Nat) (work : Except CppException α) :
    Capi.attr true true true true true true true lo hi work =
      if lo < hi then work else .error (.runtimeError "No data to iterate over") := by
  rw [Capi.attr, entryPoint_of_set (by simp)]
  by_cases h : lo < hi
  · simp [attributeRangeError, h]
  · simp [attributeRangeError, h, Nat.le_of_not_lt h]
    rfl

end OneseismicApi.Core
