import OneseismicApi.Api.Cache
import OneseismicApi.Core.Options
import OneseismicApi.Core.Exceptions

/-! # The handlers of the `api` package

`metadata`, `slice`, `fence` and `attributes` of `Endpoint` take a parsed
request, open a connection to the cube and end in one of two ways:
`abortOnError` aborts the request with the HTTP status `httpStatusCode` gives
for the error, or the handler writes the response. The last three go through
the response cache: a request whose hash has an entry gets that entry, without
any computing, when its connection may read the cube; a response computed for
a request is stored under its hash. `attributes` checks its vertical window
first and opens the cube before the lookup, where `slice` and `fence` look up
first.

The request types, `Request.Hash`, the connection maker and the `vds` handle
are not in the sources: they are parameters, with the fields the handlers read.
-/

namespace OneseismicApi.Api

open Go Core

/-- `httpStatusCode`. -/
def httpStatusCode : GoError → Nat
  | .invalidArgument _ => 400
  | .internalError _ => 500
  | .plain _ => 500

/-- What a handler leaves in the `gin.Context`. -/
inductive Reply where
  /-- `ctx.AbortWithError(status, err)`. -/
  | aborted (status : Nat) (err : GoError)
  /-- `ctx.Data(http.StatusOK, "application/json", buffer)`. -/
  | json (buffer : List UInt8)
  /-- `writeResponse(ctx, metadata, data)`; `cacheHit` is `ctx.Set("cache-hit", true)`. -/
  | served (entry : CacheEntry) (cacheHit : Bool)
  deriving DecidableEq, Repr

/-- `abortOnError` on an error. -/
def abortOnError (err : GoError) : Reply := .aborted (httpStatusCode err) err

/-! ## Requests and what the handlers call -/

/-- The fields of a `MetadataRequest` that `metadata` reads. -/
structure MetadataRequest where
  vds : String
  sas : String

/-- The fields of a `SliceRequest` that `slice` reads. -/
structure SliceRequest where
  vds : String
  sas : String
  direction : String
  lineno : Int

/-- The fields of a `FenceRequest` that `fence` reads. -/
structure FenceRequest where
  vds : String
  sas : String
  coordinateSystem : String
  coordinates : List (List ℚ)
  interpolation : String

/-- The fields of an `AttributeRequest` that `attributes` reads. -/
structure AttributeRequest where
  vds : String
  sas : String
  horizon : List (List ℚ)
  xori : ℚ
  yori : ℚ
  xinc : ℚ
  yinc : ℚ
  rotation : ℚ
  fillValue : ℚ
  above : ℚ
  below : ℚ
  stepsize : ℚ
  attributes : List String
  interpolation : String

/-- The connection maker, the `vds` handle's calls and the requests' `Hash`,
    for connections `Conn` and handles `Handle`. -/
structure Env (Conn Handle : Type) where
  makeVdsConnection : String → String → Except GoError Conn
  isAuthorizedToRead : Conn → Bool
  newVDSHandle : Conn → Except GoError Handle
  getMetadata : Handle → Except GoError (List UInt8)
  getSliceMetadata : Handle → AxisName → Except GoError (List UInt8)
  getSlice : Handle → Int → AxisName → Except GoError (List UInt8)
  getFenceMetadata : Handle → List (List ℚ) → Except GoError (List UInt8)
  getFence : Handle → CoordinateSystem → List (List ℚ) → InterpolationMethod →
    Except GoError (List UInt8)
  getAttributeMetadata : Handle → List (List ℚ) → Except GoError (List UInt8)
  /-- `handle.GetAttributes` with the request's surface, window and attributes. -/
  getAttributes : Handle → AttributeRequest → InterpolationMethod → Except GoError (List (List UInt8))
  sliceHash : SliceRequest → Except GoError String
  fenceHash : FenceRequest → Except GoError String
  attributeHash : AttributeRequest → Except GoError String

/-! ## The cache protocol -/

/-- The handler after a cache miss: abort on the error of the computation, or
    `e.Cache.Set` the response under the key and write it. -/
def storeResponse (cacheKey : String) (response : Except GoError CacheEntry) (cache : Cache) :
    Reply × Cache :=
  match response with
  | .error err => (abortOnError err, cache)
  | .ok entry => (.served entry false, cache.set cacheKey entry)

/-- The cache protocol of `slice`, `fence` and `attributes`. `before` is the
    handler up to `e.Cache.Get`, ending in whether the connection may read the
    cube, the key and what the rest needs; `after` is the rest. -/
def cached {σ : Type} (before : Except GoError (Bool × String × σ))
    (after : σ → Except GoError CacheEntry) (cache : Cache) : Reply × Cache :=
  match before with
  | .error err => (abortOnError err, cache)
  | .ok (authorized, cacheKey, ctx) =>
    match cache.get cacheKey with
    | (some entry, cache) =>
      if authorized then (.served entry true, cache) else storeResponse cacheKey (after ctx) cache
    | (none, cache) => storeResponse cacheKey (after ctx) cache

/-- What the same handler replies without a cache. -/
def uncached {σ : Type} (before : Except GoError (Bool × String × σ))
    (after : σ → Except GoError CacheEntry) : Reply :=
  match before >>= fun b => after b.2.2 with
  | .error err => abortOnError err
  | .ok entry => .served entry false

/-! ## The handlers -/

section Handlers

variable {Conn Handle : Type} (env : Env Conn Handle)

/-- `Endpoint.metadata`. -/
def metadata (request : MetadataRequest) : Reply :=
  match (do
      let conn ← env.makeVdsConnection request.vds request.sas
      let handle ← env.newVDSHandle conn
      env.getMetadata handle) with
  | .error err => abortOnError err
  | .ok buffer => .json buffer

/-- `Endpoint.slice` up to the cache lookup. -/
def sliceBefore (request : SliceRequest) : Except GoError (Bool × String × Conn) := do
  let conn ← env.makeVdsConnection request.vds request.sas
  let cacheKey ← env.sliceHash request
  pure (env.isAuthorizedToRead conn, cacheKey, conn)

/-- `Endpoint.slice` after a cache miss. -/
def sliceAfter (request : SliceRequest) (conn : Conn) : Except GoError CacheEntry := do
  let handle ← env.newVDSHandle conn
  let axis ← getAxis (toLower request.direction)
  let metadata ← env.getSliceMetadata handle axis
  let data ← env.getSlice handle request.lineno axis
  pure ⟨[data], metadata⟩

/-- `Endpoint.slice`. -/
def slice (request : SliceRequest) (cache : Cache) : Reply × Cache :=
  cached (sliceBefore env request) (sliceAfter env request) cache

/-- `Endpoint.fence` up to the cache lookup. -/
def fenceBefore (request : FenceRequest) : Except GoError (Bool × String × Conn) := do
  let conn ← env.makeVdsConnection request.vds request.sas
  let cacheKey ← env.fenceHash request
  pure (env.isAuthorizedToRead conn, cacheKey, conn)

/-- `Endpoint.fence` after a cache miss. -/
def fenceAfter (request : FenceRequest) (conn : Conn) : Except GoError CacheEntry := do
  let handle ← env.newVDSHandle conn
  let coordinateSystem ← getCoordinateSystem (toLower request.coordinateSystem)
  let interpolation ← getInterpolationMethod request.interpolation
  let metadata ← env.getFenceMetadata handle request.coordinates
  let data ← env.getFence handle coordinateSystem request.coordinates interpolation
  pure ⟨[data], metadata⟩

/-- `Endpoint.fence`. -/
def fence (request : FenceRequest) (cache : Cache) : Reply × Cache :=
  cached (fenceBefore env request) (fenceAfter env request) cache

/-- `lowerBound` and `upperBound` of `validateVerticalWindow`. -/
def lowerBound : Nat := 0
def upperBound : Nat := 250

/-- The check of `above` and of `below`; `fmt` prints a `float32` as `%f` does. -/
def checkWithinBounds (fmt : ℚ → String) (name : String) (value : ℚ) : Except GoError Unit :=
  if value < lowerBound ∨ upperBound ≤ value then
    .error (.invalidArgument (s!"\x27{name}\x27 out of range! Must be within [{lowerBound}, {upperBound}], was " ++
      fmt value))
  else .ok ()

/-- `validateVerticalWindow`. -/
def validateVerticalWindow (fmt : ℚ → String) (above below stepSize : ℚ) : Except GoError Unit := do
  checkWithinBounds fmt "above" above
  checkWithinBounds fmt "below" below
  if stepSize < lowerBound then
    .error (.invalidArgument (s!"\x27stepsize\x27 out of range! Must be bigger than {lowerBound}, was " ++
      fmt stepSize))
  else .ok ()

/-- `Endpoint.attributes` up to the cache lookup: the window check, the
    connection, the key, and the handle. -/
def attributesBefore (fmt : ℚ → String) (request : AttributeRequest) :
    Except GoError (Bool × String × Handle) := do
  validateVerticalWindow fmt request.above request.below request.stepsize
  let conn ← env.makeVdsConnection request.vds request.sas
  let cacheKey ← env.attributeHash request
  let handle ← env.newVDSHandle conn
  pure (env.isAuthorizedToRead conn, cacheKey, handle)

/-- `Endpoint.attributes` after a cache miss. -/
def attributesAfter (request : AttributeRequest) (handle : Handle) : Except GoError CacheEntry := do
  let interpolation ← getInterpolationMethod request.interpolation
  let metadata ← env.getAttributeMetadata handle request.horizon
  let data ← env.getAttributes handle request interpolation
  pure ⟨data, metadata⟩

/-- `Endpoint.attributes`. -/
def attributes (fmt : ℚ → String) (request : AttributeRequest) (cache : Cache) : Reply × Cache :=
  cached (attributesBefore env fmt request) (attributesAfter env request) cache

end Handlers

/-! ## What the cache protocol does -/

section Protocol

theorem mem_storeResponse {cacheKey : String} {response : Except GoError CacheEntry} {cache : Cache}
    {p : String × CacheEntry} (h : p ∈ (storeResponse cacheKey response cache).2.entries) :
    p ∈ cache.entries ∨ response = .ok p.2 ∧ p.1 = cacheKey := by
  cases response with
  | error => exact .inl h
  | ok entry =>
    rcases cache.mem_set cacheKey h with rfl | h
    · exact .inr ⟨rfl, rfl⟩
    · exact .inl h

end Protocol

end OneseismicApi.Api
