import OneseismicApi.Core.CalculateAttributes
import OneseismicApi.Core.Handle
import OneseismicApi.Core.Options

/-! # `GetAttributes`

`VDSHandle.GetAttributes` parses the attribute names, checks the window, builds
the primary, top and bottom surfaces in C, asks the C side where each cell's
samples lie in the horizon buffer, and runs the two goroutine systems
`fetchHorizon` and `calculateAttributes`.

Of those two systems, this module models what each worker goroutine does before
its C call: it takes the addresses `&dataOffset[0]`, `&buffer[0]` and so on of
the slices it is given, and a panic there ends the process. What a run returns
is the subject of `Pool`; here it is a parameter.
-/

namespace OneseismicApi.Core

open Go Pool

/-- `enum attribute` of `ctypes.h`. -/
inductive Attribute where
  | value | min | minAt | max | maxAt | maxAbs | maxAbsAt | mean | meanAbs | meanPos | meanNeg
  | median | rms | var | sd | sumPos | sumNeg
  deriving DecidableEq, Repr

/-- The names `GetAttributeType` accepts, as its error lists them. -/
def attributeOptions : List String :=
  ["samplevalue", "min", "max", "maxabs", "mean", "meanabs", "meanpos",
    "meanneg", "median", "rms", "var", "sd", "sumpos", "sumneg"]

/-- The cases of `GetAttributeType`'s `switch`. -/
def attributeCases : List (String × Attribute) :=
  [("samplevalue", .value), ("min", .min), ("max", .max), ("maxabs", .maxAbs), ("mean", .mean),
    ("meanabs", .meanAbs), ("meanpos", .meanPos), ("meanneg", .meanNeg), ("median", .median),
    ("rms", .rms), ("var", .var), ("sd", .sd), ("sumpos", .sumPos), ("sumneg", .sumNeg)]

/-- `GetAttributeType`: the `switch` compares `strings.ToLower(attribute)`. -/
def getAttributeType (name : String) : Except GoError Attribute :=
  selectOption attributeCases
    (.invalidArgument (optionMsg "invalid attribute" name (", ".intercalate attributeOptions)))
    (toLower name)

/-- The message of `GetAttributes`' window check. -/
def aboveBelowMsg (above below : String) : String :=
  s!"Above and below must be positive. Above was {above}, below was {below}"

/-- The arguments a worker of `fetchHorizon` takes before `C.horizon`. -/
def horizonWorkerArgs (dataOffset : List UInt64) (buffer : List UInt8) : Outcome Unit := do
  let _ ← addr dataOffset 0
  let _ ← addr buffer 0

/-- The arguments a worker of `calculateAttributes` takes before `C.attribute`. -/
def attributeWorkerArgs (dataOffset : List UInt64) (horizon : List UInt8)
    (cAttributes : List Attribute) (buffer : List UInt8) : Outcome Unit := do
  let _ ← addr dataOffset 0
  let _ ← addr horizon 0
  let _ ← addr cAttributes 0
  let _ ← addr buffer 0

/-- `VDSHandle.fetchHorizon` as `GetAttributes` sees it: `buffer :=
    make([]byte, horizonBufferSize)`, one worker per chunk taking its arguments,
    and the buffer as the run leaves it. -/
def fetchHorizonCall (nrows ncols : Nat) (dataOffset : List UInt64) (horizonBufferSize : UInt64)
    (run : Except GoError (Nat → UInt8)) : Outcome (List UInt8) := do
  let buffer := List.replicate horizonBufferSize.toNat (0 : UInt8)
  (fetchHorizonLoop nrows ncols).all.forM fun _ => horizonWorkerArgs dataOffset buffer
  let written ← liftError run
  pure ((List.range horizonBufferSize.toNat).map written)

/-- `VDSHandle.calculateAttributes` as `GetAttributes` sees it: `buffer :=
    make([]byte, mapsize*nAttributes)`, one worker per range taking its
    arguments, and the attribute maps cut from the buffer the run leaves. -/
def calculateAttributesCall (hsize : Nat) (dataOffset : List UInt64) (horizon : List UInt8)
    (cAttributes : List Attribute) (run : Except GoError (Nat → UInt8)) :
    Outcome (List (List UInt8)) := do
  let nAttributes := cAttributes.length
  let mapsize := hsize * 4
  let buffer := List.replicate (mapsize * nAttributes) (0 : UInt8)
  (calculateAttributesLoop hsize).all.forM fun _ =>
    attributeWorkerArgs dataOffset horizon cAttributes buffer
  let written ← liftError run
  pure (attributeMaps hsize nAttributes written)

theorem fetchHorizonCall_eq (nrows ncols : Nat) {dataOffset : List UInt64} {size : UInt64}
    (hd : dataOffset ≠ []) (hs : 0 < size.toNat) (run : Except GoError (Nat → UInt8)) :
    fetchHorizonCall nrows ncols dataOffset size run =
      (liftError run).map fun written => (List.range size.toNat).map written := by
  have hargs : horizonWorkerArgs dataOffset (List.replicate size.toNat 0) = .ok () := by
    rw [horizonWorkerArgs, addr_of_lt (List.length_pos.2 hd), addr_of_lt
      (by rwa [List.length_replicate] : 0 < (List.replicate size.toNat (0 : UInt8)).length)]
    rfl
  cases run <;> simp [fetchHorizonCall, forM_const_ok _ hargs] <;> rfl

theorem calculateAttributesCall_nil {hsize : Nat} (hpos : 0 < hsize) {dataOffset : List UInt64}
    {horizon : List UInt8} (hd : dataOffset ≠ []) (hh : horizon ≠ [])
    (run : Except GoError (Nat → UInt8)) :
    calculateAttributesCall hsize dataOffset horizon [] run =
      .error (.panic (.indexOutOfRange 0 0)) := by
  have hall : (calculateAttributesLoop hsize).all ≠ [] := fun h0 => by
    have := (calculateAttributes_ranges_spec hsize 0 le_rfl).2.1
    rw [show (calculateAttributesLoop hsize).ranges (0, hsize) le_rfl = [] from h0] at this
    simp [hpos] at this
  have hargs : attributeWorkerArgs dataOffset horizon [] [] = .error (.panic (.indexOutOfRange 0 0)) := by
    rw [attributeWorkerArgs, addr_of_lt (List.length_pos.2 hd), addr_of_lt (List.length_pos.2 hh)]
    rfl
  simp [calculateAttributesCall, forM_const_error hall hargs]

theorem calculateAttributesCall_eq {hsize : Nat} {dataOffset : List UInt64}
    {horizon : List UInt8} {cAttributes : List Attribute} (hd : dataOffset ≠ [])
    (hh : horizon ≠ []) (ha : cAttributes ≠ []) (run : Except GoError (Nat → UInt8)) :
    calculateAttributesCall hsize dataOffset horizon cAttributes run =
      (liftError run).map (attributeMaps hsize cAttributes.length) := by
  rcases Nat.eq_zero_or_pos hsize with rfl | hpos
  · have hall : (calculateAttributesLoop 0).all = [] := by
      simp [Loop.all, Loop.ranges_of_not_cond, calculateAttributesLoop]
    cases run <;> simp [calculateAttributesCall, hall] <;> rfl
  · have hargs : attributeWorkerArgs dataOffset horizon cAttributes
        (List.replicate (hsize * 4 * cAttributes.length) 0) = .ok () := by
      have hb : 0 < (List.replicate (hsize * 4 * cAttributes.length) (0 : UInt8)).length := by
        simp only [List.length_replicate]
        exact Nat.mul_pos (Nat.mul_pos hpos (by decide)) (List.length_pos.2 ha)
      rw [attributeWorkerArgs, addr_of_lt (List.length_pos.2 hd),
        addr_of_lt (List.length_pos.2 hh), addr_of_lt (List.length_pos.2 ha), addr_of_lt hb]
      rfl
    cases run <;> simp [calculateAttributesCall, forM_const_ok _ hargs] <;> rfl

/-- `dataOffset := make([]C.size_t, dataOffsetSize)` filled by
    `C.horizon_buffer_offsets(..., &dataOffset[0], dataOffsetSize)`, then
    `v.Error(cerr)`. -/
def horizonBufferOffsets {α : Type} (c : CApi α) (primary top bottom : CRegularSurface α)
    (dataOffsetSize : Nat) : Outcome (List UInt64) := do
  let _ ← addr (List.replicate dataOffsetSize (0 : UInt64)) 0
  let answer := c.horizonBufferOffsets primary top bottom dataOffsetSize
  orFail answer.1 answer.2.1
  pure ((List.range dataOffsetSize).map answer.2.2)

theorem horizonBufferOffsets_ok {α : Type} {c : CApi α} {primary top bottom : CRegularSurface α}
    {dataOffsetSize : Nat} (hs : 0 < dataOffsetSize)
    (h : (c.horizonBufferOffsets primary top bottom dataOffsetSize).1 = STATUS_OK) :
    horizonBufferOffsets c primary top bottom dataOffsetSize =
      .ok ((List.range dataOffsetSize).map (c.horizonBufferOffsets primary top bottom dataOffsetSize).2.2) := by
  simp [horizonBufferOffsets, addr_of_lt (by simpa using hs : 0 < (List.replicate dataOffsetSize (0 : UInt64)).length), h]

/-- `horizonBufferSize := dataOffset[hsize] * 4`, and `1` in place of `0`. -/
def horizonBufferSize (last : UInt64) : UInt64 := if last * 4 = 0 then 1 else last * 4

/-- The C calls `GetAttributes` makes itself, `regular_surface_new` and
    `horizon_buffer_offsets`, succeed. -/
def CApi.SurfacesOk {α : Type} (c : CApi α) : Prop :=
  (∀ s, (c.regularSurfaceNew s).1 = STATUS_OK) ∧
    ∀ p t b n, (c.horizonBufferOffsets p t b n).1 = STATUS_OK

theorem horizonBufferSize_pos (last : UInt64) : 0 < (horizonBufferSize last).toNat := by
  unfold horizonBufferSize
  split
  · decide
  · rename_i h
    exact Nat.pos_of_ne_zero fun h0 => h (UInt64.eq_of_val_eq (Fin.eq_of_val_eq h0))

section GetAttributes

variable {α : Type} [Add α] [BEq α] [Zero α] [Neg α] [LT α] [DecidableRel (fun a b : α => a < b)]

/-- `VDSHandle.GetAttributes`; `fetchRun` and `attributeRun` are the values the
    runs of `fetchHorizon` and `calculateAttributes` return (the `interpolation`
    and `stepsize` arguments reach only the C calls of those runs). -/
def getAttributes (c : CApi α) (fmt : Fmt α) (fetchRun attributeRun : Except GoError (Nat → UInt8))
    (primarySurface : RegularSurface α) (above below : α) (attributes : List String) :
    Outcome (List (List UInt8)) := do
  let targetAttributes ← liftError (attributes.mapM getAttributeType)
  if above < 0 ∨ below < 0 then
    throw (.error (.invalidArgument (aboveBelowMsg (fmt.float above) (fmt.float below))))
  let nrows := primarySurface.values.length
  let ncols := (← index primarySurface.values 0).length
  let hsize := nrows * ncols
  let cAttributes := targetAttributes
  let cPrimarySurfaceData ← primarySurface.toCdata 0
  let cPrimarySurface ← primarySurface.toCRegularSurface c.regularSurfaceNew cPrimarySurfaceData
  let cTopSurfaceData ← primarySurface.toCdata (-above)
  let cTopSurface ← primarySurface.toCRegularSurface c.regularSurfaceNew cTopSurfaceData
  let cBottomSurfaceData ← primarySurface.toCdata below
  let cBottomSurface ← primarySurface.toCRegularSurface c.regularSurfaceNew cBottomSurfaceData
  let dataOffset ← horizonBufferOffsets c cPrimarySurface cTopSurface cBottomSurface (hsize + 1)
  let horizon ← fetchHorizonCall nrows ncols dataOffset
    (horizonBufferSize (← index dataOffset hsize)) fetchRun
  calculateAttributesCall hsize dataOffset horizon cAttributes attributeRun

/-- What the checks of `GetAttributes` and `toCdata` accept: every attribute
    name parses, `above` and `below` are not negative, and every row has the
    length of row 0. -/
structure Accepted (surface : RegularSurface α) (above below : α) (attributes : List String) :
    Prop where
  names : ∃ ts, attributes.mapM getAttributeType = .ok ts
  above : ¬ above < 0
  below : ¬ below < 0
  rows : surface.Rectangular

variable {c : CApi α} {fmt : Fmt α} {fetchRun attributeRun : Except GoError (Nat → UInt8)}
  {surface : RegularSurface α} {above below : α} {attributes : List String}

theorem getAttributes_no_rows (h : Accepted surface above below attributes)
    (hv : surface.values = []) :
    getAttributes c fmt fetchRun attributeRun surface above below attributes =
      .error (.panic (.indexOutOfRange 0 0)) := by
  obtain ⟨ts, hts⟩ := h.names
  rw [getAttributes, hts]
  simp [h.above, h.below, hv, index]

theorem getAttributes_empty_rows (h : Accepted surface above below attributes)
    (hne : surface.values ≠ []) (hempty : ∀ row ∈ surface.values, row = []) :
    getAttributes c fmt fetchRun attributeRun surface above below attributes =
      .error (.panic (.indexOutOfRange 0 0)) := by
  obtain ⟨ts, hts⟩ := h.names
  obtain ⟨row0, rows, hv⟩ := List.exists_cons_of_ne_nil hne
  have hdata : surface.toCdata 0 = .ok [] := by
    rw [toCdata_of_rectangular surface hne h.rows, List.flatten_eq_nil_iff.2 hempty]; rfl
  have hrow0 : index surface.values 0 = .ok row0 := by simp [hv, index]
  rw [getAttributes, hts]
  simp [h.above, h.below, hrow0, hdata, toCRegularSurface_nil surface _ hne]

theorem getAttributes_eq_calculate (hc : c.SurfacesOk) (h : Accepted surface above below attributes)
    (hne : surface.values ≠ []) (hcols : 0 < (surface.values.headD []).length) :
    ∃ ts dataOffset n, attributes.mapM getAttributeType = .ok ts ∧ dataOffset ≠ [] ∧ 0 < n ∧
      getAttributes c fmt fetchRun attributeRun surface above below attributes =
        liftError fetchRun >>= fun b =>
          calculateAttributesCall (surface.values.length * (surface.values.headD []).length)
            dataOffset ((List.range n).map b) ts attributeRun := by
  obtain ⟨ts, hts⟩ := h.names
  obtain ⟨row0, rows, hv⟩ := List.exists_cons_of_ne_nil hne
  have hrow0 : index surface.values 0 = .ok row0 := by simp [hv, index]
  have hflat : surface.values.flatten ≠ [] := fun h0 => by
    have := List.flatten_eq_nil_iff.1 h0 row0 (by simp [hv])
    simp [hv, this] at hcols
  have hcs (shift : α) : ∃ cs, surface.toCRegularSurface c.regularSurfaceNew
      (surface.values.flatten.map (shiftHeight surface.fillValue shift)) = .ok cs :=
    toCRegularSurface_ok surface hne (by simpa using hflat) hc.1
  obtain ⟨cP, hP⟩ := hcs 0
  obtain ⟨cT, hT⟩ := hcs (-above)
  obtain ⟨cB, hB⟩ := hcs below
  rw [getAttributes, hts]
  simp only [liftError_ok, ok_bind, h.above, h.below, or_self, if_false, hrow0,
    toCdata_of_rectangular surface hne h.rows, hP, hT, hB]
  have hhead : (surface.values.headD []).length = row0.length := by simp [hv]
  rw [hhead]
  set hsize := surface.values.length * row0.length
  have hd : (List.range (hsize + 1)).map (c.horizonBufferOffsets cP cT cB (hsize + 1)).2.2 ≠ [] := by
    simp
  have hh := horizonBufferSize_pos ((c.horizonBufferOffsets cP cT cB (hsize + 1)).2.2 hsize)
  refine ⟨ts, _, _, rfl, hd, hh, ?_⟩
  have hidx : index ((List.range (hsize + 1)).map (c.horizonBufferOffsets cP cT cB (hsize + 1)).2.2)
      hsize = .ok ((c.horizonBufferOffsets cP cT cB (hsize + 1)).2.2 hsize) := by simp [index]
  simp only [horizonBufferOffsets_ok (by omega : 0 < hsize + 1) (hc.2 _ _ _ _), hidx, ok_bind,
    fetchHorizonCall_eq _ _ hd hh]
  cases fetchRun <;> rfl

/-- With rows, columns and attribute names accepted, and the C side's own
    calls succeeding, no index of `GetAttributes` is out of range: it returns
    the error of the `fetchHorizon` run, or the attribute maps of the
    `calculateAttributes` run, or that run's error. -/
theorem getAttributes_in_bounds (hc : c.SurfacesOk) (h : Accepted surface above below attributes)
    (hne : surface.values ≠ []) (hcols : 0 < (surface.values.headD []).length)
    (hattrs : attributes ≠ []) :
    getAttributes c fmt fetchRun attributeRun surface above below attributes =
      liftError fetchRun >>= fun _ => (liftError attributeRun).map
        (attributeMaps (surface.values.length * (surface.values.headD []).length) attributes.length) := by
  obtain ⟨ts, dataOffset, n, hts, hd, hn, heq⟩ := getAttributes_eq_calculate hc h hne hcols
  have hlen := mapM_ok_length getAttributeType attributes ts hts
  have hts' : ts ≠ [] := fun h0 => hattrs (List.eq_nil_of_length_eq_zero (by simp [← hlen, h0]))
  rw [heq]
  congr 1
  funext b
  rw [calculateAttributesCall_eq hd (by simpa using hn.ne') hts', hlen]

/-- A one-cell surface with one attribute returns the one map of the
    `calculateAttributes` run. -/
theorem getAttributes_one_cell :
    getAttributes oneAxisCApi ⟨fun _ => "", fun _ => ""⟩ (.ok fun _ => 0) (.ok fun _ => 7)
      ⟨[[8]], 0, 0, 0, 1, 1, 0⟩ 0 0 ["min"] = .ok [[7, 7, 7, 7]] :=
  (getAttributes_in_bounds ⟨fun _ => rfl, fun _ _ _ _ => rfl⟩
    (⟨⟨[.min], rfl⟩, by decide, by decide, by decide⟩ :
      Accepted (⟨[[8]], 0, 0, 0, 1, 1, 0⟩ : RegularSurface ℚ) 0 0 ["min"])
    (by decide) (by decide) (by decide)).trans rfl

/-- Inputs that every check of `GetAttributes` accepts and that still panic,
    whatever the C side and the goroutine runs do: a surface with no rows
    panics at `Values[0]`, and one whose rows are all empty at `&cdata[0]`;
    with the C side's own calls and the `fetchHorizon` run succeeding, an
    empty attribute list on a surface with cells panics at `&cAttributes[0]`
    in a `calculateAttributes` worker; and `GetFence` of no coordinates
    panics at `&ccoordinates[0]`. -/
theorem accepted_inputs_panic (c : CApi α) (fmt : Fmt α)
    (fetchRun attributeRun : Except GoError (Nat → UInt8)) :
    (∀ surface above below attributes, Accepted surface above below attributes →
      surface.values = [] →
      getAttributes c fmt fetchRun attributeRun surface above below attributes =
        .error (.panic (.indexOutOfRange 0 0))) ∧
    (∀ surface above below attributes, Accepted surface above below attributes →
      surface.values ≠ [] → (∀ row ∈ surface.values, row = []) →
      getAttributes c fmt fetchRun attributeRun surface above below attributes =
        .error (.panic (.indexOutOfRange 0 0))) ∧
    (∀ surface above below, Accepted surface above below [] → surface.values ≠ [] →
      0 < (surface.values.headD []).length → c.SurfacesOk → (∃ b, fetchRun = .ok b) →
      getAttributes c fmt fetchRun attributeRun surface above below [] =
        .error (.panic (.indexOutOfRange 0 0))) ∧
    (∀ coordinateSystem interpolation fillValue,
      getFence c fmt coordinateSystem [] interpolation fillValue =
        .error (.panic (.indexOutOfRange 0 0))) := by
  refine ⟨fun _ _ _ _ h hv => getAttributes_no_rows h hv,
    fun _ _ _ _ h hne hempty => getAttributes_empty_rows h hne hempty,
    fun surface above below h hne hcols hc ⟨b, hfetch⟩ => ?_,
    fun _ _ _ => getFence_nil c fmt _ _ _⟩
  obtain ⟨ts, dataOffset, n, hts, hd, hn, heq⟩ := getAttributes_eq_calculate hc h hne hcols
  cases hts
  obtain ⟨row0, rows, hv⟩ := List.exists_cons_of_ne_nil hne
  have hpos : 0 < surface.values.length * (surface.values.headD []).length :=
    Nat.mul_pos (by simp [hv]) hcols
  rw [heq, hfetch]
  exact calculateAttributesCall_nil hpos hd (by simpa using hn.ne') _

end GetAttributes

/-- A surface of one empty row passes every check of `GetAttributes` and
    panics. -/
theorem getAttributes_one_empty_row :
    getAttributes oneAxisCApi ⟨fun _ => "", fun _ => ""⟩ (.ok fun _ => 0) (.ok fun _ => 0)
      ⟨[[]], 0, 0, 0, 1, 1, 0⟩ 0 0 ["min"] = .error (.panic (.indexOutOfRange 0 0)) :=
  (accepted_inputs_panic oneAxisCApi ⟨fun _ => "", fun _ => ""⟩ (.ok fun _ => 0)
    (.ok fun _ => 0)).2.1 ⟨[[]], 0, 0, 0, 1, 1, 0⟩ 0 0 ["min"]
    ⟨⟨[.min], rfl⟩, by decide, by decide, by decide⟩ (by decide) (by decide)

end OneseismicApi.Core
