import OneseismicApi.Core.Options

/-! # Resolving the axes of a cube

`MetadataHandle` of `metadatahandle.cpp` finds the dimension of each logical
axis by name: `get_dimension` returns the first dimension of the layout whose
name is one of the names it is given, and throws when there is none. The
constructor resolves the inline, the crossline and the vertical axis, in that
order, and only then checks that the layout has three dimensions. The fence
and horizon models take a cube whose three axes lie in distinct dimensions;
this module shows that every handle that opens is such a cube.
-/

namespace OneseismicApi.Core

/-- `Direction(name).to_string()` for the axis names `get_dimension` is
    given. Modelled from the spec: `direction.hpp` is not in the sources; the
    names are the layout's axis names. -/
def AxisName.vdsName : AxisName → String
  | .inline => "Inline"
  | .crossline => "Crossline"
  | .sample => "Sample"
  | .depth => "Depth"
  | .time => "Time"
  | .i => "I"
  | .j => "J"
  | .k => "K"

/-- The message of `get_dimension`'s exception. -/
def unsupportedAxisMsg (dimensionality : Nat) : String :=
  s!"Unsupported axis in VDS file, expected (Sample|Time|Depth, Crossline, Inline) but got {dimensionality}"

/-- `MetadataHandle::get_dimension`: the first dimension, by index, whose name
    is one of `names`. -/
def getDimension (dimensionNames : List String) (names : List AxisName) : Except String Nat :=
  match dimensionNames.findIdx? fun d => names.any fun name => d == name.vdsName with
  | some i => .ok i
  | none => .error (unsupportedAxisMsg dimensionNames.length)

/-- The dimensions of a cube's inline, crossline and vertical axes. -/
structure MetadataHandle where
  iline : Nat
  xline : Nat
  sample : Nat

/-- The message of `dimension_validation`. -/
def dimensionalityMsg (dimensionality : Nat) : String :=
  s!"Unsupported VDS, expected 3 dimensions, got {dimensionality}"

/-- `MetadataHandle::MetadataHandle` on a layout with these dimension names:
    the three lookups of the member initialisers, then `dimension_validation`. -/
def MetadataHandle.new (dimensionNames : List String) : Except String MetadataHandle := do
  let iline ← getDimension dimensionNames [.inline]
  let xline ← getDimension dimensionNames [.crossline]
  let sample ← getDimension dimensionNames [.sample, .depth, .time]
  if dimensionNames.length ≠ 3 then .error (dimensionalityMsg dimensionNames.length)
  else .ok ⟨iline, xline, sample⟩

theorem getDimension_ok {dimensionNames : List String} {names : List AxisName} {i : Nat}
    (h : getDimension dimensionNames names = .ok i) :
    ∃ name ∈ names, dimensionNames[i]? = some name.vdsName := by
  unfold getDimension at h
  split at h
  · rename_i j hj
    cases h
    obtain ⟨hlt, hany, -⟩ := List.findIdx?_eq_some_iff_getElem.1 hj
    obtain ⟨name, hname, heq⟩ := List.any_eq_true.1 hany
    exact ⟨name, hname, by simpa [hlt] using heq⟩
  · cases h

theorem getDimension_error_iff (dimensionNames : List String) (names : List AxisName) :
    (∃ msg, getDimension dimensionNames names = .error msg) ↔
      ∀ name ∈ names, name.vdsName ∉ dimensionNames := by
  unfold getDimension
  split
  · rename_i j hj
    obtain ⟨hlt, hany, -⟩ := List.findIdx?_eq_some_iff_getElem.1 hj
    obtain ⟨name, hname, heq⟩ := List.any_eq_true.1 hany
    simp only [reduceCtorEq, exists_false, false_iff, not_forall, not_not]
    exact ⟨name, hname, by simpa using (beq_iff_eq.1 heq) ▸ List.getElem_mem hlt⟩
  · rename_i hnone
    simp only [Except.error.injEq, exists_eq', true_iff]
    intro name hname hmem
    have := List.findIdx?_eq_none_iff.1 hnone name.vdsName hmem
    simp only [List.any_eq_false, beq_iff_eq] at this
    exact this name hname rfl

/-- A handle that opens has its three axes in three distinct dimensions of a
    three-dimensional cube. -/
theorem metadataHandle_dims {dimensionNames : List String} {m : MetadataHandle}
    (h : MetadataHandle.new dimensionNames = .ok m) :
    dimensionNames.length = 3 ∧ m.iline < 3 ∧ m.xline < 3 ∧ m.sample < 3 ∧
      m.iline ≠ m.xline ∧ m.iline ≠ m.sample ∧ m.xline ≠ m.sample := by
  simp only [MetadataHandle.new, Go.bind_eq_ok] at h
  obtain ⟨iline, hi, xline, hx, sample, hs, h⟩ := h
  split at h
  · cases h
  rename_i hlen
  cases h
  have hlen : dimensionNames.length = 3 := not_not.1 hlen
  obtain ⟨ni, hni, hi⟩ := getDimension_ok hi
  obtain ⟨nx, hnx, hx⟩ := getDimension_ok hx
  obtain ⟨ns, hns, hs⟩ := getDimension_ok hs
  simp only [List.mem_singleton, List.mem_cons, List.not_mem_nil, or_false] at hni hnx hns
  subst hni hnx
  have hlt : ∀ {k : Nat} {v : String}, dimensionNames[k]? = some v → k < 3 := fun hk =>
    hlen ▸ (List.getElem?_eq_some_iff.1 hk).1
  refine ⟨hlen, hlt hi, hlt hx, hlt hs, fun heq => ?_, fun heq => ?_, fun heq => ?_⟩ <;>
    simp only at heq <;> subst heq
  · rw [hi] at hx
    exact absurd hx (by decide)
  · rw [hi] at hs
    rcases hns with rfl | rfl | rfl <;> exact absurd hs (by decide)
  · rw [hx] at hs
    rcases hns with rfl | rfl | rfl <;> exact absurd hs (by decide)

/-- A layout stored sample-major opens with its inline axis last. -/
theorem sample_major_layout_dims :
    MetadataHandle.new ["Sample", "Crossline", "Inline"] = .ok ⟨2, 1, 0⟩ ∧
      (["Sample", "Crossline", "Inline"] : List String).length = 3 ∧ 2 < 3 ∧ 1 < 3 ∧ 0 < 3 ∧
        2 ≠ 1 ∧ 2 ≠ 0 ∧ 1 ≠ 0 :=
  ⟨rfl, @metadataHandle_dims ["Sample", "Crossline", "Inline"] ⟨2, 1, 0⟩ rfl⟩

theorem getDimension_ok_iff (dimensionNames : List String) (names : List AxisName) :
    (∃ i, getDimension dimensionNames names = .ok i) ↔ ∃ name ∈ names, name.vdsName ∈ dimensionNames := by
  rcases h : getDimension dimensionNames names with msg | i
  · simp only [reduceCtorEq, exists_false, false_iff, not_exists, not_and]
    exact (getDimension_error_iff dimensionNames names).1 ⟨msg, h⟩
  · obtain ⟨name, hname, hi⟩ := getDimension_ok h
    exact iff_of_true ⟨i, rfl⟩ ⟨name, hname, List.getElem?_mem hi⟩

theorem getDimension_error {dimensionNames : List String} {names : List AxisName} {msg : String}
    (h : getDimension dimensionNames names = .error msg) : msg = unsupportedAxisMsg dimensionNames.length := by
  unfold getDimension at h
  split at h <;> cases h
  rfl

/-- A layout opens exactly when it has three dimensions, one named `Inline`,
    one `Crossline` and one `Sample`, `Depth` or `Time`. A layout that lacks one
    of these axes fails with the axis message, whatever its dimensionality: the
    dimensionality message is only given to a layout with all three axes. -/
theorem metadataHandle_open (dimensionNames : List String) :
    ((∃ m, MetadataHandle.new dimensionNames = .ok m) ↔
      dimensionNames.length = 3 ∧ "Inline" ∈ dimensionNames ∧ "Crossline" ∈ dimensionNames ∧
        ("Sample" ∈ dimensionNames ∨ "Depth" ∈ dimensionNames ∨ "Time" ∈ dimensionNames)) ∧
    (¬("Inline" ∈ dimensionNames ∧ "Crossline" ∈ dimensionNames ∧
        ("Sample" ∈ dimensionNames ∨ "Depth" ∈ dimensionNames ∨ "Time" ∈ dimensionNames)) →
      MetadataHandle.new dimensionNames = .error (unsupportedAxisMsg dimensionNames.length)) := by
  have hi := getDimension_ok_iff dimensionNames [.inline]
  have hx := getDimension_ok_iff dimensionNames [.crossline]
  have hs := getDimension_ok_iff dimensionNames [.sample, .depth, .time]
  simp only [List.mem_singleton, List.mem_cons, List.not_mem_nil, or_false, exists_eq_left,
    exists_eq_or_imp, AxisName.vdsName] at hi hx hs
  constructor
  · constructor
    · rintro ⟨m, h⟩
      simp only [MetadataHandle.new, Go.bind_eq_ok] at h
      obtain ⟨a, ha, b, hb, c, hc, h⟩ := h
      split at h
      · cases h
      exact ⟨not_not.1 ‹_›, hi.1 ⟨a, ha⟩, hx.1 ⟨b, hb⟩, hs.1 ⟨c, hc⟩⟩
    · rintro ⟨hlen, hin, hxl, hsa⟩
      obtain ⟨a, ha⟩ := hi.2 hin
      obtain ⟨b, hb⟩ := hx.2 hxl
      obtain ⟨c, hc⟩ := hs.2 hsa
      exact ⟨⟨a, b, c⟩, by simp [MetadataHandle.new, ha, hb, hc, hlen]⟩
  · intro hmissing
    simp only [MetadataHandle.new]
    rcases ha : getDimension dimensionNames [.inline] with msg | a
    · rw [getDimension_error ha]
      rfl
    rcases hb : getDimension dimensionNames [.crossline] with msg | b
    · rw [getDimension_error hb]
      rfl
    rcases hc : getDimension dimensionNames [.sample, .depth, .time] with msg | c
    · rw [getDimension_error hc]
      rfl
    exact absurd ⟨hi.1 ⟨a, ha⟩, hx.1 ⟨b, hb⟩, hs.1 ⟨c, hc⟩⟩ hmissing

end OneseismicApi.Core
