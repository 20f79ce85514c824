import OneseismicApi.Core.FetchHorizon
import OneseismicApi.Core.Exceptions

/-! # `calculateAttributes`

`VDSHandle.calculateAttributes` cuts the `hsize` cells into ranges of
`windowsPerRoutine = ceil(hsize / 32)` cells, starts one goroutine per range
without a semaphore, and collects their errors from a channel of capacity 32.
Each `C.attribute` call writes its cells of every attribute map; map `i` is the
slice `[i*mapsize, (i+1)*mapsize)` of one buffer, `mapsize = hsize * 4` bytes.

`math.Ceil(float64(hsize) / float64(32))` is exact for every `hsize` below
`2^53`, which bounds every slice Go can allocate, so it is the integer ceiling.
-/

namespace OneseismicApi.Core

open Go Pool

/-- `maxConcurrency := 32`. -/
def maxConcurrency : Nat := 32

/-- `windowsPerRoutine := int(math.Ceil(float64(hsize) / float64(maxConcurrency)))`. -/
def windowsPerRoutine (hsize : Nat) : Nat := (hsize + maxConcurrency - 1) / maxConcurrency

/-- `size := min(windowsPerRoutine, remaining)`. -/
def routineSize (hsize remaining : Nat) : Nat := minInt (windowsPerRoutine hsize) remaining

/-- The spawning loop of `calculateAttributes` over `(from, remaining)`. -/
def calculateAttributesLoop (hsize : Nat) : Loop (Nat × Nat) where
  init := (0, hsize)
  cond l := 0 < l.2
  range l := (l.1, l.1 + routineSize hsize l.2)
  advance l := (l.1 + routineSize hsize l.2, l.2 - routineSize hsize l.2)
  inv l := l.2 ≤ hsize
  measure l := l.2
  inv_init := le_refl _
  inv_advance h _ := le_trans (Nat.sub_le _ _) h
  decreases {l} h hc := by
    simp only [decide_eq_true_eq] at hc
    simp only [routineSize, windowsPerRoutine, maxConcurrency, minInt_eq]
    omega

/-- `calculateAttributes` as a system of goroutines: byte `p` of the buffer is
    in cell `p / 4 % hsize` of its attribute map. -/
def calculateAttributes (hsize : Nat) : Orchestrator (Nat × Nat) :=
  { calculateAttributesLoop hsize with
    guardCap := none
    errsCap := maxConcurrency
    cell := fun p => p / 4 % hsize }

/-- `out[i] = buffer[i*mapsize : (i+1)*mapsize]` for each of the `nAttributes` maps. -/
def attributeMaps {α : Type} (hsize nAttributes : Nat) (buffer : Nat → α) : List (List α) :=
  (List.range nAttributes).map fun i => (List.range (hsize * 4)).map fun j => buffer (i * (hsize * 4) + j)

section Ranges

variable {hsize : Nat}

theorem windowsPerRoutine_pos (h : 0 < hsize) : 0 < windowsPerRoutine hsize := by
  simp only [windowsPerRoutine, maxConcurrency]; omega

theorem calculateAttributes_ranges_cons {f r : Nat} (h : r ≤ hsize) (hr : 0 < r) :
    (calculateAttributesLoop hsize).ranges (f, r) h =
      (f, f + routineSize hsize r) ::
        (calculateAttributesLoop hsize).ranges (f + routineSize hsize r, r - routineSize hsize r)
          (le_trans (Nat.sub_le _ _) h) :=
  Loop.ranges_of_cond _ _ (by simpa [calculateAttributesLoop] using hr)

theorem calculateAttributes_ranges_zero {f : Nat} (h : 0 ≤ hsize) :
    (calculateAttributesLoop hsize).ranges (f, 0) h = [] :=
  Loop.ranges_of_not_cond _ _ (by simp [calculateAttributesLoop])

theorem routineSize_spec {r : Nat} (h : r ≤ hsize) (hr : 0 < r) :
    0 < routineSize hsize r ∧ routineSize hsize r ≤ r ∧
      routineSize hsize r ≤ windowsPerRoutine hsize ∧
      (routineSize hsize r < r → routineSize hsize r = windowsPerRoutine hsize) := by
  have := windowsPerRoutine_pos (lt_of_lt_of_le hr h)
  unfold routineSize minInt
  split <;> omega

theorem calculateAttributes_ranges_spec (r : Nat) :
    ∀ f (h : r ≤ hsize), let L := (calculateAttributesLoop hsize).ranges (f, r) h
      (∀ rg ∈ L, rg.1 < rg.2 ∧ f ≤ rg.1 ∧ rg.2 ≤ f + r) ∧
      (L.head?.map Prod.fst = if 0 < r then some f else none) ∧
      L.Chain' (fun a b => a.2 = b.1) ∧
      L.Pairwise (fun a b => a.2 ≤ b.1) ∧
      (∀ c, f ≤ c ∧ c < f + r ↔ ∃ rg ∈ L, rg.1 ≤ c ∧ c < rg.2) ∧
      L.length = (r + windowsPerRoutine hsize - 1) / windowsPerRoutine hsize := by
  induction r using Nat.strong_induction_on with
  | _ r ih =>
    intro f h
    rcases Nat.eq_zero_or_pos r with rfl | hr
    · simp only [calculateAttributes_ranges_zero]
      refine ⟨by simp, by simp, List.chain'_nil, List.Pairwise.nil, fun c => by simp, ?_⟩
      by_cases hw : windowsPerRoutine hsize = 0
      · simp [hw]
      · simp only [List.length_nil, Nat.zero_add]
        exact (Nat.div_eq_of_lt (by omega)).symm
    · obtain ⟨hpos, hle, hlew, hlast⟩ := routineSize_spec h hr
      set n := routineSize hsize r with hn
      obtain ⟨ih₁, ih₂, ih₃, ih₄, ih₅, ih₆⟩ := ih (r - n) (by omega) (f + n) (le_trans (Nat.sub_le _ _) h)
      rw [calculateAttributes_ranges_cons h hr]
      set L := (calculateAttributesLoop hsize).ranges (f + n, r - n) (le_trans (Nat.sub_le _ _) h)
      refine ⟨?_, by simp [hr], List.chain'_cons'.mpr ⟨?_, ih₃⟩, List.pairwise_cons.mpr
        ⟨fun rg hrg => (ih₁ rg hrg).2.1, ih₄⟩, fun c => ?_, ?_⟩
      · intro rg hrg
        rcases List.mem_cons.mp hrg with rfl | hrg
        · simp only; omega
        · have := ih₁ rg hrg; omega
      · intro y hy
        have h1 : L.head?.map Prod.fst = some y.1 := by rw [Option.mem_def.mp hy]; rfl
        rw [ih₂] at h1
        split at h1
        · exact Option.some.inj h1
        · cases h1
      · simp only [List.mem_cons, exists_eq_or_imp]
        rw [← ih₅]
        omega
      · have hw := windowsPerRoutine_pos (lt_of_lt_of_le hr h)
        simp only [List.length_cons, ih₆]
        by_cases hlt : n < r
        · have hnw := hlast hlt
          rw [hnw] at hlt ⊢
          rw [show r + windowsPerRoutine hsize - 1 = (r - windowsPerRoutine hsize +
              windowsPerRoutine hsize - 1) + windowsPerRoutine hsize by omega,
            Nat.add_div_right _ hw]
        · have h1 : (r + windowsPerRoutine hsize - 1) / windowsPerRoutine hsize = 1 :=
            Nat.div_eq_of_lt_le (by omega) (by omega)
          rw [show r - n = 0 by omega, Nat.div_eq_of_lt (by omega), h1]

theorem routines_le_maxConcurrency (hsize : Nat) :
    (hsize + windowsPerRoutine hsize - 1) / windowsPerRoutine hsize ≤ maxConcurrency := by
  rcases Nat.eq_zero_or_pos hsize with rfl | hpos
  · simp [windowsPerRoutine, maxConcurrency]
  · have hw := windowsPerRoutine_pos hpos
    have : hsize + windowsPerRoutine hsize - 1 < (maxConcurrency + 1) * windowsPerRoutine hsize := by
      simp only [windowsPerRoutine, maxConcurrency] at hw ⊢; omega
    exact Nat.lt_succ_iff.mp ((Nat.div_lt_iff_lt_mul hw).mpr this)

end Ranges

theorem attributeMaps_flatten {α : Type} (hsize nAttributes : Nat) (buffer : Nat → α) :
    (attributeMaps hsize nAttributes buffer).flatten =
      (List.range (nAttributes * (hsize * 4))).map buffer := by
  induction nAttributes with
  | zero => simp [attributeMaps]
  | succ n ih =>
    rw [attributeMaps, List.range_succ, List.map_append, List.flatten_append, ← attributeMaps, ih,
      Nat.succ_mul, List.range_add, List.map_append, List.map_map]
    simp [Function.comp_def, Nat.add_comm]

/-- `calculateAttributes` for every `hsize` and every outcome of the
    `C.attribute` calls: with `hsize = 0` it starts no goroutine; otherwise it
    starts `ceil(hsize / windowsPerRoutine)` of them, at most 32, the capacity of
    `errs`; every goroutine gets a non-empty range, so `attribute` of
    `capi.cpp`, its pointers set, does its work and never throws `No data to
    iterate over`; the ranges start at 0, each ends where the next
    begins, and together cover `[0, hsize)`; and the attribute maps, each
    `mapsize` bytes long, concatenate to exactly the buffer. -/
theorem calculateAttributes_partition {α : Type} (hsize nAttributes : Nat) (C : Call α)
    (zero : α) (buffer : Nat → α) :
    let P := calculateAttributes hsize
    (hsize = 0 → P.all = []) ∧
    (0 < hsize → P.all.length = (hsize + windowsPerRoutine hsize - 1) / windowsPerRoutine hsize) ∧
    P.all.length ≤ maxConcurrency ∧ P.errsCap = maxConcurrency ∧
    (∀ s, P.Reachable C zero s → ∀ w ∈ s.workers, w.lo < w.hi ∧
      ∀ {β : Type} (work : Except CppException β),
        Capi.attr true true true true true true true w.lo w.hi work = work) ∧
    P.all.head?.map Prod.fst = (if 0 < hsize then some 0 else none) ∧
    P.all.Chain' (fun a b => a.2 = b.1) ∧
    P.all.Pairwise (fun a b => a.2 ≤ b.1) ∧
    (∀ c, c < hsize ↔ ∃ rg ∈ P.all, rg.1 ≤ c ∧ c < rg.2) ∧
    (∀ m ∈ attributeMaps hsize nAttributes buffer, m.length = hsize * 4) ∧
    (attributeMaps hsize nAttributes buffer).flatten =
      (List.range (nAttributes * (hsize * 4))).map buffer := by
  intro P
  obtain ⟨h₁, h₂, h₃, h₄, h₅, h₆⟩ := calculateAttributes_ranges_spec hsize 0 le_rfl
  have hall : P.all = (calculateAttributesLoop hsize).ranges (0, hsize) le_rfl := rfl
  rw [← hall] at h₁ h₂ h₃ h₄ h₅ h₆
  have hle : P.all.length ≤ maxConcurrency := h₆ ▸ routines_le_maxConcurrency hsize
  refine ⟨fun h => ?_, fun _ => h₆, hle, rfl, fun s hs w hw => ?_, h₂, h₃, h₄,
    fun c => by simpa using h₅ c, ?_, attributeMaps_flatten hsize nAttributes buffer⟩
  · subst h
    exact List.eq_nil_of_length_eq_zero (by simpa [windowsPerRoutine, maxConcurrency] using h₆)
  · have hpre := Orchestrator.spans_initial_segment (Orchestrator.inv_reachable hs).main
    have := h₁ w.span (hpre.subset (List.mem_map_of_mem _ hw))
    simp only [Worker.span] at this
    exact ⟨this.1, fun work => by rw [Capi.attr_eq, if_pos this.1]⟩
  · intro m hm
    simp only [attributeMaps, List.mem_map] at hm
    obtain ⟨i, -, rfl⟩ := hm
    simp

/-! ## The order in which results arrive -/

theorem calculateAttributes_sorted (hsize : Nat) : (calculateAttributes hsize).Sorted :=
  (calculateAttributes_ranges_spec hsize 0 le_rfl).2.2.2.1

/-- For every surface and every outcome of the C calls, each run of
    `fetchHorizon`, and each run of `calculateAttributes`, returns the first
    error to arrive on `errs`, or the buffer the goroutines wrote when none
    failed; any two runs agree on whether they return the buffer, and return
    the same value whenever the failing goroutines all post one error. -/
theorem collect_arrival_order {α : Type} (nrows ncols hsize : Nat) (cellOf : Nat → Nat)
    (C C' : Call α) (zero : α) :
    (fetchHorizon nrows ncols cellOf).ArrivalOrder C zero ∧
      (calculateAttributes hsize).ArrivalOrder C' zero :=
  ⟨Orchestrator.arrivalOrder_of_sorted (fetchHorizon_sorted nrows ncols cellOf) zero,
    Orchestrator.arrivalOrder_of_sorted (calculateAttributes_sorted hsize) zero⟩

/-- Two chunks of a 4 by 2 surface whose `C.horizon` calls fail with different
    errors. -/
def twoFailingChunks : Call Nat where
  result lo _ := if lo = 0 then some (.internalError "Failed to read from VDS.")
    else some (.invalidArgument "Vertical window is out of vertical bounds")
  writes _ _ _ := 0

/-- `fetchHorizon` returns whichever failing chunk's error arrives first. -/
theorem fetchHorizon_error_depends_on_arrival :
    ∃ s₁ s₂ : State (Nat × Nat) Nat,
      (fetchHorizon 4 2 id).Reachable twoFailingChunks 0 s₁ ∧
      (fetchHorizon 4 2 id).Reachable twoFailingChunks 0 s₂ ∧
      s₁.main = .returned (.error (.internalError "Failed to read from VDS.")) ∧
      s₂.main = .returned (.error (.invalidArgument "Vertical window is out of vertical bounds")) := by
  have h₁ : ((fetchHorizon 4 2 id).run twoFailingChunks ((fetchHorizon 4 2 id).start 0)
      [.main, .main, .worker 0, .worker 0, .worker 1, .worker 1, .main, .main, .main, .main]).map
      State.main = some (.returned (.error (.internalError "Failed to read from VDS."))) := rfl
  have h₂ : ((fetchHorizon 4 2 id).run twoFailingChunks ((fetchHorizon 4 2 id).start 0)
      [.main, .main, .worker 0, .worker 1, .worker 1, .worker 0, .main, .main, .main, .main]).map
      State.main =
      some (.returned (.error (.invalidArgument "Vertical window is out of vertical bounds"))) := rfl
  obtain ⟨s₁, hs₁, hm₁⟩ := Orchestrator.reachable_of_schedule _ _ h₁
  obtain ⟨s₂, hs₂, hm₂⟩ := Orchestrator.reachable_of_schedule _ _ h₂
  exact ⟨s₁, s₂, hs₁, hs₂, hm₁, hm₂⟩

end OneseismicApi.Core
