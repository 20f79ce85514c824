import OneseismicApi.Pool.Outcome

/-! # `fetchHorizon`

`VDSHandle.fetchHorizon` splits the `hsize = nrows * ncols` cells of a surface
into chunks of `max(nrows, 1)` cells, starts one goroutine per chunk with at most
`max(nrows/2, 1)` of them holding a `guard` slot at a time, and collects their
errors from a channel of capacity `hsize/chunkSize + 1`. Each goroutine's
`C.horizon` call fills the samples of its cells in the shared buffer; which cell
a byte of the buffer belongs to is fixed by `dataOffset`.
-/

namespace OneseismicApi.Core

open Go Pool

/-- `chunkSize := max(nrows, 1)`. -/
def chunkSize (nrows : Nat) : Nat := maxInt nrows 1

/-- `maxConcurrentGoroutines := max(nrows/2, 1)`. -/
def maxConcurrentGoroutines (nrows : Nat) : Nat := maxInt (nrows / 2) 1

/-- The spawning loop of `fetchHorizon` over `(from, to)`. -/
def fetchHorizonLoop (nrows ncols : Nat) : Loop (Nat × Nat) where
  init := (0, 0 + chunkSize nrows)
  cond l := l.1 < nrows * ncols
  range := id
  advance l := (l.1 + chunkSize nrows, minInt (l.2 + chunkSize nrows) (nrows * ncols))
  inv _ := True
  measure l := nrows * ncols - l.1
  inv_init := trivial
  inv_advance _ _ := trivial
  decreases {l} _ hc := by
    simp only [decide_eq_true_eq] at hc
    simp only [chunkSize, maxInt_eq]
    omega

/-- `fetchHorizon` as a system of goroutines; `cellOf p` is the surface cell
    whose samples hold byte `p` of the buffer. -/
def fetchHorizon (nrows ncols : Nat) (cellOf : Nat → Nat) : Orchestrator (Nat × Nat) :=
  { fetchHorizonLoop nrows ncols with
    guardCap := some (maxConcurrentGoroutines nrows)
    errsCap := nrows * ncols / chunkSize nrows + 1
    cell := cellOf }

/-- The `k`-th chunk. -/
def chunk (nrows k : Nat) : Nat × Nat := (k * nrows, (k + 1) * nrows)

section

variable {nrows ncols : Nat} (hrows : 1 ≤ nrows)
include hrows

theorem chunkSize_eq : chunkSize nrows = nrows := by
  simp [chunkSize]; omega

theorem fetchHorizonLoop_ranges (m : Nat) :
    ∀ k t, k + m = ncols → (0 < m → t = (k + 1) * nrows) →
      (fetchHorizonLoop nrows ncols).ranges (k * nrows, t) trivial =
        (List.range' k m).map (chunk nrows) := by
  induction m with
  | zero =>
    intro k t hk _
    rw [Loop.ranges_of_not_cond _ _ (by simp [fetchHorizonLoop, ← hk, Nat.mul_comm])]
    rfl
  | succ m ih =>
    intro k t hk ht
    have hlt : k * nrows < nrows * ncols := by
      rw [Nat.mul_comm nrows]; exact Nat.mul_lt_mul_of_pos_right (by omega) hrows
    rw [Loop.ranges_of_cond _ _ (by simpa [fetchHorizonLoop] using hlt)]
    simp only [fetchHorizonLoop, id, List.range'_succ, List.map_cons, chunk, ht m.succ_pos]
    congr 1
    have hstep : (k + 1) * nrows = k * nrows + nrows := Nat.succ_mul k nrows
    rw [Loop.ranges_congr _ _ trivial (by rw [chunkSize_eq hrows, ← hstep])]
    refine ih (k + 1) _ (by omega) fun hm => ?_
    have hle : (k + 1 + 1) * nrows ≤ nrows * ncols := by
      rw [Nat.mul_comm nrows]; exact Nat.mul_le_mul_right _ (by omega)
    simp only [minInt_eq, Nat.succ_mul (k + 1)] at hle ⊢
    omega

theorem fetchHorizon_all (cellOf : Nat → Nat) :
    (fetchHorizon nrows ncols cellOf).all = (List.range ncols).map (chunk nrows) := by
  rw [List.range_eq_range', ← fetchHorizonLoop_ranges hrows ncols 0 nrows (Nat.zero_add ncols)
    (by simp)]
  exact Loop.ranges_congr _ _ _ (by show (0, 0 + chunkSize nrows) = _; simp [chunkSize_eq hrows])

end

theorem chunks_sorted (nrows ncols : Nat) :
    ((List.range ncols).map (chunk nrows)).Pairwise fun a b => a.2 ≤ b.1 := by
  rw [List.pairwise_map]
  refine List.pairwise_lt_range ncols |>.imp fun {i j} hij => ?_
  exact Nat.mul_le_mul_right _ hij

theorem fetchHorizon_sorted (nrows ncols : Nat) (cellOf : Nat → Nat) :
    (fetchHorizon nrows ncols cellOf).Sorted := by
  rcases Nat.eq_zero_or_pos nrows with rfl | hrows
  · rw [Orchestrator.Sorted, Loop.all, Loop.ranges_of_not_cond _ _ (by simp [fetchHorizon, fetchHorizonLoop])]
    exact List.Pairwise.nil
  · rw [Orchestrator.Sorted, fetchHorizon_all hrows]
    exact chunks_sorted nrows ncols

end OneseismicApi.Core
