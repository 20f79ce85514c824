import Mathlib

/-! # Spawning loops

Both orchestrators of `core.go` hand ranges `[from, to)` of surface cells to
goroutines from a loop whose variables change once per goroutine. `Loop` is
such a loop: its condition, the range it hands out, its update, and the
invariant and variant under which it terminates. `Loop.ranges` is the list of
ranges a run of the loop hands out, in order.
-/

namespace OneseismicApi.Pool

/-- A loop `for cond s { go worker(range s); s = advance s }` started at `init`,
    with an invariant `inv` and a variant `measure` that make it terminate. -/
structure Loop (σ : Type) where
  init : σ
  cond : σ → Bool
  range : σ → Nat × Nat
  advance : σ → σ
  inv : σ → Prop
  measure : σ → Nat
  inv_init : inv init
  inv_advance : ∀ {s}, inv s → cond s → inv (advance s)
  decreases : ∀ {s}, inv s → cond s → measure (advance s) < measure s

namespace Loop

variable {σ : Type} (L : Loop σ)

/-- The ranges the loop hands out from `s` on. -/
def ranges (s : σ) (h : L.inv s) : List (Nat × Nat) :=
  if hc : L.cond s then L.range s :: ranges (L.advance s) (L.inv_advance h hc) else []
termination_by L.measure s
decreasing_by exact L.decreases h hc

theorem ranges_of_cond {s : σ} (h : L.inv s) (hc : L.cond s) :
    L.ranges s h = L.range s :: L.ranges (L.advance s) (L.inv_advance h hc) := by
  rw [ranges, dif_pos hc]

theorem ranges_of_not_cond {s : σ} (h : L.inv s) (hc : ¬L.cond s) : L.ranges s h = [] := by
  rw [ranges, dif_neg hc]

theorem ranges_congr {s s' : σ} (h : L.inv s) (h' : L.inv s') (e : s = s') :
    L.ranges s h = L.ranges s' h' := by
  subst e; rfl

/-- Every range handed out from the start. -/
def all : List (Nat × Nat) := L.ranges L.init L.inv_init

end Loop

end OneseismicApi.Pool
