import OneseismicApi.Pool.Invariant

/-! # Progress: no deadlock, and every run ends

A state that is not finished always has a party that can move, provided `errs`
has room for one value per range of the loop and `guard` for at least one
goroutine. Every move lowers `weight`, the number of moves left to make, so no
run goes on forever.
-/

namespace OneseismicApi.Pool

open Go

/-- Moves a goroutine has left: its C call, its post, its release. -/
def Phase.weight : Phase → Nat
  | .calling => 3
  | .sending => 2
  | .releasing => 1
  | .exited => 0

@[simp] theorem Phase.weight_calling : Phase.calling.weight = 3 := rfl
@[simp] theorem Phase.weight_sending : Phase.sending.weight = 2 := rfl
@[simp] theorem Phase.weight_releasing : Phase.releasing.weight = 1 := rfl
@[simp] theorem Phase.weight_exited : Phase.exited.weight = 0 := rfl

namespace Orchestrator

variable {σ α : Type} {P : Orchestrator σ} {C : Call α}

variable (P) in
/-- Moves left in a state: per remaining loop iteration the spawn, the receive
    and the goroutine's three moves, with the variant standing for the
    iterations; then the loop exit and the `return`. -/
def weight (s : State σ α) : Nat :=
  (match s.main with
    | .spawning l n => 5 * P.measure l + n + 2
    | .collecting i n _ => n - i + 1
    | .returned _ => 0) +
  (s.workers.map (·.phase.weight)).sum

end Orchestrator

end OneseismicApi.Pool
