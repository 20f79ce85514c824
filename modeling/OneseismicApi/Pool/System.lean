import OneseismicApi.Go
import OneseismicApi.Pool.Loop

/-! # Orchestrators: spawn, call, post, collect

`fetchHorizon` and `calculateAttributes` of `core.go` share one shape. The main
goroutine runs a spawning loop that starts one goroutine per range of surface
cells, optionally taking a slot of a `guard` semaphore first. Each goroutine
calls into C for its range, which writes its cells of a shared buffer, posts
`toError(..)` on the buffered channel `errs`, and gives its `guard` slot back.
The main goroutine then takes `nRoutines` values from `errs` and returns the
buffer, or the first error it took.

The state holds every party: the main goroutine's program point and loop
variables, each goroutine's program point, the number of tokens in `guard`, the
values buffered in `errs`, and the shared buffer. `step` moves one party, and
returns `none` when that party is blocked or finished. A C call is one step.
-/

namespace OneseismicApi.Pool

open Go

/-- An orchestrator of `core.go`: its spawning loop, the capacity of `guard`
    (`none` where the code has no semaphore), the capacity of `errs`, and the
    surface cell each position of the shared buffer belongs to. -/
structure Orchestrator (σ : Type) extends Loop σ where
  guardCap : Option Nat
  errsCap : Nat
  cell : Nat → Nat

/-- What the C call of a goroutine does on `[from, to)`: the error `toError`
    makes of its status, and the value it writes at each buffer position. -/
structure Call (α : Type) where
  result : Nat → Nat → Option GoError
  writes : Nat → Nat → Nat → α

/-- Program point of a worker goroutine. -/
inductive Phase where
  /-- Before its C call. -/
  | calling
  /-- At `errs <- toError(..)`. -/
  | sending
  /-- At `<-guard`. -/
  | releasing
  | exited
  deriving DecidableEq, Repr

/-- A goroutine and the range `[lo, hi)` it was started with. -/
structure Worker where
  lo : Nat
  hi : Nat
  phase : Phase
  deriving DecidableEq, Repr

/-- Program point of the main goroutine. -/
inductive Main (σ α : Type) where
  /-- In the spawning loop, with its variables and `nRoutines`. -/
  | spawning (s : σ) (nRoutines : Nat)
  /-- In the collecting loop at iteration `i`. -/
  | collecting (i nRoutines : Nat) (computeErrors : List GoError)
  | returned (r : Except GoError (Nat → α))

structure State (σ α : Type) where
  main : Main σ α
  workers : List Worker
  guard : Nat
  errs : List (Option GoError)
  buffer : Nat → α
  /-- Ghost: the values the collecting loop took from `errs`, in order. -/
  received : List (Option GoError)

/-- Who moves. -/
inductive Actor where
  | main
  | worker (k : Nat)
  deriving DecidableEq, Repr

namespace Orchestrator

variable {σ α : Type} (P : Orchestrator σ) (C : Call α)

/-- The state before the spawning loop; `zero` fills the fresh buffer. -/
def start (zero : α) : State σ α :=
  ⟨.spawning P.init 0, [], 0, [], fun _ => zero, []⟩

/-- Whether the buffer position `p` is one of the worker's cells. -/
def owns (w : Worker) (p : Nat) : Bool := w.lo ≤ P.cell p && P.cell p < w.hi

/-- Whether `guard <- struct{}{}` can proceed. -/
def guardOpen (guard : Nat) : Bool :=
  match P.guardCap with
  | some cap => guard < cap
  | none => true

/-- The value `return` gives after the collecting loop. -/
def collectResult (computeErrors : List GoError) (buffer : Nat → α) : Except GoError (Nat → α) :=
  match computeErrors with
  | [] => .ok buffer
  | e :: _ => .error e

/-- One iteration of the spawning loop: take a `guard` slot, start a goroutine
    on `range s`, count it, advance the loop variables. -/
def spawn (s : State σ α) (l : σ) (n : Nat) : State σ α :=
  { s with
    main := .spawning (P.advance l) (n + 1)
    workers := s.workers ++ [⟨(P.range l).1, (P.range l).2, .calling⟩]
    guard := if P.guardCap.isSome then s.guard + 1 else s.guard }

def stepMain (s : State σ α) : Option (State σ α) :=
  match s.main with
  | .spawning l n =>
    if P.cond l then
      if P.guardOpen s.guard then some (P.spawn s l n) else none
    else some { s with main := .collecting 0 n [] }
  | .collecting i n computeErrors =>
    if i < n then
      match s.errs with
      | [] => none
      | e :: rest =>
        some { s with
          main := .collecting (i + 1) n (computeErrors ++ e.toList)
          errs := rest
          received := s.received ++ [e] }
    else some { s with main := .returned (collectResult computeErrors s.buffer) }
  | .returned _ => none

/-- The phase after `errs <- ..`: `<-guard` where there is a semaphore. -/
def afterSend : Phase := if P.guardCap.isSome then .releasing else .exited

/-- The buffer after the C call of `w`: its cells now hold what the call wrote. -/
def write (w : Worker) (buffer : Nat → α) : Nat → α :=
  fun p => if P.owns w p then C.writes w.lo w.hi p else buffer p

def stepWorker (s : State σ α) (k : Nat) : Option (State σ α) :=
  match s.workers[k]? with
  | none => none
  | some w =>
    match w.phase with
    | .calling =>
      some { s with
        workers := s.workers.set k { w with phase := .sending }
        buffer := P.write C w s.buffer }
    | .sending =>
      if s.errs.length < P.errsCap then
        some { s with
          workers := s.workers.set k { w with phase := P.afterSend }
          errs := s.errs ++ [C.result w.lo w.hi] }
      else none
    | .releasing =>
      if 0 < s.guard then
        some { s with workers := s.workers.set k { w with phase := .exited }, guard := s.guard - 1 }
      else none
    | .exited => none

def step (s : State σ α) : Actor → Option (State σ α)
  | .main => P.stepMain s
  | .worker k => P.stepWorker C s k

/-- The moves of the system, one constructor per kind of step. -/
inductive Move : State σ α → State σ α → Prop where
  | spawn {s : State σ α} {l : σ} {n : Nat} :
      s.main = .spawning l n → P.cond l → P.guardOpen s.guard → Move s (P.spawn s l n)
  | exitLoop {s : State σ α} {l : σ} {n : Nat} :
      s.main = .spawning l n → ¬P.cond l → Move s { s with main := .collecting 0 n [] }
  | receive {s : State σ α} {i n : Nat} {ce : List GoError} {e : Option GoError}
      {rest : List (Option GoError)} :
      s.main = .collecting i n ce → i < n → s.errs = e :: rest →
      Move s { s with main := .collecting (i + 1) n (ce ++ e.toList), errs := rest,
                      received := s.received ++ [e] }
  | ret {s : State σ α} {i n : Nat} {ce : List GoError} :
      s.main = .collecting i n ce → ¬i < n →
      Move s { s with main := .returned (collectResult ce s.buffer) }
  | call {s : State σ α} {pre post : List Worker} {w : Worker} :
      s.workers = pre ++ w :: post → w.phase = .calling →
      Move s { s with workers := pre ++ { w with phase := .sending } :: post,
                      buffer := P.write C w s.buffer }
  | send {s : State σ α} {pre post : List Worker} {w : Worker} :
      s.workers = pre ++ w :: post → w.phase = .sending → s.errs.length < P.errsCap →
      Move s { s with workers := pre ++ { w with phase := P.afterSend } :: post,
                      errs := s.errs ++ [C.result w.lo w.hi] }
  | release {s : State σ α} {pre post : List Worker} {w : Worker} :
      s.workers = pre ++ w :: post → w.phase = .releasing → 0 < s.guard →
      Move s { s with workers := pre ++ { w with phase := .exited } :: post, guard := s.guard - 1 }

theorem set_split {β : Type} {l : List β} {k : Nat} {w : β} (h : l[k]? = some w) (w' : β) :
    ∃ pre post, l = pre ++ w :: post ∧ l.set k w' = pre ++ w' :: post := by
  obtain ⟨hk, rfl⟩ := List.getElem?_eq_some_iff.mp h
  obtain ⟨pre, post, h₁, -, h₂⟩ := @List.exists_of_set _ k w' _ hk
  exact ⟨pre, post, h₁, h₂⟩

variable {P C} in
theorem step_move {s s' : State σ α} {a : Actor} (h : P.step C s a = some s') :
    P.Move C s s' := by
  cases a with
  | main =>
    simp only [step, stepMain] at h
    cases hm : s.main with
    | spawning l n =>
      simp only [hm] at h
      by_cases hc : P.cond l
      · by_cases hg : P.guardOpen s.guard
        · simp only [hc, hg, if_true, Option.some.injEq] at h
          exact h ▸ .spawn hm hc hg
        · simp [hc, hg] at h
      · simp only [hc, if_false, Option.some.injEq, Bool.false_eq_true] at h
        exact h ▸ .exitLoop hm hc
    | collecting i n ce =>
      simp only [hm] at h
      by_cases hi : i < n
      · cases he : s.errs with
        | nil => simp [hi, he] at h
        | cons e rest =>
          simp only [hi, he, if_true, Option.some.injEq] at h
          exact h ▸ .receive hm hi he
      · simp only [hi, if_false, Option.some.injEq] at h
        exact h ▸ .ret hm hi
    | returned r => simp [hm] at h
  | worker k =>
    simp only [step, stepWorker] at h
    cases hw : s.workers[k]? with
    | none => simp [hw] at h
    | some w =>
      simp only [hw] at h
      cases hp : w.phase with
      | calling =>
        simp only [hp, Option.some.injEq] at h
        obtain ⟨pre, post, hs, hset⟩ := set_split hw { w with phase := .sending }
        exact h ▸ hset ▸ .call hs hp
      | sending =>
        by_cases he : s.errs.length < P.errsCap
        · simp only [hp, he, if_true, Option.some.injEq] at h
          obtain ⟨pre, post, hs, hset⟩ := set_split hw { w with phase := P.afterSend }
          exact h ▸ hset ▸ .send hs hp he
        · simp [hp, he] at h
      | releasing =>
        by_cases hg : 0 < s.guard
        · simp only [hp, hg, if_true, Option.some.injEq] at h
          obtain ⟨pre, post, hs, hset⟩ := set_split hw { w with phase := .exited }
          exact h ▸ hset ▸ .release hs hp hg
        · simp [hp, hg] at h
      | exited => simp [hp] at h


inductive Reachable (zero : α) : State σ α → Prop where
  | start : Reachable zero (P.start zero)
  | step {s s' : State σ α} (a : Actor) :
      Reachable zero s → P.step C s a = some s' → Reachable zero s'

/-- Run the moves of a schedule in order. -/
def run : State σ α → List Actor → Option (State σ α)
  | s, [] => some s
  | s, a :: rest => (P.step C s a).bind (run · rest)

theorem reachable_of_run {zero : α} {s s' : State σ α} {sched : List Actor}
    (hs : P.Reachable C zero s) (h : P.run C s sched = some s') : P.Reachable C zero s' := by
  induction sched generalizing s with
  | nil => cases h; exact hs
  | cons a rest ih =>
    simp only [run] at h
    cases ha : P.step C s a with
    | none => simp [ha] at h
    | some s₁ => exact ih (hs.step a ha) (by simpa [ha] using h)

theorem reachable_of_schedule {zero : α} {sched : List Actor} {m : Main σ α}
    (h : (P.run C (P.start zero) sched).map State.main = some m) :
    ∃ s, P.Reachable C zero s ∧ s.main = m := by
  cases hr : P.run C (P.start zero) sched with
  | none => simp [hr] at h
  | some s =>
    simp only [hr, Option.map_some', Option.some.injEq] at h
    exact ⟨s, P.reachable_of_run C Reachable.start hr, h⟩

end Orchestrator

end OneseismicApi.Pool
