import OneseismicApi.Pool.System

/-! # The control invariant of an orchestrator

`Inv` ties the parties together: the main goroutine has started exactly the
goroutines of the loop's first iterations, `guard` holds one token per
goroutine that has not given its slot back, and every value posted on `errs`
is either still buffered or was taken by the collecting loop. Each move keeps
it, so it holds in every reachable state.
-/

namespace OneseismicApi.Pool

open Go

/-- The goroutine has posted its result. -/
def Phase.posted : Phase → Bool
  | .releasing | .exited => true
  | _ => false

/-- The goroutine still holds its `guard` slot (where there is one). -/
def Phase.holding : Phase → Bool
  | .exited => false
  | _ => true

@[simp] theorem Phase.posted_calling : Phase.calling.posted = false := rfl
@[simp] theorem Phase.posted_sending : Phase.sending.posted = false := rfl
@[simp] theorem Phase.posted_releasing : Phase.releasing.posted = true := rfl
@[simp] theorem Phase.posted_exited : Phase.exited.posted = true := rfl
@[simp] theorem Phase.holding_calling : Phase.calling.holding = true := rfl
@[simp] theorem Phase.holding_sending : Phase.sending.holding = true := rfl
@[simp] theorem Phase.holding_releasing : Phase.releasing.holding = true := rfl
@[simp] theorem Phase.holding_exited : Phase.exited.holding = false := rfl

def Worker.span (w : Worker) : Nat × Nat := (w.lo, w.hi)

@[simp] theorem Worker.span_with_phase (w : Worker) (p : Phase) :
    ({ w with phase := p } : Worker).span = w.span := rfl

/-- The values the goroutines in `ws` have posted on `errs`. -/
def Call.results {α : Type} (C : Call α) (ws : List Worker) : List (Option GoError) :=
  (ws.filter (·.phase.posted)).map fun w => C.result w.lo w.hi

namespace Orchestrator

variable {σ α : Type} (P : Orchestrator σ) (C : Call α)

/-- The main goroutine against the goroutines it started. -/
def MainInv (s : State σ α) : Prop :=
  match s.main with
  | .spawning l n =>
    ∃ h : P.inv l, n = s.workers.length ∧ s.received = [] ∧
      s.workers.map Worker.span ++ P.ranges l h = P.all
  | .collecting i n ce =>
    n = s.workers.length ∧ i ≤ n ∧ s.received.length = i ∧ ce = s.received.reduceOption ∧
      s.workers.map Worker.span = P.all
  | .returned r =>
    s.received.length = s.workers.length ∧ s.errs = [] ∧ (∀ w ∈ s.workers, w.phase.posted) ∧
      s.workers.map Worker.span = P.all ∧ r = collectResult s.received.reduceOption s.buffer

structure Inv (s : State σ α) : Prop where
  main : P.MainInv s
  guard : s.guard = if P.guardCap.isSome then s.workers.countP (·.phase.holding) else 0
  guard_le : ∀ cap, P.guardCap = some cap → s.guard ≤ cap
  no_release : P.guardCap = none → ∀ w ∈ s.workers, w.phase ≠ .releasing
  posted : (s.received ++ s.errs).Perm (C.results s.workers)

theorem inv_start (zero : α) : P.Inv C (P.start zero) where
  main := ⟨P.inv_init, rfl, rfl, rfl⟩
  guard := by simp [start]
  guard_le := by simp [start]
  no_release := by simp [start]
  posted := by simp [start, Call.results]

variable {P C}

theorem results_append (ws ws' : List Worker) :
    C.results (ws ++ ws') = C.results ws ++ C.results ws' := by
  simp [Call.results]

theorem results_cons (w : Worker) (ws : List Worker) :
    C.results (w :: ws) =
      (if w.phase.posted then [C.result w.lo w.hi] else []) ++ C.results ws := by
  by_cases h : w.phase.posted <;> simp [Call.results, List.filter_cons, h]

theorem mainInv_of_workers {s s' : State σ α} (h : P.MainInv s) (hm : s'.main = s.main)
    (hr : s'.received = s.received)
    (hspan : s'.workers.map Worker.span = s.workers.map Worker.span)
    (hret : ∀ r, s.main = .returned r →
      s'.errs = s.errs ∧ s'.buffer = s.buffer ∧ ∀ w ∈ s'.workers, w.phase.posted) :
    P.MainInv s' := by
  have hlen : s'.workers.length = s.workers.length := by
    simpa using congrArg List.length hspan
  unfold MainInv at h ⊢
  rw [hm, hr, hspan, hlen]
  cases hs : s.main with
  | spawning l n => simpa [hs] using h
  | collecting i n ce => simpa [hs] using h
  | returned r =>
    obtain ⟨he, hb, hp⟩ := hret r hs
    simp only [hs] at h
    exact ⟨h.1, he ▸ h.2.1, hp, h.2.2.2.1, hb ▸ h.2.2.2.2⟩

theorem not_returned {s : State σ α} (h : P.MainInv s) {w : Worker} (hw : w ∈ s.workers)
    (hp : w.phase.posted = false) (r : Except GoError (Nat → α)) : s.main ≠ .returned r := by
  intro hs
  simp only [MainInv, hs] at h
  simp [h.2.2.1 w hw] at hp

/-! ## One lemma per move -/

section Moves

variable {s : State σ α} (hi : P.Inv C s)
include hi

theorem inv_spawn {l : σ} {n : Nat} (hm : s.main = .spawning l n) (hc : P.cond l)
    (hg : P.guardOpen s.guard) : P.Inv C (P.spawn s l n) := by
  have hmain := hi.main
  simp only [MainInv, hm] at hmain
  obtain ⟨hl, hn, hr, hspan⟩ := hmain
  refine ⟨⟨P.inv_advance hl hc, by simp [spawn, hn], hr, ?_⟩, ?_, ?_, ?_, ?_⟩
  · rw [← hspan, P.ranges_of_cond hl hc]
    simp [spawn, Worker.span]
  · cases h : P.guardCap <;> simp [spawn, hi.guard, h]
  · intro cap hcap
    simp only [guardOpen, hcap, decide_eq_true_eq] at hg
    simp [spawn, hcap]
    omega
  · intro h w hw
    simp only [spawn, List.mem_append, List.mem_singleton] at hw
    rcases hw with hw | rfl
    · exact hi.no_release h w hw
    · simp
  · simpa [spawn, results_append, Call.results] using hi.posted

theorem inv_exitLoop {l : σ} {n : Nat} (hm : s.main = .spawning l n) (hc : ¬P.cond l) :
    P.Inv C { s with main := .collecting 0 n [] } := by
  have hmain := hi.main
  simp only [MainInv, hm] at hmain
  obtain ⟨hl, hn, hr, hspan⟩ := hmain
  refine ⟨⟨hn, Nat.zero_le _, by simp [hr], by simp [hr], ?_⟩, hi.guard, hi.guard_le,
    hi.no_release, hi.posted⟩
  simpa [P.ranges_of_not_cond hl hc] using hspan

theorem inv_receive {i n : Nat} {ce : List GoError} {e : Option GoError}
    {rest : List (Option GoError)} (hm : s.main = .collecting i n ce) (hin : i < n)
    (he : s.errs = e :: rest) :
    P.Inv C { s with main := .collecting (i + 1) n (ce ++ e.toList), errs := rest,
                     received := s.received ++ [e] } := by
  have hmain := hi.main
  simp only [MainInv, hm] at hmain
  obtain ⟨hn, -, hr, hce, hspan⟩ := hmain
  refine ⟨⟨hn, hin, by simp [hr], ?_, hspan⟩, hi.guard, hi.guard_le, hi.no_release, ?_⟩
  · cases e <;> simp [hce, List.reduceOption_append]
  · simpa [he] using hi.posted

theorem inv_ret {i n : Nat} {ce : List GoError} (hm : s.main = .collecting i n ce)
    (hin : ¬i < n) : P.Inv C { s with main := .returned (collectResult ce s.buffer) } := by
  have hmain := hi.main
  simp only [MainInv, hm] at hmain
  obtain ⟨hn, hle, hr, hce, hspan⟩ := hmain
  have hlen : s.received.length + s.errs.length = (s.workers.filter (·.phase.posted)).length := by
    simpa [Call.results] using hi.posted.length_eq
  have hfilter := List.length_filter_le (·.phase.posted) s.workers
  have hall : (s.workers.filter (·.phase.posted)).length = s.workers.length := by omega
  have hrl : s.received.length = s.workers.length := by omega
  have he : s.errs = [] := List.eq_nil_of_length_eq_zero (by omega)
  refine ⟨⟨hrl, he, ?_, hspan, by rw [hce]⟩,
    hi.guard, hi.guard_le, hi.no_release, hi.posted⟩
  intro w hw
  exact List.filter_length_eq_length.mp hall w hw

theorem inv_call {pre post : List Worker} {w : Worker} (hs : s.workers = pre ++ w :: post)
    (hp : w.phase = .calling) :
    P.Inv C { s with workers := pre ++ { w with phase := .sending } :: post,
                     buffer := P.write C w s.buffer } := by
  have hw : w ∈ s.workers := by simp [hs]
  refine ⟨P.mainInv_of_workers hi.main rfl rfl (by simp [hs]) fun r hr =>
      absurd hr (P.not_returned hi.main hw (by simp [hp]) r), ?_, hi.guard_le, ?_, ?_⟩
  · simpa [hs, hp, List.countP_cons] using hi.guard
  · intro h w' hw'
    simp only [List.mem_append, List.mem_cons] at hw'
    rcases hw' with hw' | rfl | hw'
    · exact hi.no_release h w' (by simp [hs, hw'])
    · simp
    · exact hi.no_release h w' (by simp [hs, hw'])
  · simpa [hs, results_append, results_cons, hp] using hi.posted

theorem inv_send {pre post : List Worker} {w : Worker} (hs : s.workers = pre ++ w :: post)
    (hp : w.phase = .sending) :
    P.Inv C { s with workers := pre ++ { w with phase := P.afterSend } :: post,
                     errs := s.errs ++ [C.result w.lo w.hi] } := by
  have hw : w ∈ s.workers := by simp [hs]
  refine ⟨P.mainInv_of_workers hi.main rfl rfl (by simp [hs]) fun r hr =>
      absurd hr (P.not_returned hi.main hw (by simp [hp]) r), ?_, hi.guard_le, ?_, ?_⟩
  · cases h : P.guardCap <;> simpa [hs, hp, h, afterSend, List.countP_cons] using hi.guard
  · intro h w' hw'
    simp only [List.mem_append, List.mem_cons] at hw'
    rcases hw' with hw' | rfl | hw'
    · exact hi.no_release h w' (by simp [hs, hw'])
    · simp [afterSend, h]
    · exact hi.no_release h w' (by simp [hs, hw'])
  · have hpost : (P.afterSend).posted := by unfold afterSend; split <;> rfl
    have hold := hi.posted
    simp [hs, results_append, results_cons, hp] at hold
    simp only [results_append, results_cons, hpost, if_true, List.singleton_append]
    rw [← List.append_assoc]
    refine (hold.append_right _).trans ?_
    rw [List.append_assoc]
    exact (List.perm_append_singleton _ _).append_left _

theorem inv_release {pre post : List Worker} {w : Worker} (hs : s.workers = pre ++ w :: post)
    (hp : w.phase = .releasing) (hg : 0 < s.guard) :
    P.Inv C { s with workers := pre ++ { w with phase := .exited } :: post,
                     guard := s.guard - 1 } := by
  have hw : w ∈ s.workers := by simp [hs]
  have hcap : P.guardCap.isSome := by
    cases h : P.guardCap
    · exact absurd hp (hi.no_release h w hw)
    · rfl
  refine ⟨P.mainInv_of_workers hi.main rfl rfl (by simp [hs]) fun r hr => ⟨rfl, rfl, ?_⟩,
    ?_, fun cap h => (hi.guard_le cap h).trans' (Nat.sub_le _ _), fun h => ?_, ?_⟩
  · have hmain := hi.main
    simp only [MainInv, hr] at hmain
    intro w' hw'
    simp only [List.mem_append, List.mem_cons] at hw'
    rcases hw' with hw' | rfl | hw'
    · exact hmain.2.2.1 w' (by simp [hs, hw'])
    · rfl
    · exact hmain.2.2.1 w' (by simp [hs, hw'])
  · have hguard := hi.guard
    simp [hcap, hs, List.countP_append, List.countP_cons, hp] at hguard ⊢
    omega
  · simp at hcap
    simp [h] at hcap
  · simpa [hs, results_append, results_cons, hp] using hi.posted

end Moves

theorem inv_move {s s' : State σ α} (hi : P.Inv C s) (h : P.Move C s s') : P.Inv C s' := by
  cases h with
  | spawn hm hc hg => exact inv_spawn hi hm hc hg
  | exitLoop hm hc => exact inv_exitLoop hi hm hc
  | receive hm hin he => exact inv_receive hi hm hin he
  | ret hm hin => exact inv_ret hi hm hin
  | call hs hp => exact inv_call hi hs hp
  | send hs hp _ => exact inv_send hi hs hp
  | release hs hp hg => exact inv_release hi hs hp hg

theorem inv_reachable {zero : α} {s : State σ α} (h : P.Reachable C zero s) : P.Inv C s := by
  induction h with
  | start => exact P.inv_start C zero
  | step _ _ hstep ih => exact inv_move ih (step_move hstep)

end Orchestrator

end OneseismicApi.Pool
