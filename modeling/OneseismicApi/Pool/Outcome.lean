import OneseismicApi.Pool.Progress

/-! # What an orchestrator returns

When the ranges of the loop do not overlap, each cell of the shared buffer is
written by at most one goroutine, so the buffer a run returns does not depend on
the order in which the goroutines ran. The collecting loop takes exactly one
value per goroutine; it returns the buffer iff every value is `nil`, and
otherwise the first error it took, which is an error some goroutine posted.
-/

namespace OneseismicApi.Pool

open Go

namespace Orchestrator

variable {σ α : Type} (P : Orchestrator σ) (C : Call α)

/-- The ranges of the loop are in order and do not overlap. -/
def Sorted : Prop := P.all.Pairwise fun a b => a.2 ≤ b.1

/-- The value a goroutine posts for each range of the loop. -/
def allResults : List (Option GoError) := P.all.map fun rg => C.result rg.1 rg.2

/-- The buffer once every goroutine has written its cells. -/
def finalBuffer (zero : α) (p : Nat) : α :=
  match P.all.find? (fun rg => rg.1 ≤ P.cell p && P.cell p < rg.2) with
  | some rg => C.writes rg.1 rg.2 p
  | none => zero

/-- A cell a goroutine's C call has written holds what it wrote; every other
    cell still holds `zero`. -/
structure BufferInv (zero : α) (s : State σ α) : Prop where
  written : ∀ w ∈ s.workers, w.phase ≠ .calling → ∀ p, P.owns w p →
    s.buffer p = C.writes w.lo w.hi p
  unwritten : ∀ p, (∀ w ∈ s.workers, w.phase ≠ .calling → P.owns w p = false) → s.buffer p = zero

variable {P C}

theorem spans_initial_segment {s : State σ α} (h : P.MainInv s) : s.workers.map Worker.span <+: P.all := by
  unfold MainInv at h
  split at h
  · exact ⟨_, h.2.2.2⟩
  · exact h.2.2.2.2 ▸ List.prefix_refl _
  · exact h.2.2.2.1 ▸ List.prefix_refl _

/-- Two distinct goroutines never own one cell. -/
theorem owns_unique (hsorted : P.Sorted) {s : State σ α} (hi : P.Inv C s)
    {pre post : List Worker} {w : Worker} (hs : s.workers = pre ++ w :: post) {p : Nat}
    (hw : P.owns w p) {w' : Worker} (hw' : w' ∈ pre ∨ w' ∈ post) : P.owns w' p = false := by
  have hpair : (pre ++ w :: post).Pairwise fun a b => a.hi ≤ b.lo := by
    have := hsorted.sublist (spans_initial_segment hi.main).sublist
    rwa [hs, List.pairwise_map] at this
  rw [List.pairwise_append, List.pairwise_cons] at hpair
  simp only [owns, Bool.and_eq_true, decide_eq_true_eq] at hw
  simp only [owns, Bool.and_eq_false_iff, decide_eq_false_iff_not, Nat.not_le, Nat.not_lt]
  rcases hw' with hw' | hw'
  · have := hpair.2.2 w' hw' w (List.mem_cons_self _ _)
    omega
  · have := hpair.2.1.1 w' hw'
    omega

theorem bufferInv_start (zero : α) : P.BufferInv C zero (P.start zero) :=
  ⟨by simp [start], fun _ _ => rfl⟩

theorem bufferInv_of_append {zero : α} {s s' : State σ α} (h : P.BufferInv C zero s)
    (hb : s'.buffer = s.buffer) {extra : List Worker} (hw : s'.workers = s.workers ++ extra)
    (hextra : ∀ w ∈ extra, w.phase = .calling) : P.BufferInv C zero s' := by
  constructor
  · intro w hmem hc p ho
    rw [hw, List.mem_append] at hmem
    rcases hmem with hmem | hmem
    · rw [hb]; exact h.written w hmem hc p ho
    · exact absurd (hextra w hmem) hc
  · intro p hp
    rw [hb]
    exact h.unwritten p fun w hmem hc => hp w (by simp [hw, hmem]) hc

theorem bufferInv_of_phase {zero : α} {s s' : State σ α} (h : P.BufferInv C zero s)
    (hb : s'.buffer = s.buffer) {pre post : List Worker} {w : Worker} {q : Phase}
    (hs : s.workers = pre ++ w :: post) (hs' : s'.workers = pre ++ { w with phase := q } :: post)
    (hw : w.phase ≠ .calling) (hq : q ≠ .calling) : P.BufferInv C zero s' := by
  constructor
  · intro w' hmem hc p ho
    rw [hb]
    rw [hs', List.mem_append, List.mem_cons] at hmem
    rcases hmem with hmem | rfl | hmem
    · exact h.written w' (by simp [hs, hmem]) hc p ho
    · exact h.written w (by simp [hs]) hw p ho
    · exact h.written w' (by simp [hs, hmem]) hc p ho
  · intro p hp
    rw [hb]
    refine h.unwritten p fun w' hmem hc => ?_
    rw [hs, List.mem_append, List.mem_cons] at hmem
    rcases hmem with hmem | rfl | hmem
    · exact hp w' (by simp [hs', hmem]) hc
    · simpa [owns] using hp { w' with phase := q } (by simp [hs']) hq
    · exact hp w' (by simp [hs', hmem]) hc

theorem bufferInv_call (hsorted : P.Sorted) {zero : α} {s : State σ α} (hi : P.Inv C s)
    (h : P.BufferInv C zero s) {pre post : List Worker} {w : Worker}
    (hs : s.workers = pre ++ w :: post) :
    P.BufferInv C zero
      { s with workers := pre ++ { w with phase := .sending } :: post,
               buffer := P.write C w s.buffer } := by
  constructor
  · intro w' hmem hc p ho
    simp only [write]
    simp only [List.mem_append, List.mem_cons] at hmem
    rcases hmem with hmem | rfl | hmem
    · have hnw : P.owns w p = false := Bool.eq_false_iff.mpr fun hw => by
        simp [owns_unique hsorted hi hs hw (.inl hmem)] at ho
      rw [if_neg (by simp [hnw])]
      exact h.written w' (by simp [hs, hmem]) hc p ho
    · rw [if_pos (by simpa [owns] using ho)]
    · have hnw : P.owns w p = false := Bool.eq_false_iff.mpr fun hw => by
        simp [owns_unique hsorted hi hs hw (.inr hmem)] at ho
      rw [if_neg (by simp [hnw])]
      exact h.written w' (by simp [hs, hmem]) hc p ho
  · intro p hp
    have hnw : P.owns w p = false := by simpa [owns] using hp ⟨w.lo, w.hi, .sending⟩ (by simp) (by simp)
    simp only [write, hnw, Bool.false_eq_true, if_false]
    refine h.unwritten p fun w' hmem hc => ?_
    rw [hs, List.mem_append, List.mem_cons] at hmem
    rcases hmem with hmem | rfl | hmem
    · exact hp w' (by simp [hmem]) hc
    · exact hnw
    · exact hp w' (by simp [hmem]) hc

theorem bufferInv_move (hsorted : P.Sorted) {zero : α} {s s' : State σ α} (hi : P.Inv C s)
    (h : P.BufferInv C zero s) (hm : P.Move C s s') : P.BufferInv C zero s' := by
  cases hm with
  | spawn => exact bufferInv_of_append h (by rfl) (by rfl) (by simp)
  | exitLoop => exact bufferInv_of_append h (by rfl) (List.append_nil _).symm (by simp)
  | receive => exact bufferInv_of_append h (by rfl) (List.append_nil _).symm (by simp)
  | ret => exact bufferInv_of_append h (by rfl) (List.append_nil _).symm (by simp)
  | call hs => exact bufferInv_call hsorted hi h hs
  | send hs hp =>
    exact bufferInv_of_phase h (by rfl) hs (by rfl) (by simp [hp])
      (by unfold afterSend; split <;> simp)
  | release hs hp => exact bufferInv_of_phase h (by rfl) hs (by rfl) (by simp [hp]) (by simp)

theorem bufferInv_reachable (hsorted : P.Sorted) {zero : α} {s : State σ α}
    (h : P.Reachable C zero s) : P.BufferInv C zero s := by
  induction h with
  | start => exact bufferInv_start zero
  | step _ hr hstep ih => exact bufferInv_move hsorted (inv_reachable hr) ih (step_move hstep)

/-! ## The returned value -/

theorem results_of_posted {ws : List Worker} (h : ∀ w ∈ ws, w.phase.posted) :
    C.results ws = (ws.map Worker.span).map fun rg => C.result rg.1 rg.2 := by
  simp [Call.results, List.filter_eq_self.mpr h, Worker.span]

/-- At the `return`, the collecting loop has taken one value per range of the
    loop, in some order, and returns what `collectResult` makes of them. -/
theorem returned_received {zero : α} {s : State σ α} {r : Except GoError (Nat → α)}
    (h : P.Reachable C zero s) (hr : s.main = .returned r) :
    s.received.Perm (P.allResults C) ∧ r = collectResult s.received.reduceOption s.buffer ∧
      ∀ w ∈ s.workers, w.phase.posted := by
  have hi := inv_reachable h
  have hmain := hi.main
  simp only [MainInv, hr] at hmain
  obtain ⟨-, he, hposted, hspan, hres⟩ := hmain
  have hperm := hi.posted
  rw [he, List.append_nil, results_of_posted hposted, hspan] at hperm
  exact ⟨hperm, hres, hposted⟩

theorem returned_buffer (hsorted : P.Sorted) {zero : α} {s : State σ α}
    {r : Except GoError (Nat → α)} (h : P.Reachable C zero s) (hr : s.main = .returned r) :
    s.buffer = P.finalBuffer C zero := by
  have hb := bufferInv_reachable hsorted h
  have hposted := (returned_received h hr).2.2
  have hspan := spans_initial_segment (inv_reachable h).main
  have hall : s.workers.map Worker.span = P.all := by
    have hmain := (inv_reachable h).main
    simp only [MainInv, hr] at hmain
    exact hmain.2.2.2.1
  funext p
  unfold finalBuffer
  split
  · rename_i rg hfind
    have hmem := List.mem_of_find?_eq_some hfind
    have hown := List.find?_some hfind
    rw [← hall, List.mem_map] at hmem
    obtain ⟨w, hw, rfl⟩ := hmem
    exact hb.written w hw (fun hc => by simpa [hc] using hposted w hw) p
      (by simpa [owns, Worker.span] using hown)
  · rename_i hfind
    refine hb.unwritten p fun w hw _ => ?_
    have := List.find?_eq_none.mp hfind w.span (hall ▸ List.mem_map_of_mem _ hw)
    simpa [owns, Worker.span] using this

variable (P C) in
/-- What a run can return: the final buffer when every goroutine succeeded, and
    otherwise an error one of the goroutines posted. -/
def Returns (zero : α) (r : Except GoError (Nat → α)) : Prop :=
  (r = .ok (P.finalBuffer C zero) ∧ ∀ x ∈ P.allResults C, x = none) ∨
    ∃ e, r = .error e ∧ some e ∈ P.allResults C

theorem returned_returns (hsorted : P.Sorted) {zero : α} {s : State σ α}
    {r : Except GoError (Nat → α)} (h : P.Reachable C zero s) (hr : s.main = .returned r) :
    P.Returns C zero r := by
  obtain ⟨hperm, hres, -⟩ := returned_received h hr
  rw [returned_buffer hsorted h hr] at hres
  cases hce : s.received.reduceOption with
  | nil =>
    refine .inl ⟨by rw [hres, hce]; rfl, fun x hx => ?_⟩
    cases x with
    | none => rfl
    | some e =>
      have : e ∈ s.received.reduceOption := List.reduceOption_mem_iff.mpr (hperm.mem_iff.mpr hx)
      simp [hce] at this
  | cons e rest =>
    refine .inr ⟨e, by rw [hres, hce]; rfl, hperm.mem_iff.mp ?_⟩
    exact List.reduceOption_mem_iff.mp (by simp [hce])

variable (P C) in
theorem returns_agree {zero : α} {r₁ r₂ : Except GoError (Nat → α)}
    (h₁ : P.Returns C zero r₁) (h₂ : P.Returns C zero r₂) :
    (r₁.isOk = r₂.isOk) ∧
      ((∀ e e', some e ∈ P.allResults C → some e' ∈ P.allResults C → e = e') → r₁ = r₂) := by
  rcases h₁ with ⟨rfl, hn₁⟩ | ⟨e₁, rfl, he₁⟩ <;> rcases h₂ with ⟨rfl, hn₂⟩ | ⟨e₂, rfl, he₂⟩
  · exact ⟨rfl, fun _ => rfl⟩
  · exact absurd (hn₁ _ he₂) (by simp)
  · exact absurd (hn₂ _ he₁) (by simp)
  · exact ⟨rfl, fun hu => by rw [hu e₁ e₂ he₁ he₂]⟩

theorem returned_first_error (hsorted : P.Sorted) {zero : α} {s : State σ α}
    {r : Except GoError (Nat → α)} (h : P.Reachable C zero s) (hr : s.main = .returned r) :
    s.received.Perm (P.allResults C) ∧
      r = match s.received.reduceOption.head? with
        | none => .ok (P.finalBuffer C zero)
        | some e => .error e := by
  obtain ⟨hperm, hres, -⟩ := returned_received h hr
  refine ⟨hperm, ?_⟩
  rw [hres, returned_buffer hsorted h hr]
  cases s.received.reduceOption <;> rfl

variable (P C) in
/-- What the runs of an orchestrator return, whatever the order in which the
    goroutines' values arrive on `errs`: a run takes one value per range and
    returns the first error it took, or the final buffer when every value is
    `nil`; so any two runs agree on whether they return the buffer, and return
    the same value whenever the failing goroutines all post one error. -/
def ArrivalOrder (zero : α) : Prop :=
  (∀ s r, P.Reachable C zero s → s.main = .returned r →
    s.received.Perm (P.allResults C) ∧
      r = match s.received.reduceOption.head? with
        | none => .ok (P.finalBuffer C zero)
        | some e => .error e) ∧
  ∀ s₁ s₂ r₁ r₂, P.Reachable C zero s₁ → P.Reachable C zero s₂ →
    s₁.main = .returned r₁ → s₂.main = .returned r₂ →
    r₁.isOk = r₂.isOk ∧
      ((∀ e e', some e ∈ P.allResults C → some e' ∈ P.allResults C → e = e') → r₁ = r₂)

theorem arrivalOrder_of_sorted (hsorted : P.Sorted) (zero : α) : P.ArrivalOrder C zero :=
  ⟨fun _ _ h hr => returned_first_error hsorted h hr,
    fun _ _ _ _ h₁ h₂ hr₁ hr₂ => returns_agree P C (returned_returns hsorted h₁ hr₁)
      (returned_returns hsorted h₂ hr₂)⟩

end Orchestrator

end OneseismicApi.Pool
