import OneseismicApi.Api.Endpoint

/-! # Requests in flight and the shared cache

gin serves each request in its own goroutine, and all handlers share one
response cache whose `Get` and `Set` are atomic. A handler touches the cache at
most twice: its lookup, and after a miss the store of the response it computed.
Everything else a handler does is local to its request. A run of the server is
therefore an interleaving of these atomic steps of the requests in flight, and
this module states what holds over every interleaving: every cache entry is a
response some request computed for its key, and a cached entry only reaches a
connection that may read the cube. When the requests agree on each key's
response, the server refines the one that serves the requests one at a time:
every run that has ended answers each request as that one does, but for the
`cache-hit` mark.

A request is seen through its `Job`: the error it aborts with before the
lookup, or whether its connection may read the cube, its key, and the response
it computes after a miss.
-/

namespace OneseismicApi.Api

open Go

/-- A request as the cache protocol sees it. -/
abbrev Job := Except GoError (Bool × String × Except GoError CacheEntry)

/-- The job of a handler given by its part before the lookup and the rest. -/
def job {σ : Type} (before : Except GoError (Bool × String × σ))
    (after : σ → Except GoError CacheEntry) : Job :=
  before.map fun b => (b.1, b.2.1, after b.2.2)

/-- The reply of a job without the cache. -/
def Job.uncached : Job → Reply
  | .error err => abortOnError err
  | .ok (_, _, .error err) => abortOnError err
  | .ok (_, _, .ok entry) => .served entry false

/-- Where a request's handler is. -/
inductive Phase where
  | waiting
  /-- Its lookup missed, or its connection may not read the cube: it computes
      its response. -/
  | computing
  | replied (reply : Reply)
  deriving DecidableEq, Repr

/-- A request in flight. -/
structure Request where
  job : Job
  phase : Phase

/-- The shared cache and the requests. -/
structure Server where
  cache : Cache
  requests : List Request

/-- The lookup of a waiting request. -/
def lookup (cache : Cache) : Job → Phase × Cache
  | .error err => (.replied (abortOnError err), cache)
  | .ok (authorized, cacheKey, _) =>
    match cache.get cacheKey with
    | (some entry, cache) => if authorized then (.replied (.served entry true), cache) else (.computing, cache)
    | (none, cache) => (.computing, cache)

/-- The store of a computing request. -/
def store (cache : Cache) : Job → Phase × Cache
  | .error err => (.replied (abortOnError err), cache)
  | .ok (_, cacheKey, response) =>
    ((.replied (storeResponse cacheKey response cache).1), (storeResponse cacheKey response cache).2)

/-- The next atomic step of a request, from its phase. -/
def advance (cache : Cache) (r : Request) : Option (Phase × Cache) :=
  match r.phase with
  | .waiting => some (lookup cache r.job)
  | .computing => some (store cache r.job)
  | .replied _ => none

/-- Request `i` takes its next atomic step. -/
def step (s : Server) (i : Nat) : Option Server :=
  match s.requests[i]? with
  | none => none
  | some r =>
    (advance s.cache r).map fun pc => ⟨pc.2, s.requests.set i { r with phase := pc.1 }⟩

/-- The server with an empty cache of `capacity` bytes and every request waiting. -/
def start (capacity : Nat) (jobs : List Job) : Server :=
  ⟨Cache.empty capacity, jobs.map fun j => ⟨j, .waiting⟩⟩

/-- What a step does: request `i`, not yet replied, takes its next step, and
    nothing else changes. -/
theorem step_cases {s s' : Server} {i : Nat} (h : step s i = some s') :
    ∃ r phase cache', s.requests[i]? = some r ∧ advance s.cache r = some (phase, cache') ∧
      s' = ⟨cache', s.requests.set i { r with phase }⟩ := by
  simp only [step] at h
  rcases hr : s.requests[i]? with _ | r
  · simp [hr] at h
  simp only [hr, Option.map_eq_some'] at h
  obtain ⟨⟨phase, cache'⟩, hadv, rfl⟩ := h
  exact ⟨r, phase, cache', rfl, hadv, rfl⟩

/-- The states of every interleaving of the requests' steps. -/
inductive Reachable (capacity : Nat) (jobs : List Job) : Server → Prop
  | start : Reachable capacity jobs (start capacity jobs)
  | step {s s' : Server} (i : Nat) : Reachable capacity jobs s → step s i = some s' →
      Reachable capacity jobs s'

/-- The server after the steps of a schedule, one request index per step, or
    `none` when the schedule names a request that cannot step. -/
def Server.run (s : Server) : List Nat → Option Server
  | [] => some s
  | i :: sched => (step s i).bind fun s' => s'.run sched

theorem Server.run_append (s : Server) (sched₁ sched₂ : List Nat) :
    s.run (sched₁ ++ sched₂) = (s.run sched₁).bind fun s' => s'.run sched₂ := by
  induction sched₁ generalizing s with
  | nil => rfl
  | cons i sched₁ ih =>
    simp only [List.cons_append, Server.run, Option.bind_assoc]
    exact congrArg (Option.bind (step s i)) (funext fun s' => ih s')

theorem reachable_run {capacity : Nat} {jobs : List Job} {s s' : Server} {sched : List Nat}
    (h : Reachable capacity jobs s) (hrun : s.run sched = some s') : Reachable capacity jobs s' := by
  induction sched generalizing s with
  | nil => exact Option.some.inj hrun ▸ h
  | cons i sched ih =>
    obtain ⟨s₁, h₁, hrest⟩ := Option.bind_eq_some.1 hrun
    exact ih (.step i h h₁) hrest

/-! ## A request alone runs its handler -/

/-- A request's lookup and, after a miss, its store, with no other step in
    between. -/
def serveAlone (cache : Cache) (j : Job) : Phase × Cache :=
  match lookup cache j with
  | (.computing, cache) => store cache j
  | pc => pc

theorem serveAlone_job {σ : Type} (before : Except GoError (Bool × String × σ))
    (after : σ → Except GoError CacheEntry) (cache : Cache) :
    serveAlone cache (job before after) =
      (.replied (cached before after cache).1, (cached before after cache).2) := by
  rcases before with err | ⟨a, k, ctx⟩
  · rfl
  simp only [serveAlone, job, Except.map, lookup, cached]
  rcases cache.get k with ⟨_ | entry, c⟩
  · rfl
  · cases a <;> rfl

theorem lookup_phase (cache : Cache) (j : Job) :
    (lookup cache j).1 = .computing ∨ ∃ reply, (lookup cache j).1 = .replied reply := by
  rcases j with err | ⟨a, k, response⟩
  · exact .inr ⟨_, rfl⟩
  simp only [lookup]
  split
  · split
    · exact .inr ⟨_, rfl⟩
    · exact .inl rfl
  · exact .inl rfl

/-! ## Requests served one at a time -/

theorem job_id (j : Job) : job j id = j := by
  rcases j with err | ⟨a, k, response⟩ <;> rfl

theorem serveAlone_eq (cache : Cache) (j : Job) :
    serveAlone cache j = (.replied (cached j id cache).1, (cached j id cache).2) := by
  simpa only [job_id] using serveAlone_job j id cache

theorem run_alone {s : Server} {i : Nat} {j : Job} (hi : s.requests[i]? = some ⟨j, .waiting⟩) :
    ∃ sched, s.run sched =
      some ⟨(serveAlone s.cache j).2, s.requests.set i ⟨j, (serveAlone s.cache j).1⟩⟩ := by
  have hlen : i < s.requests.length := (List.getElem?_eq_some_iff.1 hi).1
  rcases hl : lookup s.cache j with ⟨phase, c⟩
  have h₁ : step s i = some ⟨c, s.requests.set i ⟨j, phase⟩⟩ := by
    simp [step, hi, advance, hl]
  rcases lookup_phase s.cache j with hp | ⟨reply, hp⟩ <;> rw [hl] at hp <;> simp only at hp <;>
    subst hp
  · have h₂ : step ⟨c, s.requests.set i ⟨j, .computing⟩⟩ i =
        some ⟨(store c j).2, s.requests.set i ⟨j, (store c j).1⟩⟩ := by
      simp [step, advance, hlen]
    exact ⟨[i, i], by simp [Server.run, h₁, h₂, serveAlone, hl]⟩
  · exact ⟨[i], by simp [Server.run, h₁, serveAlone, hl]⟩

/-- The requests served one at a time, in order: each handler runs on the
    cache the one before it left. -/
def serveInTurn : Cache → List Job → List Reply × Cache
  | cache, [] => ([], cache)
  | cache, j :: jobs =>
    let rest := serveInTurn (cached j id cache).2 jobs
    ((cached j id cache).1 :: rest.1, rest.2)

theorem serveInTurn_length (cache : Cache) (jobs : List Job) :
    (serveInTurn cache jobs).1.length = jobs.length := by
  induction jobs generalizing cache with
  | nil => rfl
  | cons j jobs ih => simp [serveInTurn, ih]

theorem run_in_turn (done : List Request) (rest : List Job) (cache : Cache) :
    ∃ sched s, (⟨cache, done ++ rest.map fun j => ⟨j, .waiting⟩⟩ : Server).run sched = some s ∧
      s.requests = done ++ (rest.zip (serveInTurn cache rest).1).map (fun p => ⟨p.1, .replied p.2⟩) ∧
      s.cache = (serveInTurn cache rest).2 := by
  induction rest generalizing done cache with
  | nil => exact ⟨[], _, rfl, by simp, rfl⟩
  | cons j rest ih =>
    have hi : (done ++ (j :: rest).map fun j => (⟨j, .waiting⟩ : Request))[done.length]? =
        some ⟨j, .waiting⟩ := by
      rw [List.getElem?_append_right (le_refl _), Nat.sub_self]
      simp
    obtain ⟨sched₁, h₁⟩ := run_alone (s := ⟨cache, _⟩) hi
    obtain ⟨sched₂, s, h₂, hreq, hcache⟩ :=
      ih (done ++ [⟨j, .replied (cached j id cache).1⟩]) (cached j id cache).2
    refine ⟨sched₁ ++ sched₂, s, ?_, ?_, hcache⟩
    · rw [Server.run_append, h₁]
      simpa [serveAlone_eq] using h₂
    · simp [hreq, serveInTurn]

theorem start_run_in_turn (capacity : Nat) (jobs : List Job) :
    ∃ sched s, (start capacity jobs).run sched = some s ∧
      s.requests.map Request.phase = (serveInTurn (Cache.empty capacity) jobs).1.map .replied ∧
      s.cache = (serveInTurn (Cache.empty capacity) jobs).2 := by
  obtain ⟨sched, s, hrun, hreq, hcache⟩ := run_in_turn [] jobs (Cache.empty capacity)
  refine ⟨sched, s, hrun, ?_, hcache⟩
  rw [hreq, List.nil_append, List.map_map]
  conv_rhs => rw [← List.map_snd_zip jobs _ (serveInTurn_length _ _).le]
  rw [List.map_map]
  rfl

/-! ## What every interleaving keeps -/

/-- What a request's phase says of it, given all the jobs of the run. -/
def PhaseOk (jobs : List Job) (r : Request) : Prop :=
  match r.phase with
  | .waiting => True
  | .computing => ∃ a k response, r.job = .ok (a, k, response)
  | .replied reply =>
    reply = r.job.uncached ∨
      ∃ k response entry a', r.job = .ok (true, k, response) ∧ reply = .served entry true ∧
        .ok (a', k, .ok entry) ∈ jobs

/-- The invariant of the server. -/
structure Inv (jobs : List Job) (s : Server) : Prop where
  jobs_eq : s.requests.map Request.job = jobs
  /-- Every entry of the cache is the response a request computed for its key. -/
  provenance : ∀ p ∈ s.cache.entries, ∃ a, .ok (a, p.1, .ok p.2) ∈ jobs
  phases : ∀ r ∈ s.requests, PhaseOk jobs r

theorem inv_start (capacity : Nat) (jobs : List Job) : Inv jobs (start capacity jobs) where
  jobs_eq := by simp [start, Function.comp_def]
  provenance p hp := absurd hp (List.not_mem_nil p)
  phases r hr := by
    obtain ⟨j, -, rfl⟩ := List.mem_map.1 hr
    trivial

section Step

variable {jobs : List Job} {cache : Cache} {r : Request}

theorem advance_ok (hjob : r.job ∈ jobs)
    (hprov : ∀ p ∈ cache.entries, ∃ a, .ok (a, p.1, .ok p.2) ∈ jobs)
    (hphase : PhaseOk jobs r) {phase : Phase} {cache' : Cache} (h : advance cache r = some (phase, cache')) :
    (∀ p ∈ cache'.entries, ∃ a, .ok (a, p.1, .ok p.2) ∈ jobs) ∧ PhaseOk jobs { r with phase } := by
  rcases r with ⟨j, _ | _ | reply⟩ <;> simp only [advance, Option.some.injEq] at h
  · -- the lookup
    rcases j with err | ⟨a, k, response⟩
    · simp only [lookup, Prod.mk.injEq] at h
      obtain ⟨rfl, rfl⟩ := h
      exact ⟨hprov, .inl rfl⟩
    have hget := cache.mem_get_entries k
    simp only [lookup] at h
    rcases hc : cache.get k with ⟨_ | entry, c⟩ <;> rw [hc] at h hget <;> simp only at h
    · obtain ⟨rfl, rfl⟩ := Prod.mk.inj h
      exact ⟨fun p hp => hprov p ((hget p).1 hp), a, k, response, rfl⟩
    · have hkeep : ∀ p ∈ c.entries, ∃ a, .ok (a, p.1, .ok p.2) ∈ jobs :=
        fun p hp => hprov p ((hget p).1 hp)
      split at h <;> obtain ⟨rfl, rfl⟩ := Prod.mk.inj h
      · rename_i ha
        obtain ⟨a', ha'⟩ := hprov _ (cache.mem_of_get k (by rw [hc]))
        exact ⟨hkeep, .inr ⟨k, response, entry, a', by rw [ha], rfl, ha'⟩⟩
      · exact ⟨hkeep, a, k, response, rfl⟩
  · -- the store
    obtain ⟨a, k, response, rfl⟩ := hphase
    simp only [store, Prod.mk.injEq] at h
    obtain ⟨rfl, rfl⟩ := h
    refine ⟨fun p hp => ?_, .inl ?_⟩
    · rcases mem_storeResponse hp with hp | ⟨hres, hkey⟩
      · exact hprov p hp
      · exact ⟨a, by rw [← hres, hkey]; exact hjob⟩
    · cases response <;> rfl
  · cases h

end Step

theorem inv_step {jobs : List Job} {s s' : Server} {i : Nat} (hinv : Inv jobs s)
    (h : step s i = some s') : Inv jobs s' := by
  obtain ⟨r, phase, cache', hr, hadv, rfl⟩ := step_cases h
  have hmem : r ∈ s.requests := List.getElem?_mem hr
  have hjob : r.job ∈ jobs := hinv.jobs_eq ▸ List.mem_map_of_mem Request.job hmem
  obtain ⟨hprov, hphase⟩ := advance_ok hjob hinv.provenance (hinv.phases r hmem) hadv
  refine ⟨?_, hprov, fun r' hr' => ?_⟩
  · rw [← hinv.jobs_eq, List.map_set]
    refine List.ext_getElem? fun n => ?_
    have hlen : i < s.requests.length := (List.getElem?_eq_some_iff.1 hr).1
    rw [List.getElem?_set]
    split <;> simp_all
  · rcases List.mem_or_eq_of_mem_set hr' with hr' | rfl
    · exact hinv.phases r' hr'
    · exact hphase

theorem inv_reachable {capacity : Nat} {jobs : List Job} {s : Server}
    (h : Reachable capacity jobs s) : Inv jobs s := by
  induction h with
  | start => exact inv_start capacity jobs
  | step _ _ hstep ih => exact inv_step ih hstep

/-! ## Over every interleaving -/

/-- The reply with the `cache-hit` mark taken off. -/
def Reply.withoutHit : Reply → Reply
  | .served entry _ => .served entry false
  | reply => reply

/-- Over every interleaving of the requests' steps, every cache entry is a
    response that one of the requests computed for its key, and every request
    that replied got the reply it gets without the cache, or an entry of the
    cache for its key while its connection may read the cube. -/
theorem interleavings_serve_computed {capacity : Nat} {jobs : List Job} {s : Server}
    (h : Reachable capacity jobs s) :
    (∀ p ∈ s.cache.entries, ∃ a, .ok (a, p.1, .ok p.2) ∈ jobs) ∧
      ∀ r ∈ s.requests, ∀ reply, r.phase = .replied reply →
        reply = r.job.uncached ∨
          ∃ k response entry a', r.job = .ok (true, k, response) ∧ reply = .served entry true ∧
            .ok (a', k, .ok entry) ∈ jobs := by
  have hinv := inv_reachable h
  refine ⟨hinv.provenance, fun r hr reply hreply => ?_⟩
  have := hinv.phases r hr
  rwa [PhaseOk, hreply] at this

/-- A response of one data byte and one metadata byte. -/
def twoByteEntry : CacheEntry := ⟨[[1]], [2]⟩

/-- Two requests for one key, both on connections that may read the cube. -/
def sameKeyJobs : List Job := [.ok (true, "k", .ok twoByteEntry), .ok (true, "k", .ok twoByteEntry)]

theorem first_request_stores :
    ∃ s, Reachable 10 sameKeyJobs s ∧ s.cache.entries = [("k", twoByteEntry)] ∧
      (∀ p ∈ s.cache.entries, ∃ a, .ok (a, p.1, .ok p.2) ∈ sameKeyJobs) ∧
      ∀ r ∈ s.requests, ∀ reply, r.phase = .replied reply →
        reply = r.job.uncached ∨
          ∃ k response entry a', r.job = .ok (true, k, response) ∧ reply = .served entry true ∧
            .ok (a', k, .ok entry) ∈ sameKeyJobs := by
  have hreach : Reachable 10 sameKeyJobs _ := .step 0 (.step 0 .start rfl) rfl
  exact ⟨_, hreach, rfl, interleavings_serve_computed hreach⟩

/-- Requests that agree on what a key's response is: a request whose connection
    may read the cube computes the response of any request with its key. -/
def Consistent (jobs : List Job) : Prop :=
  ∀ k response a' entry, .ok (true, k, response) ∈ jobs → .ok (a', k, .ok entry) ∈ jobs →
    response = .ok entry

theorem sameKeyJobs_consistent : Consistent sameKeyJobs := by
  intro k response a' entry h₁ h₂
  simp only [sameKeyJobs, List.mem_cons, List.mem_singleton, List.not_mem_nil, or_false,
    or_self, Except.ok.injEq, Prod.mk.injEq] at h₁ h₂
  rw [h₁.2.2, ← h₂.2.2]

theorem withoutHit_of_replied {capacity : Nat} {jobs : List Job} (hc : Consistent jobs) {s : Server}
    (h : Reachable capacity jobs s) {r : Request} (hr : r ∈ s.requests) {reply : Reply}
    (hreply : r.phase = .replied reply) : reply.withoutHit = r.job.uncached := by
  have hinv := inv_reachable h
  have hjob : r.job ∈ jobs := hinv.jobs_eq ▸ List.mem_map_of_mem Request.job hr
  have hphase := hinv.phases r hr
  rw [PhaseOk, hreply] at hphase
  rcases hphase with rfl | ⟨k, response, entry, a', hj, rfl, he⟩
  · rcases r.job with _ | ⟨_, _, _ | _⟩ <;> rfl
  · rw [hj, hc k response a' entry (hj ▸ hjob) he]
    rfl

/-- When the requests agree on each key's response, the cache is invisible:
    over every interleaving, every request replies as it would without the
    cache, but for the `cache-hit` mark. -/
theorem cache_transparent {capacity : Nat} {jobs : List Job} (hc : Consistent jobs) {s : Server}
    (h : Reachable capacity jobs s) :
    ∀ r ∈ s.requests, ∀ reply, r.phase = .replied reply → reply.withoutHit = r.job.uncached :=
  fun _ hr _ hreply => withoutHit_of_replied hc h hr hreply

theorem second_request_hits :
    ∃ s, Reachable 10 sameKeyJobs s ∧
      s.requests.map Request.phase =
        [.replied (.served twoByteEntry false), .replied (.served twoByteEntry true)] ∧
      ∀ r ∈ s.requests, ∀ reply, r.phase = .replied reply → reply.withoutHit = r.job.uncached := by
  have hreach : Reachable 10 sameKeyJobs _ := .step 1 (.step 0 (.step 0 .start rfl) rfl) rfl
  exact ⟨_, hreach, rfl, cache_transparent sameKeyJobs_consistent hreach⟩

/-! ## Complete runs answer as requests served one at a time -/

theorem step_of_not_replied {s : Server} {i : Nat} {r : Request} (hr : s.requests[i]? = some r)
    (hnot : ∀ reply, r.phase ≠ .replied reply) : ∃ s', step s i = some s' := by
  rcases hph : r.phase with _ | _ | reply
  · simp [step, hr, advance, hph]
  · simp [step, hr, advance, hph]
  · exact absurd hph (hnot reply)

theorem replied_of_stuck {s : Server} (hstuck : ∀ i, step s i = none) :
    ∀ r ∈ s.requests, ∃ reply, r.phase = .replied reply := by
  intro r hr
  obtain ⟨i, hi⟩ := List.getElem?_of_mem hr
  by_contra hnot
  push_neg at hnot
  obtain ⟨s', hs'⟩ := step_of_not_replied hi hnot
  rw [hstuck i] at hs'
  cases hs'

/-- A request's reply, without the `cache-hit` mark, once it has one. -/
def Phase.answer : Phase → Option Reply
  | .replied reply => some reply.withoutHit
  | _ => none

theorem answers_of_replied {capacity : Nat} {jobs : List Job} (hc : Consistent jobs) {s : Server}
    (h : Reachable capacity jobs s) (hdone : ∀ r ∈ s.requests, ∃ reply, r.phase = .replied reply) :
    s.requests.map (fun r => r.phase.answer) = jobs.map fun j => some j.uncached := by
  rw [← (inv_reachable h).jobs_eq, List.map_map]
  refine List.map_congr_left fun r hr => ?_
  obtain ⟨reply, hreply⟩ := hdone r hr
  simp only [Function.comp, hreply, Phase.answer, withoutHit_of_replied hc h hr hreply]

/-- When the requests agree on each key's response, the concurrent server
    refines the one that serves requests one at a time: every run that has
    ended, in whatever interleaving, has answered each request as serving the
    requests one after another answers it, but for the `cache-hit` mark. -/
theorem ended_runs_answer_in_turn {capacity : Nat} {jobs : List Job} (hc : Consistent jobs)
    {s : Server} (h : Reachable capacity jobs s) (hend : ∀ i, step s i = none) :
    s.requests.map (fun r => r.phase.answer) =
      (serveInTurn (Cache.empty capacity) jobs).1.map fun reply => some reply.withoutHit := by
  obtain ⟨sched, s₀, hrun, hphase, -⟩ := start_run_in_turn capacity jobs
  have hdone₀ : ∀ r ∈ s₀.requests, ∃ reply, r.phase = .replied reply := by
    intro r hr
    obtain ⟨reply, -, hreply⟩ := List.mem_map.1 (hphase ▸ List.mem_map_of_mem Request.phase hr)
    exact ⟨reply, hreply.symm⟩
  calc s.requests.map (fun r => r.phase.answer)
      = jobs.map fun j => some j.uncached := answers_of_replied hc h (replied_of_stuck hend)
    _ = s₀.requests.map (fun r => r.phase.answer) :=
        (answers_of_replied hc (reachable_run .start hrun) hdone₀).symm
    _ = (serveInTurn (Cache.empty capacity) jobs).1.map fun reply => some reply.withoutHit := by
        simpa only [List.map_map] using congrArg (List.map Phase.answer) hphase

/-- The run of `sameKeyJobs` in which the second request hits has ended, and
    answers as serving the two requests in turn does. -/
theorem second_hit_answers_in_turn :
    ∃ s, Reachable 10 sameKeyJobs s ∧ (∀ i, step s i = none) ∧
      s.requests.map (fun r => r.phase.answer) =
        (serveInTurn (Cache.empty 10) sameKeyJobs).1.map fun reply => some reply.withoutHit := by
  have hreach : Reachable 10 sameKeyJobs _ := .step 1 (.step 0 (.step 0 .start rfl) rfl) rfl
  refine ⟨_, hreach, ?hend, ended_runs_answer_in_turn sameKeyJobs_consistent hreach ?hend⟩
  intro i
  rcases i with _ | _ | i <;> rfl

end OneseismicApi.Api
