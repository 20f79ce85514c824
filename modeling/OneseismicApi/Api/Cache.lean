import OneseismicApi.Go

/-! # The response cache

The handlers of the `api` package keep each response they compute in a
process-wide cache, under the hash of the request, and serve a later request
with the same hash from it. The `cache` package is not in the sources: the
cache is modelled from the spec as a bounded LRU list, most recently used
first. `Get` moves the entry it finds to the front; `Set` puts the new entry
at the front, if it fits at all, and evicts from the back until the entries fit
in the capacity. A `Cache` never holds two entries for one key nor more bytes
than its capacity.
-/

namespace OneseismicApi.Api

/-- `cache.NewCacheEntry(data, metadata)`. -/
structure CacheEntry where
  data : List (List UInt8)
  metadata : List UInt8
  deriving DecidableEq, Repr

/-- The bytes of an entry. -/
def CacheEntry.size (e : CacheEntry) : Nat := e.metadata.length + (e.data.map List.length).sum

/-- The bytes of a list of entries. -/
def totalSize (entries : List (String × CacheEntry)) : Nat := (entries.map fun p => p.2.size).sum

/-- LRU eviction: the longest run of most recently used entries that fits in
    `budget` bytes. -/
def fitPrefix (budget : Nat) : List (String × CacheEntry) → List (String × CacheEntry)
  | [] => []
  | p :: rest => if p.2.size ≤ budget then p :: fitPrefix (budget - p.2.size) rest else []

theorem fitPrefix_sublist (budget : Nat) :
    ∀ l : List (String × CacheEntry), (fitPrefix budget l).Sublist l
  | [] => List.Sublist.slnil
  | p :: rest => by
    unfold fitPrefix
    split
    · exact (fitPrefix_sublist _ rest).cons₂ p
    · exact List.nil_sublist _

theorem totalSize_fitPrefix (budget : Nat) :
    ∀ l : List (String × CacheEntry), totalSize (fitPrefix budget l) ≤ budget
  | [] => Nat.zero_le _
  | p :: rest => by
    unfold fitPrefix
    split
    · have := totalSize_fitPrefix (budget - p.2.size) rest
      simp only [totalSize, List.map_cons, List.sum_cons] at this ⊢
      omega
    · exact Nat.zero_le _

theorem mem_of_lookup {entries : List (String × CacheEntry)} {key : String} {e : CacheEntry}
    (h : entries.lookup key = some e) : (key, e) ∈ entries := by
  obtain ⟨l₁, l₂, rfl, -⟩ := List.lookup_eq_some_iff.1 h
  simp

/-- The entries for other keys than `key`. -/
def without (key : String) (entries : List (String × CacheEntry)) : List (String × CacheEntry) :=
  entries.filter fun p => p.1 ≠ key

theorem keys_without (key : String) (entries : List (String × CacheEntry)) :
    key ∉ (without key entries).map Prod.fst := by
  intro h
  obtain ⟨p, hp, rfl⟩ := List.mem_map.1 h
  exact of_decide_eq_true (List.mem_filter.1 hp).2 rfl

theorem perm_without {key : String} {e : CacheEntry} :
    ∀ {entries : List (String × CacheEntry)}, (entries.map Prod.fst).Nodup → (key, e) ∈ entries →
      entries.Perm ((key, e) :: without key entries)
  | [], _, h => absurd h (List.not_mem_nil _)
  | p :: rest, hnd, h => by
    rw [List.map_cons, List.nodup_cons] at hnd
    by_cases hp : p.1 = key
    · obtain rfl : p = (key, e) := by
        rcases List.mem_cons.1 h with h | h
        · exact h.symm
        · exact absurd (hp ▸ List.mem_map_of_mem Prod.fst h) hnd.1
      have hrest : without key rest = rest := List.filter_eq_self.2 fun q hq => by
        simp only [ne_eq, decide_eq_true_eq]
        intro hq1
        have hmem : q.1 ∈ rest.map Prod.fst := List.mem_map_of_mem Prod.fst hq
        rw [hq1] at hmem
        exact hnd.1 hmem
      have hfilter : without key ((key, e) :: rest) = rest := by
        rw [without, List.filter_cons_of_neg (by simp), ← without, hrest]
      rw [hfilter]
    · have hmem : (key, e) ∈ rest := (List.mem_cons.1 h).resolve_left fun h' => hp (by rw [← h'])
      have := perm_without hnd.2 hmem
      simp only [without, List.filter_cons, hp, decide_not, decide_False, Bool.not_false,
        if_true] at this ⊢
      exact (this.cons p).trans (List.Perm.swap _ _ _)

/-- Modelled from the spec: the response cache, most recently used first. -/
structure Cache where
  capacity : Nat
  entries : List (String × CacheEntry)
  keys_nodup : (entries.map Prod.fst).Nodup
  within : totalSize entries ≤ capacity

/-- An empty cache of `capacity` bytes; capacity zero admits no response with
    a byte in it. -/
def Cache.empty (capacity : Nat) : Cache := ⟨capacity, [], List.nodup_nil, Nat.zero_le _⟩

namespace Cache

variable (c : Cache) (key : String)

theorem keys_nodup_front (e : CacheEntry) : (((key, e) :: without key c.entries).map Prod.fst).Nodup :=
  List.nodup_cons.2 ⟨keys_without key c.entries,
    (List.filter_sublist _).map Prod.fst |>.nodup c.keys_nodup⟩

/-- `Cache.Get`: the entry for `key`, moved to the front. -/
def get : Option CacheEntry × Cache :=
  match h : c.entries.lookup key with
  | none => (none, c)
  | some e =>
    (some e, ⟨c.capacity, (key, e) :: without key c.entries, c.keys_nodup_front key e, by
      have hmem : (key, e) ∈ c.entries := mem_of_lookup h
      rw [totalSize, ← ((perm_without c.keys_nodup hmem).map _).sum_eq]
      exact c.within⟩)

/-- `Cache.Set`: an entry that fits at all goes to the front, in place of the
    one for its key, and the least recently used entries are evicted until all
    fit; one that does not fit leaves the cache as it is. -/
def set (e : CacheEntry) : Cache :=
  if e.size ≤ c.capacity then
    ⟨c.capacity, fitPrefix c.capacity ((key, e) :: without key c.entries),
      ((fitPrefix_sublist _ _).map Prod.fst).nodup (c.keys_nodup_front key e),
      totalSize_fitPrefix _ _⟩
  else c

theorem mem_get_entries (p : String × CacheEntry) : p ∈ (c.get key).2.entries ↔ p ∈ c.entries := by
  unfold get
  split
  · rfl
  · rename_i e h
    exact (perm_without c.keys_nodup (mem_of_lookup h)).mem_iff.symm

theorem mem_of_get {e : CacheEntry} (h : (c.get key).1 = some e) : (key, e) ∈ c.entries := by
  unfold get at h
  split at h
  · cases h
  · rename_i e' he
    cases h
    exact mem_of_lookup he

theorem mem_set {e : CacheEntry} {p : String × CacheEntry} (h : p ∈ (c.set key e).entries) :
    p = (key, e) ∨ p ∈ c.entries := by
  unfold set at h
  split at h
  · rcases List.mem_cons.1 ((fitPrefix_sublist _ _).subset h) with h | h
    · exact .inl h
    · exact .inr (List.mem_of_mem_filter h)
  · exact .inr h

end Cache

end OneseismicApi.Api
