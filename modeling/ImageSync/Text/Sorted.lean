/-!
# Sorted lists of pairs

Maps are kept as lists of pairs in ascending order of their keys, so the order in which entries were
written plays no part.

## Main definitions

* `put k v l`: the map with `v` at `k`.
* `ofPairs ps`: the map of a list of pairs; of equal keys the last counts.
-/

namespace ImageSync.Sorted

variable {α : Type}

/-- The map with `v` at `k`. -/
def put (k : String) (v : α) : List (String × α) → List (String × α)
  | [] => [(k, v)]
  | (k', v') :: rest =>
    if k < k' then (k, v) :: (k', v') :: rest
    else if k = k' then (k, v) :: rest
    else (k', v') :: put k v rest

/-- The map of a list of pairs; of equal keys the last counts. -/
def ofPairs (pairs : List (String × α)) : List (String × α) :=
  pairs.foldl (fun map p => put p.1 p.2 map) []

@[simp] theorem put_nil (k : String) (v : α) : put k v [] = [(k, v)] := rfl

theorem mem_put {k : String} {v : α} {l : List (String × α)} {p : String × α}
    (h : p ∈ put k v l) : p = (k, v) ∨ p ∈ l := by
  induction l with
  | nil => simpa using h
  | cons q l ih =>
    simp only [put] at h
    split at h
    · simpa using h
    · split at h
      · rcases List.mem_cons.1 h with h | h
        · exact .inl h
        · exact .inr (List.mem_cons_of_mem _ h)
      · rcases List.mem_cons.1 h with h | h
        · exact .inr (by simp [h])
        · exact (ih h).imp id (List.mem_cons_of_mem _)

end ImageSync.Sorted
