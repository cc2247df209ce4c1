/-! Lists of keyed values in order of first insertion.
-/

set_option autoImplicit false

namespace LayerGraph.Keyed

variable {κ α : Type} [DecidableEq κ]

/-- Put a value under a key: in place of a present one, else at the end. -/
def put (key : κ) (value : α) : List (κ × α) → List (κ × α)
  | [] => [(key, value)]
  | (k, v) :: rest => if k = key then (k, value) :: rest else (k, v) :: put key value rest

/-- The value under a key. -/
def get? (key : κ) : List (κ × α) → Option α
  | [] => none
  | (k, v) :: rest => if k = key then some v else get? key rest

/-- The entries of a list of pairs with every key once: the first place, the last value. -/
def distinct (entries : List (κ × α)) : List (κ × α) :=
  entries.foldl (fun kept (key, value) => put key value kept) []

theorem get?_put (key other : κ) (value : α) (entries : List (κ × α)) :
    get? other (put key value entries) = if key = other then some value else get? other entries := by
  induction entries with
  | nil => rfl
  | cons entry rest ih =>
    obtain ⟨k, v⟩ := entry
    by_cases same : k = key
    · subst same
      by_cases h : k = other <;> simp [put, get?, h]
    · by_cases h : k = other
      · subst h
        simp [put, get?, same, Ne.symm same]
      · simp [put, get?, same, h, ih]

/-- The keys after a put: those before, and the key at the end if it is new. -/
theorem keys_put (key : κ) (value : α) (entries : List (κ × α)) :
    (put key value entries).map Prod.fst =
      if key ∈ entries.map Prod.fst then entries.map Prod.fst else entries.map Prod.fst ++ [key] := by
  induction entries with
  | nil => rfl
  | cons entry rest ih =>
    obtain ⟨k, v⟩ := entry
    by_cases same : k = key
    · simp [put, same]
    · have different : ¬ key = k := fun h => same h.symm
      by_cases member : key ∈ rest.map Prod.fst <;> simp_all [put]

theorem nodup_keys_put (key : κ) (value : α) {entries : List (κ × α)}
    (h : (entries.map Prod.fst).Nodup) : ((put key value entries).map Prod.fst).Nodup := by
  rw [keys_put]
  split
  · exact h
  · next absent =>
    rw [List.nodup_append]
    refine ⟨h, by simp, ?_⟩
    intro a member b single same
    rw [List.mem_singleton] at single
    exact absent (single ▸ same ▸ member)

/-- Appending under distinct new keys is plain appending. -/
theorem put_of_notMem (key : κ) (value : α) {entries : List (κ × α)}
    (h : key ∉ entries.map Prod.fst) : put key value entries = entries ++ [(key, value)] := by
  induction entries with
  | nil => rfl
  | cons entry rest ih =>
    obtain ⟨k, v⟩ := entry
    have different : k ≠ key := by rintro rfl; simp at h
    have rest_h : key ∉ rest.map Prod.fst := fun member => h (by simp_all)
    simp [put, different, ih rest_h]

/-- Entries under distinct new keys are appended. -/
theorem foldl_put {entries new : List (κ × α)} (unique : ((entries ++ new).map Prod.fst).Nodup) :
    new.foldl (fun kept (key, value) => put key value kept) entries = entries ++ new := by
  induction new generalizing entries with
  | nil => simp
  | cons entry rest ih =>
    obtain ⟨key, value⟩ := entry
    have absent : key ∉ entries.map Prod.fst := by
      rw [List.map_append, List.nodup_append] at unique
      intro member
      exact unique.2.2 key member key (by simp) rfl
    rw [List.foldl_cons]
    dsimp only
    rw [put_of_notMem key value absent, ih (by simpa using unique), List.append_assoc,
      List.singleton_append]

/-- Entries under distinct keys are kept as they are. -/
theorem distinct_of_nodup {entries : List (κ × α)} (unique : (entries.map Prod.fst).Nodup) :
    distinct entries = entries :=
  foldl_put (show (([] ++ entries).map Prod.fst).Nodup from unique)

/-- An entry after a put was there or is the one that was put. -/
theorem mem_put {key : κ} {value : α} {entries : List (κ × α)} {entry : κ × α}
    (member : entry ∈ put key value entries) : entry = (key, value) ∨ entry ∈ entries := by
  induction entries with
  | nil => exact .inl (List.mem_singleton.mp member)
  | cons first rest ih =>
    obtain ⟨k, v⟩ := first
    unfold put at member
    split at member
    · rcases List.mem_cons.mp member with rfl | member
      · next same => exact .inl (by rw [same])
      · exact .inr (List.mem_cons_of_mem _ member)
    · rcases List.mem_cons.mp member with rfl | member
      · exact .inr List.mem_cons_self
      · exact (ih member).imp_right (List.mem_cons_of_mem _)

theorem mem_foldl_put {entries new : List (κ × α)} {entry : κ × α}
    (member : entry ∈ new.foldl (fun kept (key, value) => put key value kept) entries) :
    entry ∈ entries ∨ entry ∈ new := by
  induction new generalizing entries with
  | nil => exact .inl member
  | cons first rest ih =>
    rcases ih member with before | after
    · rcases mem_put before with rfl | here
      · exact .inr List.mem_cons_self
      · exact .inl here
    · exact .inr (List.mem_cons_of_mem _ after)

/-- No put takes a key away. -/
theorem mem_keys_foldl_put {entries new : List (κ × α)} {key : κ} :
    key ∈ (new.foldl (fun kept (key, value) => put key value kept) entries).map Prod.fst ↔
      key ∈ entries.map Prod.fst ∨ key ∈ new.map Prod.fst := by
  induction new generalizing entries with
  | nil => simp
  | cons first rest ih =>
    rw [List.foldl_cons, ih, keys_put, List.map_cons, List.mem_cons]
    split
    · next present =>
      constructor
      · exact Or.imp_right .inr
      · rintro (before | rfl | after)
        · exact .inl before
        · exact .inl present
        · exact .inr after
    · rw [List.mem_append, List.mem_singleton, or_assoc]

end LayerGraph.Keyed
