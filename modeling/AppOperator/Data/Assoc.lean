/-!
# Lists of pairs kept in the order of their keys

A JSON object, a set of labels, the store of a cluster: each is a finite
map whose listing is by key. `Assoc` holds the operations on the listing
itself, a plain list of pairs, because a JSON value contains such a list
directly. `Dict` (next module) bundles a listing with the proof that it is
in order.

Insertion is one pass that stops at the first key not below the new one.
The look-up laws of `insert` and `erase` then hold of every list, in order
or not; only extensionality needs the order, and it is stated of `Dict`.
-/

namespace AppOperator.Assoc

variable {κ ν μ : Type}

section Lookup

variable [DecidableEq κ]

/-- The value paired with a key, the first if there are several. -/
def get? (k : κ) : List (κ × ν) → Option ν
  | [] => none
  | (j, v) :: rest => if k = j then some v else get? k rest

@[simp] theorem get?_nil (k : κ) : get? k ([] : List (κ × ν)) = none := rfl

theorem get?_cons (k j : κ) (v : ν) (rest : List (κ × ν)) :
    get? k ((j, v) :: rest) = if k = j then some v else get? k rest := rfl

/-- Drops every pair with the key. -/
def erase (k : κ) (m : List (κ × ν)) : List (κ × ν) :=
  m.filter (fun p => p.1 ≠ k)

theorem get?_erase (k j : κ) (m : List (κ × ν)) :
    get? j (erase k m) = if j = k then none else get? j m := by
  induction m with
  | nil => simp [erase]
  | cons p rest ih =>
    obtain ⟨i, v⟩ := p
    by_cases hik : i = k
    · subst hik
      have hdrop : erase i ((i, v) :: rest) = erase i rest := by simp [erase]
      rw [hdrop, ih, get?_cons]
      split <;> rfl
    · have hkeep : erase k ((i, v) :: rest) = (i, v) :: erase k rest := by simp [erase, hik]
      rw [hkeep, get?_cons, get?_cons, ih]
      by_cases hji : j = i
      · subst hji; simp [hik]
      · simp [hji]

/-- Maps the values and leaves the keys. -/
def mapValues (f : ν → μ) (m : List (κ × ν)) : List (κ × μ) :=
  m.map (fun p => (p.1, f p.2))

theorem get?_mapValues (f : ν → μ) (k : κ) (m : List (κ × ν)) :
    get? k (mapValues f m) = (get? k m).map f := by
  induction m with
  | nil => rfl
  | cons p rest ih =>
    obtain ⟨j, v⟩ := p
    simp only [mapValues, List.map_cons, get?_cons] at ih ⊢
    split <;> simp_all

theorem mem_of_get?_eq_some {k : κ} {v : ν} {m : List (κ × ν)} (h : get? k m = some v) :
    (k, v) ∈ m := by
  induction m with
  | nil => simp at h
  | cons p rest ih =>
    obtain ⟨j, w⟩ := p
    rw [get?_cons] at h
    split at h <;> simp_all

end Lookup

section Order

variable [Ord κ]

/-- Puts a pair in its place, replacing the value of an equal key. -/
def insert (k : κ) (v : ν) : List (κ × ν) → List (κ × ν)
  | [] => [(k, v)]
  | (j, w) :: rest =>
    match compare k j with
    | .lt => (k, v) :: (j, w) :: rest
    | .eq => (k, v) :: rest
    | .gt => (j, w) :: insert k v rest

/-- The keys of a listing rise strictly. -/
def Sorted (m : List (κ × ν)) : Prop :=
  m.Pairwise (fun p q => compare p.1 q.1 = .lt)

theorem mem_insert {k : κ} {v : ν} {p : κ × ν} {m : List (κ × ν)} :
    p ∈ insert k v m → p = (k, v) ∨ p ∈ m := by
  induction m with
  | nil => simp [insert]
  | cons q rest ih =>
    obtain ⟨j, w⟩ := q
    rw [insert]
    split <;> simp only [List.mem_cons] <;> grind

theorem sorted_insert [Std.TransOrd κ] [Std.LawfulEqOrd κ] (k : κ) (v : ν)
    {m : List (κ × ν)} (h : Sorted m) : Sorted (insert k v m) := by
  induction m with
  | nil => simp [insert, Sorted]
  | cons q rest ih =>
    obtain ⟨j, w⟩ := q
    have hrest := List.pairwise_cons.1 h
    rw [insert]
    split
    · rename_i hlt
      refine List.pairwise_cons.2 ⟨fun p hp => ?_, h⟩
      rcases List.mem_cons.1 hp with rfl | hp
      · exact hlt
      · exact Std.TransCmp.lt_trans hlt (hrest.1 p hp)
    · rename_i heq
      have hkj : k = j := Std.LawfulEqCmp.eq_of_compare heq
      subst hkj
      exact List.pairwise_cons.2 ⟨fun p hp => hrest.1 p hp, hrest.2⟩
    · rename_i hgt
      refine List.pairwise_cons.2 ⟨fun p hp => ?_, ih hrest.2⟩
      rcases mem_insert hp with rfl | hp
      · exact Std.OrientedCmp.lt_of_gt hgt
      · exact hrest.1 p hp

variable [DecidableEq κ]

theorem get?_insert [Std.LawfulEqOrd κ] (k j : κ) (v : ν) (m : List (κ × ν)) :
    get? j (insert k v m) = if j = k then some v else get? j m := by
  induction m with
  | nil => simp [insert, get?_cons]
  | cons q rest ih =>
    obtain ⟨i, w⟩ := q
    rw [insert]
    split
    · rename_i h
      simp [get?_cons]
    · rename_i h
      have hki : k = i := Std.LawfulEqCmp.eq_of_compare h
      subst hki
      by_cases hjk : j = k <;> simp [get?_cons, hjk]
    · rename_i h
      by_cases hji : j = i
      · subst hji
        have hjk : j ≠ k := by
          intro e
          subst e
          simp at h
        simp [get?_cons, hjk]
      · simp [get?_cons, hji, ih]

@[simp] theorem get?_insert_self [Std.LawfulEqOrd κ] (k : κ) (v : ν) (m : List (κ × ν)) :
    get? k (insert k v m) = some v := by simp [get?_insert]

omit [DecidableEq κ] in
theorem sorted_filter (keep : κ × ν → Bool) {m : List (κ × ν)} (h : Sorted m) :
    Sorted (m.filter keep) := List.Pairwise.filter keep h

theorem sorted_erase (k : κ) {m : List (κ × ν)} (h : Sorted m) : Sorted (erase k m) :=
  sorted_filter _ h

omit [DecidableEq κ] in
theorem sorted_mapValues (f : ν → μ) {m : List (κ × ν)} (h : Sorted m) :
    Sorted (mapValues f m) :=
  List.Pairwise.map _ (fun _ _ hlt => hlt) h

/-- The listing of pairs given in any order; of two with one key the later stands. -/
def ofList (pairs : List (κ × ν)) : List (κ × ν) :=
  pairs.foldl (fun m p => insert p.1 p.2 m) []

omit [DecidableEq κ] in
theorem sorted_foldl_insert [Std.TransOrd κ] [Std.LawfulEqOrd κ] (pairs : List (κ × ν)) :
    ∀ {m : List (κ × ν)}, Sorted m → Sorted (pairs.foldl (fun m p => insert p.1 p.2 m) m) := by
  induction pairs with
  | nil => exact fun h => h
  | cons p rest ih => exact fun h => ih (sorted_insert p.1 p.2 h)

omit [DecidableEq κ] in
theorem sorted_ofList [Std.TransOrd κ] [Std.LawfulEqOrd κ] (pairs : List (κ × ν)) :
    Sorted (ofList pairs) :=
  sorted_foldl_insert pairs List.Pairwise.nil

/-- Pairs with other keys leave the value of a key as it is. -/
theorem get?_foldl_insert_of_notMem [Std.LawfulEqOrd κ] {k : κ} {pairs : List (κ × ν)}
    (h : k ∉ pairs.map Prod.fst) (m : List (κ × ν)) :
    get? k (pairs.foldl (fun m p => insert p.1 p.2 m) m) = get? k m := by
  induction pairs generalizing m with
  | nil => rfl
  | cons p rest ih =>
    rw [List.map_cons, List.mem_cons, not_or] at h
    rw [List.foldl_cons, ih h.2, get?_insert, if_neg h.1]

/-- A key has the value that it is paired with last. -/
theorem get?_ofList_append_cons [Std.LawfulEqOrd κ] {k : κ} {back : List (κ × ν)}
    (h : k ∉ back.map Prod.fst) (front : List (κ × ν)) (v : ν) :
    get? k (ofList (front ++ (k, v) :: back)) = some v := by
  rw [ofList, List.foldl_append, List.foldl_cons, get?_foldl_insert_of_notMem h,
    get?_insert_self]

/-- The keys that have a value are those that are paired with one. -/
theorem isSome_get?_ofList [Std.LawfulEqOrd κ] {k : κ} {pairs : List (κ × ν)} :
    (get? k (ofList pairs)).isSome = true ↔ k ∈ pairs.map Prod.fst := by
  suffices ∀ m : List (κ × ν), (get? k (pairs.foldl (fun m p => insert p.1 p.2 m) m)).isSome = true
      ↔ k ∈ pairs.map Prod.fst ∨ (get? k m).isSome = true by
    simpa [ofList] using this []
  induction pairs with
  | nil => simp
  | cons p rest ih =>
    intro m
    rw [List.foldl_cons, ih, List.map_cons, List.mem_cons, get?_insert]
    by_cases hk : k = p.1
    · simp [hk]
    · simp [hk]

/-- In a listing, a key has the value it is paired with. -/
theorem get?_of_mem [Std.LawfulEqOrd κ] {m : List (κ × ν)}
    (h : Sorted m) {k : κ} {v : ν} (hm : (k, v) ∈ m) : get? k m = some v := by
  induction m with
  | nil => simp at hm
  | cons q rest ih =>
    obtain ⟨j, w⟩ := q
    have hrest := List.pairwise_cons.1 h
    rcases List.mem_cons.1 hm with he | hin
    · cases he; simp [get?_cons]
    · have hkj : k ≠ j := by
        rintro rfl
        simpa using hrest.1 _ hin
      simp [get?_cons, hkj, ih hrest.2 hin]

/-- A key below all that are listed is not listed. -/
theorem get?_eq_none_of_lt [Std.LawfulEqOrd κ] {k : κ} {m : List (κ × ν)}
    (h : ∀ p ∈ m, compare k p.1 = .lt) : get? k m = none := by
  cases hg : get? k m with
  | none => rfl
  | some v => simpa using h _ (mem_of_get?_eq_some hg)

omit [DecidableEq κ] in
/-- Inserting above every key present appends. -/
theorem insert_of_all_lt [Std.OrientedOrd κ] {k : κ} {v : ν} {m : List (κ × ν)}
    (h : ∀ p ∈ m, compare p.1 k = .lt) : insert k v m = m ++ [(k, v)] := by
  induction m with
  | nil => rfl
  | cons q rest ih =>
    obtain ⟨j, w⟩ := q
    have hj : compare k j = .gt :=
      Std.OrientedCmp.gt_of_lt (h (j, w) (List.mem_cons_self ..))
    rw [insert, hj]
    simp only [List.cons_append, List.cons.injEq, true_and]
    exact ih (fun p hp => h p (List.mem_cons_of_mem _ hp))

omit [DecidableEq κ] in
/-- A listing in order is its own listing. -/
theorem ofList_of_sorted [Std.OrientedOrd κ] {m : List (κ × ν)} (h : Sorted m) :
    ofList m = m := by
  suffices ∀ (rest done : List (κ × ν)), Sorted (done ++ rest) →
      rest.foldl (fun m p => insert p.1 p.2 m) done = done ++ rest by
    simpa [ofList] using this m [] h
  intro rest
  induction rest with
  | nil => simp
  | cons p rest ih =>
    intro done hs
    have hp : ∀ q ∈ done, compare q.1 p.1 = .lt := fun q hq =>
      (List.pairwise_append.1 hs).2.2 q hq p (List.mem_cons_self ..)
    rw [List.foldl_cons, insert_of_all_lt hp, ih]
    · simp
    · simpa using hs

end Order

end AppOperator.Assoc
