import AppOperator.Data.Assoc

/-!
# Finite maps listed by key

`Dict κ ν` is a listing of pairs together with the proof that its keys rise
strictly. Two dictionaries with the same look-ups are equal (`Dict.ext`),
so a law about labels, secret data or stored objects is proved one key at a
time.

Every operation carries the proof that its listing is in order, so no theorem about
dictionaries has to ask for it. The look-ups after an operation are given by one
equation for each (`get?_insert`, `get?_erase`, `get?_map` and the like).
-/

namespace AppOperator

/-- **A finite map**, kept as the listing of its pairs by key. -/
structure Dict (κ ν : Type) [Ord κ] where
  /-- The pairs, by rising key. -/
  entries : List (κ × ν)
  /-- The keys rise strictly. -/
  sorted : Assoc.Sorted entries := by exact List.Pairwise.nil

namespace Dict

variable {κ ν μ : Type} [Ord κ]

/-- The map without pairs. -/
def empty : Dict κ ν := { entries := [] }

instance : Inhabited (Dict κ ν) := ⟨empty⟩
instance : EmptyCollection (Dict κ ν) := ⟨empty⟩

/-- Whether the map has no pairs. -/
def isEmpty (d : Dict κ ν) : Bool := d.entries.isEmpty

/-- The keys, in order. -/
def keys (d : Dict κ ν) : List κ := d.entries.map Prod.fst

/-- The values, by rising key. -/
def values (d : Dict κ ν) : List ν := d.entries.map Prod.snd

theorem entries_inj {d e : Dict κ ν} (h : d.entries = e.entries) : d = e := by
  cases d; cases e; simp_all

instance [DecidableEq κ] [DecidableEq ν] : DecidableEq (Dict κ ν) := fun d e =>
  decidable_of_iff (d.entries = e.entries) ⟨entries_inj, congrArg entries⟩

/-- Maps the values. -/
def map (f : ν → μ) (d : Dict κ ν) : Dict κ μ :=
  { entries := Assoc.mapValues f d.entries, sorted := Assoc.sorted_mapValues f d.sorted }

section Lookup

variable [DecidableEq κ]

/-- The value of a key. -/
def get? (d : Dict κ ν) (k : κ) : Option ν := Assoc.get? k d.entries

/-- Whether a key is present. -/
def contains (d : Dict κ ν) (k : κ) : Bool := (d.get? k).isSome

/-- The map without a key. -/
def erase (d : Dict κ ν) (k : κ) : Dict κ ν :=
  { entries := Assoc.erase k d.entries, sorted := Assoc.sorted_erase k d.sorted }

@[simp] theorem get?_empty (k : κ) : (empty : Dict κ ν).get? k = none := rfl

@[simp] theorem get?_map (f : ν → μ) (d : Dict κ ν) (k : κ) :
    (d.map f).get? k = (d.get? k).map f := Assoc.get?_mapValues f k d.entries

theorem get?_erase (d : Dict κ ν) (k j : κ) :
    (d.erase k).get? j = if j = k then none else d.get? j :=
  Assoc.get?_erase k j d.entries

end Lookup

section Insert

variable [Std.TransOrd κ] [Std.LawfulEqOrd κ]

/-- The map with a key set to a value. -/
def insert (d : Dict κ ν) (k : κ) (v : ν) : Dict κ ν :=
  { entries := Assoc.insert k v d.entries, sorted := Assoc.sorted_insert k v d.sorted }

/-- The map of pairs given in any order; of two with one key the later stands. -/
def ofList (pairs : List (κ × ν)) : Dict κ ν :=
  { entries := Assoc.ofList pairs, sorted := Assoc.sorted_ofList pairs }

/-- The map with one pair. -/
def singleton (k : κ) (v : ν) : Dict κ ν := empty.insert k v

/-- **Both maps at once**: where both have a key, the second's value stands. -/
def extend (d e : Dict κ ν) : Dict κ ν :=
  e.entries.foldl (fun acc p => acc.insert p.1 p.2) d

/-- A listing in order is rebuilt from its own pairs. -/
@[simp] theorem ofList_entries (d : Dict κ ν) : ofList d.entries = d :=
  entries_inj (Assoc.ofList_of_sorted d.sorted)

/-- A map of pairs is made by setting one after the other. -/
theorem ofList_eq_foldl (pairs : List (κ × ν)) :
    ofList pairs = pairs.foldl (fun d p => d.insert p.1 p.2) empty := by
  have hentries : ∀ d : Dict κ ν, (pairs.foldl (fun d p => d.insert p.1 p.2) d).entries
      = pairs.foldl (fun m p => Assoc.insert p.1 p.2 m) d.entries := by
    induction pairs with
    | nil => exact fun _ => rfl
    | cons p rest ih => exact fun d => ih (d.insert p.1 p.2)
  exact entries_inj (hentries empty).symm

omit [Std.TransOrd κ] in
/-- No key is listed twice. -/
theorem nodup_keys (d : Dict κ ν) : d.keys.Nodup := by
  refine List.pairwise_map.2 (d.sorted.imp fun {p q} hlt heq => ?_)
  have hself : compare q.1 q.1 = .eq := Std.ReflCmp.compare_self
  rw [heq, hself] at hlt
  exact absurd hlt (by decide)

variable [DecidableEq κ]

theorem get?_insert (d : Dict κ ν) (k j : κ) (v : ν) :
    (d.insert k v).get? j = if j = k then some v else d.get? j :=
  Assoc.get?_insert k j v d.entries

@[simp] theorem get?_insert_self (d : Dict κ ν) (k : κ) (v : ν) :
    (d.insert k v).get? k = some v := by simp [get?_insert]

omit [Std.TransOrd κ] in
theorem mem_entries_iff (d : Dict κ ν) (k : κ) (v : ν) :
    (k, v) ∈ d.entries ↔ d.get? k = some v :=
  ⟨Assoc.get?_of_mem d.sorted, Assoc.mem_of_get?_eq_some⟩

omit [Std.TransOrd κ] in
theorem mem_keys {d : Dict κ ν} {k : κ} : k ∈ d.keys ↔ (d.get? k).isSome = true := by
  rw [keys, List.mem_map, Option.isSome_iff_exists]
  constructor
  · rintro ⟨⟨k, v⟩, hmem, rfl⟩
    exact ⟨v, (d.mem_entries_iff k v).1 hmem⟩
  · rintro ⟨v, hv⟩
    exact ⟨(k, v), (d.mem_entries_iff k v).2 hv, rfl⟩

private theorem eq_of_get?_eq :
    ∀ {m n : List (κ × ν)}, Assoc.Sorted m → Assoc.Sorted n →
      (∀ k, Assoc.get? k m = Assoc.get? k n) → m = n := by
  intro m
  induction m with
  | nil =>
    intro n _ _ h
    cases n with
    | nil => rfl
    | cons q _ => obtain ⟨j, w⟩ := q; have := h j; simp [Assoc.get?_cons] at this
  | cons p rest ih =>
    intro n hm hn h
    have hmp := List.pairwise_cons.1 hm
    obtain ⟨k, v⟩ := p
    cases n with
    | nil => have := h k; simp [Assoc.get?_cons] at this
    | cons q tail =>
      obtain ⟨j, w⟩ := q
      have hnp := List.pairwise_cons.1 hn
      have hkj : k = j := by
        have hk := h k
        rw [Assoc.get?_cons, if_pos rfl] at hk
        have hj := h j
        rw [Assoc.get?_cons j j, if_pos rfl] at hj
        rcases List.mem_cons.1 (Assoc.mem_of_get?_eq_some hk.symm) with he | hin
        · exact (Prod.mk.inj he).1
        · rcases List.mem_cons.1 (Assoc.mem_of_get?_eq_some hj) with he | hin'
          · exact (Prod.mk.inj he).1.symm
          · have h₁ : compare j k = .lt := hnp.1 _ hin
            have h₂ : compare k j = .lt := hmp.1 _ hin'
            have := Std.OrientedCmp.gt_of_lt h₁
            simp_all
      subst hkj
      have hv : v = w := by simpa [Assoc.get?_cons] using h k
      subst hv
      have hrest : rest = tail := by
        refine ih hmp.2 hnp.2 (fun i => ?_)
        by_cases hik : i = k
        · subst hik
          rw [Assoc.get?_eq_none_of_lt hmp.1, Assoc.get?_eq_none_of_lt hnp.1]
        · simpa [Assoc.get?_cons, hik] using h i
      rw [hrest]

/-- **Maps with the same look-ups are equal.** -/
theorem ext {d e : Dict κ ν} (h : ∀ k, d.get? k = e.get? k) : d = e :=
  entries_inj (eq_of_get?_eq d.sorted e.sorted h)

theorem get?_foldl_insert (pairs : List (κ × ν)) (hs : Assoc.Sorted pairs) (d : Dict κ ν) (k : κ) :
    (pairs.foldl (fun acc p => acc.insert p.1 p.2) d).get? k
      = (Assoc.get? k pairs).or (d.get? k) := by
  induction pairs generalizing d with
  | nil => simp
  | cons p rest ih =>
    obtain ⟨j, v⟩ := p
    have hp := List.pairwise_cons.1 hs
    rw [List.foldl_cons, ih hp.2, get?_insert, Assoc.get?_cons]
    by_cases hkj : k = j
    · subst hkj
      simp [Assoc.get?_eq_none_of_lt hp.1]
    · simp [hkj]

/-- The second map is asked first. -/
@[simp] theorem get?_extend (d e : Dict κ ν) (k : κ) :
    (d.extend e).get? k = (e.get? k).or (d.get? k) :=
  get?_foldl_insert e.entries e.sorted d k

end Insert

end Dict

/-- A map from texts to texts: labels, annotations, string data. -/
abbrev Labels := Dict String String

end AppOperator
