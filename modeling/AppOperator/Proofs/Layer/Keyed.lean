import AppOperator.Layer.Effective

/-!
# Lists that constants are put into

Variables, volumes, mounts and sources of variables have keys, and the
constants are put into these lists item by item. What is meant is that a
constant stands alone under its key (`Overridden`): the platform lets the last
item of a key win, so an item of the application's that is left behind a
constant undoes it.

An item is put in the place of the first with its key, and the search ends
there. Of several items of one key in the application's list only the first
gives way, so a list is overridden exactly if it names none of the constants'
keys twice (`overridden_iff`). What holds of all lists is told by `keyed_overlay`:
the last constant of a key is the first item of it, and the application's other
items of the key follow.

That a list is overridden is said without the function that does it: each constant
stands alone under its key, and everything else stays where it was. It would be
satisfied by any sensible way of merging, which is why it can fail for the one at
hand, and the equivalence says for which lists it does.
-/

namespace AppOperator

section Lists

variable {α κ : Type} [DecidableEq κ]

/-- The items of a key. -/
def keyed (key : α → κ) (k : κ) (list : List α) : List α := list.filter (key · = k)

/-- The last item of a key. -/
def lastKeyed? (key : α → κ) (k : κ) (list : List α) : Option α := (keyed key k list).getLast?

/-- The items of keys that no constant has. -/
def unconstrained (key : α → κ) (constants list : List α) : List α :=
  list.filter fun a => decide (key a ∉ constants.map key)

/-- **Constants override a list.** -/
structure Overridden (key : α → κ) (own constants merged : List α) : Prop where
  /-- Each key of a constant has one item, the last constant of the key. -/
  single : ∀ c ∈ constants, ∃ last, lastKeyed? key (key c) constants = some last
    ∧ keyed key (key c) merged = [last]
  /-- All other items are kept, each in its place and ahead of the constants
  that are added. -/
  kept : ∃ front added, merged = front ++ added ∧ front.map key = own.map key
    ∧ unconstrained key constants front = unconstrained key constants own
    ∧ ∀ a ∈ added, a ∈ constants ∧ key a ∉ own.map key

/-- The constants put into a list, one after the other. -/
def overlay (key : α → κ) (own constants : List α) : List α :=
  constants.foldl (fun list c => putKeyed key c list) own

variable {key : α → κ} {own constants list rest : List α} {item : α} {k : κ}

theorem keyed_cons (a : α) (list : List α) :
    keyed key k (a :: list) = if key a = k then a :: keyed key k list else keyed key k list := by
  unfold keyed
  rw [List.filter_cons]
  simp only [decide_eq_true_eq]

theorem lastKeyed?_cons (a : α) (list : List α) :
    lastKeyed? key k (a :: list)
      = (lastKeyed? key k list).or (if key a = k then some a else none) := by
  unfold lastKeyed?
  rw [keyed_cons]
  by_cases h : key a = k
  · rw [if_pos h, if_pos h, List.getLast?_cons, Option.or_some]
  · rw [if_neg h, if_neg h, Option.or_none]

/-- A key that an item has is the key of some item that comes last. -/
theorem exists_lastKeyed? (key : α → κ) {c : α} (h : c ∈ constants) :
    ∃ last, lastKeyed? key (key c) constants = some last := by
  have hmem : c ∈ keyed key (key c) constants :=
    List.mem_filter.2 ⟨h, decide_eq_true rfl⟩
  exact ⟨_, List.getLast?_eq_some_getLast (List.ne_nil_of_mem hmem)⟩

/-! ## Putting one item

Putting an item is a search that stops at the first item of its key. Two things
describe it: what the items of each key are afterwards, and what the keys of the list
are. The first is enough for what is said about one key, the second for what is said
about places. -/

/-- An item goes to the place of the first with its key. -/
theorem keyed_putKeyed (item : α) (list : List α) (k : κ) :
    keyed key k (putKeyed key item list)
      = if key item = k then item :: (keyed key k list).tail else keyed key k list := by
  induction list with
  | nil => rw [putKeyed, keyed_cons]; rfl
  | cons old rest ih =>
    rw [putKeyed]
    split
    · rename_i hold
      rw [keyed_cons, keyed_cons, hold]
      split
      · rfl
      · rfl
    · rename_i hold
      rw [keyed_cons, ih, keyed_cons]
      by_cases hk : key item = k
      · have hne : key old ≠ k := fun h => hold (h.trans hk.symm)
        rw [if_neg hne, if_neg hne]
      · rw [if_neg hk, if_neg hk]

theorem mem_putKeyed {a : α} (h : a ∈ putKeyed key item list) : a = item ∨ a ∈ list := by
  induction list with
  | nil => exact .inl (List.mem_singleton.1 h)
  | cons old rest ih =>
    rw [putKeyed] at h
    split at h
    · exact (List.mem_cons.1 h).imp_right (List.mem_cons_of_mem _)
    · rcases List.mem_cons.1 h with rfl | h
      · exact .inr List.mem_cons_self
      · exact (ih h).imp_right (List.mem_cons_of_mem _)

/-- **An item of a key that a list has** leaves the keys as they are, and what
comes after the list. -/
theorem putKeyed_of_mem (h : key item ∈ list.map key) :
    (putKeyed key item list).map key = list.map key
      ∧ putKeyed key item (list ++ rest) = putKeyed key item list ++ rest := by
  induction list with
  | nil => simp at h
  | cons old list ih =>
    rw [List.cons_append, putKeyed, putKeyed]
    split
    · rename_i hold
      exact ⟨by rw [List.map_cons, List.map_cons, hold], rfl⟩
    · rename_i hold
      obtain ⟨hkeys, happend⟩ := ih ((List.mem_cons.1 h).resolve_left (Ne.symm hold))
      exact ⟨by rw [List.map_cons, List.map_cons, hkeys], by rw [happend, List.cons_append]⟩

/-- One of another key goes to what comes after the list. -/
theorem putKeyed_of_not_mem (h : key item ∉ list.map key) :
    putKeyed key item (list ++ rest) = list ++ putKeyed key item rest := by
  induction list with
  | nil => rfl
  | cons old list ih =>
    rw [List.map_cons, List.mem_cons, not_or] at h
    rw [List.cons_append, putKeyed, if_neg (Ne.symm h.1), ih h.2, List.cons_append]

/-- Constants leave the items of other keys as they are. -/
theorem unconstrained_putKeyed (h : item ∈ constants) :
    unconstrained key constants (putKeyed key item list) = unconstrained key constants list := by
  have hitem : decide (key item ∉ constants.map key) = false :=
    decide_eq_false fun hnot => hnot (List.mem_map_of_mem h)
  induction list with
  | nil => exact List.filter_cons_of_neg (Bool.eq_false_iff.1 hitem)
  | cons old list ih =>
    unfold unconstrained at ih ⊢
    rw [putKeyed]
    split
    · rename_i hold
      rw [List.filter_cons, List.filter_cons, hold]
      simp only [hitem]
      rfl
    · rw [List.filter_cons, List.filter_cons, ih]

/-! ## Putting all constants

The constants are put one after the other, so the invariant of the loop speaks of
those that are still to come. Seen from one key, only its own constants matter: the
last of them ends up first among the items of the key, in the place that the first of
the application's had, and the application's others stay behind it. -/

/-- **The items of a key** in the end: its last constant, and then all but the
first that the application has of it. -/
theorem keyed_overlay (key : α → κ) (own constants : List α) (k : κ) :
    keyed key k (overlay key own constants)
      = match lastKeyed? key k constants with
        | some last => last :: (keyed key k own).tail
        | none => keyed key k own := by
  unfold overlay
  induction constants generalizing own with
  | nil => rfl
  | cons c constants ih =>
    rw [List.foldl_cons, ih, keyed_putKeyed, lastKeyed?_cons]
    by_cases hc : key c = k
    · rw [if_pos hc, if_pos hc]
      cases lastKeyed? key k constants with
      | some last => rfl
      | none => rfl
    · rw [if_neg hc, if_neg hc, Option.or_none]

/-- **The application's other items** are kept, each in its place and ahead of
what is added. -/
theorem kept_overlay (key : α → κ) (own constants : List α) :
    ∃ front added, overlay key own constants = front ++ added ∧ front.map key = own.map key
      ∧ unconstrained key constants front = unconstrained key constants own
      ∧ ∀ a ∈ added, a ∈ constants ∧ key a ∉ own.map key := by
  -- the invariant of the loop, for the constants that are still to be put
  have hloop : ∀ (todo front added : List α), (∀ c ∈ todo, c ∈ constants) →
      front.map key = own.map key →
      unconstrained key constants front = unconstrained key constants own →
      (∀ a ∈ added, a ∈ constants ∧ key a ∉ own.map key) →
      ∃ front' added', todo.foldl (fun list c => putKeyed key c list) (front ++ added)
          = front' ++ added' ∧ front'.map key = own.map key
        ∧ unconstrained key constants front' = unconstrained key constants own
        ∧ ∀ a ∈ added', a ∈ constants ∧ key a ∉ own.map key := by
    intro todo
    induction todo with
    | nil =>
      exact fun front added _ hkeys hfront hadded => ⟨front, added, rfl, hkeys, hfront, hadded⟩
    | cons c todo ih =>
      intro front added htodo hkeys hfront hadded
      obtain ⟨hc, htodo⟩ := List.forall_mem_cons.1 htodo
      rw [List.foldl_cons]
      by_cases hmem : key c ∈ front.map key
      · obtain ⟨hsame, happend⟩ := putKeyed_of_mem hmem
        rw [happend]
        exact ih _ _ htodo (hsame.trans hkeys) ((unconstrained_putKeyed hc).trans hfront) hadded
      · rw [putKeyed_of_not_mem hmem]
        refine ih _ _ htodo hkeys hfront fun a ha => ?_
        rcases mem_putKeyed ha with rfl | ha
        · exact ⟨hc, hkeys ▸ hmem⟩
        · exact hadded a ha
  have h := hloop constants own [] (fun _ hc => hc) rfl rfl fun _ ha => absurd ha List.not_mem_nil
  rwa [List.append_nil] at h

/-- **A list is overridden** exactly if it names none of the constants' keys
twice. -/
theorem overridden_iff (key : α → κ) (own constants : List α) :
    Overridden key own constants (overlay key own constants)
      ↔ ∀ c ∈ constants, (keyed key (key c) own).length ≤ 1 := by
  have hsingle : ∀ c ∈ constants, (∃ last, lastKeyed? key (key c) constants = some last
      ∧ keyed key (key c) (overlay key own constants) = [last])
        ↔ (keyed key (key c) own).length ≤ 1 := by
    intro c hc
    obtain ⟨last, hlast⟩ := exists_lastKeyed? key hc
    rw [keyed_overlay, hlast]
    simp only [Option.some.injEq, exists_eq_left', List.cons.injEq, true_and]
    rw [← List.length_eq_zero_iff, List.length_tail, Nat.sub_eq_zero_iff_le]
  constructor
  · exact fun h c hc => (hsingle c hc).1 (h.single c hc)
  · exact fun h => ⟨fun c hc => (hsingle c hc).2 (h c hc), kept_overlay key own constants⟩

end Lists

/-! ## The lists of a specification

The items of the four lists go by different keys: two by a name, one by a place, and
one by what is taken from where. All four are merged by one function,
so the condition is one and the same, with the key as a parameter, and each of the
four is an instance of it. -/

namespace ApplicationSpec

variable {α κ : Type} [DecidableEq κ]

/-- The items that a specification lists, none when the list is unset. -/
def items (list : ApplicationSpec → Option (List α)) (spec : ApplicationSpec) : List α :=
  (list spec).getD []

/-- **Constants override a list of a specification.** -/
def Overrides (key : α → κ) (list : ApplicationSpec → Option (List α))
    (constants spec : ApplicationSpec) : Prop :=
  Overridden key (spec.items list) (constants.items list) ((spec.overrideBy constants).items list)

/-- A specification lists at most one item of each key that a constant has. -/
def ListsOnce (key : α → κ) (list : ApplicationSpec → Option (List α))
    (constants spec : ApplicationSpec) : Prop :=
  ∀ c ∈ constants.items list, (keyed key (key c) (spec.items list)).length ≤ 1

theorem getD_mergeKeyed (key : α → κ) (own constants : Option (List α)) :
    (mergeKeyed key own constants).getD [] = overlay key (own.getD []) (constants.getD []) := by
  cases constants with
  | none => rfl
  | some _ => rfl

variable {constants spec : ApplicationSpec}

/-- A list that the constants are put into is overridden exactly if it has at
most one item of each of their keys. -/
theorem overrides_iff_listsOnce {key : α → κ} {list : ApplicationSpec → Option (List α)}
    (hmerge : list (spec.overrideBy constants) = mergeKeyed key (list spec) (list constants)) :
    Overrides key list constants spec ↔ ListsOnce key list constants spec := by
  unfold Overrides
  rw [items, items, items, hmerge, getD_mergeKeyed]
  exact overridden_iff key _ _

/-- **Constants override** the variables, volumes, mounts and sources of
variables of an application exactly if it lists none of their keys twice. -/
theorem overrides_iff (constants spec : ApplicationSpec) :
    (Overrides (·.name) (·.env) constants spec ↔ ListsOnce (·.name) (·.env) constants spec)
      ∧ (Overrides (·.name) (·.volumes) constants spec
        ↔ ListsOnce (·.name) (·.volumes) constants spec)
      ∧ (Overrides (·.mountPath) (·.volumeMounts) constants spec
        ↔ ListsOnce (·.mountPath) (·.volumeMounts) constants spec)
      ∧ (Overrides EnvFrom.key (·.envFrom) constants spec
        ↔ ListsOnce EnvFrom.key (·.envFrom) constants spec) :=
  ⟨overrides_iff_listsOnce rfl, overrides_iff_listsOnce rfl, overrides_iff_listsOnce rfl,
    overrides_iff_listsOnce rfl⟩

/-- **A constant can be undone.** Where an application names a variable twice,
its second value stays behind the constant. -/
theorem not_overrides_of_repeated :
    let log (value : String) : EnvVar := { name := "LOG", value, valueFrom := none }
    let spec : ApplicationSpec := { (default : ApplicationSpec) with
      env := some [log "info", log "debug"] }
    let constants : ApplicationSpec := { (default : ApplicationSpec) with
      env := some [log "warn"] }
    (spec.overrideBy constants).env = some [log "warn", log "debug"]
      ∧ ¬ Overrides (·.name) (·.env) constants spec := by
  intro log spec constants
  refine ⟨by decide +kernel, fun h => ?_⟩
  obtain ⟨last, -, hone⟩ := h.single (log "warn") (List.mem_singleton.2 rfl)
  have htwo : keyed (·.name) "LOG" ((spec.overrideBy constants).items (·.env))
      = [log "warn", log "debug"] := by decide +kernel
  rw [htwo] at hone
  simp at hone

end ApplicationSpec
end AppOperator
