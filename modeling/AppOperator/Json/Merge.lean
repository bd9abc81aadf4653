import AppOperator.Json.Basic

/-!
# Merge patches

A merge patch (RFC 7386) describes a change to a JSON value by example: a
member of the patch replaces the member of that name, `null` removes it,
and an object is merged member by member. Applying a patch keeps whatever
it does not name, which is why a status that no longer has a field must say
so with `null`.

A list is no object: it replaces what was there. The theorems below say what a merge
leaves of each member, which is all that is needed of it elsewhere.
-/

namespace AppOperator.Json

mutual
/-- **The value after a merge patch.** -/
def mergePatch (target : Json) : (patch : Json) → Json
  | .obj changes => .obj (mergeMembers target.members changes)
  | .null => .null
  | .bool b => .bool b
  | .int n => .int n
  | .real d => .real d
  | .str s => .str s
  | .arr items => .arr items
/-- Applies the changes to a listing of members, one after the other. -/
def mergeMembers (members : List (String × Json)) : (changes : List (String × Json)) →
    List (String × Json)
  | [] => members
  | (name, .null) :: rest => mergeMembers (Assoc.erase name members) rest
  | (name, change) :: rest =>
    let old := (Assoc.get? name members).getD .null
    mergeMembers (Assoc.insert name (mergePatch old change) members) rest
end

/-- A patch that is no object replaces the whole value. -/
theorem mergePatch_of_not_obj (target patch : Json) (h : ∀ ms, patch ≠ .obj ms) :
    mergePatch target patch = patch := by
  cases patch <;> simp_all [mergePatch]

/-- **What a merge leaves of a member**: the old value if no change names it,
nothing if the change is null, and else the old value with the change merged in. -/
def mergedMember (old : Option Json) : (change : Option Json) → Option Json
  | none => old
  | some change => if change = .null then none else some (mergePatch (old.getD .null) change)

@[simp] theorem mergedMember_none (old : Option Json) : mergedMember old none = old := rfl

@[simp] theorem mergedMember_null (old : Option Json) : mergedMember old (some .null) = none := rfl

theorem mergedMember_some (old : Option Json) {change : Json} (h : change ≠ .null) :
    mergedMember old (some change) = some (mergePatch (old.getD .null) change) := if_neg h

/-- The first change touches the member that it names, and only that. -/
theorem mergeMembers_cons (members : List (String × Json)) (name : String) (change : Json)
    (rest : List (String × Json)) : ∃ changed, mergeMembers members ((name, change) :: rest)
        = mergeMembers changed rest
      ∧ (Assoc.Sorted members → Assoc.Sorted changed)
      ∧ ∀ other, Assoc.get? other changed =
        if other = name then mergedMember (Assoc.get? name members) (some change)
        else Assoc.get? other members := by
  by_cases hnull : change = .null
  · subst hnull
    exact ⟨Assoc.erase name members, rfl, Assoc.sorted_erase name, fun other =>
      Assoc.get?_erase name other members⟩
  · refine ⟨Assoc.insert name (mergePatch ((Assoc.get? name members).getD .null) change) members,
      ?_, Assoc.sorted_insert _ _, fun other => by
        rw [Assoc.get?_insert, mergedMember_some _ hnull]⟩
    cases change with
    | null => exact absurd rfl hnull
    | _ => rfl

theorem sorted_mergeMembers {members : List (String × Json)} (h : Assoc.Sorted members)
    (changes : List (String × Json)) : Assoc.Sorted (mergeMembers members changes) := by
  induction changes generalizing members with
  | nil => exact h
  | cons p rest ih =>
    obtain ⟨changed, heq, hsorted, -⟩ := mergeMembers_cons members p.1 p.2 rest
    rw [heq]
    exact ih (hsorted h)

/-- **Changes touch the members that they name**, and only those. -/
theorem get?_mergeMembers (members : List (String × Json)) {changes : List (String × Json)}
    (h : Assoc.Sorted changes) (name : String) :
    Assoc.get? name (mergeMembers members changes)
      = mergedMember (Assoc.get? name members) (Assoc.get? name changes) := by
  induction changes generalizing members with
  | nil => rfl
  | cons p rest ih =>
    obtain ⟨other, change⟩ := p
    have hrest := List.pairwise_cons.1 h
    obtain ⟨changed, heq, -, hchanged⟩ := mergeMembers_cons members other change rest
    rw [heq, ih changed hrest.2, hchanged, Assoc.get?_cons]
    by_cases hname : name = other
    · -- the changes that follow are of other names
      subst hname
      rw [Assoc.get?_eq_none_of_lt hrest.1, if_pos rfl, if_pos rfl, mergedMember_none]
    · rw [if_neg hname, if_neg hname]

/-- **What a member is after an object was merged in.** -/
theorem get?_mergePatch (target : Json) {changes : List (String × Json)}
    (h : Assoc.Sorted changes) (name : String) :
    (mergePatch target (.obj changes)).get? name
      = mergedMember (target.get? name) (Assoc.get? name changes) :=
  get?_mergeMembers target.members h name

end AppOperator.Json
