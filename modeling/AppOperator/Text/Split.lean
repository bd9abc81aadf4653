/-!
# Splitting texts

A text is taken apart at the occurrences of a character. The parts with the
character put back between them are the text again (`join_parts`), and no
part holds it (`not_mem_of_mem_parts`).

The last occurrence of a character matters too, where what follows it is a tag and
what stands before it may hold the character itself (`last?`). Texts that are put
together from two parts are told apart by their parts if the second part does not hold
the character between them (`append_cons_inj`).
-/

namespace AppOperator.Split

/-- **The parts of a text between the occurrences of a character.** -/
def parts (mark : Char) : List Char → List (List Char)
  | [] => [[]]
  | c :: rest =>
    if c = mark then [] :: parts mark rest
    else
      match parts mark rest with
      | [] => [[c]]
      | part :: more => (c :: part) :: more

/-- Parts with a character between them. -/
def join (mark : Char) : List (List Char) → List Char
  | [] => []
  | [part] => part
  | part :: rest => part ++ mark :: join mark rest

/-- **A text before and after the last occurrence of a character.** -/
def last? (mark : Char) (cs : List Char) : Option (List Char × List Char) :=
  let after := cs.reverse.takeWhile (· ≠ mark)
  match cs.reverse.dropWhile (· ≠ mark) with
  | [] => none
  | _ :: before => some (before.reverse, after.reverse)

theorem parts_ne_nil (mark : Char) (cs : List Char) : parts mark cs ≠ [] := by
  cases cs with
  | nil => simp [parts]
  | cons c rest =>
    rw [parts]
    split
    · simp
    · split <;> simp

/-- **Nothing is lost by splitting.** -/
theorem join_parts (mark : Char) (cs : List Char) : join mark (parts mark cs) = cs := by
  induction cs with
  | nil => rfl
  | cons c rest ih =>
    rw [parts]
    split
    · next h =>
      cases hp : parts mark rest with
      | nil => exact absurd hp (parts_ne_nil mark rest)
      | cons part more => simp [join, ← hp, ih, h]
    · cases hp : parts mark rest with
      | nil => exact absurd hp (parts_ne_nil mark rest)
      | cons part more =>
        rw [hp] at ih
        cases more with
        | nil => simpa [join] using ih
        | cons next more => simpa [join] using ih

/-- **Splitting leaves no occurrence.** -/
theorem not_mem_of_mem_parts {mark : Char} {cs part : List Char} (h : part ∈ parts mark cs) :
    mark ∉ part := by
  induction cs generalizing part with
  | nil => simp_all [parts]
  | cons c rest ih =>
    rw [parts] at h
    split at h
    · next hc =>
      rcases List.mem_cons.mp h with rfl | h
      · simp
      · exact ih h
    · next hc =>
      cases hp : parts mark rest with
      | nil => exact absurd hp (parts_ne_nil mark rest)
      | cons first more =>
        rw [hp] at h ih
        rcases List.mem_cons.mp h with rfl | h
        · simp [Ne.symm hc, ih List.mem_cons_self]
        · exact ih (List.mem_cons_of_mem _ h)

/-- **What stands behind a character is told from what stands before it**, if
the character does not occur in it. -/
theorem last?_append_cons {mark : Char} {before after : List Char} (h : mark ∉ after) :
    last? mark (before ++ mark :: after) = some (before, after) := by
  have hall : ∀ c ∈ after.reverse, decide (c ≠ mark) = true := fun c hc =>
    decide_eq_true fun he => h (he ▸ List.mem_reverse.1 hc)
  have hreverse : (before ++ mark :: after).reverse
      = after.reverse ++ mark :: before.reverse := by simp
  unfold last?
  rw [hreverse, List.takeWhile_append_of_pos hall, List.dropWhile_append_of_pos hall]
  simp

/-- So two texts that end in such parts are the same if their parts are. -/
theorem append_cons_inj {mark : Char} {a b c d : List Char} (hb : mark ∉ b) (hd : mark ∉ d)
    (h : a ++ mark :: b = c ++ mark :: d) : a = c ∧ b = d := by
  have hlast := congrArg (last? mark) h
  rw [last?_append_cons hb, last?_append_cons hd] at hlast
  exact Prod.mk.inj (Option.some.inj hlast)

theorem last?_eq_none {mark : Char} {cs : List Char} (h : mark ∉ cs) : last? mark cs = none := by
  have hall : ∀ c ∈ cs.reverse, decide (c ≠ mark) = true := fun c hc =>
    decide_eq_true fun he => h (he ▸ List.mem_reverse.1 hc)
  have hnone : (cs.reverse ++ []).dropWhile (· ≠ mark) = [].dropWhile (· ≠ mark) :=
    List.dropWhile_append_of_pos hall
  rw [List.append_nil, List.dropWhile_nil] at hnone
  unfold last?
  rw [hnone]

/-- A text that holds a character has a last occurrence of it. -/
theorem exists_last {mark : Char} {cs : List Char} (h : mark ∈ cs) :
    ∃ before after, cs = before ++ mark :: after ∧ mark ∉ after := by
  induction cs with
  | nil => simp at h
  | cons c rest ih =>
    by_cases hrest : mark ∈ rest
    · obtain ⟨before, after, rfl, hafter⟩ := ih hrest
      exact ⟨c :: before, after, rfl, hafter⟩
    · obtain rfl : mark = c := by simpa [hrest] using h
      exact ⟨[], rest, rfl, hrest⟩

theorem parts_of_not_mem {mark : Char} {cs : List Char} (h : mark ∉ cs) :
    parts mark cs = [cs] := by
  induction cs with
  | nil => rfl
  | cons c rest ih =>
    rw [List.mem_cons, not_or] at h
    rw [parts, if_neg (Ne.symm h.1), ih h.2]

/-- The first part ends at the first occurrence. -/
theorem parts_append_cons {mark : Char} {cs : List Char} (h : mark ∉ cs) (rest : List Char) :
    parts mark (cs ++ mark :: rest) = cs :: parts mark rest := by
  induction cs with
  | nil => simp [parts]
  | cons c cs ih =>
    rw [List.mem_cons, not_or] at h
    rw [List.cons_append, parts, if_neg (Ne.symm h.1), ih h.2]

end AppOperator.Split
