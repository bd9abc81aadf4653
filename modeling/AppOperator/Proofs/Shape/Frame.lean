import AppOperator.Shape.Shaped

/-!
# What an update leaves alone

An update of a record sets some of its fields. That it leaves the others
alone is said of what is written: the members of all other names are as they
were (`KeepsBut`). Said in this way it covers the fields that a structure
names and those that it holds together, and the type of the record does not
appear in it.

It is shown of the values. Two values of a table may agree in all fields but
some (`Table.AgreeBut`), which is one equation for each field that the table
lists, and one for its tail. What is written under a name comes from the
fields of that name alone, so agreeing values are written alike
(`Table.get?_encode_of_agreeBut`). The header of an object that stands on its
own is written from its type and is no exception.
-/

namespace AppOperator

/-! ## Values that agree

Agreement is defined by recursion over the table, so for a given type it unfolds to a
conjunction with one part for each field, which is either excepted or an equation. Two
helper lemmas, `isSet` and `isKept`, prove such a part, and a term made of them reads
like a list of what the update does field by field. -/

/-- **Whether two values of a table agree in all fields but those of some
names.** Members that are kept without a field have to be the same. -/
def Table.AgreeBut (names : List String) : (t : Table) → t.Val → t.Val → Prop
  | .done, _, _ => True
  | .extras _, v, w => v = w
  | .optional name _ rest, (x, v), (y, w) => (name ∈ names ∨ x = y) ∧ rest.AgreeBut names v w
  | .always _ name _ rest, (x, v), (y, w) => (name ∈ names ∨ x = y) ∧ rest.AgreeBut names v w

/-- Whether two values agree in all fields but those of some names; values
that are no records have no fields. -/
def Shape.AgreeBut (names : List String) : (s : Shape) → s.Val → s.Val → Prop
  | .record _ fields, v, w => fields.AgreeBut names v w
  | _, v, w => v = w

variable {names : List String}

namespace Table

variable {α : Type} {name : String}

/-- A field that is excepted may be set. -/
theorem isSet {x y : α} (h : name ∈ names := by decide) : name ∈ names ∨ x = y := .inl h

/-- Any field may be as before. -/
theorem isKept {x : α} : name ∈ names ∨ x = x := .inr rfl

theorem agreeBut_refl : ∀ (t : Table) (v : t.Val), t.AgreeBut names v v
  | .done, _ => trivial
  | .extras _, _ => rfl
  | .optional _ _ rest, (_, v) => ⟨isKept, rest.agreeBut_refl v⟩
  | .always _ _ _ rest, (_, v) => ⟨isKept, rest.agreeBut_refl v⟩

/-- **Values that agree in all fields but some are written alike** under all
other names. -/
theorem get?_encode_of_agreeBut : ∀ (t : Table) {v w : t.Val}, t.AgreeBut names v w →
    ∀ n ∉ names, Assoc.get? n (t.encode v) = Assoc.get? n (t.encode w)
  | .done, _, _, _, _, _ => rfl
  | .extras _, _, _, h, _, _ => by rw [show _ = _ from h]
  | .optional name shape rest, (x, v), (y, w), ⟨hfield, hrest⟩, n, hn => by
    have ih := rest.get?_encode_of_agreeBut hrest n hn
    by_cases hname : n = name
    · -- a field of this name is none of those excepted, so its values are equal
      obtain rfl : x = y := hfield.resolve_left (hname ▸ hn)
      cases x with
      | none => exact ih
      | some x => rw [Table.encode, Table.encode, Assoc.get?_insert, Assoc.get?_insert, ih]
    · have hskip : ∀ (x : Option shape.Val) (v : rest.Val),
          Assoc.get? n (Table.encode (.optional name shape rest) (x, v))
            = Assoc.get? n (rest.encode v) := by
        intro x v
        cases x with
        | none => rfl
        | some x => rw [Table.encode, Assoc.get?_insert, if_neg hname]
      rw [hskip, hskip, ih]
  | .always _ name shape rest, (x, v), (y, w), ⟨hfield, hrest⟩, n, hn => by
    have ih := rest.get?_encode_of_agreeBut hrest n hn
    rw [Table.encode, Table.encode, Assoc.get?_insert, Assoc.get?_insert, ih]
    by_cases hname : n = name
    · rw [hfield.resolve_left (hname ▸ hn)]
    · rw [if_neg hname, if_neg hname]

end Table

/-- What a style adds is the same whatever the members. -/
theorem Style.get?_addTo_congr (style : Style) {ms ns : List (String × Json)} {n : String}
    (h : Assoc.get? n ms = Assoc.get? n ns) :
    Assoc.get? n (style.addTo ms) = Assoc.get? n (style.addTo ns) := by
  unfold Style.addTo
  cases style.header with
  | none => exact h
  | some header =>
    show Assoc.get? n (Assoc.insert _ _ (Assoc.insert _ _ ms))
      = Assoc.get? n (Assoc.insert _ _ (Assoc.insert _ _ ns))
    rw [Assoc.get?_insert, Assoc.get?_insert, Assoc.get?_insert, Assoc.get?_insert, h]

theorem Shape.get?_encode_of_agreeBut (s : Shape) {v w : s.Val} (h : s.AgreeBut names v w)
    {n : String} (hn : n ∉ names) : (s.encode v).get? n = (s.encode w).get? n := by
  cases s with
  | record style fields =>
    rw [Shape.encode, Shape.encode]
    exact style.get?_addTo_congr (fields.get?_encode_of_agreeBut h n hn)
  | _ => rw [show v = w from h]

/-! ## Updates

What a record keeps is a statement about what would be written of it, and so it can be
compared across types and composed. It is reflexive and transitive, and with more
names excepted it is weaker. -/

/-- **Whether all fields are as before but those of some names**: what is
written under any other name is the same. -/
def KeepsBut {α : Type} [Shaped α] (names : List String) (before after : α) : Prop :=
  ∀ n ∉ names, (encode after).get? n = (encode before).get? n

namespace KeepsBut

variable {α : Type} [Shaped α] {before after last : α}

/-- Fields are as before if their values are. -/
theorem of_agreeBut (h : (shapeOf α).AgreeBut names (toVal after) (toVal before)) :
    KeepsBut names before after :=
  fun _ => (shapeOf α).get?_encode_of_agreeBut h

protected theorem refl (names : List String) (a : α) : KeepsBut names a a := fun _ _ => rfl

protected theorem trans (h : KeepsBut names before after) (h' : KeepsBut names after last) :
    KeepsBut names before last :=
  fun n hn => (h' n hn).trans (h n hn)

end KeepsBut

end AppOperator
