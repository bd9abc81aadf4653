import AppOperator.Application.Definition
import AppOperator.Json.Pointer
import AppOperator.Proofs.Shape.Kept

/-!
# What the definition of applications describes

A cluster drops from an application what the definition of applications does not
describe. It does so before the operator sees it, and without a word: a field
that is left out of the schema, or put into a wrong place, is read as if it had
never been set. So it matters that schema and shape agree, not only on which
fields there are but on where they are.

A part of a shape is reached by steps, and in the schema the same steps lead from
the schema of the whole to that of the part: into the items of a list, the values
of a map, or a field of a record (`Shape.Leads`). A schema also says things that
do not follow from the shape, what a place is for, its default, whether it may be
null. They stand beside the schema of a part, and none of them is under a word by
which a step is taken (`Schema.Describes`).

One step leads from a description to a description (`Schema.Describes.item`,
`.value`, `.field`), and from this any number of steps (`Schema.Describes.at?`).
The definition describes the specification at one place, so that each part of a
specification is described at the place that its steps lead to, and of a record
each field and nothing else (`Application.definition_describes`).

Two kinds of records have no description of their own parts. What the platform
defines is only said to be an object; what keeps members of all names is said to
be kept as it is. The steps of `Shape.Leads` end there, as those of the schema do.
-/

namespace AppOperator

/-! ## Steps

Steps are those of a schema and not of the values that it is about: what they lead to
is where the items of a list are described, all at once, and not one of the items. -/

namespace Json

theorem at?_cons (j : Json) (step : String) (path : List String) :
    j.at? (step :: path) = (j.child? step).bind (·.at? path) := rfl

theorem at?_append (j : Json) (path rest : List String) :
    j.at? (path ++ rest) = (j.at? path).bind (·.at? rest) := by
  induction path generalizing j with
  | nil => rfl
  | cons step path ih =>
    rw [List.cons_append, at?_cons, at?_cons]
    cases j.child? step with
    | none => rfl
    | some k => exact ih k

end Json

/-- Whether a table has a field of some name, whose values have some shape. -/
def Table.Has (name : String) (shape : Shape) : Table → Prop
  | .done | .extras _ => False
  | .optional field s rest | .always _ field s rest =>
    (field = name ∧ s = shape) ∨ rest.Has name shape

/-- No two fields of a field of a distinct table have one name either. -/
theorem Table.distinct_of_has {name : String} {shape : Shape} :
    ∀ {t : Table} {taken : List String}, t.distinct taken = true → t.Has name shape →
      shape.distinct = true
  | .done, _, _, h | .extras _, _, _, h => h.elim
  | .optional .., taken, hdistinct, h | .always .., taken, hdistinct, h => by
    simp only [Table.distinct, Bool.and_eq_true] at hdistinct
    obtain ⟨-, rfl⟩ | hrest := h
    · exact hdistinct.1.2
    · exact distinct_of_has hdistinct.2 hrest

/-- **The parts of a shape**, with the steps that lead to them in a schema. -/
inductive Shape.Leads : Shape → List String → Shape → Prop
  /-- A shape is a part of itself. -/
  | here {s : Shape} : Leads s [] s
  /-- The items of a list. -/
  | item {item part : Shape} {steps : List String} (h : Leads item steps part) :
      Leads (.list item) ("items" :: steps) part
  /-- The values of a map. -/
  | value {value part : Shape} {steps : List String} (h : Leads value steps part) :
      Leads (.map value) ("additionalProperties" :: steps) part
  /-- The fields of a record that is spelled out. -/
  | field {style : Style} {fields : Table} {name : String} {shape part : Shape}
      {steps : List String} (own : style.once = true) (closed : Schema.keepsAll fields = false)
      (has : fields.Has name shape) (h : Leads shape steps part) :
      Leads (.record style fields) ("properties" :: name :: steps) part

/-! ## Descriptions

What a schema says beside what follows from the shape stands in the same object, after it.
Where two members have one name the later stands, so it is by their names that remarks
leave alone what they are added to. -/

namespace Schema

/-- Members under which no part is described. -/
def Remarks (members : List (String × Json)) : Prop :=
  ∀ word ∈ members.map Prod.fst, word ∈ ["default", "description", "nullable"]

/-- **A description of a shape**: its schema, as it is at some place, and some remarks. -/
def Describes (notes : Notes) (s : Shape) (j : Json) : Prop :=
  ∃ path remarks, Remarks remarks ∧ j = .object (ofShape notes path s ++ remarks)

variable {notes : Notes} {j : Json}

theorem remarks_described (notes : Notes) (path : List String) :
    Remarks (described notes path) := by
  unfold described
  split
  · simp [Remarks]
  · simp [Remarks]

theorem Remarks.cons {members : List (String × Json)} (h : Remarks members) {word : String}
    (hword : word ∈ ["default", "description", "nullable"]) (value : Json) :
    Remarks ((word, value) :: members) := by
  intro other hother
  rcases List.mem_cons.1 hother with rfl | hother
  · exact hword
  · exact h other hother

/-- A member that no remark replaces. -/
theorem child?_object {remarks back : List (String × Json)} (hremarks : Remarks remarks)
    {word : String} (hback : word ∉ back.map Prod.fst)
    (hword : word ∉ ["default", "description", "nullable"]) (front : List (String × Json))
    (value : Json) :
    (Json.object ((front ++ (word, value) :: back) ++ remarks)).child? word = some value := by
  rw [List.append_assoc, List.cons_append]
  refine Assoc.get?_ofList_append_cons ?_ front value
  rw [List.map_append, List.mem_append, not_or]
  exact ⟨hback, fun hmem => hword (hremarks word hmem)⟩

/-- What is described under each field of a table, in the order of the fields. -/
theorem map_fst_ofFields (notes : Notes) (path : List String) : ∀ t : Table,
    (ofFields notes path t).map Prod.fst = t.names
  | .done | .extras _ => rfl
  | .optional name _ rest | .always _ name _ rest =>
    congrArg (name :: ·) (map_fst_ofFields notes path rest)

/-- **A field is described under its name.** -/
theorem exists_ofFields_eq {name : String} {shape : Shape} (notes : Notes) (path : List String) :
    ∀ (t : Table) {taken : List String}, t.distinct taken = true → t.Has name shape →
      ∃ front k back, ofFields notes path t = front ++ (name, k) :: back
        ∧ name ∉ back.map Prod.fst ∧ Describes notes shape k
  | .done, _, _, h | .extras _, _, _, h => h.elim
  | .optional field s rest, taken, hdistinct, h => by
    simp only [Table.distinct, Bool.and_eq_true] at hdistinct
    obtain ⟨rfl, rfl⟩ | hrest := h
    · refine ⟨[], _, ofFields notes path rest, rfl, ?_, field :: path, _, ?_,
        congrArg Json.object (List.append_assoc ..)⟩
      · rw [map_fst_ofFields]
        exact rest.not_mem_names_of_taken _ hdistinct.2 List.mem_cons_self
      · cases nullable s with
        | true => exact (remarks_described notes (field :: path)).cons (by simp) _
        | false => exact remarks_described notes (field :: path)
    · obtain ⟨front, k, back, heq, hback, hk⟩ :=
        exists_ofFields_eq notes path rest hdistinct.2 hrest
      exact ⟨_ :: front, k, back, congrArg (_ :: ·) heq, hback, hk⟩
  | .always absence field s rest, taken, hdistinct, h => by
    simp only [Table.distinct, Bool.and_eq_true] at hdistinct
    obtain ⟨rfl, rfl⟩ | hrest := h
    · refine ⟨[], _, ofFields notes path rest, rfl, ?_, field :: path, _, ?_,
        congrArg Json.object (List.append_assoc ..)⟩
      · rw [map_fst_ofFields]
        exact rest.not_mem_names_of_taken _ hdistinct.2 List.mem_cons_self
      · by_cases himplied : absence = .implied
        · rw [if_pos himplied]
          exact (remarks_described notes (field :: path)).cons (by simp) _
        · rw [if_neg himplied]
          exact remarks_described notes (field :: path)
    · obtain ⟨front, k, back, heq, hback, hk⟩ :=
        exists_ofFields_eq notes path rest hdistinct.2 hrest
      exact ⟨_ :: front, k, back, congrArg (_ :: ·) heq, hback, hk⟩

namespace Describes

/-- The description of the items of a list. -/
theorem item {item : Shape} (h : Describes notes (.list item) j) :
    ∃ k, j.child? "items" = some k ∧ Describes notes item k := by
  obtain ⟨path, remarks, hremarks, rfl⟩ := h
  exact ⟨_, child?_object hremarks (by simp [kind]) (by decide) [] _, anyItem :: path, _,
    remarks_described notes _, rfl⟩

/-- The description of the values of a map. -/
theorem value {value : Shape} (h : Describes notes (.map value) j) :
    ∃ k, j.child? "additionalProperties" = some k ∧ Describes notes value k := by
  obtain ⟨path, remarks, hremarks, rfl⟩ := h
  exact ⟨_, child?_object hremarks (by simp [kind]) (by decide) [] _, anyItem :: path, _,
    remarks_described notes _, rfl⟩

variable {style : Style} {fields : Table}

/-- What is said of the fields of a record that is spelled out. -/
theorem properties (h : Describes notes (.record style fields) j) (own : style.once = true)
    (closed : keepsAll fields = false) : ∃ path,
      j.child? "properties" = some (Json.object (ofFields notes path fields)) := by
  obtain ⟨path, remarks, hremarks, rfl⟩ := h
  refine ⟨path, ?_⟩
  have hschema : ofShape notes path (.record style fields)
      = ("properties", Json.object (ofFields notes path fields))
        :: (requires fields ++ kind "object") := by
    rw [ofShape, own, closed]
    rfl
  rw [hschema]
  refine child?_object hremarks ?_ (by decide) [] _
  unfold requires
  split
  · simp [kind]
  · simp [kind]

/-- The description of a field of a record. -/
theorem field {name : String} {shape : Shape} (h : Describes notes (.record style fields) j)
    (own : style.once = true) (closed : keepsAll fields = false)
    (hdistinct : fields.distinct style.taken = true) (has : fields.Has name shape) :
    ∃ k, j.at? ["properties", name] = some k ∧ Describes notes shape k := by
  obtain ⟨path, hproperties⟩ := h.properties own closed
  obtain ⟨front, k, back, heq, hback, hk⟩ := exists_ofFields_eq notes path fields hdistinct has
  refine ⟨k, ?_, hk⟩
  rw [Json.at?_cons, hproperties, Option.bind_some, heq]
  show (Assoc.get? name (Assoc.ofList (front ++ (name, k) :: back))).bind _ = _
  rw [Assoc.get?_ofList_append_cons hback]
  rfl

/-- **A record is described field by field**, and nothing else is. -/
theorem isSome_field_iff (h : Describes notes (.record style fields) j) (own : style.once = true)
    (closed : keepsAll fields = false) (name : String) :
    (j.at? ["properties", name]).isSome = true ↔ name ∈ fields.names := by
  obtain ⟨path, hproperties⟩ := h.properties own closed
  rw [Json.at?_cons, hproperties, Option.bind_some, ← map_fst_ofFields notes path fields,
    ← Assoc.isSome_get?_ofList]
  show ((Assoc.get? name (Assoc.ofList _)).bind fun k => some k).isSome = true ↔ _
  rw [Option.bind_fun_some]

end Describes

/-- **Steps lead to a description of the part** that they lead to. -/
theorem Describes.at? {s part : Shape} {steps : List String} (hsteps : s.Leads steps part)
    (hdistinct : s.distinct = true) (h : Describes notes s j) :
    ∃ k, j.at? steps = some k ∧ Describes notes part k := by
  -- along the steps; only the fields of a record can be confused
  induction hsteps generalizing j with
  | here => exact ⟨j, rfl, h⟩
  | item _ ih =>
    obtain ⟨k, hk, hitem⟩ := h.item
    rw [Json.at?_cons, hk]
    exact ih hdistinct hitem
  | value _ ih =>
    obtain ⟨k, hk, hvalue⟩ := h.value
    rw [Json.at?_cons, hk]
    exact ih hdistinct hvalue
  | field own closed has _ ih =>
    obtain ⟨k, hk, hfield⟩ := h.field own closed hdistinct has
    obtain ⟨l, hl, hpart⟩ := ih (Table.distinct_of_has hdistinct has) hfield
    refine ⟨l, ?_, hpart⟩
    show j.at? (["properties", _] ++ _) = _
    rw [Json.at?_append, hk]
    exact hl

end Schema

/-! ## Applications

The definition has one version, and with it the one schema that the cluster goes by. What is
said of the specification there is what its own schema says, so a pointer into the definition
finds whatever a part of the specification is described by. -/

namespace Application

open Schema

/-- Where the definition describes the specification. -/
def specPlace : List String :=
  ["spec", "versions", "0", "schema", "openAPIV3Schema", "properties", "spec"]

theorem at?_specPlace : definition.at? specPlace = some (schemaOf ApplicationSpec specNotes) := rfl

theorem describes_spec :
    Describes specNotes (shapeOf ApplicationSpec) (schemaOf ApplicationSpec specNotes) :=
  ⟨[], described specNotes [], remarks_described specNotes [], rfl⟩

/-- **The definition describes each part of a specification at its place**, and of a record
that is spelled out just its fields. -/
theorem definition_describes {steps : List String} {part : Shape}
    (hsteps : (shapeOf ApplicationSpec).Leads steps part) :
    ∃ j, definition.pointedAt? (Json.pointer (specPlace ++ steps)) = some j
      ∧ Describes specNotes part j
      ∧ ∀ style fields, part = .record style fields → style.once = true →
          keepsAll fields = false → ∀ name,
          (definition.pointedAt? (Json.pointer (specPlace ++ steps ++ ["properties", name]))).isSome
            = true ↔ name ∈ fields.names := by
  have hdistinct : (shapeOf ApplicationSpec).distinct = true := by decide +kernel
  obtain ⟨j, hj, hpart⟩ := describes_spec.at? hsteps hdistinct
  have hplace : definition.at? (specPlace ++ steps) = some j := by
    rw [Json.at?_append, at?_specPlace]
    exact hj
  refine ⟨j, by rw [Json.pointedAt?_pointer, hplace], hpart, ?_⟩
  rintro style fields rfl own closed name
  rw [Json.pointedAt?_pointer, Json.at?_append, hplace]
  exact hpart.isSome_field_iff own closed name

example : Json.pointer (specPlace ++ ["properties", "storage"])
    = "/spec/versions/0/schema/openAPIV3Schema/properties/spec/properties/storage" := rfl

end Application
end AppOperator
