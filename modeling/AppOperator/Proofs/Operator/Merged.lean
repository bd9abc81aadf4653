import AppOperator.Proofs.Operator.Recorded

/-!
# Statuses recorded in turn

A status is merged into the one that was stored, and the next pass starts from
what can be read of the result. So it has to be known what is read after any
number of merges: conditions and the image are those of the last one, but
secrets in use are put together with those of the statuses before
(`ApplicationStatus.mergedInto`).

Of the stored status a merge asks little: that the two parts of which
something is kept can be read (`ApplicationStatus.KeptParts`). That holds of
an application without a status, and each merge sees to it again
(`ApplicationStatus.KeptParts.merged`), so that nothing has to be assumed of
what was stored in between.

The parts of a status are merged in different ways because of how they are written: a
list replaces a list, an object is merged into an object by its keys, a value that is
unset and written as null clears, and one that is unset and not written is kept. All
four occur. What is read after a merge is given by an equation,
`ApplicationStatus.mergedInto`, so that a sequence of merges is a computation on
statuses, without any JSON.
-/

namespace AppOperator

namespace ApplicationStatus

/-- **What a pass starts from**: the status that is stored, if one is. -/
def read? (stored : Option Json) : Option ApplicationStatus :=
  ((shapeOf ApplicationStatus).decodeOption stored).map fun v => (v.map ofVal).getD default

theorem read?_of_unset {stored : Option Json} (h : stored = none ∨ stored = some .null) :
    read? stored = some default := by
  rw [read?, (Shape.decodeOption_eq_some_none_iff _ stored).2 h]
  rfl

theorem read?_some {j : Json} (h : j ≠ .null) :
    read? (some j) = decode ApplicationStatus j := by
  rw [read?, Shape.decodeOption_some _ h, Option.map_map]
  rfl

/-- **The status that is read** once one was merged into another: the list of
conditions and the image are replaced, the secrets in use are put together by
category, and a generation only gives way to another one. -/
def mergedInto (status old : ApplicationStatus) : ApplicationStatus where
  conditions := status.conditions.map Condition.inSeconds
  consumedServices := status.consumedServices.map (old.consumedServices.getD .empty).extend
  imageReference := status.imageReference
  observedGeneration := status.observedGeneration.or old.observedGeneration

/-- What a merge has to know of the status that is stored: the two parts of
which something may be kept. -/
structure KeptParts (old : Json) (status : ApplicationStatus) : Prop where
  /-- The secrets in use can be read. -/
  consumedServices : (Shape.map (.list .text)).decodeOption (old.get? "consumedServices")
    = some status.consumedServices
  /-- They are listed by rising category. -/
  sorted : Assoc.Sorted (storedServices old).members
  /-- The generation can be read. -/
  observedGeneration : Shape.int64.decodeOption (old.get? "observedGeneration")
    = some status.observedGeneration

theorem keptParts_null : KeptParts .null default :=
  ⟨rfl, List.Pairwise.nil, rfl⟩

/-- The secrets in use of each category, as they are stored. -/
theorem get?_of_decodeOption_services {old : Option Json}
    {found : Option (Dict String (List String))}
    (hfound : (Shape.map (.list .text)).decodeOption old = some found)
    (h : Assoc.Sorted (old.getD .null).members) (category : String) :
    (Assoc.get? category (old.getD .null).members).map (Shape.list .text).decode
      = ((found.getD .empty).get? category).map some := by
  rcases old with _ | j
  · obtain rfl : none = found := Option.some.inj hfound
    rfl
  by_cases hnull : j = .null
  · subst hnull
    obtain rfl : none = found := Option.some.inj hfound
    rfl
  · rw [Shape.decodeOption_some _ hnull, Option.map_eq_some_iff] at hfound
    obtain ⟨used, hused, rfl⟩ := hfound
    -- only an object is read as a map
    cases j with
    | obj members => exact (Shape.decode_map_eq_some_iff _ h used).1 hused category
    | _ => simp [Shape.decode] at hused

/-- Secrets in use are put together by category. -/
theorem decode_merged_services (services : Dict String (List String))
    {old : Option Json} {found : Option (Dict String (List String))}
    (hfound : (Shape.map (.list .text)).decodeOption old = some found)
    (h : Assoc.Sorted (old.getD .null).members) :
    (Shape.map (.list .text)).decode
        ((old.getD .null).mergePatch ((Shape.map (.list .text)).encode services))
      = some ((found.getD .empty).extend services) := by
  rw [Shape.encode, Json.mergePatch, Shape.decode_map_eq_some_iff _ (Json.sorted_mergeMembers h _)]
  intro category
  have hold := get?_of_decodeOption_services hfound h category
  have hchange : Assoc.get? category (services.map (Shape.list .text).encode).entries
      = (services.get? category).map (Shape.list .text).encode := Dict.get?_map _ _ _
  rw [Json.get?_mergeMembers _ (services.map _).sorted, hchange, Dict.get?_extend]
  cases services.get? category with
  | none => exact hold
  | some secrets =>
    rw [Option.map_some, mergedMember_list, Option.map_some, decode_list_text]
    rfl

/-- The secrets in use, whether or not there are any, once they were merged. -/
theorem decodeOption_merged_services (services : Option (Dict String (List String)))
    {old : Option Json} {found : Option (Dict String (List String))}
    (hfound : (Shape.map (.list .text)).decodeOption old = some found)
    (h : Assoc.Sorted (old.getD .null).members) :
    (Shape.map (.list .text)).decodeOption (Json.mergedMember old
        (some ((services.map (Shape.map (.list .text)).encode).getD .null)))
      = some (services.map (found.getD .empty).extend) := by
  cases services with
  | none => rfl
  | some services =>
    have hmerged : (old.getD .null).mergePatch ((Shape.map (.list .text)).encode services)
        ≠ .null := by
      simp [Shape.encode, Json.mergePatch]
    rw [Option.map_some, Option.getD_some, Json.mergedMember_some _ (Shape.encode_ne_null _ _),
      Shape.decodeOption_some _ hmerged, decode_merged_services services hfound h]
    rfl

/-- The generation, once it was merged. -/
theorem decodeOption_merged_generation (generation : Option Int64) {old : Option Json}
    {found : Option Int64} (hfound : Shape.int64.decodeOption old = some found) :
    Shape.int64.decodeOption (Json.mergedMember old (generation.map Shape.int64.encode))
      = some (generation.or found) := by
  cases generation with
  | none => exact hfound
  | some g => exact (decodeOption_generation_iff (some g) old).2 nofun

/-- The listing of the secrets in use stays in order. -/
theorem sorted_merged_services (services : Option (Dict String (List String))) {old : Option Json}
    (h : Assoc.Sorted (old.getD .null).members) :
    Assoc.Sorted (((Json.mergedMember old
      (some ((services.map (Shape.map (.list .text)).encode).getD .null))).getD .null).members) := by
  cases services with
  | none => exact List.Pairwise.nil
  | some services =>
    rw [Option.map_some, Option.getD_some, Json.mergedMember_some _ (Shape.encode_ne_null _ _)]
    exact Json.sorted_mergeMembers h _

theorem mergePatch_whole_ne_null (old : Json) (status : ApplicationStatus) :
    old.mergePatch status.whole ≠ .null := by
  obtain ⟨changes, hwhole, -⟩ := status.exists_whole_eq
  simp [hwhole, Json.mergePatch]

/-- **A status that was merged into another can be read**, and another can be
merged into it in turn. -/
theorem KeptParts.merged (status : ApplicationStatus) {old : Json} {found : ApplicationStatus}
    (h : KeptParts old found) :
    decode ApplicationStatus (old.mergePatch status.whole) = some (status.mergedInto found)
      ∧ KeptParts (old.mergePatch status.whole) (status.mergedInto found) := by
  obtain ⟨changes, hwhole, hsorted, hconditions, hservices, himage, hgeneration⟩ :=
    status.exists_whole_eq
  have hmember := fun name => Json.get?_mergePatch old hsorted name
  -- member by member: conditions are replaced as a list, the other three merged by their kinds
  have hlisted : (old.mergePatch (.obj changes)).get? "conditions"
      = some (.arr (status.conditions.map encode)) := by
    rw [hmember, hconditions, Json.mergedMember_some _ (by simp),
      Json.mergePatch_of_not_obj _ _ (by simp)]
  have hused := decodeOption_merged_services status.consumedServices h.consumedServices h.sorted
  have hseen := decodeOption_merged_generation status.observedGeneration h.observedGeneration
  have hfound : Shape.text.decodeOption (Json.mergedMember (old.get? "imageReference")
      (some (.ofOption status.imageReference))) = some status.imageReference := by
    cases status.imageReference <;> rfl
  rw [← hservices, ← hmember] at hused
  rw [← hgeneration, ← hmember] at hseen
  rw [← himage, ← hmember] at hfound
  rw [hwhole]
  refine ⟨decode_eq_some_iff.2 ?_, hused, ?_, hseen⟩
  · refine (Table.decode_always_eq_some_iff hlisted (by simp)).2 ⟨decode_conditions _, ?_⟩
    exact Table.decode_optional_eq_some_iff.2 ⟨hused, Table.decode_optional_eq_some_iff.2
      ⟨hfound, Table.decode_optional_eq_some_iff.2 ⟨hseen, rfl⟩⟩⟩
  · have hlisting := sorted_merged_services status.consumedServices h.sorted
    rwa [← hservices, ← hmember] at hlisting

end ApplicationStatus

end AppOperator
