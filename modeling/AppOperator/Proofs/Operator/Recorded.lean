import AppOperator.Proofs.Operator.Rounds

/-!
# The status that is stored

The status of an application is not replaced but merged into the one that is
stored, and a merge keeps what it does not name. A part that is unset has
therefore to be written as null to go away, at every level: the status itself
and the secrets in use, which are listed by category. Conditions come in a
list, which a merge replaces as a whole.

The writer does this for two of the three parts that may be unset, and for no
category. So what is read back is the status that was written, with its times
in whole seconds, exactly if the other part and the other categories were not
stored before (`ApplicationStatus.Supersedes`). Each part is read from a
member of its own, and the merge is known member by member, so the equivalence
is proved one part at a time; that a category which is not in use is not read
back is the only place where the order of a listing matters.
-/

namespace AppOperator

/-! ## Statuses in writing

What is written of a status is an object with a member for each part, and of these the
optional ones are put in as null where the status leaves them unset, except for one.
The members are given by what stands under each name, and it is all that a merge looks
at. Times are cut to whole seconds when they are written, which is why a status is
read back in whole seconds at best. -/

/-- A condition as it is written: its times are in whole seconds. -/
def Condition.inSeconds (c : Condition) : Condition :=
  { c with
    lastTransitionTime := c.lastTransitionTime.map Instant.inSeconds
    lastUpdateTime := c.lastUpdateTime.map Instant.inSeconds }

namespace ApplicationStatus

/-- A status as it is written: the times of its conditions are in whole seconds. -/
def inSeconds (status : ApplicationStatus) : ApplicationStatus :=
  { status with conditions := status.conditions.map Condition.inSeconds }

theorem toVal_inSeconds_condition (c : Condition) :
    (shapeOf Condition).inSeconds (toVal c) = toVal c.inSeconds := by
  obtain ⟨type, status, transition, update, reason, message⟩ := c
  cases reason <;> cases message <;> rfl

/-- **Written conditions are read back**, in whole seconds. -/
theorem decode_conditions (conditions : List Condition) :
    (Shape.list (shapeOf Condition)).decode (.arr (conditions.map encode))
      = some (toVals (conditions.map Condition.inSeconds)) := by
  have hread := (Shape.list (shapeOf Condition)).decode_encode_inSeconds (toVals conditions)
    (by decide)
  rw [Shape.encode, toVals, List.map_map] at hread
  refine hread.trans (congrArg some ?_)
  rw [Shape.inSeconds, List.map_map, toVals, List.map_map]
  exact List.map_congr_left fun c _ => toVal_inSeconds_condition c

/-- Writing parts that are missing as null leaves all others as they are. -/
theorem exists_foldl_clear (parts : List String) {members : List (String × Json)}
    (h : Assoc.Sorted members) : ∃ cleared,
      parts.foldl (fun (j : Json) part => if (j.get? part).isSome then j else j.insert part .null)
        (Json.obj members) = .obj cleared
      ∧ Assoc.Sorted cleared
      ∧ ∀ name, Assoc.get? name cleared
        = (Assoc.get? name members).or (if name ∈ parts then some .null else none) := by
  induction parts generalizing members with
  | nil => exact ⟨members, rfl, h, fun name => by simp⟩
  | cons part rest ih =>
    rw [List.foldl_cons]
    change ∃ cleared, rest.foldl _ (if (Assoc.get? part members).isSome then _ else _) = _ ∧ _
    -- a part that is there stays, one that is not is there as null, and the rest is by induction
    split
    · rename_i hpart
      obtain ⟨cleared, heq, hsorted, hget⟩ := ih h
      refine ⟨cleared, heq, hsorted, fun name => ?_⟩
      rw [hget]
      by_cases hname : name = part
      · subst hname
        rw [Option.or_of_isSome hpart, Option.or_of_isSome hpart]
      · simp [hname]
    · rename_i hpart
      obtain ⟨cleared, heq, hsorted, hget⟩ := ih (Assoc.sorted_insert part .null h)
      refine ⟨cleared, heq, hsorted, fun name => ?_⟩
      rw [hget, Assoc.get?_insert]
      by_cases hname : name = part
      · subst hname
        rw [Option.not_isSome_iff_eq_none.1 hpart]
        simp
      · simp [hname]

/-- **What is written of a status** to be merged: every part but the
generation, which is written only if it is set. -/
theorem exists_whole_eq (status : ApplicationStatus) : ∃ changes,
    status.whole = .obj changes ∧ Assoc.Sorted changes
      ∧ Assoc.get? "conditions" changes = some (.arr (status.conditions.map encode))
      ∧ Assoc.get? "consumedServices" changes
        = some ((status.consumedServices.map (Shape.map (.list .text)).encode).getD .null)
      ∧ Assoc.get? "imageReference" changes = some (.ofOption status.imageReference)
      ∧ Assoc.get? "observedGeneration" changes
        = status.observedGeneration.map Shape.int64.encode := by
  obtain ⟨changes, heq, hsorted, hget⟩ :=
    exists_foldl_clear clearedParts (Table.sorted_encode _ (toVal status))
  refine ⟨changes, heq, hsorted, ?_⟩
  obtain ⟨conditions, services, image, generation⟩ := status
  have hconditions : (toVals conditions).map (shapeOf Condition).encode
      = conditions.map encode := by
    rw [toVals, List.map_map]
    rfl
  rw [hget, hget, hget, hget, ← hconditions]
  cases services <;> cases image <;> cases generation <;> exact ⟨rfl, rfl, rfl, rfl⟩

/-! ## What a merge leaves of a status

A merge goes through the members of the patch. A list replaces what was stored; null
removes it; an object is merged further, key by key, and keys that it does not mention
are kept. So two things may outlive a status that is written over them, and
`ApplicationStatus.Supersedes` says that neither does.

Each part is compared on its own, for any stored value in its place, and each
comparison is an equivalence. So is the whole. -/

/-- The secrets in use that a stored status lists. -/
def storedServices (old : Json) : Json := (old.get? "consumedServices").getD .null

/-- **Nothing of a stored status outlives one that is merged into it**: what
the merge would keep was not stored. -/
structure Supersedes (status : ApplicationStatus) (old : Json) : Prop where
  /-- If the generation is unset, none was stored. -/
  observedGeneration : status.observedGeneration = none →
    old.get? "observedGeneration" = none ∨ old.get? "observedGeneration" = some .null
  /-- If secrets are in use, none were stored of other categories than theirs. -/
  consumedServices : ∀ services, status.consumedServices = some services →
    ∀ category, services.get? category = none → (storedServices old).get? category = none

/-- A list replaces whatever is stored in its place. -/
theorem mergedMember_list (old : Option Json) (secrets : List String) :
    Json.mergedMember old (some ((Shape.list .text).encode secrets))
      = some ((Shape.list .text).encode secrets) := by
  rw [Json.mergedMember_some _ (Shape.encode_ne_null _ _),
    Json.mergePatch_of_not_obj _ _ (fun ms h => by simp [Shape.encode] at h)]

theorem decode_list_text (secrets : List String) :
    (Shape.list .text).decode ((Shape.list .text).encode secrets) = some secrets := by
  rw [(Shape.list .text).decode_encode_inSeconds secrets rfl]
  exact congrArg some (List.map_id secrets)

/-- The secrets in use, once merged, are those of the status if the stored
ones are of no other categories. -/
theorem decode_services_iff (services : Dict String (List String)) {old : Json}
    (h : Assoc.Sorted old.members) :
    (Shape.map (.list .text)).decode
        (old.mergePatch ((Shape.map (.list .text)).encode services)) = some services
      ↔ ∀ category, services.get? category = none → old.get? category = none := by
  rw [Shape.encode, Json.mergePatch,
    Shape.decode_map_eq_some_iff _ (Json.sorted_mergeMembers h _)]
  refine forall_congr' fun category => ?_
  have hchange : Assoc.get? category (services.map (Shape.list .text).encode).entries
      = (services.get? category).map (Shape.list .text).encode := Dict.get?_map _ _ _
  rw [Json.get?_mergeMembers _ (services.map _).sorted, hchange]
  cases services.get? category with
  | none => exact Option.map_eq_none_iff.trans ⟨fun h _ => h, fun h => h rfl⟩
  | some secrets =>
    rw [Option.map_some, mergedMember_list, Option.map_some, Option.map_some, decode_list_text]
    simp

/-- Whether or not secrets are in use, they are read back if no others were stored beside them. -/
theorem decodeOption_services_iff (services : Option (Dict String (List String)))
    {old : Option Json} (h : Assoc.Sorted (old.getD .null).members) :
    (Shape.map (.list .text)).decodeOption (Json.mergedMember old
        (some ((services.map (Shape.map (.list .text)).encode).getD .null))) = some services
      ↔ ∀ used, services = some used →
        ∀ category, used.get? category = none → (old.getD .null).get? category = none := by
  cases services with
  | none => exact ⟨fun _ _ h => by simp at h, fun _ => rfl⟩
  | some used =>
    have hmerged : (old.getD .null).mergePatch ((Shape.map (.list .text)).encode used) ≠ .null := by
      simp [Shape.encode, Json.mergePatch]
    rw [Option.map_some, Option.getD_some, Json.mergedMember_some _ (Shape.encode_ne_null _ _),
      Shape.decodeOption_some _ hmerged]
    refine Iff.trans ?_ ((decode_services_iff used h).trans ?_)
    · simp
    · exact ⟨fun h _ e => Option.some.inj e ▸ h, fun h => h used rfl⟩

/-- A generation is read back if it is set, or if none was stored. -/
theorem decodeOption_generation_iff (generation : Option Int64) (old : Option Json) :
    Shape.int64.decodeOption (Json.mergedMember old (generation.map Shape.int64.encode))
        = some generation
      ↔ (generation = none → old = none ∨ old = some .null) := by
  cases generation with
  | none => exact (Shape.decodeOption_eq_some_none_iff _ old).trans ⟨fun h _ => h, fun h => h rfl⟩
  | some g =>
    have hread : Shape.int64.decode (Shape.int64.encode g) = some g :=
      Shape.decode_encode .int64 g rfl
    rw [Option.map_some, Json.mergedMember_some _ (Shape.encode_ne_null _ _),
      Json.mergePatch_of_not_obj _ _ (fun ms h => by simp [Shape.encode] at h),
      Shape.decodeOption_some _ (Shape.encode_ne_null _ _), hread]
    simp

/-- **A status that was merged is read back** exactly if it supersedes the stored one. -/
theorem decode_merged_iff (status : ApplicationStatus) {old : Json}
    (h : Assoc.Sorted (storedServices old).members) :
    decode ApplicationStatus (old.mergePatch status.whole) = some status.inSeconds
      ↔ status.Supersedes old := by
  obtain ⟨changes, hwhole, hsorted, hconditions, hservices, himage, hgeneration⟩ :=
    status.exists_whole_eq
  have hmember := fun name => Json.get?_mergeMembers old.members hsorted name
  -- the conditions are a list, which a merge replaces
  have hlisted := (hmember "conditions").trans (by
    rw [hconditions, Json.mergedMember_some _ (by simp), Json.mergePatch_of_not_obj _ _ (by simp)])
  have hfound : Shape.text.decodeOption (Json.mergedMember
      (Assoc.get? "imageReference" old.members) (some (.ofOption status.imageReference)))
      = some status.imageReference := by
    cases status.imageReference <;> rfl
  rw [hwhole, Json.mergePatch, decode_eq_some_iff]
  refine (Table.decode_always_eq_some_iff hlisted (by simp)).trans ?_
  refine (and_iff_right (decode_conditions status.conditions)).trans ?_
  refine Table.decode_optional_eq_some_iff.trans ?_
  refine (and_congr_right' Table.decode_optional_eq_some_iff).trans ?_
  refine (and_congr_right' (and_congr_right' Table.decode_optional_eq_some_iff)).trans ?_
  rw [hmember, hmember, hmember, hservices, himage, hgeneration]
  have hused := decodeOption_services_iff status.consumedServices h
  have hseen := decodeOption_generation_iff status.observedGeneration
    (Assoc.get? "observedGeneration" old.members)
  constructor
  · rintro ⟨hservices, -, hgeneration, -⟩
    exact ⟨hseen.1 hgeneration, hused.1 hservices⟩
  · exact fun hs => ⟨hused.2 hs.consumedServices, hfound, hseen.2 hs.observedGeneration, rfl⟩

/-- What a change that records a status leaves of the stored one. -/
theorem get?_status_mergePatch (status : ApplicationStatus) (stored : Json) :
    (stored.mergePatch status.patch).get? "status"
      = some (((stored.get? "status").getD .null).mergePatch status.whole) := by
  have hwhole : status.whole ≠ .null := by
    obtain ⟨changes, hwhole, -⟩ := status.exists_whole_eq
    simp [hwhole]
  change (stored.mergePatch (.obj [("status", status.whole)])).get? "status" = _
  rw [Json.get?_mergePatch _ (List.pairwise_singleton ..), Assoc.get?_cons, if_pos rfl,
    Json.mergedMember_some _ hwhole]

end ApplicationStatus

/-! ## What is stored

The merge happens in the cluster, by a call that has succeeded. What is stored after
it is the stored application with another status, and what is read of that is compared
with what was to be recorded. -/

namespace Access

/-- **A status that was stored is read back as it was written**, with its
times in whole seconds, exactly if it supersedes the one that was stored
before, whatever that was. -/
theorem storeStatus_exact_iff {app : Application} {status : ApplicationStatus} {s s' : Server}
    {before : Json} (hbefore : s.objects.get? (keyOfApplication app) = some before)
    (horder : Assoc.Sorted
      (ApplicationStatus.storedServices ((before.get? "status").getD .null)).members)
    (hstored : (storeStatus app status).on s = (.ok (), s')) :
    ∃ after, s'.objects.get? (keyOfApplication app) = some after
      ∧ ((after.get? "status").bind (decode ApplicationStatus) = some status.inSeconds
        ↔ status.Supersedes ((before.get? "status").getD .null)) := by
  obtain ⟨j, hj, hafter⟩ := stored_of_storeStatus hstored
  obtain rfl : j = before := Option.some.inj (hj.symm.trans hbefore)
  refine ⟨_, hafter, ?_⟩
  rw [ApplicationStatus.get?_status_mergePatch]
  exact status.decode_merged_iff horder

/-- So it is for a status without bindings, of an application whose earlier
generation is on record. -/
theorem storeStatus_exact_iff_of_next_generation :
    let app : Application := { Application.bound "shop" "web" "u1" false [] with
      status := some { (default : ApplicationStatus) with
        consumedServices := some (.singleton "openapi" ["a-x"]), observedGeneration := some 1 } }
    let s : Server := { objects := .singleton (keyOfApplication app) (encode app) }
    let status := (default : ApplicationStatus).succeeded (some 2) default
    ∃ after, ((storeStatus app status).on s).2.objects.get? (keyOfApplication app) = some after
      ∧ (after.get? "status").bind (decode ApplicationStatus) = some status.inSeconds := by
  intro app s status
  have hstored : (storeStatus app status).on s = (.ok (), ((storeStatus app status).on s).2) :=
    Prod.ext rfl rfl
  have hbefore : s.objects.get? (keyOfApplication app) = some (encode app) := by decide +kernel
  obtain ⟨after, hafter, hiff⟩ := storeStatus_exact_iff hbefore
    (by unfold Assoc.Sorted; decide +kernel) hstored
  have hunused : status.consumedServices = none := rfl
  exact ⟨after, hafter, hiff.2 ⟨fun h => absurd h (by decide), fun _ h => by simp [hunused] at h⟩⟩

/-- **A status that was stored can be read back with parts of the one before
it**: a generation, and secrets of a category that is not in use any more. -/
theorem storeStatus_keeps_unset_parts :
    let app : Application := { Application.bound "shop" "web" "u1" false [] with
      status := some { (default : ApplicationStatus) with
        consumedServices := some (.singleton "legacy" ["a-x"]), observedGeneration := some 7 } }
    let s : Server := { objects := .singleton (keyOfApplication app) (encode app) }
    let status : ApplicationStatus := { (default : ApplicationStatus) with
      consumedServices := some (.singleton "openapi" ["a-x"]) }
    ((storeStatus app status).on s).1 = .ok ()
      ∧ ∃ after, ((storeStatus app status).on s).2.objects.get? (keyOfApplication app) = some after
        ∧ (after.get? "status").bind (decode ApplicationStatus) = some { status with
          consumedServices := some (.ofList [("legacy", ["a-x"]), ("openapi", ["a-x"])])
          observedGeneration := some 7 }
        ∧ (after.get? "status").bind (decode ApplicationStatus) ≠ some status.inSeconds := by
  intro app s status
  have hstored : (storeStatus app status).on s = (.ok (), ((storeStatus app status).on s).2) :=
    Prod.ext rfl rfl
  obtain ⟨j, hj, hafter⟩ := stored_of_storeStatus hstored
  obtain rfl : j = encode app := Option.some.inj (hj.symm.trans (by decide +kernel))
  exact ⟨rfl, _, hafter, by decide +kernel, by decide +kernel⟩

end Access
end AppOperator
